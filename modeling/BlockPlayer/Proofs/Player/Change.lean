import BlockPlayer.Player.Performance
import Mathlib.Logic.Relation

/-!
# What can become of a player

A turn of a player is made of a few small changes: a timer starts to drive it or is taken away, the
cursor moves, the speed or the program becomes another. `Change` lists them once. What every change
keeps is kept by every turn, every move and every run (`changes_run`), so an invariant of players only
has to be looked at change by change.
-/

namespace BlockPlayer

namespace Player

/-- One small change of a player. -/
inductive Change : Player → Player → Prop
  | start (p : Player) : Change p p.start
  | cancel (p : Player) : Change p p.cancel
  | rewind (p : Player) : Change p p.rewind
  /-- The cursor only moves on past an instruction. -/
  | forward {p : Player} {i : Instruction} : p.current? = some i → Change p p.forward
  | withSpeed (p : Player) (s : Speed) : Change p (p.withSpeed s)
  | replace (p : Player) (program : Program) : Change p (p.replace program)

/-- Some changes in a row. -/
abbrev Changes : Player → Player → Prop := Relation.ReflTransGen Change

theorem Change.changes {p q : Player} (h : Change p q) : Changes p q := .single h

/-! ## Turns -/

theorem changes_conclude (p : Player) (cause : Cause) (o : StepOutcome) :
    Changes p (p.conclude cause o).1 := by
  unfold conclude
  split
  · exact .refl
  · exact .refl
  · exact .refl
  · split
    · exact (Change.cancel p).changes
    · exact .refl

theorem changes_advance (p : Player) (cause : Cause) : Changes p (p.advance cause).1 := by
  unfold advance
  split
  · next i hi => exact (Change.forward hi).changes
  · exact .refl

theorem changes_stop (p : Player) (next : Option Program) : Changes p (p.stop next).1 :=
  (Change.rewind p).changes

theorem changes_ask (p : Player) (r : Request) : Changes p (p.ask r).1 := by
  cases r with
  | play =>
    rw [ask]
    split
    · exact .refl
    · split
      · exact .refl
      · exact (Change.start p).changes
  | step =>
    rw [ask]
    split
    · exact .refl
    · exact p.changes_advance .step
  | stop => exact p.changes_stop none
  | setSpeed s =>
    have hs : Changes p (p.withSpeed s) := (Change.withSpeed p s).changes
    rw [ask]
    split
    · exact (hs.tail (.cancel _)).tail (.start _)
    · exact hs
  | load program =>
    rw [ask]
    split
    · exact p.changes_stop (some program)
    · exact (Change.replace p program).changes

theorem changes_fire (p : Player) (i : Nat) : Changes p (p.fire i).1 := by
  unfold fire
  split
  · exact .refl
  · split
    · exact p.changes_advance _
    · exact .refl

theorem changes_resume (p : Player) (f : Frame) : Changes p (p.resume f).1 := by
  cases f with
  | emitted i epoch cause =>
    rw [resume]
    split
    · exact .refl
    · exact p.changes_conclude cause (.emitted i)
  | marked i cause => exact p.changes_conclude cause (.emitted i)
  | cleared cause => exact p.changes_conclude cause .exhausted
  | rewound next =>
    cases next with
    | none => exact .refl
    | some program => exact (Change.replace p program).changes

/-! ## What is told next -/

theorem conclude_eq_answer (p : Player) (cause : Cause) (o : StepOutcome) :
    ∃ a, (p.conclude cause o).2 = .answer a := by
  unfold conclude
  split <;> exact ⟨_, rfl⟩

/--
A callback that returns makes the player tell something only if it was told a command, and no timer was
started or cancelled meanwhile: then the block of the command is marked.
-/
theorem resume_tell {p q : Player} {f g : Frame} {e : Event} (h : p.resume f = (q, .tell e g)) :
    ∃ i cause, f = .emitted i p.epoch cause ∧ q = p ∧ e = .highlight (some i.id) ∧
      g = .marked i cause := by
  have hconclude : ∀ cause o, p.conclude cause o ≠ (q, .tell e g) := by
    intro cause o hc
    obtain ⟨a, ha⟩ := p.conclude_eq_answer cause o
    rw [hc] at ha
    cases ha
  cases f with
  | emitted i epoch cause =>
    rw [resume] at h
    split at h
    · next he =>
      cases h
      exact ⟨i, cause, by rw [he], rfl, rfl, rfl⟩
    · exact absurd h (hconclude _ _)
  | marked i cause => exact absurd h (hconclude _ _)
  | cleared cause => exact absurd h (hconclude _ _)
  | rewound next => cases next <;> cases h

end Player

/-! ## Moves and runs -/

namespace Performance

open Player

theorem player_after (waiting : List Frame) (t : Player × Turn) :
    (after waiting t).1.player = t.1 := by
  unfold after
  split <;> rfl

theorem move_ask (s : Performance) (r : Request) :
    s.move (.ask r) = after s.waiting (s.player.ask r) := rfl

theorem move_fire (s : Performance) (i : Nat) :
    s.move (.fire i) = after s.waiting (s.player.fire i) := rfl

theorem move_back_of_nil {s : Performance} (h : s.waiting = []) :
    s.move .back = (s, .answered .done) := by
  simp only [move, h]

theorem move_back_of_cons {s : Performance} {f : Frame} {waiting : List Frame}
    (h : s.waiting = f :: waiting) : s.move .back = after waiting (s.player.resume f) := by
  simp only [move, h]

theorem changes_move (s : Performance) (m : Move) : Changes s.player (s.move m).1.player := by
  cases m with
  | ask r =>
    rw [move_ask, player_after]
    exact s.player.changes_ask r
  | fire i =>
    rw [move_fire, player_after]
    exact s.player.changes_fire i
  | back =>
    cases hw : s.waiting with
    | nil => rw [move_back_of_nil hw]
    | cons f waiting =>
      rw [move_back_of_cons hw, player_after]
      exact s.player.changes_resume f

@[simp] theorem run_nil (s : Performance) : s.run [] = ([], s) := rfl

theorem run_cons (s : Performance) (m : Move) (ms : List Move) :
    s.run (m :: ms) = ((s.move m).2 :: ((s.move m).1.run ms).1, ((s.move m).1.run ms).2) := rfl

theorem run_append (s : Performance) (ms ns : List Move) :
    s.run (ms ++ ns)
      = ((s.run ms).1 ++ ((s.run ms).2.run ns).1, ((s.run ms).2.run ns).2) := by
  induction ms generalizing s with
  | nil => rfl
  | cons m ms ih => rw [List.cons_append, run_cons, run_cons, ih]; rfl

theorem events_cons (r : Report) (rs : List Report) :
    events (r :: rs) = events [r] ++ events rs :=
  List.filterMap_append (l := [r])

/-- **Whatever is done while a player performs, small changes have made it what it is.** -/
theorem changes_run (s : Performance) (ms : List Move) : Changes s.player (s.run ms).2.player := by
  induction ms generalizing s with
  | nil => exact .refl
  | cons m ms ih => exact (s.changes_move m).trans (ih (s.move m).1)

end Performance

/-- What holds of a player, and after every change, holds after all changes. -/
theorem Player.Changes.keeps {I : Player → Prop}
    (hI : ∀ {p q : Player}, Change p q → I p → I q) {p q : Player} (hpq : Changes p q) (h : I p) :
    I q := by
  induction hpq with
  | refl => exact h
  | tail _ hc ih => exact hI hc ih

end BlockPlayer
