import BlockPlayer.Proofs.Player.Course
import BlockPlayer.Proofs.Player.Timers
import Mathlib.Data.List.Induction

/-!
# Which block is marked

A command and the mark of its block are told in two turns, and the callback that is told the command has
the word in between. If it stops the player or starts a timer, the block is not marked. But if it asks
for a step, that step is told from beginning to end, and then the block of the older command is marked.

* `tells_of_told` — all that callbacks can be told in a move
* `exists_told_of_emitted` — a command whose block is still to be marked was told in the course of the
  run
* `mark_follows_command` — **the block that is marked belongs to the last command, but for commands of
  steps and ticks that began after it**
-/

namespace BlockPlayer.Performance

open Player

/-! ## What is told in a move -/

/-- A move has the callbacks told something, and the performance is another while they have the word. -/
inductive Tells (s : Performance) : Move → Event → Performance → Prop
  | step {i : Instruction} : s.player.current? = some i →
      Tells s (.ask .step) (.emit i.command)
        ⟨s.player.forward, .emitted i s.player.epoch .step :: s.waiting⟩
  | tick {i : Instruction} (j : Nat) : s.player.current? = some i →
      Tells s (.fire j) (.emit i.command)
        ⟨s.player.forward, .emitted i s.player.epoch (.tick s.player.epoch) :: s.waiting⟩
  | reset (r : Request) (next : Option Program) :
      Tells s (.ask r) (.emit .reset) ⟨s.player.rewind, .rewound next :: s.waiting⟩
  | clear (m : Move) (cause : Cause) :
      Tells s m (.highlight none) ⟨s.player, .cleared cause :: s.waiting⟩
  | mark {i : Instruction} {cause : Cause} {waiting : List Frame} :
      s.waiting = .emitted i s.player.epoch cause :: waiting →
      Tells s .back (.highlight (some i.id)) ⟨s.player, .marked i cause :: waiting⟩

/-- What is told when the player goes through its program. -/
theorem after_advance_cases {s : Performance} {cause : Cause} {e : Event}
    (h : (after s.waiting (s.player.advance cause)).2 = .told e) :
    (∃ i, s.player.current? = some i ∧ e = .emit i.command ∧
      (after s.waiting (s.player.advance cause)).1
        = ⟨s.player.forward, .emitted i s.player.epoch cause :: s.waiting⟩) ∨
    (e = .highlight none ∧
      (after s.waiting (s.player.advance cause)).1 = ⟨s.player, .cleared cause :: s.waiting⟩) := by
  unfold advance at h ⊢
  cases hc : s.player.current? with
  | some i =>
    rw [hc] at h
    cases h
    exact .inl ⟨i, rfl, rfl, rfl⟩
  | none =>
    rw [hc] at h
    cases h
    exact .inr ⟨rfl, rfl⟩

theorem tells_of_told_ask {s : Performance} {r : Request} {e : Event}
    (h : (s.move (.ask r)).2 = .told e) : Tells s (.ask r) e (s.move (.ask r)).1 := by
  rw [move_ask] at h ⊢
  cases r with
  | play =>
    rw [ask] at h ⊢
    split at h
    · cases h
    · next hr =>
      rw [if_neg hr]
      split at h
      · next he =>
        rw [if_pos he]
        cases h
        exact .clear _ .play
      · cases h
  | step =>
    rw [ask] at h ⊢
    split at h
    · cases h
    · next hr =>
      rw [if_neg hr]
      rcases after_advance_cases h with ⟨i, hi, rfl, ht⟩ | ⟨rfl, ht⟩
      · rw [ht]
        exact .step hi
      · rw [ht]
        exact .clear _ .step
  | stop =>
    cases h
    exact .reset _ none
  | setSpeed sp =>
    rw [ask] at h
    split at h <;> cases h
  | load q =>
    rw [ask] at h ⊢
    split at h
    · next hr =>
      rw [if_pos hr]
      cases h
      exact .reset _ (some q)
    · cases h

theorem tells_of_told_fire {s : Performance} {j : Nat} {e : Event}
    (h : (s.move (.fire j)).2 = .told e) : Tells s (.fire j) e (s.move (.fire j)).1 := by
  rw [move_fire] at h ⊢
  unfold fire at h ⊢
  split at h
  · cases h
  · next t ht =>
    split at h
    · next he =>
      -- only the timer of the present epoch has something told
      rw [if_pos he, he]
      rw [he] at h
      rcases after_advance_cases h with ⟨i, hi, rfl, ht⟩ | ⟨rfl, ht⟩
      · rw [ht]
        exact .tick j hi
      · rw [ht]
        exact .clear _ _
    · cases h

/-- **All that callbacks can be told in a move.** -/
theorem tells_of_told {s : Performance} {m : Move} {e : Event} (h : (s.move m).2 = .told e) :
    Tells s m e (s.move m).1 := by
  cases m with
  | ask r => exact tells_of_told_ask h
  | fire j => exact tells_of_told_fire h
  | back =>
    cases hw : s.waiting with
    | nil =>
      rw [move_back_of_nil hw] at h
      cases h
    | cons f waiting =>
      rw [move_back_of_cons hw] at h ⊢
      cases hr : s.player.resume f with
      | mk q turn =>
        rw [hr] at h
        cases turn with
        | answer a => cases h
        | tell e' g =>
          cases h
          obtain ⟨i, cause, rfl, rfl, rfl, rfl⟩ := resume_tell hr
          exact .mark hw

/-- A command is told at the request of a step or a tick, unless the player goes back to the beginning. -/
theorem Tells.command_cases {s t : Performance} {m : Move} {c : Command} (h : Tells s m (.emit c) t) :
    (m = .ask .step ∨ ∃ j, m = .fire j) ∨ t.player.epoch = s.player.epoch + 1 := by
  cases h with
  | step => exact .inl (.inl rfl)
  | tick j => exact .inl (.inr ⟨j, rfl⟩)
  | reset => exact .inr rfl

/-- If callbacks are told nothing, no more of them run than before. -/
theorem waiting_subset_of_answered {s : Performance} {m : Move} {a : Answer}
    (h : (s.move m).2 = .answered a) : (s.move m).1.waiting ⊆ s.waiting := by
  have hafter : ∀ {waiting : List Frame} {t : Player × Turn},
      (after waiting t).2 = .answered a → (after waiting t).1.waiting = waiting := by
    rintro waiting ⟨q, turn⟩ ht
    cases turn with
    | tell e f => cases ht
    | answer a' => rfl
  cases m with
  | ask r =>
    rw [move_ask] at h ⊢
    rw [hafter h]
    exact List.Subset.refl _
  | fire j =>
    rw [move_fire] at h ⊢
    rw [hafter h]
    exact List.Subset.refl _
  | back =>
    cases hw : s.waiting with
    | nil =>
      rw [move_back_of_nil hw, hw]
      exact List.Subset.refl _
    | cons f waiting =>
      rw [move_back_of_cons hw] at h ⊢
      rw [hafter h]
      exact List.subset_cons_self f waiting

/-! ## Commands whose blocks are still to be marked -/

/-- The move has the callbacks told the command of an instruction, in a step or on a tick. -/
structure Commands (s : Performance) (m : Move) (i : Instruction) : Prop where
  current : s.player.current? = some i
  told : (s.move m).2 = .told (.emit i.command)
  asked : m = .ask .step ∨ ∃ j, m = .fire j

/-- A frame that is to mark a block comes with the command, or was there before. -/
theorem mem_waiting_of_move {s : Performance} {m : Move} {i : Instruction} {epoch : Nat}
    {cause : Cause} (h : .emitted i epoch cause ∈ (s.move m).1.waiting) :
    .emitted i epoch cause ∈ s.waiting ∨ (epoch = s.player.epoch ∧ s.Commands m i) := by
  cases hr : (s.move m).2 with
  | answered a => exact .inl (waiting_subset_of_answered hr h)
  | told e =>
    have htells := tells_of_told hr
    generalize (s.move m).1 = t at h htells
    cases htells with
    | step hi =>
      rcases List.mem_cons.mp h with hf | h
      · cases hf
        exact .inr ⟨rfl, hi, hr, .inl rfl⟩
      · exact .inl h
    | tick j hi =>
      rcases List.mem_cons.mp h with hf | h
      · cases hf
        exact .inr ⟨rfl, hi, hr, .inr ⟨j, rfl⟩⟩
      · exact .inl h
    | reset r next => exact .inl ((List.mem_cons.mp h).resolve_left nofun)
    | clear m cause => exact .inl ((List.mem_cons.mp h).resolve_left nofun)
    | mark hw =>
      rw [hw]
      exact .inl (List.mem_cons_of_mem _ ((List.mem_cons.mp h).resolve_left nofun))

/-- **A command whose block is still to be marked was told in the course of the run.** -/
theorem exists_told_of_emitted {s : Performance} (hs : s.waiting = []) {done : List Move}
    {i : Instruction} {epoch : Nat} {cause : Cause}
    (h : .emitted i epoch cause ∈ (s.run done).2.waiting) :
    ∃ before call between, done = before ++ call :: between ∧
      epoch = (s.run before).2.player.epoch ∧ (s.run before).2.Commands call i := by
  induction done using List.reverseRecOn with
  | nil =>
    rw [run_nil, hs] at h
    cases h
  | append_singleton done m ih =>
    rw [run_append] at h
    rcases mem_waiting_of_move h with hold | ⟨he, hc⟩
    · obtain ⟨before, call, between, rfl, he, hc⟩ := ih hold
      exact ⟨before, call, between ++ [m], by simp, he, hc⟩
    · exact ⟨done, m, [], rfl, he, hc⟩

/-! ## The mark and the last command -/

/-- Every command of a run is told in one of its moves. -/
theorem exists_move_of_mem_commands {s : Performance} {ms : List Move} {c : Command}
    (h : c ∈ commands (s.run ms).1) :
    ∃ before n rest, ms = before ++ n :: rest ∧
      ((s.run before).2.move n).2 = .told (.emit c) := by
  induction ms generalizing s with
  | nil => cases h
  | cons m ms ih =>
    rw [run_cons, commands_cons, List.mem_append] at h
    rcases h with h | h
    · refine ⟨[], m, ms, rfl, ?_⟩
      rw [run_nil]
      cases hr : (s.move m).2 with
      | answered a =>
        rw [hr] at h
        cases h
      | told e =>
        rw [hr] at h
        cases e with
        | emit c' =>
          obtain rfl := List.mem_singleton.mp h
          rfl
        | highlight id => cases h
    · obtain ⟨before, n, rest, rfl, hn⟩ := ih h
      exact ⟨m :: before, n, rest, rfl, by rw [run_cons]; exact hn⟩

/--
**The block that is marked is that of a command, and since that command only steps and ticks that began
after it have told others.** So if no step was asked for and no timer fired amid the callback that was
told the command, the block that is marked is that of the last command.
-/
theorem mark_follows_command (p : Player) {done : List Move} {m : Move} {id : BlockId}
    (h : (((ofPlayer p).run done).2.move m).2 = .told (.highlight (some id))) :
    ∃ before call between i, done = before ++ call :: between ∧ i.id = id ∧
      ((ofPlayer p).run before).2.Commands call i ∧
      let t := (((ofPlayer p).run before).2.move call).1
      (∀ mid n rest c, between = mid ++ n :: rest → ((t.run mid).2.move n).2 = .told (.emit c) →
        n = .ask .step ∨ ∃ j, n = .fire j) ∧
      (.ask .step ∉ between → (∀ j, .fire j ∉ between) → commands (t.run between).1 = []) := by
  -- the mark is told when the callback returns that was told the command
  have htells := tells_of_told h
  generalize (((ofPlayer p).run done).2.move m).1 = u at htells
  cases htells with
  | @mark i cause waiting hw =>
    obtain ⟨before, call, between, rfl, hepoch, hcommands⟩ :=
      exists_told_of_emitted (s := ofPlayer p) rfl (hw ▸ List.mem_cons_self)
    have hbetween : ∀ mid n rest c, between = mid ++ n :: rest →
        (((((ofPlayer p).run before).2.move call).1.run mid).2.move n).2 = .told (.emit c) →
          n = .ask .step ∨ ∃ j, n = .fire j := by
      rintro mid n rest c rfl hn
      rcases (tells_of_told hn).command_cases with hcall | hnext
      · exact hcall
      · -- to go back to the beginning would have begun another epoch
        exfalso
        simp only [run_append, run_cons] at hepoch
        generalize ((ofPlayer p).run before).2 = s at hepoch hn hnext
        have hcall := (s.later_move call).epoch_le
        have hmid := ((s.move call).1.later_run mid).epoch_le
        have hrest := ((((s.move call).1.run mid).2.move n).1.later_run rest).epoch_le
        omega
    refine ⟨before, call, between, i, rfl, rfl, hcommands, hbetween, ?_⟩
    intro hstep hfire
    rw [List.eq_nil_iff_forall_not_mem]
    intro c hc
    obtain ⟨mid, n, rest, rfl, hn⟩ := exists_move_of_mem_commands hc
    rcases hbetween mid n rest c rfl hn with rfl | ⟨j, rfl⟩
    · exact hstep (by simp)
    · exact hfire j (by simp)

/-- The callback that is told of a tick's command stops the player and asks for a step and another. -/
theorem mark_amid_restart :
    let p : Player := .new [⟨"a", .perform .turnLeft⟩, ⟨"b", .perform .deliver⟩] .default
    let done : List Move := [.ask .play, .fire 0, .ask .stop, .back, .ask .step, .ask .step, .back, .back]
    (((ofPlayer p).run done).2.move .back).2 = .told (.highlight (some "a")) ∧
    ∃ before call between i, done = before ++ call :: between ∧ i.id = "a" ∧
      ((ofPlayer p).run before).2.Commands call i ∧
      let t := (((ofPlayer p).run before).2.move call).1
      (∀ mid n rest c, between = mid ++ n :: rest → ((t.run mid).2.move n).2 = .told (.emit c) →
        n = .ask .step ∨ ∃ j, n = .fire j) ∧
      (.ask .step ∉ between → (∀ j, .fire j ∉ between) → commands (t.run between).1 = []) := by
  intro p done
  have h : (((ofPlayer p).run done).2.move .back).2 = .told (.highlight (some "a")) := by decide
  exact ⟨h, mark_follows_command p h⟩

/--
The callback that is told of a step's command asks for the next step. That one is told to the end, and
then the block of the first is marked, although the last command was the second's.
-/
theorem step_amid_step_marks_earlier :
    let program : Program := [⟨"a", .perform .turnLeft⟩, ⟨"b", .perform .deliver⟩]
    let t := (ofPlayer (.new program .default)).run [.ask .step, .ask .step, .back, .back]
    (commands t.1).getLast? = some (.perform .deliver) ∧
      (t.2.move .back).2 = .told (.highlight (some "a")) ∧
      ∀ i ∈ program, i.command = .perform .deliver → i.id ≠ "a" := by
  decide

end BlockPlayer.Performance
