import BlockPlayer.Proofs.Player.Loading

/-!
# The course through a program

Single steps and ticks move the same cursor, timers come and go, and callbacks may ask for the next step
while the last command is still being told. The commands come in the order of the program all the same,
each of them once. For the cursor moves on in the turn that tells the command, so at every moment what
was told and where the cursor is belong together (`Player.Covers`), however many callbacks have not
returned yet.

* `covers_move` — the commands told in a move are those that the cursor passes
* `covers_run` — and so it is for a whole stretch of a run, unless the player is stopped or has to load
* `commands_between` — **what is told between two moments of a run is a stretch of the program**
-/

namespace BlockPlayer

/-- The command that a callback is told, if it is one. -/
def Event.command? : Event → Option Command
  | emit c => some c
  | highlight _ => none

/-- The command with which a turn ends, if there is one. -/
def Turn.commands : Turn → List Command
  | tell e _ => e.command?.toList
  | answer _ => []

namespace Player

/-- From `p` to `q` the cursor passes some instructions of the program, and `told` are their commands. -/
structure Covers (p q : Player) (told : List Command) : Prop where
  program_eq : q.program = p.program
  cursor_le : p.cursor ≤ q.cursor
  told_eq : told = Program.commands (p.program.extract p.cursor q.cursor)

namespace Covers

variable {p q r : Player} {told more : List Command}

/-- A player whose cursor stays tells no command. -/
theorem of_eq (hprogram : q.program = p.program) (hcursor : q.cursor = p.cursor) :
    Covers p q [] := by
  refine ⟨hprogram, Nat.le_of_eq hcursor.symm, ?_⟩
  rw [hcursor, List.extract_eq_take_drop, Nat.sub_self, List.take_zero]
  rfl

theorem forward {i : Instruction} (h : p.current? = some i) : Covers p p.forward [i.command] := by
  refine ⟨rfl, Nat.le_succ _, ?_⟩
  have hlt := cursor_lt_of_current? h
  have hi : p.program[p.cursor] = i := Option.some.inj ((List.getElem?_eq_getElem hlt).symm.trans h)
  show _ = Program.commands (p.program.extract p.cursor (p.cursor + 1))
  rw [List.extract_eq_take_drop, Nat.add_sub_cancel_left, List.drop_eq_getElem_cons hlt, hi]
  rfl

theorem trans (h : Covers p q told) (h' : Covers q r more) : Covers p r (told ++ more) := by
  refine ⟨h'.program_eq.trans h.program_eq, Nat.le_trans h.cursor_le h'.cursor_le, ?_⟩
  obtain ⟨n, hn⟩ := Nat.exists_eq_add_of_le h.cursor_le
  obtain ⟨m, hm⟩ := Nat.exists_eq_add_of_le h'.cursor_le
  have hsub : p.cursor + n + m - p.cursor = n + m := by omega
  rw [h.told_eq, h'.told_eq, h.program_eq, Program.commands, Program.commands, Program.commands,
    ← List.map_append, List.extract_eq_take_drop, List.extract_eq_take_drop,
    List.extract_eq_take_drop, hm, hn, hsub, Nat.add_sub_cancel_left, Nat.add_sub_cancel_left,
    List.take_add, List.drop_drop]

end Covers

/-! ## Turns -/

theorem covers_conclude (p : Player) (cause : Cause) (o : StepOutcome) :
    Covers p (p.conclude cause o).1 (p.conclude cause o).2.commands := by
  unfold conclude
  split
  · exact .of_eq rfl rfl
  · exact .of_eq rfl rfl
  · exact .of_eq rfl rfl
  · split <;> exact .of_eq rfl rfl

theorem covers_advance (p : Player) (cause : Cause) :
    Covers p (p.advance cause).1 (p.advance cause).2.commands := by
  unfold advance
  split
  · next i hi => exact .forward hi
  · exact .of_eq rfl rfl

theorem covers_ask (p : Player) {r : Request} (hstop : r ≠ .stop) (hload : ∀ q, r ≠ .load q) :
    Covers p (p.ask r).1 (p.ask r).2.commands := by
  cases r with
  | play =>
    rw [ask]
    split
    · exact .of_eq rfl rfl
    · split <;> exact .of_eq rfl rfl
  | step =>
    rw [ask]
    split
    · exact .of_eq rfl rfl
    · exact p.covers_advance .step
  | stop => exact absurd rfl hstop
  | setSpeed s =>
    rw [ask]
    split <;> exact .of_eq rfl rfl
  | load q => exact absurd rfl (hload q)

theorem covers_fire (p : Player) (i : Nat) : Covers p (p.fire i).1 (p.fire i).2.commands := by
  unfold fire
  split
  · exact .of_eq rfl rfl
  · split
    · exact p.covers_advance _
    · exact .of_eq rfl rfl

theorem covers_resume (p : Player) {f : Frame} (hf : ∀ q, f ≠ .rewound (some q)) :
    Covers p (p.resume f).1 (p.resume f).2.commands := by
  cases f with
  | emitted i epoch cause =>
    rw [resume]
    split
    · exact .of_eq rfl rfl
    · exact p.covers_conclude cause _
  | marked i cause => exact p.covers_conclude cause _
  | cleared cause => exact p.covers_conclude cause _
  | rewound next =>
    cases next with
    | none => exact .of_eq rfl rfl
    | some q => exact absurd rfl (hf q)

end Player

/-! ## Moves and runs -/

namespace Performance

open Player

/-- The commands that were told, according to reports. -/
def commands (reports : List Report) : List Command := (events reports).filterMap Event.command?

theorem commands_cons (r : Report) (rs : List Report) :
    commands (r :: rs) = commands [r] ++ commands rs := by
  rw [commands, events_cons, List.filterMap_append]
  rfl

theorem commands_after (waiting : List Frame) (t : Player × Turn) :
    commands [(after waiting t).2] = t.2.commands := by
  obtain ⟨p, turn⟩ := t
  cases turn with
  | answer a => rfl
  | tell e f => cases e <;> rfl

/-- A move that neither stops the player nor asks it to load. -/
def GoesOn (m : Move) : Prop := m ≠ .ask .stop ∧ ∀ q, m ≠ .ask (.load q)

theorem covers_move {s : Performance} {q : Program} (h : s.Plays q) {m : Move} (hm : GoesOn m) :
    Covers s.player (s.move m).1.player (commands [(s.move m).2]) := by
  obtain ⟨hstop, hload⟩ := hm
  cases m with
  | ask r =>
    rw [move_ask, player_after, commands_after]
    exact s.player.covers_ask (fun hr => hstop (hr ▸ rfl)) (fun q hr => hload q (hr ▸ rfl))
  | fire i =>
    rw [move_fire, player_after, commands_after]
    exact s.player.covers_fire i
  | back =>
    cases hw : s.waiting with
    | nil =>
      rw [move_back_of_nil hw]
      exact .of_eq rfl rfl
    | cons f waiting =>
      rw [move_back_of_cons hw, player_after, commands_after]
      exact s.player.covers_resume (h.quiet f (by simp [hw]))

theorem covers_run {s : Performance} {q : Program} (h : s.Plays q) {ms : List Move}
    (hms : ∀ m ∈ ms, GoesOn m) :
    Covers s.player (s.run ms).2.player (commands (s.run ms).1) := by
  induction ms generalizing s with
  | nil => exact .of_eq rfl rfl
  | cons m ms ih =>
    have hm : GoesOn m := hms m List.mem_cons_self
    rw [run_cons, commands_cons]
    exact (covers_move h hm).trans
      (ih (h.move hm.2) fun m' hm' => hms m' (List.mem_cons_of_mem _ hm'))

/--
**No instruction is lost, repeated or told out of turn.** If a stretch of a run begins while no callback
runs, and the player is not stopped and does not load in it, then the commands told are those of the
instructions from the cursor at its beginning up to the cursor at its end. The stretch may end anywhere,
also amid callbacks.
-/
theorem commands_between {s : Performance} (hs : s.waiting = []) {ms : List Move}
    (hms : ∀ m ∈ ms, m ≠ .ask .stop ∧ ∀ q, m ≠ .ask (.load q)) :
    let t := (s.run ms).2
    t.player.program = s.player.program ∧ s.player.cursor ≤ t.player.cursor ∧
      commands (s.run ms).1
        = Program.commands (s.player.program.extract s.player.cursor t.player.cursor) := by
  have h := covers_run (plays_of_nil hs) hms
  exact ⟨h.program_eq, h.cursor_le, h.told_eq⟩

/--
A callback asks for the next step amid a step, and another one for more speed amid a tick, so that the
timer fires once more in vain.
-/
theorem commands_amid_nested_steps :
    let program : Program := [⟨"a", .perform .turnLeft⟩, ⟨"b", .perform .deliver⟩,
      ⟨"c", .perform .soundHorn⟩, ⟨"d", .perform .wait⟩]
    let s := ((ofPlayer (.new program ⟨700000000, .normal, true⟩)).run [.ask .step, .back, .back]).2
    let ms : List Move := [.ask .step, .ask .step, .back, .back, .back, .back, .ask .play, .fire 0,
      .ask (.setSpeed ⟨2, by decide⟩), .back, .fire 0]
    let t := (s.run ms).2
    s.waiting = [] ∧ (∀ m ∈ ms, m ≠ .ask .stop ∧ ∀ q, m ≠ .ask (.load q)) ∧
      commands (s.run ms).1 = [.perform .deliver, .perform .soundHorn, .perform .wait] ∧
      t.player.program = s.player.program ∧ s.player.cursor ≤ t.player.cursor ∧
      commands (s.run ms).1
        = Program.commands (s.player.program.extract s.player.cursor t.player.cursor) := by
  intro program s ms t
  have hs : s.waiting = [] := rfl
  have hms : ∀ m ∈ ms, m ≠ .ask .stop ∧ ∀ q, m ≠ .ask (.load q) := by simp [ms]
  have hcommands : commands (s.run ms).1
      = [.perform .deliver, .perform .soundHorn, .perform .wait] := by decide
  refine ⟨hs, hms, hcommands, ?_⟩
  -- the rest is so for every player and all such moves
  clear_value s ms
  exact commands_between hs hms

end Performance

end BlockPlayer
