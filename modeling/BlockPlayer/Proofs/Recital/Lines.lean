import BlockPlayer.Proofs.Clock.Beat
import BlockPlayer.Recital

/-!
# What is read in a recital

Whoever reads along sees two lines for each instruction, in the order of the program, and one line at
the end. In single steps all of them come at once. On a timer each instruction has its beat, and the
last line has a beat of its own: the timer fires once more than there are instructions. The last line is the
signal for the reciter.

* `script` — the lines of a program, with the times that its places have
* `steps_eq`, `lines_await` — what is told from any place of the program on, in single steps and on a
  timer
* `Driven.forward` — a tick leaves the timer on the beat, and the player one instruction further
* `lines_ofProgram` — **all lines of both recitals, and when the reciter goes on**
-/

namespace BlockPlayer

namespace Player

variable {p : Player} {i : Instruction}

theorem period_pos (p : Player) : 0 < p.period := by
  rw [period]
  exact p.speed.period_pos p.base

theorem ask_step_of_idle (h : p.mode = .idle) : p.ask .step = p.advance .step := by
  rw [ask, if_neg (not_isRunning h)]

/-- What is left of a program tells what comes next. -/
theorem current?_of_drop {rest : Program} (h : p.program.drop p.cursor = rest) :
    p.current? = rest.head? := by
  rw [current?, ← h, List.head?_drop]

theorem drop_forward {rest : Program} (h : p.program.drop p.cursor = i :: rest) :
    p.forward.program.drop p.forward.cursor = rest := by
  show p.program.drop (p.cursor + 1) = rest
  rw [← List.tail_drop, h, List.tail_cons]

end Player

namespace Recital

open Player

/-! ## Lines -/

/-- What people read, and when. -/
def lines (r : Recital) : List (Nat × String) := r.cues.map fun c => (c.time, c.event.text)

/--
The lines of a program, the two of each instruction at the time that its place has. The first place is
`k`, and the last line has the place behind the last instruction.
-/
def script (time : Nat → Nat) : Nat → Program → List (Nat × String)
  | k, [] => [(time k, "highlight -")]
  | k, i :: rest => (time k, "emit      " ++ i.command.name) :: (time k, "highlight " ++ i.id) ::
      script time (k + 1) rest

/-- The texts do not depend on the times. -/
theorem map_snd_script (time time' : Nat → Nat) (k : Nat) (program : Program) :
    (script time k program).map Prod.snd = (script time' k program).map Prod.snd := by
  induction program generalizing k with
  | nil => rfl
  | cons i rest ih => simp only [script, List.map_cons, ih]

/-- The reciter goes on to other things at this time. -/
def ReturnsAt (r : Recital) (time : Nat) : Prop := r.ending = .returned ∧ r.finish = time

theorem returnsAt_after {r : Recital} {finish : Nat} (h : r.ReturnsAt finish) (time : Nat)
    (es : List Event) : (r.after time es).ReturnsAt finish := h

theorem lines_after (time : Nat) (es : List Event) (r : Recital) :
    (r.after time es).lines = es.map (fun e => (time, e.text)) ++ r.lines := by
  simp only [lines, after, atTime, List.map_append, List.map_map]
  rfl

/-! ## Single steps -/

theorem steps_of_emitted {p q : Player} {es : List Event} {i : Instruction}
    (h : (p.ask .step).1.settle (p.ask .step).2 = (es, q, .stepped (.emitted i))) :
    steps p = es ++ steps q := by
  rw [steps]
  split
  · next es' q' _ hsettle =>
    rw [h] at hsettle
    cases hsettle
    rfl
  · next hother hsettle =>
    rw [h] at hsettle
    cases hsettle
    exact (hother i rfl).elim

theorem steps_of_exhausted {p q : Player} {es : List Event}
    (h : (p.ask .step).1.settle (p.ask .step).2 = (es, q, .stepped .exhausted)) : steps p = es := by
  rw [steps]
  split
  · next hsettle =>
    rw [h] at hsettle
    cases hsettle
  · next hsettle =>
    rw [h] at hsettle
    cases hsettle
    rfl

/-- Single steps tell the rest of a program, and then its end. -/
theorem steps_eq {rest : Program} : ∀ {p : Player}, p.mode = .idle → p.program.drop p.cursor = rest →
    steps p = rest.flatMap Instruction.events ++ [.highlight none] := by
  induction rest with
  | nil =>
    intro p hidle hrest
    have hsettle : (p.ask .step).1.settle (p.ask .step).2
        = ([.highlight none], p, .stepped .exhausted) := by
      rw [ask_step_of_idle hidle]
      exact settle_advance_of_none (current?_of_drop hrest) rfl
    exact steps_of_exhausted hsettle
  | cons i rest ih =>
    intro p hidle hrest
    have hsettle : (p.ask .step).1.settle (p.ask .step).2
        = (i.events, p.forward, .stepped (.emitted i)) := by
      rw [ask_step_of_idle hidle]
      exact settle_advance_of_some (current?_of_drop hrest) rfl
    rw [steps_of_emitted hsettle, ih (p := p.forward) hidle (drop_forward hrest), List.flatMap_cons,
      List.append_assoc]

/-- Told at one time, they make a script in which all places have that time. -/
theorem script_const (time k : Nat) (program : Program) :
    (program.flatMap Instruction.events ++ [Event.highlight none]).map (fun e => (time, e.text))
      = script (fun _ => time) k program := by
  induction program generalizing k with
  | nil => rfl
  | cons i rest ih =>
    rw [List.flatMap_cons, List.append_assoc, List.map_append, ih (k + 1)]
    rfl

/-! ## A timer -/

/-- A player and its only timer. The task `t` is as old as the clock and has always ticked in time. -/
structure Driven (c : Clock) (p : Player) (t : Task) : Prop where
  timers : p.timers = [⟨t.period, p.epoch, true⟩]
  follow : c.follow p.timers = ⟨c.now, [t]⟩
  waits : t.waits = true
  since : t.since = 0
  onBeat : t.OnBeat
  now_le : c.now ≤ Clock.ceil t.deadline

namespace Driven

variable {c : Clock} {p : Player} {t : Task}

theorem ceil_deadline (h : Driven c p t) :
    Clock.ceil t.deadline = Clock.beat t.period t.ticks.length := by
  rw [h.onBeat.ceil_eq, t.ceil_due, h.since, Nat.zero_add]

theorem upcoming? (h : Driven c p t) : (c.follow p.timers).upcoming? = some 0 := by
  rw [h.follow]
  exact Clock.upcoming?_single rfl h.waits

theorem tick (h : Driven c p t) : (c.follow p.timers).tick 0
    = ⟨Clock.beat t.period t.ticks.length, [t.tick (Clock.ceil t.deadline)]⟩ := by
  have htick := Clock.tick_single (c := ⟨c.now, [t]⟩) rfl h.now_le
  rw [h.follow, htick, h.ceil_deadline]

theorem fire (h : Driven c p t) : p.fire 0 = p.advance (.tick p.epoch) := by
  rw [Player.fire, h.timers, List.getElem?_cons_zero]
  exact if_pos rfl

/-- The player goes on to the next instruction, and the timer stays on the beat. -/
theorem forward (h : Driven c p t) :
    Driven ((c.follow p.timers).tick 0) p.forward (t.tick (Clock.ceil t.deadline)) := by
  have htimers : p.forward.timers = [⟨t.period, p.epoch, true⟩] := h.timers
  rw [h.tick]
  refine ⟨?_, ?_, ?_, ?_, h.onBeat.tick, ?_⟩
  · rw [Task.period_tick]
    exact htimers
  · rw [htimers]
    exact Clock.follow_single rfl rfl
  · rw [Task.waits_tick]
    exact h.waits
  · rw [Task.since_tick]
    exact h.since
  · rw [Task.deadline_tick, ← h.ceil_deadline]
    exact Clock.ceil_mono (Nat.le_of_lt (Task.deadline_lt_following (Clock.le_ceil t.deadline)))

end Driven

theorem await_of_signal (c : Clock) (p : Player) : await c p true = ⟨[], c.now, .returned⟩ := by
  rw [await, if_pos rfl]

theorem await_of_upcoming {c : Clock} {p q : Player} {i : Nat} {es : List Event} {a : Answer}
    (hnext : (c.follow p.timers).upcoming? = some i)
    (hsettle : (p.fire i).1.settle (p.fire i).2 = (es, q, a)) :
    await c p false
      = (await ((c.follow p.timers).tickWhile (fun _ _ => a.again) i) q (es.any Event.isSignal)).after
          ((c.follow p.timers).tickWhile (fun _ _ => a.again) i).now es := by
  rw [await, if_neg Bool.false_ne_true]
  split
  · next hnone =>
    rw [hnext] at hnone
    cases hnone
  · next j hj =>
    rw [hnext] at hj
    cases hj
    split
    next hfire =>
      rw [hsettle] at hfire
      cases hfire
      rfl

/--
A timer tells the rest of a program, the two lines of each instruction at a tick of their own, and then
its end at one more tick, which is the signal for the reciter.
-/
theorem lines_await {rest : Program} : ∀ {c : Clock} {p : Player} {t : Task},
    Driven c p t → p.program.drop p.cursor = rest →
      (await c p false).lines = script (Clock.beat t.period) t.ticks.length rest
        ∧ (await c p false).ReturnsAt (Clock.beat t.period (t.ticks.length + rest.length)) := by
  -- `Driven` goes from tick to tick, with one tick more behind the task and one instruction less to tell
  induction rest with
  | nil =>
    intro c p t h hrest
    have hsettle : (p.fire 0).1.settle (p.fire 0).2
        = ([.highlight none], p.cancel, .ticked false) := by
      rw [h.fire]
      exact settle_advance_of_none (current?_of_drop hrest) (by simp [conclude])
    -- this is the signal, so the reciter does not wait for another tick
    have hend : await c p false
        = (await (((c.follow p.timers).tick 0).finish 0) p.cancel true).after
            (((c.follow p.timers).tick 0).finish 0).now [.highlight none] :=
      await_of_upcoming h.upcoming? hsettle
    rw [hend, await_of_signal, lines_after, h.tick]
    exact ⟨rfl, rfl, rfl⟩
  | cons i rest ih =>
    intro c p t h hrest
    have hsettle : (p.fire 0).1.settle (p.fire 0).2 = (i.events, p.forward, .ticked true) := by
      rw [h.fire]
      exact settle_advance_of_some (current?_of_drop hrest) rfl
    have hnext : await c p false
        = (await ((c.follow p.timers).tick 0) p.forward false).after
            ((c.follow p.timers).tick 0).now i.events :=
      await_of_upcoming h.upcoming? hsettle
    obtain ⟨hlines, hreturns⟩ := ih h.forward (drop_forward hrest)
    rw [Task.period_tick, Task.length_ticks_tick] at hlines hreturns
    rw [Nat.add_right_comm] at hreturns
    rw [hnext]
    refine ⟨?_, returnsAt_after hreturns _ _⟩
    rw [lines_after, hlines, h.tick]
    rfl

/-- The first timer that a player starts has a task that begins with the clock. -/
theorem driven_start {p : Player} (h : p.timers = []) (hheld : p.held = none) :
    Driven .new p.start (.new 0 p.period) := by
  have hperiod : (Task.new 0 p.period).period = p.period := Task.period_new 0 p.period_pos
  have htimers : p.start.timers = [⟨p.period, p.start.epoch, true⟩] := by
    simp only [start, silenced, hheld, h, List.nil_append]
  refine ⟨?_, ?_, rfl, ?_, Task.onBeat_new 0 p.period, Nat.zero_le _⟩
  · rw [hperiod]
    exact htimers
  · rw [htimers]
    simp only [Clock.follow, Clock.new, List.length_nil, List.drop_zero, List.map_cons, List.map_nil,
      List.nil_append, Clock.cancelDead, if_true]
  · rw [Task.new]

/-- An instruction is there to be played: the lines come from the timer alone, and they are waited for. -/
theorem timed_eq (p : Player) (hidle : p.mode = .idle) (h : p.exhausted = false) :
    timed p = (await .new p.start false).after 0 [] := by
  have hask : p.ask .play = (p.start, .answer .done) := by
    rw [ask, if_neg (not_isRunning hidle), if_neg (by simp [h])]
  rw [timed, hask, settle_answer]
  rfl

/-! ## Whole programs -/

theorem lines_stepped (program : Program) (o : PlaybackOptions) :
    (ofProgram program o true).lines = script (fun _ => 0) 0 program := by
  have hsteps : steps (.new program o) = program.flatMap Instruction.events ++ [.highlight none] :=
    steps_eq rfl rfl
  rw [ofProgram, if_pos rfl, ← script_const 0 0 program, ← hsteps]
  simp only [lines, stepped, atTime, List.map_map]
  rfl

theorem lines_timed {program : Program} (o : PlaybackOptions) (h : program ≠ []) :
    (ofProgram program o false).lines = script (Clock.beat (o.speed.period o.base)) 0 program
      ∧ (ofProgram program o false).ReturnsAt
          (Clock.beat (o.speed.period o.base) program.length) := by
  have hexhausted : (Player.new program o).exhausted = false := by
    simp [exhausted, new, h]
  have htimed := timed_eq (.new program o) rfl hexhausted
  have hdriven := driven_start (p := .new program o) rfl rfl
  have hticks : (Task.new 0 (Player.new program o).period).ticks.length = 0 := by
    rw [Task.new, List.length_nil]
  have hperiod : (Task.new 0 (Player.new program o).period).period = o.speed.period o.base :=
    Task.period_new 0 (Player.period_pos _)
  have hrest : (Player.new program o).start.program.drop (Player.new program o).start.cursor = program :=
    rfl
  obtain ⟨hlines, hreturns⟩ := lines_await hdriven hrest
  rw [hperiod, hticks] at hlines hreturns
  rw [Nat.zero_add] at hreturns
  rw [ofProgram, if_neg Bool.false_ne_true, htimed, lines_after]
  exact ⟨hlines, returnsAt_after hreturns 0 []⟩

/-- Without an instruction there is no timer, and nobody waits. -/
theorem timed_nil (o : PlaybackOptions) :
    ofProgram [] o false = ⟨[⟨0, .highlight none⟩], 0, .returned⟩ := by
  have hask : (Player.new [] o).ask .play
      = (.new [] o, .tell (.highlight none) (.cleared .play)) := rfl
  have hcleared : (Player.new [] o).resume (.cleared .play) = (.new [] o, .answer .done) := rfl
  rw [ofProgram, if_neg Bool.false_ne_true, timed, hask]
  simp only [settle_tell, hcleared, settle_answer]
  rfl

/--
**What is read in a recital.** In single steps all lines come at once. On a timer the lines are the
same; instruction number `k + 1` has its lines at beat `k`, and the last line comes at the beat after
the last instruction. If the program is empty, there is only the last line, and it comes at once. The reciter
always goes on, in the millisecond of the last line.

Beat `k` is the first whole millisecond that is not before its time. If the period is not longer than
anybody waits, the time is `k + 1` periods; otherwise all waits but the first one are cut off.
-/
theorem lines_ofProgram (program : Program) (o : PlaybackOptions) :
    (ofProgram program o true).lines = script (fun _ => 0) 0 program
      ∧ (ofProgram program o true).ReturnsAt 0
      ∧ (program = [] → (ofProgram program o false).lines = [(0, "highlight -")]
          ∧ (ofProgram program o false).ReturnsAt 0)
      ∧ (program ≠ [] →
          (ofProgram program o false).lines = script (Clock.beat (o.speed.period o.base)) 0 program
          ∧ (ofProgram program o false).ReturnsAt
              (Clock.beat (o.speed.period o.base) program.length))
      ∧ (ofProgram program o false).lines.map Prod.snd
          = (ofProgram program o true).lines.map Prod.snd
      ∧ ∀ k n, (Clock.beat (o.speed.period o.base) k ≤ n ↔
            o.speed.period o.base + k * min (o.speed.period o.base) Clock.longest ≤ n * Clock.unit)
          ∧ (o.speed.period o.base ≤ Clock.longest →
            (Clock.beat (o.speed.period o.base) k ≤ n ↔
              (k + 1) * o.speed.period o.base ≤ n * Clock.unit)) := by
  refine ⟨lines_stepped program o, ⟨rfl, rfl⟩, ?_, lines_timed o, ?_, fun k n =>
    ⟨Clock.beat_le_iff, fun h => Clock.beat_le_iff_of_le h⟩⟩
  · rintro rfl
    rw [timed_nil]
    exact ⟨rfl, rfl, rfl⟩
  · by_cases h : program = []
    · subst h
      rw [timed_nil, lines_stepped]
      rfl
    · rw [(lines_timed o h).1, lines_stepped, map_snd_script _ fun _ => 0]

/-- With a period of more than thirty years, the second beat comes before two periods have passed. -/
theorem finish_cut_off :
    (ofProgram [⟨"a", .perform .wait⟩] ⟨18446744073709551615, .normal, false⟩ false).ReturnsAt
        19392824073710
      ∧ 19392824073710 < Clock.ceil (2 * Speed.normal.period 18446744073709551615) := by
  have hperiod : Speed.normal.period 18446744073709551615 = 18446744073709551615 := by decide
  have hbeat : Clock.beat 18446744073709551615 1 = 19392824073710 := by
    rw [Clock.beat, Clock.span, Clock.longest_eq]
    decide
  constructor
  · have hreturns := (lines_timed ⟨18446744073709551615, .normal, false⟩
      (List.cons_ne_nil (⟨"a", .perform .wait⟩ : Instruction) [])).2
    rw [← hbeat]
    rwa [hperiod] at hreturns
  · rw [hperiod]
    decide

end Recital

end BlockPlayer
