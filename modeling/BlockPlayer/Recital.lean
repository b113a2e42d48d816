import BlockPlayer.Clock
import BlockPlayer.Player.Turn

/-!
# Recitals

A recital is a program played from beginning to end for somebody who only reads along: everything that
the callbacks are told becomes a line, with the time at which it is told. A recital is taken in single
steps, all at once, or on a timer.

Whoever gives a recital on a timer, the *reciter*, starts the player and then waits for a signal. It is given
when a callback is told that no block is marked any more, and a signal that comes before the reciter waits is
not lost. If there is none, and no timer will tick again, the reciter waits for ever.

* `Recital.steps` — what is told in single steps
* `Recital.await` — what is told while the reciter waits, and whether that comes to an end
* `Recital.ofProgram` — the recital of a program

## Termination

Each step but the last goes one instruction further (`remaining_lt_of_step`). A tick does so too, or it is
the last one of its task, and then fewer tasks will tick again (`remaining_lt_of_tick`).
-/

namespace BlockPlayer

/-- What a callback is told, as people read it. -/
def Event.text : Event → String
  | .emit c => "emit      " ++ c.name
  | .highlight (some id) => "highlight " ++ id
  | .highlight none => "highlight -"

/-- Whether the reciter is given a signal. -/
def Event.isSignal : Event → Bool
  | .highlight none => true
  | .emit _ | .highlight (some _) => false

/-- Whether a timer goes on that got this answer. -/
def Answer.again : Answer → Bool
  | .ticked again => again
  | .done | .stepped _ => false

/-- Something that a callback was told, and when, in milliseconds. -/
structure Cue where
  time : Nat
  event : Event
  deriving DecidableEq, Repr

/-- What becomes of the reciter. -/
inductive Ending
  /-- The reciter goes on to other things. -/
  | returned
  /-- The reciter waits, and nobody will ever give a signal. -/
  | stuck
  deriving DecidableEq, Repr

/-- All that was told, and how it ended. -/
structure Recital where
  cues : List Cue
  /-- When the reciter went on, or from when on nothing happens. -/
  finish : Nat
  ending : Ending
  deriving DecidableEq, Repr

namespace Recital

/-- Events that are told at the same time. -/
def atTime (time : Nat) (es : List Event) : List Cue := es.map (Cue.mk time)

/-- Puts events before a recital. -/
def after (time : Nat) (es : List Event) (r : Recital) : Recital :=
  ⟨atTime time es ++ r.cues, r.finish, r.ending⟩

/-- A step that tells an instruction leaves fewer of them. -/
theorem remaining_lt_of_step {p q : Player} {es : List Event} {i : Instruction}
    (h : (p.ask .step).1.settle (p.ask .step).2 = (es, q, .stepped (.emitted i))) :
    q.program.length - q.cursor < p.program.length - p.cursor := by
  rcases p.settle_step with ⟨j, hj, hstep⟩ | ⟨_, _, o, hstep, ho⟩
  · rw [hstep] at h
    cases h
    have hlt := Player.cursor_lt_of_current? hj
    show p.program.length - (p.cursor + 1) < p.program.length - p.cursor
    omega
  · rw [hstep] at h
    cases h
    exact absurd rfl (ho i)

/-- All single steps up to the first one that does not tell an instruction. The callbacks do nothing. -/
def steps (p : Player) : List Event :=
  match _h : (p.ask .step).1.settle (p.ask .step).2 with
  | (es, q, .stepped (.emitted _)) => es ++ steps q
  | (es, _, _) => es
termination_by p.program.length - p.cursor
decreasing_by exact remaining_lt_of_step _h

/-- The instructions that are left, and the timers that will fire again. -/
def remaining (c : Clock) (p : Player) : Nat := p.program.length - p.cursor + (c.follow p.timers).waiting

theorem remaining_lt_of_tick {c : Clock} {p q : Player} {i : Nat} {es : List Event} {a : Answer}
    (hnext : (c.follow p.timers).upcoming? = some i)
    (hfire : (p.fire i).1.settle (p.fire i).2 = (es, q, a)) :
    remaining ((c.follow p.timers).tickWhile (fun _ _ => a.again) i) q < remaining c p := by
  have htimers := c.length_le_follow p.timers
  rcases p.settle_fire i with ⟨j, hj, hsettle⟩ | ⟨_, q', hsettle, hq⟩
  · -- one instruction less is left, and no timer more
    rw [hsettle] at hfire
    cases hfire
    have hlt := Player.cursor_lt_of_current? hj
    have hle : (((c.follow p.timers).tick i).follow p.timers).waiting ≤ (c.follow p.timers).waiting := by
      rw [← Clock.waiting_tick (c.follow p.timers) i]
      exact Clock.waiting_follow_le (by rwa [Clock.length_tasks_tick])
    show p.program.length - (p.cursor + 1) + (((c.follow p.timers).tick i).follow p.timers).waiting
      < p.program.length - p.cursor + (c.follow p.timers).waiting
    omega
  · -- one timer less is left, and the player stays where it is
    rw [hsettle] at hfire
    cases hfire
    have hlength : q.timers.length = p.timers.length := by
      rcases hq with rfl | rfl
      · rfl
      · exact p.length_silenced
    have hle : ((((c.follow p.timers).tick i).finish i).follow q.timers).waiting
        ≤ (((c.follow p.timers).tick i).finish i).waiting :=
      Clock.waiting_follow_le (by rwa [Clock.length_tasks_finish, Clock.length_tasks_tick, hlength])
    have hlt := Nat.lt_of_le_of_lt hle (Clock.waiting_finish_tick_lt hnext)
    rcases hq with rfl | rfl
    · exact Nat.add_lt_add_left hlt _
    · exact Nat.add_lt_add_left hlt _

/--
The reciter waits for a signal, unless there has been one. Meanwhile the tasks of the clock tick. They are the
timers of a player whose callbacks do nothing; a task ends with a tick that is not to be repeated.
-/
def await (c : Clock) (p : Player) (signal : Bool) : Recital :=
  if signal then ⟨[], c.now, .returned⟩
  else
    match _hnext : (c.follow p.timers).upcoming? with
    | none => ⟨[], c.now, .stuck⟩
    | some i =>
      match _hfire : (p.fire i).1.settle (p.fire i).2 with
      | (es, q, answer) =>
        let d := (c.follow p.timers).tickWhile (fun _ _ => answer.again) i
        (await d q (es.any Event.isSignal)).after d.now es
termination_by remaining c p
decreasing_by exact remaining_lt_of_tick _hnext _hfire

/-- A recital in single steps. -/
def stepped (p : Player) : Recital := ⟨atTime 0 (steps p), 0, .returned⟩

/-- A recital on a timer. If no timer drives the player, there is nothing to wait for. -/
def timed (p : Player) : Recital :=
  let (es, q, _) := (p.ask .play).1.settle (p.ask .play).2
  (if q.isRunning then await .new q (es.any Event.isSignal) else ⟨[], 0, .returned⟩).after 0 es

/-- The recital of a program, in single steps or on a timer. -/
def ofProgram (program : Program) (o : PlaybackOptions) (single : Bool) : Recital :=
  if single then stepped (.new program o) else timed (.new program o)

end Recital

end BlockPlayer
