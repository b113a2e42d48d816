import BlockPlayer.Program
import BlockPlayer.Speed

/-!
# Players

A player carries a program forward. It is idle, or a timer drives it. The timers are somebody else's:
the player starts and cancels them, and is told when one of them fires.

Timers that were cancelled may still fire. To tell them from the one that counts, the player keeps an
*epoch*, a number that grows whenever a timer is started or cancelled; each timer remembers the epoch
that began with it.

* `Player.start` — a new timer drives the player
* `Player.cancel` — no timer drives it any more
* `Player.replace` — another program takes the place of the old one
-/

namespace BlockPlayer

/-- Whether a timer drives a player. -/
inductive Mode
  | idle
  | running
  deriving DecidableEq, Repr

def Mode.name : Mode → String
  | idle => "idle"
  | running => "running"

/-- A timer that a player has started. It fires once in each period. -/
structure Timer where
  /-- In nanoseconds. -/
  period : Nat
  /-- The epoch of the player that began when the timer was started. -/
  epoch : Nat
  /-- Whether the player has kept it: it is neither cancelled nor let go. -/
  live : Bool
  deriving DecidableEq, Repr

/-- How a program is played. -/
structure PlaybackOptions where
  /-- The time between two instructions at normal speed, in nanoseconds. -/
  base : Nat
  speed : Speed
  /-- Whether a change of speed is felt at once and not only from the next start on. -/
  reschedule : Bool
  deriving DecidableEq

/-- An instruction each 0.7 seconds. -/
def PlaybackOptions.default : PlaybackOptions := ⟨700000000, .normal, false⟩

/-- The state of a player. -/
structure Player where
  program : Program
  /-- The place of the next instruction; past the last one, the program is exhausted. -/
  cursor : Nat
  mode : Mode
  speed : Speed
  base : Nat
  reschedule : Bool
  /--
  Grows by one when a timer is started and when one is cancelled, and never goes back. A word of 64 bits holds
  it as well: even with one of these in each nanosecond, it would take more than 500 years to go round.
  -/
  epoch : Nat
  /-- The place in `timers` of the timer that drives the player. -/
  held : Option Nat
  /-- All timers that were ever started, in their order. -/
  timers : List Timer

namespace Player

/-- A player at the beginning of a program. -/
def new (program : Program) (o : PlaybackOptions) : Player :=
  ⟨program, 0, .idle, o.speed, o.base, o.reschedule, 0, none, []⟩

/-! ## Inspection -/

def isRunning (p : Player) : Bool := decide (p.mode = .running)

/-- Whether there is no next instruction. -/
def exhausted (p : Player) : Bool := decide (p.program.length ≤ p.cursor)

/-- The next instruction. -/
def current? (p : Player) : Option Instruction := p.program[p.cursor]?

/-- The time between two instructions at the present speed, in nanoseconds. -/
def period (p : Player) : Nat := p.speed.period p.base

/-! ## Changes -/

/-- The timers, the one that drives the player no longer live. -/
def silenced (p : Player) : List Timer :=
  match p.held with
  | none => p.timers
  | some i => p.timers.modify i fun t => ⟨t.period, t.epoch, false⟩

theorem length_silenced (p : Player) : p.silenced.length = p.timers.length := by
  unfold silenced
  split
  · rfl
  · exact List.length_modify ..

/-- Lets a new timer drive the player. One that did so before is let go. -/
def start (p : Player) : Player :=
  { p with
    mode := .running
    epoch := p.epoch + 1
    held := some p.timers.length
    timers := p.silenced ++ [⟨p.period, p.epoch + 1, true⟩] }

/-- Takes the player's timer away, if it has one. -/
def cancel (p : Player) : Player :=
  { p with
    mode := .idle
    epoch := p.epoch + 1
    held := none
    timers := p.silenced }

/-- Goes back to the first instruction, without a timer. -/
def rewind (p : Player) : Player := { p.cancel with cursor := 0 }

/-- Goes on to the next instruction. -/
def forward (p : Player) : Player := { p with cursor := p.cursor + 1 }

def withSpeed (p : Player) (s : Speed) : Player := { p with speed := s }

/-- Puts a program in the place of the old one. The cursor stays where it is, if that is in it. -/
def replace (p : Player) (program : Program) : Player :=
  { p with program := program, cursor := min p.cursor program.length }

theorem not_isRunning {p : Player} (h : p.mode = .idle) : ¬ p.isRunning = true := by
  simp [isRunning, h]

theorem current?_eq_none_iff {p : Player} : p.current? = none ↔ p.exhausted = true := by
  simp [current?, exhausted]

theorem cursor_lt_of_current? {p : Player} {i : Instruction} (h : p.current? = some i) :
    p.cursor < p.program.length := by
  obtain ⟨h, _⟩ := List.getElem?_eq_some_iff.mp h
  exact h

end Player

end BlockPlayer
