import BlockPlayer.Player.Basic

/-!
# The turns of a player

A player reports to two callbacks: one is told each command, the other which block to mark. Callbacks
belong to others and may ask the player for anything while they run. So what a player does comes in
*turns*: a turn ends with the answer to what was asked, or when a callback is to be told something. In
the second case the rest is a `Frame`, a value that says what the player still has to do, and the next
turn begins with it when the callback returns.

* `Player.ask` — the turn that begins with a request
* `Player.fire` — the turn that begins when a timer fires
* `Player.resume` — the turn that begins when a callback returns

Between two turns nothing happens to the player. In particular the cursor moves on before the command
is told, so a callback that asks for the next step gets the next instruction.

## Termination

A turn of the last kind has less to do than the turn before it (`weight_resume_lt`), so if callbacks
do nothing an answer is reached (`Player.settle`). A step and a tick of a timer then have few ways to end
(`settle_step`, `settle_fire`).
-/

namespace BlockPlayer

/-- What a callback is told. -/
inductive Event
  | emit (c : Command)
  /-- The block to mark, or that no block is marked any more. -/
  | highlight (id : Option BlockId)
  deriving DecidableEq, Repr

/-- What callbacks are told for one instruction. -/
def Instruction.events (i : Instruction) : List Event := [.emit i.command, .highlight (some i.id)]

/-- What a player can be asked for. -/
inductive Request
  /-- Let a timer drive the player. -/
  | play
  /-- Do one instruction. -/
  | step
  /-- Go back to the beginning. -/
  | stop
  | setSpeed (s : Speed)
  | load (program : Program)
  deriving DecidableEq

/-- What came of one step. -/
inductive StepOutcome
  | emitted (i : Instruction)
  /-- There was no instruction left. -/
  | exhausted
  /-- A timer drives the player, so single steps are not taken. -/
  | ignored
  deriving DecidableEq, Repr

/-- The answer to a request, or to a timer. -/
inductive Answer
  | done
  | stepped (o : StepOutcome)
  /-- Whether the timer shall go on. -/
  | ticked (again : Bool)
  deriving DecidableEq, Repr

/-- Why the player goes through its program. -/
inductive Cause
  | play
  | step
  /-- The timer that began with the given epoch has fired. -/
  | tick (epoch : Nat)
  deriving DecidableEq, Repr

/-- What is left to do when a callback returns. -/
inductive Frame
  /-- A command was told when the epoch was `epoch`. -/
  | emitted (i : Instruction) (epoch : Nat) (cause : Cause)
  /-- The block of a command was marked. -/
  | marked (i : Instruction) (cause : Cause)
  /-- The mark was taken away at the end of the program. -/
  | cleared (cause : Cause)
  /-- The player went back to the beginning. A program may have to be loaded. -/
  | rewound (next : Option Program)
  deriving DecidableEq, Repr

/-- How a turn ends. -/
inductive Turn
  | tell (e : Event) (rest : Frame)
  | answer (a : Answer)
  deriving DecidableEq, Repr

namespace Player

/--
The end of a step through the program. A timer that has nothing more to do is cancelled, unless
another has taken its place.
-/
def conclude (p : Player) (cause : Cause) (o : StepOutcome) : Player × Turn :=
  match cause, o with
  | .play, _ => (p, .answer .done)
  | .step, o => (p, .answer (.stepped o))
  | .tick _, .emitted _ => (p, .answer (.ticked true))
  | .tick epoch, _ => (if p.epoch = epoch then p.cancel else p, .answer (.ticked false))

/-- Begins the next instruction, or takes the mark away if there is none. -/
def advance (p : Player) (cause : Cause) : Player × Turn :=
  match p.current? with
  | some i => (p.forward, .tell (.emit i.command) (.emitted i p.epoch cause))
  | none => (p, .tell (.highlight none) (.cleared cause))

/-- Goes back to the beginning and lets the view do the same. -/
def stop (p : Player) (next : Option Program) : Player × Turn :=
  (p.rewind, .tell (.emit .reset) (.rewound next))

/-- The turn that begins with a request. -/
def ask (p : Player) : Request → Player × Turn
  | .play =>
    if p.isRunning then (p, .answer .done)
    else if p.exhausted then (p, .tell (.highlight none) (.cleared .play))
    else (p.start, .answer .done)
  | .step => if p.isRunning then (p, .answer (.stepped .ignored)) else p.advance .step
  | .stop => p.stop none
  | .setSpeed s =>
    if p.speed ≠ s ∧ p.reschedule ∧ p.isRunning then ((p.withSpeed s).cancel.start, .answer .done)
    else (p.withSpeed s, .answer .done)
  | .load program =>
    if p.isRunning then p.stop (some program) else (p.replace program, .answer .done)

/-- The turn that begins when the timer at place `i` fires. Only the latest timer counts. -/
def fire (p : Player) (i : Nat) : Player × Turn :=
  match p.timers[i]? with
  | none => (p, .answer (.ticked false))
  | some t => if t.epoch = p.epoch then p.advance (.tick t.epoch) else (p, .answer (.ticked false))

/--
The turn that begins when a callback returns. The block of a command is marked only if no timer was
started or cancelled while the command was told.
-/
def resume (p : Player) : Frame → Player × Turn
  | .emitted i epoch cause =>
    if p.epoch = epoch then (p, .tell (.highlight (some i.id)) (.marked i cause))
    else p.conclude cause (.emitted i)
  | .marked i cause => p.conclude cause (.emitted i)
  | .cleared cause => p.conclude cause .exhausted
  | .rewound none => (p, .answer .done)
  | .rewound (some program) => (p.replace program, .answer .done)

/-! ## Callbacks that do nothing -/

end Player

/-- How many callbacks may still be told something, at most. -/
def Turn.weight : Turn → Nat
  | .answer _ => 0
  | .tell _ (.emitted ..) => 2
  | .tell _ _ => 1

namespace Player

theorem weight_conclude (p : Player) (cause : Cause) (o : StepOutcome) :
    (p.conclude cause o).2.weight = 0 := by
  unfold conclude
  split <;> rfl

theorem weight_resume_lt (p : Player) (e : Event) (f : Frame) :
    (p.resume f).2.weight < (Turn.tell e f).weight := by
  cases f with
  | emitted i epoch cause =>
    rw [resume]
    split
    · exact Nat.lt_add_one 1
    · rw [weight_conclude]
      exact Nat.zero_lt_two
  | marked i cause => rw [resume, weight_conclude]; exact Nat.zero_lt_one
  | cleared cause => rw [resume, weight_conclude]; exact Nat.zero_lt_one
  | rewound next => cases next <;> exact Nat.zero_lt_one

/-- What callbacks are told up to the answer, if they do nothing, and what comes of it. -/
def settle (p : Player) (t : Turn) : List Event × Player × Answer :=
  match t with
  | .answer a => ([], p, a)
  | .tell e f =>
    let rest := settle (p.resume f).1 (p.resume f).2
    (e :: rest.1, rest.2)
termination_by t.weight
decreasing_by exact weight_resume_lt p e f

section Settle

variable {p q : Player} {i : Instruction} {cause : Cause} {a : Answer}

theorem settle_answer (p : Player) (a : Answer) : p.settle (.answer a) = ([], p, a) := by
  rw [settle]

theorem settle_tell (p : Player) (e : Event) (f : Frame) :
    p.settle (.tell e f) = (e :: ((p.resume f).1.settle (p.resume f).2).1,
      ((p.resume f).1.settle (p.resume f).2).2) := by
  rw [settle]

/-- An instruction is told and its block is marked, for no timer starts or is cancelled meanwhile. -/
theorem settle_advance_of_some (h : p.current? = some i)
    (ha : p.forward.conclude cause (.emitted i) = (p.forward, .answer a)) :
    (p.advance cause).1.settle (p.advance cause).2 = (i.events, p.forward, a) := by
  have hadvance : p.advance cause
      = (p.forward, .tell (.emit i.command) (.emitted i p.epoch cause)) := by
    rw [advance, h]
  have hemitted : p.forward.resume (.emitted i p.epoch cause)
      = (p.forward, .tell (.highlight (some i.id)) (.marked i cause)) := by
    rw [resume]
    exact if_pos rfl
  have hmarked : p.forward.resume (.marked i cause) = (p.forward, .answer a) := by
    rw [resume, ha]
  rw [hadvance, settle_tell, hemitted, settle_tell, hmarked, settle_answer]
  rfl

/-- At the end of the program, the mark is taken away. -/
theorem settle_advance_of_none (h : p.current? = none)
    (ha : p.conclude cause .exhausted = (q, .answer a)) :
    (p.advance cause).1.settle (p.advance cause).2 = ([.highlight none], q, a) := by
  have hadvance : p.advance cause = (p, .tell (.highlight none) (.cleared cause)) := by
    rw [advance, h]
  have hcleared : p.resume (.cleared cause) = (q, .answer a) := by
    rw [resume, ha]
  rw [hadvance, settle_tell, hcleared, settle_answer]

/-- A step tells the next instruction, or it is the last one. -/
theorem settle_step (p : Player) :
    (∃ i, p.current? = some i ∧
      (p.ask .step).1.settle (p.ask .step).2 = (i.events, p.forward, .stepped (.emitted i))) ∨
    ∃ es q o, (p.ask .step).1.settle (p.ask .step).2 = (es, q, .stepped o) ∧ ∀ i, o ≠ .emitted i := by
  by_cases hrunning : p.isRunning = true
  · have hask : p.ask .step = (p, .answer (.stepped .ignored)) := by rw [ask, if_pos hrunning]
    rw [hask, settle_answer]
    exact .inr ⟨[], p, .ignored, rfl, nofun⟩
  · have hask : p.ask .step = p.advance .step := by rw [ask, if_neg hrunning]
    rw [hask]
    cases h : p.current? with
    | some i => exact .inl ⟨i, rfl, settle_advance_of_some h rfl⟩
    | none => exact .inr ⟨_, p, .exhausted, settle_advance_of_none h rfl, nofun⟩

/-- A timer that counts carries the program forward, and any other one has nothing to do. -/
theorem fire_eq_or (p : Player) (k : Nat) :
    p.fire k = (p, .answer (.ticked false)) ∨ p.fire k = p.advance (.tick p.epoch) := by
  rw [fire]
  cases p.timers[k]? with
  | none => exact .inl rfl
  | some t =>
    by_cases h : t.epoch = p.epoch
    · exact .inr (by simp only [h, if_true])
    · exact .inl (if_neg h)

/-- When a timer fires, it goes on behind the next instruction, or it has fired for the last time. -/
theorem settle_fire (p : Player) (k : Nat) :
    (∃ i, p.current? = some i ∧
      (p.fire k).1.settle (p.fire k).2 = (i.events, p.forward, .ticked true)) ∨
    ∃ es q, (p.fire k).1.settle (p.fire k).2 = (es, q, .ticked false) ∧ (q = p ∨ q = p.cancel) := by
  rcases p.fire_eq_or k with hfire | hfire
  · rw [hfire, settle_answer]
    exact .inr ⟨[], p, rfl, .inl rfl⟩
  · rw [hfire]
    cases h : p.current? with
    | some i => exact .inl ⟨i, rfl, settle_advance_of_some h rfl⟩
    | none =>
      have hcancel : p.conclude (.tick p.epoch) .exhausted = (p.cancel, .answer (.ticked false)) := by
        simp [conclude]
      exact .inr ⟨_, p.cancel, settle_advance_of_none h hcancel, .inr rfl⟩

end Settle

end Player

end BlockPlayer
