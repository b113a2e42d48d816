/-!
# The words of a block program

A learner builds a program from blocks. An editor names the type of a block by a *tag*, and the
view that moves the vehicle is driven by *commands*. This module holds the three finite
vocabularies and their spellings.

* `Action` — what the vehicle can be told to do
* `BlockKind` — what a tag means
* `Command` — what is sent to the view

Main statements: the canonical tag of an action reads back as the action
(`Action.ofTag?_tag`), and the tag of a kind that came from a tag reads back as that kind
(`BlockKind.ofTag_tag_ofTag`).
-/

namespace BlockPlayer

/-- A text that tells a block from every other block of its workspace. -/
abbrev BlockId := String

/-! ## Actions -/

/-- What a block can tell the vehicle to do. -/
inductive Action
  | moveForwards
  | turnLeft
  | turnRight
  | turnAround
  | wait
  | deliver
  | soundHorn
  deriving DecidableEq, Repr

namespace Action

/-- All actions, in the order in which they are listed to people. -/
def all : List Action :=
  [moveForwards, turnLeft, turnRight, turnAround, wait, deliver, soundHorn]

/-- The canonical tag: the words of the action in lower case, joined by underscores. -/
def tag : Action → String
  | moveForwards => "move_forwards"
  | turnLeft => "turn_left"
  | turnRight => "turn_right"
  | turnAround => "turn_around"
  | wait => "wait"
  | deliver => "deliver"
  | soundHorn => "sound_horn"

/-- The name of the action in commands: its words run together, each but the first capitalised. -/
def name : Action → String
  | moveForwards => "moveForwards"
  | turnLeft => "turnLeft"
  | turnRight => "turnRight"
  | turnAround => "turnAround"
  | wait => "wait"
  | deliver => "deliver"
  | soundHorn => "soundHorn"

/-- Reads a tag. Editors have used both spellings, so the name is accepted as well. -/
def ofTag? (text : String) : Option Action :=
  all.find? fun a => text == a.tag || text == a.name

theorem mem_all (a : Action) : a ∈ all := by cases a <;> decide

/-- The canonical tag of an action reads back as the action. -/
theorem ofTag?_tag (a : Action) : ofTag? a.tag = some a := by cases a <;> decide

/-- The other spelling reads back too. -/
theorem ofTag?_name (a : Action) : ofTag? a.name = some a := by cases a <;> decide

end Action

/-! ## Kinds of blocks -/

/-- What a block is, as far as its tag tells. -/
inductive BlockKind
  /-- The root of a chain. -/
  | start
  /-- One of the seven actions. -/
  | action (a : Action)
  /-- A block with any other tag: decoration, or a construct of another editor. -/
  | unrecognized (tag : String)
  deriving DecidableEq, Repr

namespace BlockKind

/-- Reads a tag. The start block is known under two tags. -/
def ofTag (text : String) : BlockKind :=
  if text = "start" ∨ text = "van" then start
  else match Action.ofTag? text with
    | some a => action a
    | none => unrecognized text

/-- The canonical tag. A tag that is not recognised is its own canonical tag. -/
def tag : BlockKind → String
  | start => "start"
  | action a => a.tag
  | unrecognized text => text

/-- Whether a chain may begin with such a block. -/
def isStart : BlockKind → Bool
  | start => true
  | _ => false

@[simp] theorem isStart_iff {k : BlockKind} : k.isStart = true ↔ k = start := by
  cases k <;> simp [isStart]

theorem isStart_eq_false_iff {k : BlockKind} : k.isStart = false ↔ k ≠ start := by
  cases k <;> simp [isStart]

theorem ofTag_start : ofTag "start" = start := by decide

theorem ofTag_tag_action (a : Action) : ofTag a.tag = action a := by cases a <;> decide

/-- **The tag of a kind that came from a tag reads back as that kind.** -/
theorem ofTag_tag_ofTag (text : String) : ofTag (ofTag text).tag = ofTag text := by
  by_cases hs : text = "start" ∨ text = "van"
  · have h : ofTag text = start := by rw [ofTag, if_pos hs]
    rw [h]
    exact ofTag_start
  · cases ha : Action.ofTag? text with
    | some a =>
      have h : ofTag text = action a := by rw [ofTag, if_neg hs, ha]
      rw [h]
      exact ofTag_tag_action a
    | none =>
      have h : ofTag text = unrecognized text := by rw [ofTag, if_neg hs, ha]
      rw [h]
      exact h

end BlockKind

/-! ## Commands -/

/-- What is sent to the view. -/
inductive Command
  /-- Do one action. -/
  | perform (a : Action)
  /-- Go back to the initial scene. -/
  | reset
  deriving DecidableEq, Repr

namespace Command

/-- All commands, in the order in which they are listed to people. -/
def all : List Command := Action.all.map perform ++ [reset]

/-- The name under which a command is written. -/
def name : Command → String
  | perform a => a.name
  | reset => "reset"

/-- Reads the name of a command. -/
def ofName? (text : String) : Option Command := all.find? fun c => text == c.name

/-- The name of a command reads back as the command. -/
theorem ofName?_name (c : Command) : ofName? c.name = some c := by
  cases c with
  | perform a => cases a <;> decide
  | reset => decide

end Command

end BlockPlayer
