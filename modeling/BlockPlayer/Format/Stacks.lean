import BlockPlayer.Graph.Basic
import BlockPlayer.Json.Value

/-!
# Graphs as nested stacks

Blockly saves a workspace as a list of stacks. A stack is its first block, and each block holds the
block behind it, as the member `block` of its member `next`. Blocks may hold other blocks in other
places; those are not part of a chain and are not looked at. Blocks need not have an id.

## Termination

A block is part of the block that holds it (`sizeOf_lt_of_nextBlock?`).
-/

namespace BlockPlayer

/-- Why a value is no workspace. -/
inductive DocumentError
  /-- It is neither a flat document nor a list of stacks. -/
  | unknownFormat
  | noStacks
  /-- Something in place of a block has no tag. -/
  | noTag
  /-- No stack begins with a start block. -/
  | noStart
  deriving DecidableEq, Repr

def DocumentError.reason : DocumentError → String
  | unknownFormat => "expected a `start` field or a Blockly `blocks.blocks` list"
  | noStacks => "missing `blocks.blocks` list"
  | noTag => "block without a `type`"
  | noStart => "workspace has no start block"

namespace Stacks

/-- Where the stacks of a workspace are. -/
def place? (j : Json) : Option Json := (j.get? "blocks").bind (·.get? "blocks")

/-- The block behind a block. -/
def nextBlock? (j : Json) : Option Json := (j.get? "next").bind (·.get? "block")

theorem sizeOf_lt_of_lookup {name : String} {j : Json} :
    ∀ {members : List (String × Json)}, members.lookup name = some j → sizeOf j < sizeOf members
  | (n, v) :: rest, h => by
    rw [List.lookup_cons] at h
    simp only [List.cons.sizeOf_spec, Prod.mk.sizeOf_spec]
    split at h
    · cases h
      omega
    · have := sizeOf_lt_of_lookup h
      omega

theorem sizeOf_lt_of_get? {name : String} {j k : Json} (h : j.get? name = some k) :
    sizeOf k < sizeOf j := by
  unfold Json.get? at h
  split at h
  · have := sizeOf_lt_of_lookup h
    simp only [Json.object.sizeOf_spec]
    omega
  · cases h

theorem sizeOf_lt_of_nextBlock? {j k : Json} (h : nextBlock? j = some k) : sizeOf k < sizeOf j := by
  obtain ⟨m, hm, hk⟩ := Option.bind_eq_some_iff.mp h
  exact Nat.lt_trans (sizeOf_lt_of_get? hk) (sizeOf_lt_of_get? hm)

/-- Ids for blocks that have none, and how many of them were used. -/
structure Supply where
  fresh : Nat → BlockId
  used : Nat

/-- One block without its link. -/
def blockOf (s : Supply) (j : Json) : Except DocumentError (Block × Supply) :=
  match (j.get? "type").bind Json.text? with
  | none => .error .noTag
  | some tag =>
    match (j.get? "id").bind Json.text? with
    | some id => .ok (⟨id, .ofTag tag, none⟩, s)
    | none => .ok (⟨s.fresh s.used, .ofTag tag, none⟩, ⟨s.fresh, s.used + 1⟩)

/-- The blocks of a stack from a block on, each linked to the one behind it. -/
def stackOf (s : Supply) (j : Json) : Except DocumentError (List Block × Supply) :=
  match blockOf s j with
  | .error e => .error e
  | .ok (b, s) =>
    match _h : nextBlock? j with
    | none => .ok ([b], s)
    | some k =>
      match stackOf s k with
      | .error e => .error e
      | .ok (rest, s) => .ok (⟨b.id, b.kind, rest.head?.map Block.id⟩ :: rest, s)
termination_by sizeOf j
decreasing_by exact sizeOf_lt_of_nextBlock? _h

/-- All stacks, in their order. -/
def stacksOf (s : Supply) : List Json → Except DocumentError (List (List Block))
  | [] => .ok []
  | j :: rest =>
    match stackOf s j with
    | .error e => .error e
    | .ok (stack, s) => (stacksOf s rest).map (stack :: ·)

/-- The first block that begins a stack and is a start block. -/
def start? (piles : List (List Block)) : Option Block :=
  (piles.filterMap List.head?).find? fun b => b.kind.isStart

end Stacks

/-- Why a value that was read makes no graph. -/
inductive StacksError
  | document (e : DocumentError)
  | graph (e : GraphError)
  deriving DecidableEq, Repr

/-- **The graph of nested stacks.** Ids for blocks without one are taken from `fresh`, in order. -/
def Graph.ofStacks (fresh : Nat → BlockId) (j : Json) : Except StacksError Graph :=
  match (Stacks.place? j).bind Json.items? with
  | none => .error (.document .noStacks)
  | some heads =>
    match Stacks.stacksOf ⟨fresh, 0⟩ heads with
    | .error e => .error (.document e)
    | .ok piles =>
      match Stacks.start? piles with
      | none => .error (.document .noStart)
      | some b => (Graph.ofBlocks b.id piles.flatten).mapError .graph

end BlockPlayer
