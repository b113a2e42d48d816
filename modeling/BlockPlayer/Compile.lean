import BlockPlayer.Chain
import BlockPlayer.Program

/-!
# Compiling a chain

A chain is compiled by walking from its start block and taking down one instruction for each block
that stands for a command. The order of the blocks is the order of the instructions.

## Termination

The walk carries a budget, the number of blocks that it may still visit, and ends when the budget is
used up, whatever the chain looks like. It also ends at the first block that it has met before.
-/

namespace BlockPlayer

/-- What becomes of a block that is not an action. -/
inductive Policy
  /-- It is left out. -/
  | skip
  /-- It becomes a pause. -/
  | wait
  deriving DecidableEq, Repr

namespace Policy

def all : List Policy := [skip, wait]

def name : Policy → String
  | skip => "skip"
  | wait => "wait"

def ofName? (text : String) : Option Policy := all.find? fun p => text == p.name

theorem ofName?_name (p : Policy) : ofName? p.name = some p := by cases p <;> decide

end Policy

structure CompileOptions where
  policy : Policy
  /-- The most blocks that may follow the start block, counting those that are left out. -/
  limit : Nat
  deriving DecidableEq, Repr

def CompileOptions.default : CompileOptions := ⟨.skip, 1000⟩

/-- Why a chain has no program. -/
inductive CompileError
  /-- The first block is not a start block. -/
  | notAStart (id : BlockId) (kind : BlockKind)
  /-- The chain comes back to a block. -/
  | loop (id : BlockId)
  | tooLong (limit : Nat)
  deriving DecidableEq, Repr

namespace CompileError

/-- What is wrong with the chain as a whole, if that is the reason. -/
def cause? : CompileError → Option String
  | notAStart _ _ => none
  | loop id => some ("block " ++ id ++ " is reached twice (the chain loops)")
  | tooLong limit => some ("chain is longer than " ++ toString limit ++ " blocks")

def message (e : CompileError) : String :=
  match e, e.cause? with
  | notAStart id kind, _ =>
    "Program must start from a start block, got a " ++ kind.tag ++ " block (" ++ id ++ ")"
  | _, cause => "Malformed program: " ++ cause.getD ""

end CompileError

namespace Compile

variable {ν : Type} [ChainNode ν]

/-- The command that a block stands for, if any. A start block amid a chain is like any other. -/
def command? (policy : Policy) : BlockKind → Option Command
  | .action a => some (.perform a)
  | .start | .unrecognized _ =>
    match policy with
    | .skip => none
    | .wait => some (.perform .wait)

/-- The instructions of one block: one or none. -/
def instructions (policy : Policy) (n : ν) : Program :=
  (command? policy (ChainNode.kind n)).toList.map fun c => ⟨ChainNode.id n, c⟩

/--
The program of the rest of a chain. `seen` holds the ids that were met, and `budget` is the number of
blocks that may still be visited. That a block comes back is noticed before the budget is.
-/
def rest (o : CompileOptions) : Nat → List BlockId → Option ν → Except CompileError Program
  | _, _, none => .ok []
  | budget, seen, some n =>
    if ChainNode.id n ∈ seen then .error (.loop (ChainNode.id n))
    else match budget with
      | 0 => .error (.tooLong o.limit)
      | budget + 1 =>
        match rest o budget (ChainNode.id n :: seen) (ChainNode.next n) with
        | .ok p => .ok (instructions o.policy n ++ p)
        | .error e => .error e

end Compile

/-- **The program of the chain behind a start block.** -/
def compile {ν : Type} [ChainNode ν] (o : CompileOptions) (start : ν) : Except CompileError Program :=
  if ChainNode.kind start = .start then
    Compile.rest o o.limit [ChainNode.id start] (ChainNode.next start)
  else .error (.notAStart (ChainNode.id start) (ChainNode.kind start))

/-- Like `compile`, with the empty program for a chain that has none. -/
def compileOrEmpty {ν : Type} [ChainNode ν] (o : CompileOptions) (start : ν) : Program :=
  match compile o start with
  | .ok p => p
  | .error _ => []

end BlockPlayer
