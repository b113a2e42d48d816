import BlockPlayer.Compile
import BlockPlayer.Json.Printer
import BlockPlayer.Json.Reader
import BlockPlayer.Speed

/-!
# Programs in JSON

A command is an object that names itself, `type`. An instruction is a record of the id of its block
and its command, a program is the array of its instructions. Actions and policies are names by
themselves, ids and kinds are texts, and a speed is its multiplier.
-/

namespace BlockPlayer

open Json (Draft Error Field Record)

/-! ## Names -/

def Action.read : Draft → Except Error Action :=
  Json.readChoice (Action.all.map fun a => (a.name, a))

def Policy.read : Draft → Except Error Policy :=
  Json.readChoice (Policy.all.map fun p => (p.name, p))

def BlockKind.read (d : Draft) : Except Error BlockKind := (Json.readText d).map BlockKind.ofTag

def Speed.read (d : Draft) : Except Error Speed := do
  let multiplier ← Json.readDouble d
  (Speed.ofMultiplier multiplier).mapError fun e => .mismatch (.refused e.message)

/-! ## Commands -/

def Command.toJson (c : Command) : Json := .object [("type", .text c.name)]

/-- Reads a command inside `depth` containers. -/
def Command.read (depth : Nat) : Draft → Except Error Command :=
  Json.readTagged "internally tagged enum Command" "type" (Command.all.map fun c => (c.name, c)) depth

/-! ## Instructions and programs -/

def Instruction.toJson (i : Instruction) : Json :=
  .object [("instructionId", .text i.id), ("command", i.command.toJson)]

/-- The fields of an instruction inside `depth` containers. -/
def Instruction.record (depth : Nat) : Record Instruction :=
  ⟨"struct Instruction",
    [⟨"instructionId", true, fun d i => do .ok ⟨← Json.readText d, i.command⟩⟩,
     ⟨"command", true, fun d i => do .ok ⟨i.id, ← Command.read (depth + 1) d⟩⟩]⟩

/-- Reads an instruction inside `depth` containers. -/
def Instruction.read (depth : Nat) : Draft → Except Error Instruction :=
  (record depth).read .text ⟨"", .reset⟩

def Program.toJson (p : Program) : Json := .array (p.map Instruction.toJson)

def Program.read : Draft → Except Error Program := Json.readList (Instruction.read 1)

end BlockPlayer
