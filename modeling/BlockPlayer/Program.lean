import BlockPlayer.Vocabulary

/-!
# Programs

A program is the list of instructions that a chain of blocks stands for. Each instruction keeps
the id of its block, so that an editor can mark the block while its command is carried out.
-/

namespace BlockPlayer

/-- One command, with the block that it came from. -/
structure Instruction where
  id : BlockId
  command : Command
  deriving DecidableEq, Repr

/-- Instructions in the order in which they are played. -/
abbrev Program := List Instruction

/-- The commands of a program, in order. -/
def Program.commands (p : Program) : List Command := p.map Instruction.command

end BlockPlayer
