import BlockPlayer.Vocabulary

/-!
# Commands on their way to the view

The view carries out one command at a time, so commands wait in a mailbox. It is first in, first
out: what was put in is taken out in the same order (`drain_post`).
-/

namespace BlockPlayer

/-- Commands that the view has not taken yet, oldest first. -/
structure Mailbox where
  waiting : List Command
  deriving DecidableEq, Repr

namespace Mailbox

def empty : Mailbox := ⟨[]⟩

/-- Puts a command behind all others. -/
def post (m : Mailbox) (c : Command) : Mailbox := ⟨m.waiting ++ [c]⟩

/-- Takes the oldest command, if there is one. -/
def take? (m : Mailbox) : Option Command × Mailbox :=
  match m.waiting with
  | [] => (none, m)
  | c :: rest => (some c, ⟨rest⟩)

/-- Takes all commands, oldest first. -/
def drain (m : Mailbox) : List Command × Mailbox := (m.waiting, empty)

@[simp] theorem waiting_post (m : Mailbox) (c : Command) :
    (m.post c).waiting = m.waiting ++ [c] := rfl

/-- A command that was posted comes out after everything that waited before. -/
theorem drain_post (m : Mailbox) (c : Command) :
    (m.post c).drain.1 = m.drain.1 ++ [c] := rfl

end Mailbox

end BlockPlayer
