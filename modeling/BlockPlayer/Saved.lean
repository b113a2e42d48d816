import BlockPlayer.Files
import BlockPlayer.Format.Load

/-!
# Compiling saved workspaces

A file is read, loaded and compiled. What went wrong is told in two parts: what was being done to which
file, and why it failed.
-/

namespace BlockPlayer

/-- Why a file was not compiled. -/
inductive SavedError
  | unread (path : String) (e : FileError)
  | unloaded (path : String) (e : LoadError)
  | uncompiled (path : String) (e : CompileError)
  deriving DecidableEq

namespace SavedError

/-- What was being done. -/
def context : SavedError → String
  | unread path _ => "Failed to read workspace file " ++ path
  | unloaded path _ => "Failed to load block graph from " ++ path
  | uncompiled path _ => "Failed to compile " ++ path

/-- Why it failed, in one or more steps. -/
def reasons : SavedError → List String
  | unread _ e => [e.message]
  | unloaded _ (.json _) => [LoadError.jsonTitle]
  | unloaded _ (.document e) => [LoadError.documentMessage e]
  | unloaded _ (.graph e) => [e.message]
  | uncompiled _ e => e.message :: e.cause?.toList

def message (e : SavedError) : String := ": ".intercalate (e.context :: e.reasons)

end SavedError

/-- Compiles the workspace in a file. `fresh` gives ids to blocks that have none. -/
def compileFile (files : Files) (fresh : Nat → BlockId) (o : CompileOptions) (path : String) :
    Except SavedError Program := do
  let text ← (files.read path).mapError (.unread path)
  let graph ← (Graph.load fresh text).mapError (.unloaded path)
  (compile o graph.startNode).mapError (.uncompiled path)

end BlockPlayer
