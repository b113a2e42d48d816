import BlockPlayer.Format.Document
import BlockPlayer.Format.Stacks

/-!
# Loading a saved workspace

A saved workspace is either a flat document or a list of nested stacks. What has a member `start` is
taken for a flat document; what has a place for stacks is taken for stacks.
-/

namespace BlockPlayer

/-- Why a saved workspace was not loaded. -/
inductive LoadError
  | json (e : Json.Error)
  | document (e : DocumentError)
  | graph (e : GraphError)
  deriving DecidableEq

namespace LoadError

/-- What is said before the reason why a text was not read. -/
def jsonTitle : String := "Failed to parse workspace JSON"

/-- What is said of a text that is JSON and no workspace. -/
def documentMessage (e : DocumentError) : String := "Invalid workspace document: " ++ e.reason

/-- A workspace that is read well and makes no graph. -/
def ofStacksError : StacksError → LoadError
  | .document e => document e
  | .graph e => graph e

end LoadError

namespace Graph

/-- Reads the text of nested stacks. -/
def ofStacksText (fresh : Nat → BlockId) (text : String) : Except LoadError Graph := do
  let j ← (Json.readTree text).mapError .json
  (ofStacks fresh j).mapError .ofStacksError

/-- **Reads the text of a saved workspace of either kind.** -/
def load (fresh : Nat → BlockId) (text : String) : Except LoadError Graph := do
  let j ← (Json.readTree text).mapError .json
  if (j.get? "start").isSome then (read .tree (Json.toDraft j)).mapError .json
  else if (Stacks.place? j).isSome then (ofStacks fresh j).mapError .ofStacksError
  else .error (.document .unknownFormat)

end Graph

end BlockPlayer
