import BlockPlayer.Entries

/-!
# Data

What a file of settings can hold, in whatever format it is written. The entries of a table are a list, in the
order in which their names were first met.
-/

namespace BlockPlayer

/-- A piece of data. -/
inductive Datum
  /-- A place that is left empty. -/
  | nothing
  | bool (b : Bool)
  | whole (n : Int)
  | double (x : Float)
  | text (s : String)
  | array (items : List Datum)
  | table (members : List (String × Datum))

/-- The members of a table. -/
abbrev Members := List (String × Datum)

namespace Datum

/-- The members of a table. Other data have none. -/
def members : Datum → Members
  | table ms => ms
  | _ => []

/-- The items of an array. Other data have none. -/
def items : Datum → List Datum
  | array ds => ds
  | _ => []

/-- The members of a table, if it is one. -/
def table? : Datum → Option Members
  | table ms => some ms
  | _ => none

end Datum

/-- Why a text does not describe a piece of data. -/
inductive ReadFault
  /-- The text is not in its format. -/
  | malformed
  /-- A key in it is neither a text nor a whole number. -/
  | strangeKey
  deriving DecidableEq, Repr

end BlockPlayer
