import BlockPlayer.Decimal.Layout
import BlockPlayer.Decimal.Numeral
import BlockPlayer.Toml.Value

/-!
# Writing TOML

A document is written as tables with a blank line between them, each key on a line of its own. A list
takes one line for each of its items as soon as there are two.

A whole number that does not fit is the only thing that cannot be written. Texts are written as they are,
so they must need no escapes.
-/

namespace BlockPlayer.Toml

/-- The text of a value on one line. Arrays inside arrays and tables have none. -/
def scalar? : Toml → Option (List Char)
  | .text s => some ('"' :: (s.toList ++ ['"']))
  | .whole n =>
    if Numeral.lowest ≤ n ∧ n ≤ Numeral.highest then some (toString n).toList else none
  | .double x => some (Layout.toml.write x).toList
  | .bool b => some (if b then "true" else "false").toList
  | .date s => some s.toList
  | .array _ | .table _ => none

/-- The items of a list, each on a line with a comma. -/
def writeItems? : List Toml → Option (List Char)
  | [] => some []
  | v :: rest => do
    let item ← scalar? v
    let items ← writeItems? rest
    some ("    ".toList ++ item ++ ",\n".toList ++ items)

/-- The text of a value. -/
def write? : Toml → Option (List Char)
  | .array [] => some "[]".toList
  | .array [v] => (scalar? v).map fun item => '[' :: (item ++ [']'])
  | .array vs => (writeItems? vs).map fun items => "[\n".toList ++ items ++ [']']
  | v => scalar? v

/-- The keys of a table, each on a line. -/
def writeMembers? : List (String × Toml) → Option (List Char)
  | [] => some []
  | (name, v) :: rest => do
    let value ← write? v
    let more ← writeMembers? rest
    some (name.toList ++ " = ".toList ++ value ++ '\n' :: more)

/-- A table with its name. -/
def writeTable? (name : String) (members : List (String × Toml)) : Option (List Char) :=
  (writeMembers? members).map fun lines => '[' :: (name.toList ++ "]\n".toList ++ lines)

/-- The text of a document that consists of tables. -/
def document? : List (String × List (String × Toml)) → Option (List Char)
  | [] => some []
  | [(name, members)] => writeTable? name members
  | (name, members) :: rest => do
    let first ← writeTable? name members
    let more ← document? rest
    some (first ++ '\n' :: more)

end BlockPlayer.Toml
