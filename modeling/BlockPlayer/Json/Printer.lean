import BlockPlayer.Json.Quoted

/-!
# Writing JSON

A value is written on one line without blanks, or with one line for each item and member, indented by
two blanks for each container around it. Empty containers take no lines of their own.
-/

namespace BlockPlayer.Json

/-- A new line inside `depth` containers, or nothing on a single line. -/
def gap (lines : Bool) (depth : Nat) : List Char :=
  if lines then '\n' :: List.replicate (2 * depth) ' ' else []

/-- A name with the mark that separates it from its value. -/
def writeName (lines : Bool) (name : String) : List Char :=
  quote name ++ (if lines then [':', ' '] else [':'])

/-- A number. Doubles that are no numbers have no form of their own in JSON. -/
def writeNumber : JsonNumber → List Char
  | .whole n => (toString n).toList
  | .double x => if x.isFinite then (Layout.json.write x).toList else "null".toList

mutual

/-- The text of a value inside `depth` containers. -/
def write (lines : Bool) (depth : Nat) : Json → List Char
  | .null => "null".toList
  | .bool b => (if b then "true" else "false").toList
  | .number n => writeNumber n
  | .text s => quote s
  | .array [] => ['[', ']']
  | .array (j :: rest) =>
    '[' :: (gap lines (depth + 1) ++ write lines (depth + 1) j ++ writeItems lines (depth + 1) rest
      ++ gap lines depth ++ [']'])
  | .object [] => ['\x7b', '\x7d']
  | .object ((name, j) :: rest) =>
    '\x7b' :: (gap lines (depth + 1) ++ writeName lines name ++ write lines (depth + 1) j
      ++ writeMembers lines (depth + 1) rest ++ gap lines depth ++ ['\x7d'])
termination_by structural j => j

/-- The items of an array after the first. -/
def writeItems (lines : Bool) (depth : Nat) : List Json → List Char
  | [] => []
  | j :: rest => ',' :: (gap lines depth ++ write lines depth j ++ writeItems lines depth rest)
termination_by structural js => js

/-- The members of an object after the first. -/
def writeMembers (lines : Bool) (depth : Nat) : List (String × Json) → List Char
  | [] => []
  | (name, j) :: rest =>
    ',' :: (gap lines depth ++ writeName lines name ++ write lines depth j
      ++ writeMembers lines depth rest)
termination_by structural ms => ms

end

/-- A value on one line. -/
def compact (j : Json) : String := String.ofList (write false 0 j)

/-- A value with a line for each item and member. -/
def pretty (j : Json) : String := String.ofList (write true 0 j)

end BlockPlayer.Json
