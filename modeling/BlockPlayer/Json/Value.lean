/-!
# JSON values

A value as a tree. Numbers are whole numbers of 64 bits, with or without a sign, or doubles. The
members of an object are a list, so that a record can be written in the order of its fields.
-/

namespace BlockPlayer

/-- A number in JSON. -/
inductive JsonNumber
  | whole (n : Int)
  | double (x : Float)
  deriving DecidableEq

/-- A JSON value. -/
inductive Json
  | null
  | bool (b : Bool)
  | number (n : JsonNumber)
  | text (s : String)
  | array (items : List Json)
  | object (members : List (String × Json))

namespace Json

/-- The member of an object with a given name. Other values have no members. -/
def get? (j : Json) (name : String) : Option Json :=
  match j with
  | object members => members.lookup name
  | _ => none

/-- The characters of a value that is a text. -/
def text? : Json → Option String
  | text s => some s
  | _ => none

/-- The items of a value that is an array. -/
def items? : Json → Option (List Json)
  | array items => some items
  | _ => none

end Json

end BlockPlayer
