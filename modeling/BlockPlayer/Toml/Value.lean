/-!
# TOML values

A value as a tree. Whole numbers have 64 bits, one of them for the sign. The members of a table are a
list, in the order in which they were first met.
-/

namespace BlockPlayer

/-- A TOML value. -/
inductive Toml
  | text (s : String)
  | whole (n : Int)
  | double (x : Float)
  | bool (b : Bool)
  /-- A date, a time, or both, as it was written. -/
  | date (s : String)
  | array (items : List Toml)
  | table (members : List (String × Toml))

end BlockPlayer
