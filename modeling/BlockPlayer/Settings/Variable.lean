import BlockPlayer.Settings.Layer

/-!
# Settings from variables

Variables of the environment can set what a file can set. Their names begin with the name of the program,
and two underscores stand for the point between the names of a table and a key. Letters count the same in
both cases. A value is what it looks like: a truth value, a number, or else a text.
-/

namespace BlockPlayer

/-- Names of variables and their values. -/
abbrev Environment := List (String × String)

namespace Environment

/-- What the names of all variables begin with. -/
def stem : String := "blockdrive_"

/-- The variable that names the file of settings. -/
def pathVariable : String := "BLOCKDRIVE_CONFIG_PATH"

/-- The value of a text. -/
def value (text : String) : Datum :=
  if Folded.text text = "true" then .bool true
  else if Folded.text text = "false" then .bool false
  else match Numeral.signedWord? text with
    | some n => .whole n
    | none =>
      match Numeral.double? text with
      | some x => .double x
      | none => .text text

/-- Two underscores become a point. -/
def sections : List Char → List Char
  | '_' :: '_' :: rest => '.' :: sections rest
  | c :: rest => c :: sections rest
  | [] => []

/-- The key that a variable sets. -/
def key? (name : String) : Option String :=
  let cs := (Folded.text name).toList
  if stem.toList.isPrefixOf cs then some (String.ofList (sections (cs.drop stem.length))) else none

/-- The variables as a source of settings. -/
def source (env : Environment) : Members :=
  env.filterMap fun (name, text) => (key? name).map fun key => (key, value text)

end Environment

end BlockPlayer
