import BlockPlayer.Ini.Reader
import BlockPlayer.Json.Data
import BlockPlayer.Json5.Reader
import BlockPlayer.Ron.Reader
import BlockPlayer.Toml.Data
import BlockPlayer.Yaml.Data

/-!
# Dialects of files of settings

A file of settings can be written in any of several formats. Its name tells by its ending which one it is. The
whole file has to be a table; what has no form in a format cannot be said in it.
-/

namespace BlockPlayer

/-- The formats in which a file of settings can be written. -/
inductive Dialect
  | toml
  | json
  | yaml
  | ini
  | ron
  | json5
  deriving DecidableEq, Repr

namespace Dialect

/-- The endings of names of files, and the dialects that they stand for. -/
def endings : List (String × Dialect) :=
  [("toml", toml), ("json", json), ("yaml", yaml), ("yml", yaml), ("ini", ini), ("ron", ron),
   ("json5", json5)]

/-- What comes of reading a text in a format that knows of one fault only. -/
def orMalformed {α : Type} (a : Option α) : Except ReadFault α :=
  match a with
  | some a => .ok a
  | none => .error .malformed

/-- What a text says. -/
def datum (d : Dialect) (text : String) : Except ReadFault Datum :=
  match d with
  | toml => orMalformed (Toml.readDatum? text)
  | json => orMalformed (Json.readDatum? text)
  | yaml => Yaml.readDatum text
  | ini => orMalformed (Ini.readDatum? text)
  | ron => orMalformed (Ron.readDatum? text)
  | json5 => orMalformed (Json5.readDatum? text)

/-- The members of the table that a text describes. -/
def read (d : Dialect) (text : String) : Except ReadFault Members := do
  let data ← d.datum text
  orMalformed data.table?

end Dialect

end BlockPlayer
