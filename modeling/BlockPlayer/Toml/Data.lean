import BlockPlayer.Datum
import BlockPlayer.Toml.Document

/-!
# Data in TOML

A date counts as the text in which it is written. It can be written in a second way: as a table whose first
key says that this is a date, with the date in a string. The other keys of such a table do not count.
-/

namespace BlockPlayer.Toml

/-- The first key of a table that stands for a date. -/
def dateKey : String := "$__toml_private_datetime"

mutual

/-- What a value says, unless a table stands for a date and has none. -/
def datum? : Toml → Option Datum
  | .text s | .date s => some (.text s)
  | .whole n => some (.whole n)
  | .double x => some (.double x)
  | .bool b => some (.bool b)
  | .array items => (data? items).map .array
  | .table [] => some (.table [])
  | .table ((name, v) :: rest) =>
    if name = dateKey then
      match v with
      | .text s => if isDate .strings s.toList then some (.text s) else none
      | _ => none
    else (memberData? ((name, v) :: rest)).map .table
termination_by structural v => v

def data? : List Toml → Option (List Datum)
  | [] => some []
  | v :: rest => do
    let d ← datum? v
    let ds ← data? rest
    some (d :: ds)
termination_by structural vs => vs

def memberData? : List (String × Toml) → Option Members
  | [] => some []
  | (name, v) :: rest => do
    let d ← datum? v
    let ms ← memberData? rest
    some ((name, d) :: ms)
termination_by structural ms => ms

end

/-- What a text in TOML says. -/
def readDatum? (text : String) : Option Datum := (read? text).bind fun members => datum? (.table members)

end BlockPlayer.Toml
