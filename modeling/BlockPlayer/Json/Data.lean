import BlockPlayer.Datum
import BlockPlayer.Json.Reader

/-!
# Data in JSON

Null is a place that is left empty. A whole number that needs all of 64 bits for itself is taken as a double.
-/

namespace BlockPlayer.Json

/-- What a number says. -/
def JsonNumber.datum : JsonNumber → Datum
  | .whole n =>
    if Numeral.lowest ≤ n ∧ n ≤ Numeral.highest then .whole n
    else .double (Double.nearest (decide (n < 0)) n.natAbs 0)
  | .double x => .double x

mutual

/-- What a value says. -/
def datum : Json → Datum
  | .null => .nothing
  | .bool b => .bool b
  | .number n => JsonNumber.datum n
  | .text s => .text s
  | .array items => .array (data items)
  | .object members => .table (memberData members)
termination_by structural j => j

def data : List Json → List Datum
  | [] => []
  | j :: rest => datum j :: data rest
termination_by structural js => js

def memberData : List (String × Json) → Members
  | [] => []
  | (name, j) :: rest => (name, datum j) :: memberData rest
termination_by structural ms => ms

end

/-- What a text in JSON says. -/
def readDatum? (text : String) : Option Datum :=
  match readTree text with
  | .ok j => some (datum j)
  | .error _ => none

end BlockPlayer.Json
