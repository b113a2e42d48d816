import BlockPlayer.Datum
import BlockPlayer.Yaml.Tokens
import BlockPlayer.Yaml.Value

/-!
# Data in YAML

Of the values of a text only those are data whose keys are texts or whole numbers, which then count as texts. The
words for numbers that are not finite, with a point in front, are no data either.

A text with nothing in it is an empty table.
-/

namespace BlockPlayer.Yaml

/-- The text for which a key stands. -/
def Value.keyText? : Value → Option String
  | text s => some s
  | whole n => some (toString n)
  | _ => none

namespace Value

mutual

/-- A value as a piece of data. -/
def datum : Value → Except ReadFault Datum
  | void | nothing => .ok .nothing
  | bool b => .ok (.bool b)
  | whole n => .ok (.whole n)
  | real s => match Numeral.double? s with
    | some x => .ok (.double x)
    | none => .error .malformed
  | text s => .ok (.text s)
  | sequence vs => (data vs).map .array
  | mapping ms => (members [] ms).map .table

def data : List Value → Except ReadFault (List Datum)
  | [] => .ok []
  | v :: rest => do
    let d ← datum v
    let ds ← data rest
    .ok (d :: ds)

/-- The members of a table behind others. -/
def members (before : Members) : List (Value × Value) → Except ReadFault Members
  | [] => .ok before
  | (k, v) :: rest =>
    match k.keyText? with
    | none => .error .strangeKey
    | some name => do
      let d ← datum v
      members (Entries.put name d before) rest

end

end Value

/-- What a text in YAML says. -/
def readDatum (text : String) : Except ReadFault Datum :=
  match (Token.ofText? text).bind Node.ofTokens? with
  | none => .error .malformed
  | some none => .ok (.table [])
  | some (some n) =>
    match n.value? [] with
    | none => .error .malformed
    | some (v, _) => v.datum

end BlockPlayer.Yaml
