import BlockPlayer.Json.Value
import BlockPlayer.Decimal.Layout
import BlockPlayer.Text.Shown

/-!
# Why a JSON text was not read

A text is faulty if it is not JSON, or ends too soon. It is unsuitable if it is JSON but not what was
asked for; then the reason is told.
-/

namespace BlockPlayer.Json

/-- Why a text is not JSON. -/
inductive Fault
  | malformed
  /-- The text ends inside a value. -/
  | truncated
  deriving DecidableEq, Repr

/-- What was met in place of what was asked for. -/
inductive Found
  | null
  | bool (b : Bool)
  | number (n : JsonNumber)
  | text (s : String)
  | array
  | object
  deriving DecidableEq

/-- Why a JSON value is unsuitable. -/
inductive Mismatch
  | type (found : Found) (expected : String)
  /-- The type is right and the value is out of range. -/
  | value (found : Found) (expected : String)
  | length (length : Nat) (expected : String)
  | missingField (name : String)
  | duplicateField (name : String)
  | unknownVariant (name : String) (known : List String)
  /-- The value reads well and is refused for a reason of its own. -/
  | refused (reason : String)
  deriving DecidableEq

/-- Why a JSON text was not read. -/
inductive Error
  | fault (f : Fault)
  | mismatch (m : Mismatch)
  deriving DecidableEq

/-! ## Wording -/

def Found.describe : Found → String
  | null => "null"
  | bool b => "boolean `" ++ (if b then "true" else "false") ++ "`"
  | number (.whole n) => "integer `" ++ toString n ++ "`"
  | number (.double x) => "floating point `" ++ Layout.json.write x ++ "`"
  | text s => "string " ++ Shown.text s
  | array => "sequence"
  | object => "map"

/-- The names that would have been understood. -/
def Mismatch.choice (known : List String) : String :=
  let marked := known.map fun name => "`" ++ name ++ "`"
  match marked with
  | [] => "there are no variants"
  | [a] => "expected " ++ a
  | [a, b] => "expected " ++ a ++ " or " ++ b
  | _ => "expected one of " ++ ", ".intercalate marked

def Mismatch.message : Mismatch → String
  | type found expected => "invalid type: " ++ found.describe ++ ", expected " ++ expected
  | value found expected => "invalid value: " ++ found.describe ++ ", expected " ++ expected
  | length n expected => "invalid length " ++ toString n ++ ", expected " ++ expected
  | missingField name => "missing field `" ++ name ++ "`"
  | duplicateField name => "duplicate field `" ++ name ++ "`"
  | unknownVariant name known => "unknown variant `" ++ name ++ "`, " ++ choice known
  | refused reason => reason

end BlockPlayer.Json
