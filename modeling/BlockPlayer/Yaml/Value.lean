import BlockPlayer.Decimal.Numeral
import BlockPlayer.Text.Hex
import BlockPlayer.Yaml.Node

/-!
# What nodes stand for

A plain scalar is a truth value, a number, nothing, or a text. An alias stands for what its anchor was last given
to. In a mapping all keys are different.

A scalar that does not suit its tag is *void*, and so is an alias for something that is not complete yet. What is
void cannot be a key: then the next node takes its place.
-/

namespace BlockPlayer.Yaml

/-- What a node stands for. -/
inductive Value
  | void
  | nothing
  | bool (b : Bool)
  | whole (n : Int)
  /-- A number that is not whole, or not finite, as it is written. -/
  | real (s : String)
  | text (s : String)
  | sequence (items : List Value)
  | mapping (members : List (Value × Value))

/-! ## Plain scalars -/

/-- A whole number in some base, behind its mark. It may have a sign. -/
def wholeIn? (base : Nat) (cs : List Char) : Option Int := do
  let (negative, ds) := Numeral.takeSign cs
  guard (ds ≠ [])
  let n ← ds.foldlM (fun n c => do
    let d ← Hex.digit? c
    if d < base then some (base * n + d) else none) 0
  let i : Int := if negative then -(n : Int) else n
  if Numeral.lowest ≤ i ∧ i ≤ Numeral.highest then some i else none

/-- A whole number. The mark of a base stands in front of the sign. -/
def whole? (cs : List Char) : Option Int :=
  match cs with
  | '0' :: 'x' :: rest => (wholeIn? 16 rest).or (wholeIn? 10 cs)
  | '0' :: 'o' :: rest => (wholeIn? 8 rest).or (wholeIn? 10 cs)
  | '+' :: rest => (wholeIn? 10 rest).or (wholeIn? 10 cs)
  | _ => wholeIn? 10 cs

/-- The words for numbers that are not finite. -/
def realWords : List String :=
  [".inf", ".Inf", ".INF", "+.inf", "+.Inf", "+.INF", "-.inf", "-.Inf", "-.INF", ".nan", "NaN", ".NAN"]

/-- Whether a scalar is a number. -/
def isReal (s : String) : Bool := realWords.contains s || (Numeral.double? s).isSome

/-- Whether a scalar is the word for nothing. -/
def isNothing (s : String) : Bool := s == "~" || s == "null"

namespace Value

/-- What a plain scalar without a tag stands for. -/
def ofPlain (s : String) : Value :=
  if isNothing s then nothing
  else if s = "true" then bool true
  else if s = "false" then bool false
  else match whole? s.toList with
    | some n => whole n
    | none => if isReal s then real s else text s

/-- What a plain scalar with a tag stands for. -/
def ofTagged (t : Tag) (s : String) : Value :=
  match t with
  | .core "bool" => if s = "true" then bool true else if s = "false" then bool false else void
  | .core "int" => ((Numeral.signedWord? s).map whole).getD void
  | .core "float" => if isReal s then real s else void
  | .core "null" => if isNothing s then nothing else void
  | .core _ | .other => text s

/-! ## Keys -/

mutual

/-- Whether two values are equal. Members of mappings have to be in the same order. -/
def same : Value → Value → Bool
  | void, void | nothing, nothing => true
  | bool a, bool b => a == b
  | whole a, whole b => a == b
  | real a, real b | text a, text b => a == b
  | sequence xs, sequence ys => sameItems xs ys
  | mapping xs, mapping ys => sameMembers xs ys
  | _, _ => false

def sameItems : List Value → List Value → Bool
  | [], [] => true
  | x :: xs, y :: ys => same x y && sameItems xs ys
  | _, _ => false

def sameMembers : List (Value × Value) → List (Value × Value) → Bool
  | [], [] => true
  | (a, x) :: xs, (b, y) :: ys => same a b && same x y && sameMembers xs ys
  | _, _ => false

end

/-- A mapping amid being read. -/
structure Pairs where
  /-- The key that has no value yet. -/
  key : Value
  /-- The members, the last one first. -/
  read : List (Value × Value)

/-- With one more node. A key that is there already is refused. -/
def Pairs.add? (ms : Pairs) (v : Value) : Option Pairs :=
  match ms.key with
  | void => some { ms with key := v }
  | k => if ms.read.any fun m => same k m.1 then none else some ⟨void, (k, v) :: ms.read⟩

end Value

/-! ## Nodes -/

/-- What anchors stand for, the last one first. -/
abbrev Anchors := List (String × Value)

/-- With the value of an anchor behind which there are `n` earlier ones. -/
def Anchors.give (as : Anchors) (n : Nat) (name : String) (v : Value) : Anchors :=
  as.set (as.length - 1 - n) (name, v)

namespace Node

mutual

/-- What a node stands for, and the anchors behind it. -/
def value? (as : Anchors) : Node → Option (Value × Anchors)
  | .plain none s => some (.ofPlain s, as)
  | .plain (some t) s => some (.ofTagged t s, as)
  | .text s => some (.text s, as)
  | .sequence ns => (values? as ns).map fun (vs, as) => (.sequence vs, as)
  | .mapping ms => (addMembers? as ⟨.void, []⟩ ms).map fun (r, as) => (.mapping r.read.reverse, as)
  | .anchored name n =>
    (value? ((name, .void) :: as) n).map fun (v, after) => (v, Anchors.give after as.length name v)
  | .alias name => (as.lookup name).map (·, as)
termination_by structural n => n

def values? (as : Anchors) : List Node → Option (List Value × Anchors)
  | [] => some ([], as)
  | n :: rest => do
    let (v, as) ← value? as n
    let (vs, as) ← values? as rest
    some (v :: vs, as)
termination_by structural ns => ns

/-- A mapping with some more members. -/
def addMembers? (as : Anchors) (r : Value.Pairs) : List (Node × Node) → Option (Value.Pairs × Anchors)
  | [] => some (r, as)
  | (k, n) :: rest => do
    let (key, as) ← value? as k
    let r ← r.add? key
    let (v, as) ← value? as n
    let r ← r.add? v
    addMembers? as r rest
termination_by structural ms => ms

end

end Node

end BlockPlayer.Yaml
