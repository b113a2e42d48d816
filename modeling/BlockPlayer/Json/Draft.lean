import BlockPlayer.Json.Token

/-!
# Drafts

A draft is what could be made out of a JSON text. If the text is JSON the draft is its value, with
repeated names, numbers that are too large and halves of characters still in it. If not, it is the
value up to the fault, and the fault stands in the draft where it stands in the text.

Readers walk through a draft in the order of the text, so the first problem they meet is the first in
the text, be it a fault or a value that they did not want. They differ in what they take for a problem:
a value that is skipped may hold things that a value that is read may not.

## How it is made

`build` takes one token at a time and keeps the containers that are open, innermost first. It needs no
recursion into values, so the depth of a text does not matter.
-/

namespace BlockPlayer.Json

/-- How the contents of a container end. -/
inductive Tail
  | closed
  /-- A fault in place of the next mark, or of the next name if it stands behind a comma. -/
  | broken (afterComma : Bool) (b : Break)
  deriving DecidableEq

/-- The name of a member; it has no value if it holds half a character. -/
abbrev Name := Except Fault String

/-- What could be made out of a JSON text. -/
inductive Draft
  | null
  | bool (b : Bool)
  | number (n : Option JsonNumber)
  | text (s : Except Fault String)
  | array (items : List Draft) (tail : Tail)
  | object (members : List (Name × Draft)) (tail : Tail)
  /-- A fault in place of a value. -/
  | broken (b : Break)

/-! ## Building -/

/-- A container that is not closed yet, with the contents that it has, last first. -/
inductive Open
  | array (items : List Draft)
  /-- An object that waits for the value of the member with the given name. -/
  | object (members : List (Name × Draft)) (name : Name)

/-- What may come next, and the containers that are open. -/
inductive State
  | value (outer : List Open)
  /-- A first item, or the end of the array. -/
  | firstItem (outer : List Open)
  /-- A comma, or the end of the array. -/
  | afterItem (items : List Draft) (outer : List Open)
  /-- A first name, or the end of the object. -/
  | firstName (outer : List Open)
  | name (members : List (Name × Draft)) (outer : List Open)
  | colon (members : List (Name × Draft)) (name : Name) (outer : List Open)
  /-- A comma, or the end of the object. -/
  | afterMember (members : List (Name × Draft)) (outer : List Open)

/-- The whole draft, if the value that was begun last is `d` and nothing follows it. -/
def abandon : List Open → Draft → Draft
  | [], d => d
  | .array items :: outer, d => abandon outer (.array (d :: items).reverse .closed)
  | .object members name :: outer, d => abandon outer (.object ((name, d) :: members).reverse .closed)

/-- What one token does. -/
inductive Step
  | continue (s : State)
  /-- The outermost value is complete. -/
  | complete (d : Draft)
  /-- The text is not JSON. -/
  | halt (d : Draft)

/-- A value is complete. -/
def finish (d : Draft) : List Open → Step
  | [] => .complete d
  | .array items :: outer => .continue (.afterItem (d :: items) outer)
  | .object members name :: outer => .continue (.afterMember ((name, d) :: members) outer)

/-- The draft of a text that stops with a fault. -/
def stop (b : Break) : State → Draft
  | .value outer => abandon outer (.broken b)
  | .firstItem outer => abandon outer (.array [] (.broken false b))
  | .afterItem items outer => abandon outer (.array items.reverse (.broken false b))
  | .firstName outer => abandon outer (.object [] (.broken false b))
  | .name members outer => abandon outer (.object members.reverse (.broken true b))
  | .colon members name outer =>
    abandon outer (.object ((name, .broken b) :: members).reverse .closed)
  | .afterMember members outer =>
    abandon outer (.object members.reverse (.broken false b))

/-- A token where it may not stand. -/
def misplaced (s : State) : Step := .halt (stop (.all .malformed) s)

/-- A token in place of a value. -/
def stepValue (outer : List Open) (t : Token) : Step :=
  match t with
  | .null => finish .null outer
  | .bool b => finish (.bool b) outer
  | .number n => finish (.number n) outer
  | .text s => finish (.text s) outer
  | .openArray => .continue (.firstItem outer)
  | .openObject => .continue (.firstName outer)
  | .badText b | .bad b => .halt (stop b (.value outer))
  | .closeArray | .closeObject | .comma | .colon => misplaced (.value outer)

/-- A token in place of a name. What begins no text is no name, however it goes on. -/
def stepName (s : State) (members : List (Name × Draft)) (outer : List Open) (t : Token) : Step :=
  match t with
  | .text name => .continue (.colon members name outer)
  | .badText b => .halt (stop b s)
  | _ => misplaced s

/-- What a token does in a state. -/
def step (s : State) (t : Token) : Step :=
  match s with
  | .value outer => stepValue outer t
  | .firstItem outer =>
    match t with
    | .closeArray => finish (.array [] .closed) outer
    | _ => stepValue (.array [] :: outer) t
  | .afterItem items outer =>
    match t with
    | .comma => .continue (.value (.array items :: outer))
    | .closeArray => finish (.array items.reverse .closed) outer
    | _ => misplaced s
  | .firstName outer =>
    match t with
    | .closeObject => finish (.object [] .closed) outer
    | _ => stepName s [] outer t
  | .name members outer => stepName s members outer t
  | .colon members name outer =>
    match t with
    | .colon => .continue (.value (.object members name :: outer))
    | _ => misplaced s
  | .afterMember members outer =>
    match t with
    | .comma => .continue (.name members outer)
    | .closeObject => finish (.object members.reverse .closed) outer
    | _ => misplaced s

/-- The draft of a value, and the tokens behind it. -/
def build : List Token → State → Draft × List Token
  | [], s => (stop (.all .truncated) s, [])
  | t :: rest, s =>
    match step s t with
    | .continue s => build rest s
    | .complete d => (d, rest)
    | .halt d => (d, [])

/-- **The draft of a text, and whether something follows its value.** -/
def draft (s : List Char) : Draft × Bool :=
  let (d, rest) := build (tokens s) (.value [])
  (d, !rest.isEmpty)

end BlockPlayer.Json
