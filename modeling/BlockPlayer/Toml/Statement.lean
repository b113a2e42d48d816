import BlockPlayer.Toml.Quoted
import BlockPlayer.Toml.Scalar

/-!
# TOML statements

A text is a list of statements, each on a line of its own: it opens a table, opens the next table of a
list, or gives a value to a key. Only arrays and strings may go on over several lines. A key is a path
of names.

Nothing is said about what is wrong with a faulty text, so the readers give no reason. Each takes what
it reads off the characters, and gives what follows.

## Termination

`fuel` bounds the number of calls inside one another. Every call takes at least one character off before
the next, so more fuel than there are characters is always enough.
-/

namespace BlockPlayer.Toml

/-- A path of names. -/
abbrev Path := List String

/-- A value, or a table in which the keys are still paths. -/
inductive Term
  | value (v : Toml)
  | array (items : List Term)
  | table (members : List (Path × Term))

/-- One line of a text. -/
inductive Statement
  | openTable (path : Path)
  | openItem (path : Path)
  | assign (key : Path) (value : Term)

/-- The most arrays and inline tables that may be open at the same time, and names in a key, plus one. -/
def depthLimit : Nat := 80

/-! ## Blanks -/

def isBlank (c : Char) : Bool := c == ' ' || c == '\t'

def dropBlanks (cs : List Char) : List Char := cs.dropWhile isBlank

/-- Without the comment in front, if there is one. Comments are made of what may stand in strings. -/
def dropComment : List Char → List Char
  | '#' :: rest => rest.dropWhile isPlain
  | cs => cs

/-- What follows the line break in front. -/
def newline? : List Char → Option (List Char)
  | '\n' :: rest => some rest
  | '\r' :: '\n' :: rest => some rest
  | _ => none

/-- What follows the end of the line, before which there may be blanks and a comment. -/
def endLine? (cs : List Char) : Option (List Char) :=
  match dropComment (dropBlanks cs) with
  | [] => some []
  | rest => newline? rest

/-- Without blanks, comments and line breaks in front. -/
def dropLines : Nat → List Char → List Char
  | 0, cs => cs
  | fuel + 1, cs =>
    match newline? (dropComment (dropBlanks cs)) with
    | some rest => dropLines fuel rest
    | none => dropBlanks cs

/-! ## Keys -/

def isNameChar (c : Char) : Bool := c.isAlphanum || c == '-' || c == '_'

/-- One name, bare or as a string. -/
def name? : List Char → Option (String × List Char)
  | '"' :: rest => (basic rest).map fun (s, rest) => (String.ofList s, rest)
  | '\'' :: rest => (literal rest).map fun (s, rest) => (String.ofList s, rest)
  | cs =>
    if (cs.takeWhile isNameChar).isEmpty then none
    else some (String.ofList (cs.takeWhile isNameChar), cs.dropWhile isNameChar)

/-- The names of a key, with points between them. Blanks may stand around each. -/
def names? : Nat → List Char → Option (Path × List Char)
  | 0, _ => none
  | fuel + 1, cs => do
    let (name, rest) ← name? (dropBlanks cs)
    match dropBlanks rest with
    | '.' :: rest => do
      let (names, rest) ← names? fuel rest
      some (name :: names, rest)
    | rest => some ([name], rest)

/-- A key. -/
def key? (cs : List Char) : Option (Path × List Char) :=
  (names? (cs.length + 1) cs).filter fun (path, _) => path.length < depthLimit

/-! ## Values -/

mutual

/-- A value inside `depth` others. -/
def value? (fuel depth : Nat) (cs : List Char) : Option (Term × List Char) :=
  match fuel with
  | 0 => none
  | fuel + 1 =>
    match cs with
    | '[' :: rest =>
      if depth + 1 < depthLimit then
        (items? fuel (depth + 1) (dropLines rest.length rest)).map fun (items, rest) =>
          (.array items, rest)
      else none
    | '\x7b' :: rest =>
      if depth + 1 < depthLimit then
        match dropBlanks rest with
        | '\x7d' :: rest => some (.table [], rest)
        | rest => (members? fuel (depth + 1) rest).map fun (members, rest) => (.table members, rest)
      else none
    | '"' :: _ | '\'' :: _ =>
      (string? cs).map fun (s, rest) => (.value (.text (String.ofList s)), rest)
    | _ => (word? (takeWord cs).1).map fun v => (.value v, (takeWord cs).2)

/-- The items of an array up to its end. The last may have a comma behind it. -/
def items? (fuel depth : Nat) (cs : List Char) : Option (List Term × List Char) :=
  match fuel with
  | 0 => none
  | fuel + 1 =>
    match cs with
    | ']' :: rest => some ([], rest)
    | _ => do
      let (item, rest) ← value? fuel depth cs
      match dropLines rest.length rest with
      | ',' :: rest =>
        let (items, rest) ← items? fuel depth (dropLines rest.length rest)
        some (item :: items, rest)
      | ']' :: rest => some ([item], rest)
      | _ => none

/-- The members of an inline table up to its end. There is at least one, on the same line. -/
def members? (fuel depth : Nat) (cs : List Char) : Option (List (Path × Term) × List Char) :=
  match fuel with
  | 0 => none
  | fuel + 1 => do
    let (member, rest) ← member? fuel depth cs
    match dropBlanks rest with
    | ',' :: rest =>
      let (members, rest) ← members? fuel depth rest
      some (member :: members, rest)
    | '\x7d' :: rest => some ([member], rest)
    | _ => none

/-- A key and its value. -/
def member? (fuel depth : Nat) (cs : List Char) : Option ((Path × Term) × List Char) :=
  match fuel with
  | 0 => none
  | fuel + 1 => do
    let (path, rest) ← key? cs
    match dropBlanks rest with
    | '=' :: rest =>
      let (v, rest) ← value? fuel depth (dropBlanks rest)
      some ((path, v), rest)
    | _ => none

end

/-! ## Lines -/

/-- The statement in front, which is not a comment, up to the end of its line. -/
def statement? (cs : List Char) : Option (Statement × List Char) :=
  match cs with
  | '[' :: '[' :: rest => do
    let (path, rest) ← key? rest
    match dropBlanks rest with
    | ']' :: ']' :: rest => some (.openItem path, ← endLine? rest)
    | _ => none
  | '[' :: rest => do
    let (path, rest) ← key? rest
    match dropBlanks rest with
    | ']' :: rest => some (.openTable path, ← endLine? rest)
    | _ => none
  | _ => do
    let ((path, v), rest) ← member? (2 * cs.length + 2) 0 cs
    some (.assign path v, ← endLine? rest)

/-- All statements. -/
def statements? : Nat → List Char → Option (List Statement)
  | 0, _ => none
  | fuel + 1, cs =>
    match dropLines cs.length cs with
    | [] => some []
    | '#' :: rest => if (rest.dropWhile isPlain).isEmpty then some [] else none
    | cs => do
      let (s, rest) ← statement? cs
      let more ← statements? fuel rest
      some (s :: more)

end BlockPlayer.Toml
