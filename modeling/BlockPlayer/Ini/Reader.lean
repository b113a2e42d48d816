import BlockPlayer.Datum
import BlockPlayer.Text.Blank
import BlockPlayer.Text.Hex

/-!
# INI files

A file is a list of sections with entries, a key and a text with a mark of equality or a colon between them.
Entries above the first section belong to the file itself. A section with the name of an earlier one takes its
place, and so does an entry. A comment takes a whole line.

A backslash begins an escape everywhere; in front of a line break it leaves out that and the character behind it.
A text ends with its line. It may begin between quotes, and then go over several lines up to the closing quote,
behind which the rest of the line belongs to it too.

## Termination

`fuel` bounds the number of items. Each takes at least one character.
-/

namespace BlockPlayer.Ini

/-! ## Texts -/

/-- What a character stands for behind a backslash. Line breaks and numbers have rules of their own. -/
def escaped (c : Char) : Char :=
  match c with
  | '0' => '\x00'
  | 'a' => '\x07'
  | 'b' => '\x08'
  | 't' => '\t'
  | 'r' => '\r'
  | 'n' => '\n'
  | _ => c

/-- The character whose number is written with the given digits, in front of which there may be a plus. -/
def numbered? : List Char → Option Char
  | '+' :: ds => Hex.char? ds
  | ds => Hex.char? ds

/-- Puts a character in front of those that were read. -/
def push (c : Char) (r : Option (List Char × List Char)) : Option (List Char × List Char) :=
  r.map fun (s, rest) => (c :: s, rest)

/-- Reads up to the first of some characters that is not escaped, or to the end of the file. -/
def takeUntil (stops : List Char) : List Char → Option (List Char × List Char)
  | [] | ['\\', '\n'] => some ([], [])
  | '\\' :: '\n' :: _ :: rest => takeUntil stops rest
  | '\\' :: 'x' :: a :: b :: c :: d :: rest =>
    (numbered? [a, b, c, d]).bind fun x => push x (takeUntil stops rest)
  | ['\\'] | '\\' :: 'x' :: _ => none
  | '\\' :: c :: rest => push (escaped c) (takeUntil stops rest)
  | c :: rest => if c ∈ stops then some ([], c :: rest) else push c (takeUntil stops rest)

/-- Reads up to the first of some characters, which must come, and takes it off. -/
def takeThrough? (stops cs : List Char) : Option (List Char × List Char) :=
  match takeUntil stops cs with
  | some (s, _ :: rest) => some (s, rest)
  | _ => none

/-- Without blanks in front and behind. -/
def trim (cs : List Char) : List Char :=
  ((cs.dropWhile Blank.isBlank).reverse.dropWhile Blank.isBlank).reverse

/-- The characters that end a line. -/
def breaks : List Char := ['\n', '\r']

/-- What stands between two quotes, and in the rest of the line behind them. -/
def quoted? (mark : Char) (cs : List Char) : Option (List Char × List Char) := do
  let (inner, rest) ← takeThrough? [mark] cs
  let (outer, rest) ← takeUntil breaks rest
  some (inner ++ outer, rest)

/-- The text of an entry, behind the mark of equality. -/
def value? (cs : List Char) : Option (List Char × List Char) := do
  let (s, rest) ← match cs.dropWhile fun c => Blank.isBlank c && c ∉ breaks with
    | '"' :: rest => quoted? '"' rest
    | '\'' :: rest => quoted? '\'' rest
    | rest => takeUntil breaks rest
  some (trim s, rest)

/-! ## Files -/

/-- What a file consists of. -/
inductive Item
  | opening (name : String)
  | entry (key value : String)

/-- Drops blanks. The flag tells whether what follows stands at the beginning of a line. -/
def dropBlanks : Bool → List Char → Bool × List Char
  | start, [] => (start, [])
  | start, c :: rest => if Blank.isBlank c then dropBlanks (c == '\n') rest else (start, c :: rest)

/-- What follows the line. -/
def dropLine (cs : List Char) : List Char := (cs.dropWhile (· != '\n')).drop 1

/-- The items of a file. `start` tells whether it stands at the beginning of a line. -/
def items? (fuel : Nat) (start : Bool) (cs : List Char) : Option (List Item) :=
  match fuel with
  | 0 => none
  | fuel + 1 =>
    match dropBlanks start cs with
    | (_, []) => some []
    | (start, ';' :: rest) | (start, '#' :: rest) =>
      if start then items? fuel true (dropLine rest) else none
    | (_, '[' :: rest) => do
      let (name, rest) ← takeThrough? [']'] rest
      let more ← items? fuel false rest
      some (.opening (String.ofList (trim name)) :: more)
    | (_, rest) => do
      let (key, rest) ← takeThrough? ['=', ':'] rest
      if trim key = [] then failure
      let (value, rest) ← value? rest
      let more ← items? fuel false rest
      some (.entry (String.ofList (trim key)) (String.ofList value) :: more)

/-- The members of the table that items describe, behind those that came before. -/
def assemble (opened : Option String) (ms : Members) : List Item → Members
  | [] => ms
  | .opening name :: rest => assemble (some name) (Entries.put name (.table []) ms) rest
  | .entry key value :: rest =>
    match opened with
    | none => assemble none (Entries.put key (.text value) ms) rest
    | some name =>
      let inner := ((ms.lookup name).getD .nothing).members
      assemble opened (Entries.put name (.table (Entries.put key (.text value) inner)) ms) rest

/-- What an INI file says. -/
def readDatum? (text : String) : Option Datum :=
  (items? (text.length + 1) true text.toList).map fun items => .table (assemble none [] items)

end BlockPlayer.Ini
