import BlockPlayer.Datum
import BlockPlayer.Decimal.Numeral
import BlockPlayer.Text.Hex

/-!
# RON words, numbers and strings

In RON data look like the terms of a program: records with named fields, tuples, maps, lists, options. This
module holds what they are made of.

The functions take what they read off the characters, and give what follows.
-/

namespace BlockPlayer.Ron

/-! ## Gaps -/

/-- Where a place between two tokens is. -/
inductive Gap
  | outside
  /-- In a comment up to the end of the line. -/
  | line
  /-- In a comment inside as many others. -/
  | block (outer : Nat)
  deriving DecidableEq, Repr

/-- What follows a gap, unless a comment in it is not closed, or no comment. -/
def dropGap : Gap → List Char → Option (List Char)
  | .block _, [] => none
  | _, [] => some []
  | .outside, '/' :: '/' :: rest => dropGap .line rest
  | .outside, '/' :: '*' :: rest => dropGap (.block 0) rest
  | .outside, c :: rest =>
    if c = ' ' ∨ c = '\t' ∨ c = '\n' ∨ c = '\r' then dropGap .outside rest
    else if c = '/' then none
    else some (c :: rest)
  | .line, c :: rest => if c = '\n' then dropGap .outside rest else dropGap .line rest
  | .block n, '/' :: '*' :: rest => dropGap (.block (n + 1)) rest
  | .block 0, '*' :: '/' :: rest => dropGap .outside rest
  | .block (n + 1), '*' :: '/' :: rest => dropGap (.block n) rest
  | .block n, _ :: rest => dropGap (.block n) rest

/-! ## Names -/

def isNameStart (c : Char) : Bool := c.isAlpha || c == '_'

def isNamePart (c : Char) : Bool := c.isAlphanum || c == '_'

/-- What a name with a mark in front may be made of. -/
def isRawPart (c : Char) : Bool := isNamePart c || c == '.' || c == '+' || c == '-'

/--
A name. One with the mark `r#` may hold more kinds of characters, and one without the mark may not stand in front
of them. A name is not to be taken for a string.
-/
def name? : List Char → Option (String × List Char)
  | ['r'] | 'r' :: '"' :: _ => none
  | 'r' :: '#' :: rest =>
    if (rest.takeWhile isRawPart).isEmpty then none
    else some (String.ofList (rest.takeWhile isRawPart), rest.dropWhile isRawPart)
  | c :: rest =>
    if isNameStart c ∧ (rest.dropWhile isNamePart).head?.all fun x => !isRawPart x then
      some (String.ofList (c :: rest.takeWhile isNamePart), rest.dropWhile isNamePart)
    else none
  | [] => none

/-- What follows a word that is not part of a longer one. -/
def dropWord? (w : String) (cs : List Char) : Option (List Char) :=
  if w.toList.isPrefixOf cs then
    match cs.drop w.length with
    | [] => some []
    | c :: rest => if isNamePart c then none else some (c :: rest)
  else none

/-- The words that stand for data. -/
def words : List (String × Datum) :=
  [("true", .bool true), ("false", .bool false), ("None", .nothing),
   ("inf", .double (Double.packInfinite false)), ("-inf", .double (Double.packInfinite true)),
   ("NaN", .double (Float.ofBits 0x7ff8000000000000))]

/-- The word in front. -/
def word? (cs : List Char) : Option (Datum × List Char) :=
  words.findSome? fun (w, d) => (dropWord? w cs).map fun rest => (d, rest)

/-! ## Numbers -/

/-- What a whole number may be made of. -/
def isWholePart (c : Char) : Bool := (Hex.digit? c).isSome || c == '_'

/-- What a double may be made of. -/
def isDoublePart (c : Char) : Bool :=
  c.isDigit || c == 'e' || c == 'E' || c == '.' || c == '+' || c == '-' || c == '_'

/-- The base of a number, and its digits. -/
def takeBase : List Char → Nat × List Char
  | '0' :: 'x' :: rest => (16, rest)
  | '0' :: 'b' :: rest => (2, rest)
  | '0' :: 'o' :: rest => (8, rest)
  | cs => (10, cs)

/-- The number that digits stand for, with underscores between them. -/
def wholeOf? (base : Nat) (cs : List Char) : Option Nat :=
  (cs.filter (· != '_')).foldlM (fun n c => do
    let d ← Hex.digit? c
    if d < base then some (base * n + d) else none) 0

/-- A whole number without its sign. It does not begin with an underscore. -/
def whole? (cs : List Char) : Option (Nat × List Char) :=
  let (base, cs) := takeBase cs
  match cs.takeWhile isWholePart with
  | [] | '_' :: _ => none
  | ds => (wholeOf? base ds).map fun n => (n, cs.dropWhile isWholePart)

/-- The words for doubles that are not finite. -/
def doubleWords : List (String × Float) :=
  [("inf", Double.packInfinite false), ("+inf", Double.packInfinite false),
   ("-inf", Double.packInfinite true), ("NaN", Float.ofBits 0x7ff8000000000000),
   ("+NaN", Float.ofBits 0x7ff8000000000000), ("-NaN", Float.ofBits 0x7ff8000000000000)]

/-- A double in digits with its sign. -/
def finite? (cs : List Char) : Option (Float × List Char) :=
  (Numeral.double? (String.ofList (cs.takeWhile isDoublePart))).map fun x => (x, cs.dropWhile isDoublePart)

/-- A double with its sign. -/
def double? (cs : List Char) : Option (Datum × List Char) :=
  let word? := doubleWords.findSome? fun (w, x) => (dropWord? w cs).map fun rest => (x, rest)
  (word?.or (finite? cs)).map fun (x, rest) => (.double x, rest)

/-- A whole number with its sign, if it fits 64 bits. -/
def signed? (negative : Bool) (cs : List Char) : Option (Datum × List Char) := do
  let (n, rest) ← whole? cs
  let i : Int := if negative then -n else n
  if Numeral.lowest ≤ i ∧ i ≤ Numeral.highest then some (.whole i, rest) else none

/-- A whole number without a sign, if it fits 64 bits. It becomes a double if it needs the bit for the sign. -/
def unsigned? (cs : List Char) : Option (Datum × List Char) := do
  let (n, rest) ← whole? cs
  if n ≤ Numeral.highest then some (.whole n, rest)
  else if n < Double.wordEnd then some (.double (Double.ofNat n), rest)
  else none

/-- Whether a number without its sign is longer if it is taken for a double. -/
def isDouble (cs : List Char) : Bool :=
  decide ((cs.takeWhile isWholePart).length < (cs.takeWhile isDoublePart).length)

/-- A number. One that is no whole number, or too large for one, is a double. -/
def number? (cs : List Char) : Option (Datum × List Char) :=
  match cs with
  | [] => none
  | c :: rest =>
    if c = '-' ∨ c = '+' then
      if isDouble rest then double? cs else (signed? (c == '-') rest).or (double? cs)
    else if c.isDigit then
      if isDouble cs then double? cs else (unsigned? cs).or (double? cs)
    else if c = '.' then double? cs
    else none

/-! ## Strings -/

/-- What a letter stands for behind a backslash. -/
def escaped? : Char → Option Char
  | '\'' => some '\''
  | '"' => some '"'
  | '\\' => some '\\'
  | 'n' => some '\n'
  | 'r' => some '\r'
  | 't' => some '\t'
  | '0' => some '\x00'
  | _ => none

/-- Puts a character in front of a string that was read. -/
def push (c : Char) (r : Option (List Char × List Char)) : Option (List Char × List Char) :=
  r.map fun (s, rest) => (c :: s, rest)

/-- Reads digits up to a closing brace, at most `room`, and gives the character with their number. -/
def numbered? : Nat → List Char → List Char → Option (Char × List Char)
  | _, ds, '\x7d' :: rest => if ds = [] then none else (Hex.char? ds.reverse).map fun x => (x, rest)
  | room + 1, ds, c :: rest => numbered? room (c :: ds) rest
  | _, _, _ => none

/-- What follows a backslash. -/
def escape? : List Char → Option (Char × List Char)
  | 'x' :: a :: b :: rest => (Hex.char? [a, b]).map fun x => (x, rest)
  | 'u' :: '\x7b' :: rest => numbered? 6 [] rest
  | c :: rest => (escaped? c).map fun x => (x, rest)
  | [] => none

/-- A string of at most `fuel` characters up to its closing quote. -/
def characters? : Nat → List Char → Option (List Char × List Char)
  | 0, _ | _, [] => none
  | _ + 1, '"' :: rest => some ([], rest)
  | fuel + 1, '\\' :: rest => (escape? rest).bind fun (x, rest) => push x (characters? fuel rest)
  | fuel + 1, c :: rest => push c (characters? fuel rest)

/-- One character, behind its opening quote. -/
def character? (cs : List Char) : Option (Char × List Char) := do
  let (x, rest) ← match cs with
    | '\'' :: _ | [] => none
    | '\\' :: rest => escape? rest
    | c :: rest => some (c, rest)
  match rest with
  | '\'' :: rest => some (x, rest)
  | _ => none

/-- A string up to its closing quote, behind which there are as many marks as in front. -/
def rawCharacters? (marks : List Char) : List Char → Option (List Char × List Char)
  | [] => none
  | c :: rest =>
    if c = '"' ∧ marks.isPrefixOf rest then some ([], rest.drop marks.length)
    else push c (rawCharacters? marks rest)

/-- A string, or one character between single quotes. -/
def string? : List Char → Option (String × List Char)
  | '"' :: rest => (characters? (rest.length + 1) rest).map fun (s, rest) => (String.ofList s, rest)
  | '\'' :: rest => (character? rest).map fun (x, rest) => (x.toString, rest)
  | 'r' :: rest =>
    match rest.dropWhile (· == '#') with
    | '"' :: inner =>
      (rawCharacters? (rest.takeWhile (· == '#')) inner).map fun (s, rest) => (String.ofList s, rest)
    | _ => none
  | _ => none

end BlockPlayer.Ron
