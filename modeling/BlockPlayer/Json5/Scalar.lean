import BlockPlayer.Datum
import BlockPlayer.Decimal.Numeral
import BlockPlayer.Json.Quoted
import BlockPlayer.Text.Blank
import BlockPlayer.Text.Identifier

/-!
# JSON5 words, numbers and strings

JSON5 is JSON for people who write by hand: there may be comments, strings may stand between single quotes,
names may do without quotes, and numbers may have a sign, be written in base sixteen, or have no digit on one
side of the point.

The functions take what they read off the characters, and give what follows.
-/

namespace BlockPlayer.Json5

open Json (Piece)

/-! ## Gaps -/

/-- Whether a character ends a line. -/
def isBreak (c : Char) : Bool := c == '\n' || c == '\r' || c == '\u2028' || c == '\u2029'

/-- Whether a character may stand anywhere between two tokens. -/
def isSpace (c : Char) : Bool := (Blank.isBlank c && c != '\x85') || c == '\ufeff'

/-- Where a place between two tokens is. -/
inductive Gap
  | outside
  /-- In a comment up to the end of the line. -/
  | line
  /-- In a comment up to its closing mark. -/
  | block
  deriving DecidableEq, Repr

/-- What follows a gap, unless a comment in it is not closed. -/
def dropGap : Gap → List Char → Option (List Char)
  | .block, [] => none
  | _, [] => some []
  | .outside, '/' :: '/' :: rest => dropGap .line rest
  | .outside, '/' :: '*' :: rest => dropGap .block rest
  | .outside, c :: rest => if isSpace c then dropGap .outside rest else some (c :: rest)
  | .line, c :: rest => if isBreak c then dropGap .outside rest else dropGap .line rest
  | .block, '*' :: '/' :: rest => dropGap .outside rest
  | .block, _ :: rest => dropGap .block rest

/-! ## Strings -/

/-- What a character stands for behind a backslash. Digits and line breaks have rules of their own. -/
def escaped? (c : Char) : Option Char :=
  match c with
  | 'b' => some '\x08'
  | 'f' => some '\x0c'
  | 'n' => some '\n'
  | 'r' => some '\r'
  | 't' => some '\t'
  | 'v' => some '\x0b'
  | '0' => some '\x00'
  | 'x' | 'u' => none
  | _ => if c.isDigit then none else some c

/-- Puts a piece in front of those that were read. -/
def push (p : Piece) (r : Option (List Piece × List Char)) : Option (List Piece × List Char) :=
  r.map fun (ps, rest) => (p :: ps, rest)

/-- The pieces of a string up to its closing quote, which is `mark`. -/
def pieces? (mark : Char) : List Char → Option (List Piece × List Char)
  | [] => none
  | '\\' :: 'x' :: a :: b :: rest =>
    (Hex.number? [a, b]).bind fun n => push (.unit n) (pieces? mark rest)
  | '\\' :: 'u' :: a :: b :: c :: d :: rest =>
    (Hex.number? [a, b, c, d]).bind fun n => push (.unit n) (pieces? mark rest)
  | '\\' :: '\r' :: '\n' :: rest => pieces? mark rest
  | '\\' :: c :: rest =>
    if isBreak c then pieces? mark rest
    else (escaped? c).bind fun x => push (.char x) (pieces? mark rest)
  | c :: rest =>
    if c = mark then some ([], rest)
    else if isBreak c ∨ c = '\\' then none
    else push (.char c) (pieces? mark rest)

/-- The text that pieces make. -/
def join? (ps : List Piece) : Option String := (Json.join none ps).toOption.map String.ofList

/-- A string, from its opening quote on. -/
def string? : List Char → Option (String × List Char)
  | '"' :: rest => (pieces? '"' rest).bind fun (ps, rest) => (join? ps).map (·, rest)
  | '\'' :: rest => (pieces? '\'' rest).bind fun (ps, rest) => (join? ps).map (·, rest)
  | _ => none

/-! ## Names -/

/-- Whether a name may begin with a character. -/
def isNameStart (c : Char) : Bool := c == '$' || c == '_' || Identifier.isLetter c

/-- Whether a name may go on with a character. -/
def isNamePart (c : Char) : Bool :=
  isNameStart c || Identifier.isFollower c || c == '\u200c' || c == '\u200d'

/-- One more piece in front of a name. -/
def prepend (p : Piece) (r : List Piece × List Char) : List Piece × List Char := (p :: r.1, r.2)

/-- The pieces of a name. Characters may be given by their numbers. -/
def takeName : List Char → List Piece × List Char
  | '\\' :: 'u' :: a :: b :: c :: d :: rest =>
    match Hex.number? [a, b, c, d] with
    | some n => prepend (.unit n) (takeName rest)
    | none => ([], '\\' :: 'u' :: a :: b :: c :: d :: rest)
  | c :: rest => if isNamePart c then prepend (.char c) (takeName rest) else ([], c :: rest)
  | [] => ([], [])

/-- A name without quotes. -/
def name? (cs : List Char) : Option (String × List Char) :=
  match cs with
  | [] => none
  | c :: _ => if isNameStart c ∨ c = '\\' then
      match takeName cs with
      | ([], _) => none
      | (ps, rest) => (join? ps).map (·, rest)
    else none

/-- The name of a member, with or without quotes. -/
def key? (cs : List Char) : Option (String × List Char) := (string? cs).or (name? cs)

/-! ## Numbers -/

/-- Digits without a zero in front of others. -/
def takeWhole : List Char → List Char × List Char
  | '0' :: rest => (['0'], rest)
  | cs => (cs.takeWhile Char.isDigit, cs.dropWhile Char.isDigit)

/-- A point and the digits behind it, if there is a point. -/
def takeFraction : List Char → List Char × List Char
  | '.' :: rest => ('.' :: rest.takeWhile Char.isDigit, rest.dropWhile Char.isDigit)
  | cs => ([], cs)

/-- An exponent, if there is one. -/
def takeExponent (cs : List Char) : List Char × List Char :=
  match cs with
  | [] => ([], [])
  | c :: rest =>
    let (negative, ds) := Numeral.takeSign rest
    if (c = 'e' ∨ c = 'E') ∧ (ds.takeWhile Char.isDigit) ≠ [] then
      ('e' :: (if negative then ['-'] else []) ++ ds.takeWhile Char.isDigit, ds.dropWhile Char.isDigit)
    else ([], cs)

/-- A number in base ten, without its sign. It is whole if it has neither point nor exponent. -/
def decimal? (negative : Bool) (cs : List Char) : Option (Datum × List Char) := do
  let (whole, rest) := takeWhole cs
  let (fraction, rest) := takeFraction rest
  if whole = [] ∧ fraction.length ≤ 1 then failure
  let (exponent, rest) := takeExponent rest
  if fraction = [] ∧ exponent = [] then
    let n : Int := Numeral.ofDigits whole
    let n := if negative then -n else n
    if Numeral.lowest ≤ n ∧ n ≤ Numeral.highest then some (.whole n, rest) else none
  else
    let x ← Numeral.decimal? negative (whole ++ fraction ++ exponent)
    if x.isInf then none else some (.double x, rest)

/-- A number in base sixteen, behind its mark. It fits 32 bits. -/
def hex? (cs : List Char) : Option (Datum × List Char) := do
  let isHex (c : Char) : Bool := (Hex.digit? c).isSome
  let n ← Hex.number? (cs.takeWhile isHex)
  if cs.takeWhile isHex = [] ∨ Nat.pow 2 32 ≤ n then none else some (.whole n, cs.dropWhile isHex)

/-- The words that stand for data. -/
def words : List (String × Datum) :=
  [("null", .nothing), ("true", .bool true), ("false", .bool false),
   ("Infinity", .double (Double.packInfinite false)), ("-Infinity", .double (Double.packInfinite true)),
   ("NaN", .double (Float.ofBits 0x7ff8000000000000)), ("-NaN", .double (Float.ofBits 0x7ff8000000000000))]

/-- The word in front. -/
def word? (cs : List Char) : Option (Datum × List Char) :=
  words.findSome? fun (w, d) =>
    if w.toList.isPrefixOf cs then some (d, cs.drop w.length) else none

/-- A number. One in base sixteen has no sign. -/
def number? : List Char → Option (Datum × List Char)
  | '0' :: 'x' :: rest | '0' :: 'X' :: rest => hex? rest
  | '-' :: rest => decimal? true rest
  | '+' :: rest => decimal? false rest
  | cs => decimal? false cs

/-- A word, a number or a string. -/
def scalar? (cs : List Char) : Option (Datum × List Char) :=
  match string? cs with
  | some (s, rest) => some (.text s, rest)
  | none => (word? cs).or (number? cs)

end BlockPlayer.Json5
