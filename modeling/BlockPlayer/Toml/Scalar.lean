import BlockPlayer.Decimal.Numeral
import BlockPlayer.Toml.Value

/-!
# TOML words

Numbers, truth values and dates are *words*: the longest run of letters, digits and the marks that occur
in them. A word is read as a whole or not at all.

Digits may be separated by single underscores. Whole numbers have no zeros in front, except those in a
base other than ten, which have a letter for their base in front. What is not finite has a name.
-/

namespace BlockPlayer.Toml

/-- The characters that words are made of. -/
def isWordChar (c : Char) : Bool :=
  c.isAlphanum || c == '+' || c == '-' || c == '_' || c == '.' || c == ':'

/-! ## Numbers -/

/-- Digits without the underscores between them. There has to be at least one digit. -/
def digits? (isDigit : Char → Bool) : List Char → Option (List Char)
  | [] => none
  | [c] => if isDigit c then some [c] else none
  | c :: '_' :: rest => if isDigit c then (digits? isDigit rest).map (c :: ·) else none
  | c :: rest => if isDigit c then (digits? isDigit rest).map (c :: ·) else none

/-- Decimal digits without a zero in front of others. -/
def wholeDigits? (cs : List Char) : Option (List Char) :=
  (digits? Char.isDigit cs).filter fun ds => ds.length == 1 || ds.head? != some '0'

/-- The value of a digit in any base up to sixteen. -/
def digitValue (c : Char) : Nat :=
  if c.isDigit then c.toNat - '0'.toNat else c.toLower.toNat - 'a'.toNat + 10

/-- A whole number, if it is in range. -/
def inRange? (n : Int) : Option Toml :=
  if Numeral.lowest ≤ n ∧ n ≤ Numeral.highest then some (.whole n) else none

/-- A whole number in a base other than ten. -/
def based? (base : Nat) (cs : List Char) : Option Toml := do
  let isDigit (c : Char) : Bool := c.isAlphanum && decide (digitValue c < base)
  let ds ← digits? isDigit cs
  inRange? (ds.foldl (fun n c => base * n + digitValue c) 0 : Nat)

/-- A whole number. -/
def whole? (cs : List Char) : Option Toml :=
  match cs with
  | '0' :: 'x' :: rest => based? 16 rest
  | '0' :: 'o' :: rest => based? 8 rest
  | '0' :: 'b' :: rest => based? 2 rest
  | _ =>
    let (negative, rest) := Numeral.takeSign cs
    (wholeDigits? rest).bind fun ds =>
      inRange? (if negative then -(Numeral.ofDigits ds : Int) else Numeral.ofDigits ds)

/-- Whether a character belongs to digits with underscores. -/
def isSpaced (c : Char) : Bool := c.isDigit || c == '_'

/-- The part of a number behind the point, if there is a point, and what is left. -/
def fraction? : List Char → Option (List Char × List Char)
  | '.' :: rest =>
    (digits? Char.isDigit (rest.takeWhile isSpaced)).map fun ds =>
      ('.' :: ds, rest.dropWhile isSpaced)
  | rest => some ([], rest)

/-- The exponent of a number, if it has one. Nothing may follow it. -/
def exponent? : List Char → Option (List Char)
  | [] => some []
  | c :: rest =>
    if c == 'e' || c == 'E' then
      let (negative, ds) := Numeral.takeSign rest
      (digits? Char.isDigit ds).map fun ds => 'e' :: (if negative then '-' :: ds else ds)
    else none

/-- A double in digits, with a point or an exponent. One that is too large is no number. -/
def decimal? (cs : List Char) : Option Toml := do
  let (negative, rest) := Numeral.takeSign cs
  let ds ← wholeDigits? (rest.takeWhile isSpaced)
  let (fraction, rest) ← fraction? (rest.dropWhile isSpaced)
  let exponent ← exponent? rest
  let x ← Numeral.decimal? negative (ds ++ fraction ++ exponent)
  if (fraction ++ exponent).isEmpty ∨ x = Double.packInfinite false then none else some (.double x)

/-- A number that has a name. -/
def named? (cs : List Char) : Option Toml :=
  let (negative, rest) := Numeral.takeSign cs
  if rest = "inf".toList then some (.double (Double.packInfinite negative))
  else if rest = "nan".toList then some (.double (Float.ofBits 0x7ff8000000000000))
  else none

/-! ## Dates and times -/

/-- The number that two digits stand for, if it is in range. -/
def pair? (low high : Nat) (a b : Char) : Option Nat :=
  if a.isDigit ∧ b.isDigit then
    let n := 10 * digitValue a + digitValue b
    if low ≤ n ∧ n ≤ high then some n else none
  else none

/-- The number of days in a month. -/
def monthDays (year month : Nat) : Nat :=
  if month = 2 then
    if year % 4 = 0 ∧ (year % 100 ≠ 0 ∨ year % 400 = 0) then 29 else 28
  else if month ∈ [4, 6, 9, 11] then 30 else 31

/-- A date in digits, and what is left. -/
def takeDate : List Char → Option (List Char)
  | a :: b :: c :: d :: '-' :: m :: n :: '-' :: e :: f :: rest => do
    let century ← pair? 0 99 a b
    let year ← pair? 0 99 c d
    let month ← pair? 1 12 m n
    let _ ← pair? 1 (monthDays (100 * century + year) month) e f
    some rest
  | _ => none

/-- The decimals of a second, if there are any, and what is left. -/
def takeDecimals : List Char → Option (List Char)
  | '.' :: rest =>
    if (rest.takeWhile Char.isDigit).isEmpty then none else some (rest.dropWhile Char.isDigit)
  | rest => some rest

/-- A time of the day in digits, and what is left. A minute may have a leap second. -/
def takeTime (lastHour : Nat) : List Char → Option (List Char)
  | a :: b :: ':' :: c :: d :: ':' :: e :: f :: rest => do
    let _ ← pair? 0 lastHour a b
    let _ ← pair? 0 59 c d
    let _ ← pair? 0 60 e f
    takeDecimals rest
  | _ => none

/-- What the rules for dates leave open. -/
structure Calendar where
  lastHour : Nat
  /-- Whether the hours and minutes of a zone are its distance. -/
  isDistance : Nat → Nat → Bool

/-- The rules for dates that are words: hours end at 23, minutes at 59. -/
def Calendar.words : Calendar := ⟨23, fun h m => decide (h ≤ 23 ∧ m ≤ 59)⟩

/-- The rules for dates in strings: a day may end at 24, and a zone may be a day away. -/
def Calendar.strings : Calendar := ⟨24, fun h m => decide (60 * h + m ≤ 24 * 60)⟩

/-- Whether the characters are the distance of a zone, or nothing. -/
def isZone (k : Calendar) : List Char → Bool
  | [] | ['Z'] | ['z'] => true
  | [s, a, b, ':', c, d] =>
    (s == '+' || s == '-')
      && (match pair? 0 99 a b, pair? 0 99 c d with
        | some h, some m => k.isDistance h m
        | _, _ => false)
  | _ => false

/-- Whether the characters are a date, a time, or both with or without a zone. -/
def isDate (k : Calendar) (cs : List Char) : Bool :=
  match takeDate cs with
  | some [] => true
  | some (mark :: rest) =>
    (mark == 'T' || mark == 't' || mark == ' ')
      && (match takeTime k.lastHour rest with
        | some zone => isZone k zone
        | none => false)
  | none => takeTime k.lastHour cs == some []

/-! ## Words -/

/-- Reads a word. -/
def word? (cs : List Char) : Option Toml :=
  if cs = "true".toList then some (.bool true)
  else if cs = "false".toList then some (.bool false)
  else if isDate .words cs then some (.date (String.ofList cs))
  else (named? cs).or ((whole? cs).or (decimal? cs))

/-- Takes a word off. A date and a time may have a blank between them. -/
def takeWord (cs : List Char) : List Char × List Char :=
  let first := cs.takeWhile isWordChar
  match cs.dropWhile isWordChar with
  | ' ' :: c :: rest =>
    if c.isDigit ∧ takeDate first = some [] then
      (first ++ ' ' :: (c :: rest).takeWhile isWordChar, (c :: rest).dropWhile isWordChar)
    else (first, ' ' :: c :: rest)
  | rest => (first, rest)

end BlockPlayer.Toml
