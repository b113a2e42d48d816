import BlockPlayer.Decimal.Nearest

/-!
# Reading numbers from plain text

The grammar of numbers in variables, arguments and files, where nothing else may stand beside the
number. Two readers: whole numbers within bounds, and doubles. A double is `[sign] digits [. digits]
[e [sign] digits]` with a digit on at least one side of the point, or one of the words for infinity
and for what is not a number, in letters of either case.
-/

namespace BlockPlayer.Numeral

/-- The number that decimal digits stand for. -/
def ofDigits (cs : List Char) : Nat :=
  cs.foldl (fun n c => 10 * n + (c.toNat - '0'.toNat)) 0

/-- Takes a sign off; the flag tells whether it was a minus. -/
def takeSign : List Char → Bool × List Char
  | '-' :: rest => (true, rest)
  | '+' :: rest => (false, rest)
  | cs => (false, cs)

/-- Digits and nothing else, at least one. -/
def digits? (cs : List Char) : Option Nat :=
  if cs ≠ [] ∧ cs.all Char.isDigit then some (ofDigits cs) else none

/-- A whole number with or without a sign, from `low` to `high`. -/
def int? (low high : Int) (text : String) : Option Int := do
  let (negative, rest) := takeSign text.toList
  let n ← digits? rest
  let i : Int := if negative then -n else n
  if low ≤ i ∧ i ≤ high then some i else none

/-- The least whole number of 64 bits, one of them for the sign. -/
def lowest : Int := -9223372036854775808

/-- The greatest whole number of 64 bits, one of them for the sign. -/
def highest : Int := 9223372036854775807

/-- A whole number of 64 bits without a minus. -/
def word? (text : String) : Option Nat := do
  match text.toList with
  | '-' :: _ => none
  | _ => (← int? 0 18446744073709551615 text).toNat

/-- A whole number of 64 bits, one of them for the sign. -/
def signedWord? (text : String) : Option Int := int? lowest highest text

/-- The exponent that follows the digits, if any; nothing may follow it. -/
def exponent? : List Char → Option Int
  | [] => some 0
  | 'e' :: rest | 'E' :: rest => do
    let (negative, ds) := takeSign rest
    let n ← digits? ds
    some (if negative then -n else n)
  | _ => none

/-- A number in digits, without its sign. -/
def decimal? (negative : Bool) (cs : List Char) : Option Float :=
  let whole := cs.takeWhile Char.isDigit
  let afterWhole := cs.dropWhile Char.isDigit
  let (fraction, rest) := match afterWhole with
    | '.' :: r => (r.takeWhile Char.isDigit, r.dropWhile Char.isDigit)
    | r => ([], r)
  if whole = [] ∧ fraction = [] then none
  else do
    let e ← exponent? rest
    some (Double.nearest negative (ofDigits (whole ++ fraction)) (e - fraction.length))

/-- A double in any of its spellings. -/
def double? (text : String) : Option Float :=
  let (negative, rest) := takeSign text.toList
  let word := String.ofList (rest.map Char.toLower)
  if word = "inf" ∨ word = "infinity" then some (Double.packInfinite negative)
  else if word = "nan" then some (Float.ofBits 0x7ff8000000000000)
  else decimal? negative rest

end BlockPlayer.Numeral
