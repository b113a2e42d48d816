import BlockPlayer.Decimal.Shortest

/-!
# Writing a double

The digits of a double are fixed by `Double.shortest`. Where they are written, and how the rest is
spelled, is up to the format; a `Layout` says it in one record. Four formats use one: messages,
lists in messages, TOML and JSON.
-/

namespace BlockPlayer

/-- How a format writes a double. -/
structure Layout where
  /-- The decimal orders that are written with all their zeros; others get an exponent. -/
  positional : Int → Bool
  /-- Whether a whole number ends in `.0`. -/
  wholePoint : Bool
  /-- Whether an exponent above zero has a sign. -/
  plus : Bool
  tie : Double.Tie
  nanText : String
  infiniteText : String

namespace Layout

/-- In messages: never an exponent, and no point in a whole number. -/
def message : Layout := ⟨fun _ => true, false, false, .larger, "NaN", "inf"⟩

/-- In lists of messages: an exponent from `10 ^ 16` on and below `10 ^ -4`, else a point always. -/
def listed : Layout :=
  ⟨fun order => -4 ≤ order && order < 16, true, false, .larger, "NaN", "inf"⟩

/-- In TOML: never an exponent, and a point always. -/
def toml : Layout := ⟨fun _ => true, true, false, .larger, "nan", "inf"⟩

/--
In JSON: an exponent with its sign from `10 ^ 16` on and below `10 ^ -5`, else a point always. Of two
decimals that are equally near, the even one.
-/
def json : Layout :=
  ⟨fun order => -5 ≤ order && order < 16, true, true, .even, "NaN", "inf"⟩

/-- Digits with a decimal point after the first `point` of them. -/
def placePoint (wholePoint : Bool) (digits : List Char) (point : Int) : List Char :=
  if point ≤ 0 then '0' :: '.' :: (List.replicate (-point).toNat '0' ++ digits)
  else if point < digits.length then
    digits.take point.toNat ++ '.' :: digits.drop point.toNat
  else
    digits ++ List.replicate (point.toNat - digits.length) '0'
      ++ (if wholePoint then ['.', '0'] else [])

/-- Digits with an exponent: one digit before the point, and no point if that is the only one. -/
def placeExponent (plus : Bool) (digits : List Char) (order : Int) : List Char :=
  let head := digits.take 1
  let tail := digits.drop 1
  let sign := if plus && decide (0 < order) then ['+'] else []
  head ++ (if tail.isEmpty then [] else '.' :: tail) ++ 'e' :: (sign ++ (toString order).toList)

/-- The text of a decimal without its sign. -/
def decimal (l : Layout) (d : Double.Decimal) : List Char :=
  let digits := Nat.toDigits 10 d.digits
  let point := (digits.length : Int) + d.scale
  if l.positional (point - 1) then placePoint l.wholePoint digits point
  else placeExponent l.plus digits (point - 1)

/-- The text of a double. Only what is not a number has no sign. -/
def write (l : Layout) (x : Float) : String :=
  match Double.ofFloat x with
  | .nan => l.nanText
  | .infinite negative => (if negative then "-" else "") ++ l.infiniteText
  | .finite negative m q =>
    let text := if m = 0 then '0' :: (if l.wholePoint then ['.', '0'] else [])
      else l.decimal (Double.shortest l.tie m q)
    String.ofList (if negative then '-' :: text else text)

end Layout

end BlockPlayer
