/-!
# The exact value of a double

A double is `± m · 2 ^ q` with whole `m` and `q`, an infinity, or not a number. Everything that is
exact about doubles — their shortest decimal text, the double next to a decimal, rounding to a
whole number — is computed from `m` and `q` in whole numbers, never in floating point.

* `Double.ofFloat` — takes a double apart
* `Double.pack` — the double with a given value, or infinity if it is too large
-/

namespace BlockPlayer

/-- What a double stands for. -/
inductive Double
  | nan
  | infinite (negative : Bool)
  /-- The number `± mantissa · 2 ^ exponent`, zero included. -/
  | finite (negative : Bool) (mantissa : Nat) (exponent : Int)
  deriving DecidableEq, Repr

namespace Double

/-- The least exponent: that of the numbers next to zero. -/
def leastExponent : Int := -1074

/-- The value of the bit in front of the 52 that are stored of a mantissa. -/
def leadingBit : Nat := Nat.pow 2 52

/-- The value of the bit for the sign. -/
def signBit : Nat := Nat.pow 2 63

/-- The number of words of 64 bits. -/
def wordEnd : Nat := Nat.pow 2 64

/--
Takes a double apart. With exponent bits `0` the fraction is the mantissa; with other bits a
leading one belongs to it that is not stored; all bits set mark infinities and the like.
-/
def ofFloat (x : Float) : Double :=
  let bits := x.toBits.toNat
  let negative := decide (signBit ≤ bits)
  let exponent : Nat := bits / leadingBit % 2048
  let fraction : Nat := bits % leadingBit
  if exponent = 2047 then
    if fraction = 0 then infinite negative else nan
  else if exponent = 0 then finite negative fraction leastExponent
  else finite negative (fraction + leadingBit) ((exponent : Int) - 1075)

/--
The double `mantissa · 2 ^ (steps - 1074)`. A mantissa of 54 bits that came from rounding up
carries into the exponent by itself, and what is too large becomes infinity.
-/
def pack (negative : Bool) (mantissa steps : Nat) : Float :=
  let sign := if negative then signBit else 0
  let magnitude := min (steps * leadingBit + mantissa) (2047 * leadingBit)
  Float.ofBits (UInt64.ofNat (sign + magnitude))

/-- Positive infinity, or negative. -/
def packInfinite (negative : Bool) : Float := pack negative 0 2047

end Double

/--
Rounds the quotient of two numbers to the nearest whole number. Of two that are equally near it
takes the even one.
-/
def roundHalfEven (num den : Nat) : Nat :=
  let whole := num / den
  let rest := 2 * (num % den)
  if rest < den then whole
  else if den < rest then whole + 1
  else if whole % 2 = 0 then whole else whole + 1

/-- Rounds to the nearest whole number; of two that are equally near it takes the larger. -/
def roundHalfUp (num den : Nat) : Nat := (2 * num + den) / (2 * den)

/--
A double of zero or more, rounded to a whole number with halves rounded up, and cut off at the
largest word of 64 bits. What is not a number counts as zero.
-/
def Double.round : Double → Nat
  | nan => 0
  | infinite negative => if negative then 0 else wordEnd - 1
  | finite negative mantissa exponent =>
    if negative then 0
    else
      let whole :=
        if 0 ≤ exponent then mantissa * Nat.pow 2 exponent.toNat
        else roundHalfUp mantissa (Nat.pow 2 (-exponent).toNat)
      min whole (wordEnd - 1)

end BlockPlayer
