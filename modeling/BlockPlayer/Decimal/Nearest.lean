import BlockPlayer.Decimal.Double

/-!
# The double next to a decimal

`nearest negative digits scale` is the double nearest to `± digits · 10 ^ scale`. Of two doubles
that are equally near it is the one with the even mantissa. Numbers beyond the largest double
become infinity.

## How it is found

The number is written as a fraction. Its binary order gives the distance of neighbouring doubles
there, and the mantissa is the fraction in units of that distance, rounded.
-/

namespace BlockPlayer.Double

/-- `2 ^ order ≤ num / den`, as whole numbers. -/
def reaches (num den : Nat) (order : Int) : Bool :=
  if 0 ≤ order then decide (den * Nat.pow 2 order.toNat ≤ num)
  else decide (den ≤ num * Nat.pow 2 (-order).toNat)

/-- The binary order of a positive fraction: `2 ^ order ≤ num / den < 2 ^ (order + 1)`. -/
def order (num den : Nat) : Int :=
  let guess := (num.log2 : Int) - (den.log2 : Int)
  if reaches num den guess then guess else guess - 1

/-- The double nearest to a positive fraction. -/
def nearestFraction (negative : Bool) (num den : Nat) : Float :=
  let exponent := max (order num den - 52) leastExponent
  let mantissa :=
    if 0 ≤ exponent then roundHalfEven num (den * Nat.pow 2 exponent.toNat)
    else roundHalfEven (num * Nat.pow 2 (-exponent).toNat) den
  pack negative mantissa (exponent - leastExponent).toNat

/--
The double nearest to `± digits · 10 ^ scale`. A scale above 400 is out of reach for any digits, and
so is one that leaves less than `10 ^ -399`; both are answered without computing the power.
-/
def nearest (negative : Bool) (digits : Nat) (scale : Int) : Float :=
  if digits = 0 then pack negative 0 0
  else if 400 < scale then packInfinite negative
  else if scale + digits.log2 < -400 then pack negative 0 0
  else if 0 ≤ scale then nearestFraction negative (digits * Nat.pow 10 scale.toNat) 1
  else nearestFraction negative digits (Nat.pow 10 (-scale).toNat)

/-- The double nearest to a whole number. -/
def ofNat (n : Nat) : Float := nearest false n 0

end BlockPlayer.Double
