/-!
# Hexadecimal digits

Characters can be given by their numbers in base sixteen. The letters among the digits may have either case.
-/

namespace BlockPlayer.Hex

/-- The value of a digit. -/
def digit? (c : Char) : Option Nat :=
  if '0' ≤ c ∧ c ≤ '9' then some (c.toNat - '0'.toNat)
  else if 'a' ≤ c ∧ c ≤ 'f' then some (c.toNat - 'a'.toNat + 10)
  else if 'A' ≤ c ∧ c ≤ 'F' then some (c.toNat - 'A'.toNat + 10)
  else none

/-- The number that digits stand for. -/
def number? (cs : List Char) : Option Nat :=
  (cs.mapM digit?).map fun ds => ds.foldl (fun n d => 16 * n + d) 0

/-- The character with a number, if there is one. -/
def ofNat? (n : Nat) : Option Char := if n.isValidChar then some (Char.ofNat n) else none

/-- The character whose number has the given digits. -/
def char? (cs : List Char) : Option Char := (number? cs).bind ofNat?

end BlockPlayer.Hex
