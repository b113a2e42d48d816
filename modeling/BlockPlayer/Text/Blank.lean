/-!
# Blanks

What separates words in the texts of all scripts: the space, the tab, the marks that end lines and pages, and
the spaces of other widths.
-/

namespace BlockPlayer.Blank

/-- The first and the last of the characters in each run of blanks. -/
def runs : List (Nat × Nat) :=
  [(0x0009, 0x000D), (0x0020, 0x0020), (0x0085, 0x0085), (0x00A0, 0x00A0), (0x1680, 0x1680),
   (0x2000, 0x200A), (0x2028, 0x2029), (0x202F, 0x202F), (0x205F, 0x205F), (0x3000, 0x3000)]

/-- Whether a character is a blank. -/
def isBlank (c : Char) : Bool :=
  runs.any fun run => decide (run.1 ≤ c.toNat) && decide (c.toNat ≤ run.2)

end BlockPlayer.Blank
