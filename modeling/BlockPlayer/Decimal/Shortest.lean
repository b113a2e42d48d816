import BlockPlayer.Decimal.Double

/-!
# The shortest decimal that reads back

Every real number between the midpoints to the two neighbouring doubles reads back as a given
double `m · 2 ^ q`; the midpoints themselves do so if `m` is even. `shortest` looks for the coarsest
grid of decimals, all `d · 10 ^ k` for one `k`, that has a point in this interval. Only the two grid
points next to the double have to be tried: if any point of the grid lies in the interval, so does
one of these. If both do, the nearer is taken; if both are equally near, formats differ in which one
they take, and a `Tie` says it.

## Termination

The grids are tried from coarse to fine, and `10 ^ q` divides the double when `q ≤ 0`, so the number
of grids that can be needed is known beforehand.
-/

namespace BlockPlayer.Double

/-- The decimal `digits · 10 ^ scale`. -/
structure Decimal where
  digits : Nat
  scale : Int
  deriving DecidableEq, Repr

/--
The interval of the reals that read back as `m · 2 ^ q`, in quarters of `2 ^ q`. Below a power of two
the neighbour is half as far away, unless it is the least power that has a neighbour at all.
-/
structure Interval where
  low : Nat
  high : Nat
  closed : Bool
  deriving DecidableEq, Repr

def interval (m : Nat) (q : Int) : Interval :=
  let near := decide (m = leadingBit ∧ leastExponent < q)
  ⟨4 * m - (if near then 1 else 2), 4 * m + 2, m % 2 = 0⟩

/-- Whether a number lies in the interval, all three given in the same unit. -/
def Interval.contains (i : Interval) (unit x : Nat) : Bool :=
  if i.closed then decide (i.low * unit ≤ x ∧ x ≤ i.high * unit)
  else decide (i.low * unit < x ∧ x < i.high * unit)

/-- Which of two neighbouring grid points stands for a double that is equally far from both. -/
inductive Tie
  | larger
  /-- The one that is an even multiple of the mesh. -/
  | even
  deriving DecidableEq, Repr

/-- Whether the smaller of two points is taken; it is `below` times the mesh. -/
def Tie.takesSmaller (t : Tie) (below : Nat) : Bool :=
  match t with
  | larger => false
  | even => below % 2 = 0

/--
The point of the grid of all multiples of `10 ^ k` that stands for `m · 2 ^ q`, if the grid has one.
Both are brought to whole numbers by a common factor: a quarter of `2 ^ q` becomes `unit` and
`10 ^ k` becomes `mesh`.
-/
def gridPoint (t : Tie) (m : Nat) (q k : Int) : Option Nat :=
  let unit := Nat.pow 2 (q - 2).toNat * Nat.pow 10 (-k).toNat
  let mesh := Nat.pow 2 (2 - q).toNat * Nat.pow 10 k.toNat
  let i := interval m q
  let value := 4 * m * unit
  let below := value / mesh
  let above := below + 1
  let hitBelow := i.contains unit (below * mesh)
  let hitAbove := i.contains unit (above * mesh)
  if hitBelow && hitAbove then
    let toBelow := value - below * mesh
    let toAbove := above * mesh - value
    some (if toBelow < toAbove ∨ toBelow = toAbove ∧ t.takesSmaller below then below else above)
  else if hitBelow then some below
  else if hitAbove then some above
  else none

/-- Tries the grids from `10 ^ k` on, each ten times finer than the one before. -/
def searchGrids (t : Tie) (m : Nat) (q : Int) : Nat → Int → Decimal
  | 0, k => ⟨m * Nat.pow 2 q.toNat, k⟩
  | n + 1, k =>
    match gridPoint t m q k with
    | some d => ⟨d, k⟩
    | none => searchGrids t m q n (k - 1)

/-- **The decimal with the fewest digits that reads back as `m · 2 ^ q`.** -/
def shortest (t : Tie) (m : Nat) (q : Int) : Decimal :=
  let coarsest := ((m.log2 : Int) + q + 2).toNat
  searchGrids t m q (coarsest + (-q).toNat + 1) coarsest

end BlockPlayer.Double
