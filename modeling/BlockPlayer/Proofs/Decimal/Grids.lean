import Mathlib.Algebra.Order.Field.Power
import Mathlib.Tactic.FieldSimp
import Mathlib.Tactic.Linarith
import Mathlib.Tactic.Positivity
import Mathlib.Tactic.Ring
import BlockPlayer.Decimal.Shortest

/-!
# Decimals that are found

The search for the shortest decimal of a double tries grids of decimals, one after the other, and compares in
whole numbers. Here it is said in rationals what comes of it: a decimal in the interval of the double
(`holds_shortest`). Whether it is the shortest does not matter for that; it matters that one of the grids
that are tried has a point in the interval, and the last one has the double itself (`gridPoint_last`).
-/

namespace BlockPlayer.Double

/-! ## Intervals -/

namespace Interval

/-- A number lies in the interval, whose ends are given in units. -/
def Holds (i : Interval) (unit r : ℚ) : Prop :=
  if i.closed then i.low * unit ≤ r ∧ r ≤ i.high * unit else i.low * unit < r ∧ r < i.high * unit

variable {i : Interval} {unit r : ℚ}

theorem Holds.low_le (h : i.Holds unit r) : i.low * unit ≤ r := by
  rw [Holds] at h
  split at h
  · exact h.1
  · exact h.1.le

theorem Holds.le_high (h : i.Holds unit r) : r ≤ i.high * unit := by
  rw [Holds] at h
  split at h
  · exact h.2
  · exact h.2.le

/-- The unit can be changed for all numbers at once. -/
theorem holds_mul_iff {c : ℚ} (hc : 0 < c) : i.Holds (c * unit) (c * r) ↔ i.Holds unit r := by
  have hle (a b : ℚ) : a * (c * unit) ≤ c * b ↔ a * unit ≤ b := by
    rw [mul_left_comm, mul_le_mul_iff_right₀ hc]
  have hge (a b : ℚ) : c * b ≤ a * (c * unit) ↔ b ≤ a * unit := by
    rw [mul_left_comm, mul_le_mul_iff_right₀ hc]
  have hlt (a b : ℚ) : a * (c * unit) < c * b ↔ a * unit < b := by
    rw [mul_left_comm, mul_lt_mul_iff_right₀ hc]
  have hgt (a b : ℚ) : c * b < a * (c * unit) ↔ b < a * unit := by
    rw [mul_left_comm, mul_lt_mul_iff_right₀ hc]
  simp only [Holds, hle, hge, hlt, hgt]

theorem contains_eq_true_iff {unit x : ℕ} : i.contains unit x = true ↔ i.Holds unit x := by
  rw [contains, Holds]
  split
  · rw [decide_eq_true_iff]
    exact_mod_cast Iff.rfl
  · rw [decide_eq_true_iff]
    exact_mod_cast Iff.rfl

end Interval

/-! ## Grids -/

/-- A power with a whole exponent is a fraction of powers. -/
theorem pow_toNat {b : ℕ} (hb : 0 < b) (k : ℤ) :
    ((Nat.pow b k.toNat : ℕ) : ℚ) = (Nat.pow b (-k).toNat : ℕ) * (b : ℚ) ^ k := by
  have hb' : (b : ℚ) ≠ 0 := by exact_mod_cast hb.ne'
  have hk : (k.toNat : ℤ) = ((-k).toNat : ℤ) + k := by omega
  rw [Nat.pow_eq, Nat.pow_eq, Nat.cast_pow, Nat.cast_pow, ← zpow_natCast, ← zpow_natCast, hk,
    zpow_add₀ hb']

variable {t : Tie} {m d : ℕ} {q k : ℤ}

/-- A point that a grid has for a double lies in the interval of the double. -/
theorem holds_of_gridPoint (h : gridPoint t m q k = some d) :
    (interval m q).Holds (2 ^ (q - 2)) (d * 10 ^ k) := by
  have hc : (0 : ℚ) < (Nat.pow 2 (2 - q).toNat : ℕ) * (Nat.pow 10 (-k).toNat : ℕ) := by
    rw [Nat.pow_eq, Nat.pow_eq]
    positivity
  have hcontains : (interval m q).contains (Nat.pow 2 (q - 2).toNat * Nat.pow 10 (-k).toNat)
      (d * (Nat.pow 2 (2 - q).toNat * Nat.pow 10 k.toNat)) = true := by
    rw [gridPoint] at h
    simp only at h
    split at h
    · next hboth =>
      rw [Bool.and_eq_true] at hboth
      cases h
      split
      · exact hboth.1
      · exact hboth.2
    · split at h
      · next hbelow =>
        cases h
        exact hbelow
      · split at h
        · next habove =>
          cases h
          exact habove
        · cases h
  rw [Interval.contains_eq_true_iff] at hcontains
  -- the search multiplies by the powers that would be in denominators
  rw [← Interval.holds_mul_iff hc]
  have hneg : -(q - 2) = 2 - q := by ring
  convert hcontains using 1
  · rw [Nat.cast_mul, pow_toNat (by decide) (q - 2), hneg]
    push_cast
    ring
  · rw [Nat.cast_mul, Nat.cast_mul, pow_toNat (b := 10) (by decide) k]
    push_cast
    ring

/-- A grid that has the double itself has a point for it. -/
theorem gridPoint_ne_none (hm : 0 < m) (h : Nat.pow 2 (2 - q).toNat * Nat.pow 10 k.toNat
    ∣ 4 * m * (Nat.pow 2 (q - 2).toNat * Nat.pow 10 (-k).toNat)) : gridPoint t m q k ≠ none := by
  have hunit : 0 < Nat.pow 2 (q - 2).toNat * Nat.pow 10 (-k).toNat :=
    Nat.mul_pos (Nat.pow_pos (by decide)) (Nat.pow_pos (by decide))
  have hlow : (interval m q).low < 4 * m := by
    rw [interval]
    simp only
    split <;> omega
  have hhigh : 4 * m < (interval m q).high := by
    rw [interval]
    simp only
    omega
  rw [gridPoint]
  simp only
  rw [Nat.div_mul_cancel h]
  have hcontains : (interval m q).contains (Nat.pow 2 (q - 2).toNat * Nat.pow 10 (-k).toNat)
      (4 * m * (Nat.pow 2 (q - 2).toNat * Nat.pow 10 (-k).toNat)) = true := by
    rw [Interval.contains]
    have hl := Nat.mul_lt_mul_of_pos_right hlow hunit
    have hh := Nat.mul_lt_mul_of_pos_right hhigh hunit
    split
    · exact decide_eq_true ⟨hl.le, hh.le⟩
    · exact decide_eq_true ⟨hl, hh⟩
  rw [hcontains]
  split
  · exact Option.some_ne_none _
  · exact Option.some_ne_none _

/-- The last grid that is tried has the double itself. -/
theorem gridPoint_last (t : Tie) (hm : 0 < m) (q : ℤ) : gridPoint t m q (-((-q).toNat : ℤ)) ≠ none := by
  refine gridPoint_ne_none hm ?_
  have hcoarse : (-((-q).toNat : ℤ)).toNat = 0 := by omega
  have hfine : (- -((-q).toNat : ℤ)).toNat = (-q).toNat := by omega
  rw [hcoarse, hfine, Nat.pow_eq, Nat.pow_eq, Nat.pow_eq, Nat.pow_eq, Nat.pow_zero, Nat.mul_one]
  have htwo : 2 ^ (2 - q).toNat ∣ 2 ^ (2 + (-q).toNat) := Nat.pow_dvd_pow 2 (by omega)
  have hten : 2 ^ (2 + (-q).toNat) ∣ 4 * 10 ^ (-q).toNat := by
    rw [Nat.pow_add]
    exact Nat.mul_dvd_mul (by decide) (pow_dvd_pow_of_dvd (by decide) _)
  have hfactor : 4 * 10 ^ (-q).toNat ∣ 4 * m * (2 ^ (q - 2).toNat * 10 ^ (-q).toNat) :=
    ⟨m * 2 ^ (q - 2).toNat, by ring⟩
  exact htwo.trans (hten.trans hfactor)

/-! ## The search -/

/-- What the search finds is a point of one of the grids, if it comes down to the last one. -/
theorem exists_of_searchGrids (t : Tie) (hm : 0 < m) (q : ℤ) : ∀ (n : ℕ) (k : ℤ),
    -((-q).toNat : ℤ) ≤ k → k < n - ((-q).toNat : ℤ) →
    ∃ d k', gridPoint t m q k' = some d ∧ searchGrids t m q n k = ⟨d, k'⟩ := by
  intro n
  induction n with
  | zero =>
    intro k hlow hhigh
    omega
  | succ n ih =>
    intro k hlow hhigh
    rw [searchGrids]
    cases hpoint : gridPoint t m q k with
    | some d => exact ⟨d, k, hpoint, rfl⟩
    | none =>
      have hlast : k ≠ -((-q).toNat : ℤ) := by
        rintro rfl
        exact gridPoint_last t hm q hpoint
      exact ih (k - 1) (by omega) (by push_cast at hhigh; omega)

/-- **The decimal that is found lies in the interval of the double.** -/
theorem holds_shortest (t : Tie) (hm : 0 < m) (q : ℤ) :
    (interval m q).Holds (2 ^ (q - 2)) ((shortest t m q).digits * 10 ^ (shortest t m q).scale) := by
  obtain ⟨d, k, hpoint, hfound⟩ := exists_of_searchGrids t hm q
    (((m.log2 : ℤ) + q + 2).toNat + (-q).toNat + 1) (((m.log2 : ℤ) + q + 2).toNat : ℤ)
    (by omega) (by push_cast; omega)
  rw [show shortest t m q = ⟨d, k⟩ from hfound]
  exact holds_of_gridPoint hpoint

end BlockPlayer.Double
