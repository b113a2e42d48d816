import Mathlib.Algebra.Order.Floor.Semifield
import Mathlib.Data.Int.Log
import Mathlib.Data.Rat.Floor
import BlockPlayer.Proofs.Decimal.Bits
import BlockPlayer.Proofs.Decimal.Grids

/-!
# Decimals that read back

A decimal in the interval of a double is rounded to the double. The interval is cut at half the way to the
neighbours, so in units of the last place of the double the decimal is within a half of the mantissa
(`roundsTo_of_quarters`). The last place of the decimal is the same (`readsAs_least`, `readsAs_same`), except
just below a power of two, where it is half as large and the mantissa twice as large (`readsAs_below`).

Main statement: `nearest_of_holds`.
-/

namespace BlockPlayer.Double

/-! ## Rounding a fraction -/

/-- A number is rounded to a whole number: it is within a half of it, and at a half this is even. -/
def RoundsTo (r : ℚ) (n : ℕ) : Prop :=
  if n % 2 = 0 then 2 * (n : ℚ) - 1 ≤ 2 * r ∧ 2 * r ≤ 2 * n + 1 else 2 * (n : ℚ) - 1 < 2 * r ∧ 2 * r < 2 * n + 1

theorem RoundsTo.bounds {r : ℚ} {n : ℕ} (h : RoundsTo r n) : 2 * (n : ℚ) - 1 ≤ 2 * r ∧ 2 * r ≤ 2 * n + 1 := by
  rw [RoundsTo] at h
  split at h
  · exact h
  · exact ⟨h.1.le, h.2.le⟩

theorem roundHalfEven_of_bounds {num den n : ℕ} (hden : 0 < den) (hlow : 2 * (n * den) ≤ 2 * num + den)
    (hhigh : 2 * num ≤ 2 * (n * den) + den)
    (htie : n % 2 = 0 ∨ 2 * (n * den) < 2 * num + den ∧ 2 * num < 2 * (n * den) + den) :
    roundHalfEven num den = n := by
  have hdiv : num / den * den + num % den = num := by
    rw [Nat.mul_comm]
    exact Nat.div_add_mod num den
  have hmod := Nat.mod_lt num hden
  rw [roundHalfEven]
  generalize num / den = w at hdiv ⊢
  generalize num % den = t at hdiv hmod ⊢
  -- `n` is the quotient or one more, and the remainder tells which
  have hle : w ≤ n := by
    by_contra hlt
    have hmul := Nat.mul_le_mul_right den (show n + 1 ≤ w by omega)
    rw [Nat.add_mul] at hmul
    omega
  have hge : n ≤ w + 1 := by
    by_contra hlt
    have hmul := Nat.mul_le_mul_right den (show w + 2 ≤ n by omega)
    rw [Nat.add_mul] at hmul
    omega
  obtain rfl | rfl : n = w ∨ n = w + 1 := by omega
  · split
    · rfl
    · rw [if_neg (by omega), if_pos (by omega)]
  · rw [Nat.add_mul] at hlow hhigh htie
    rw [if_neg (by omega)]
    split
    · rfl
    · rw [if_neg (by omega)]

theorem roundHalfEven_eq {num den n : ℕ} (hden : 0 < den) (h : RoundsTo (num / den) n) :
    roundHalfEven num den = n := by
  have hden' : (0 : ℚ) < den := by exact_mod_cast hden
  have hscale : 2 * ((num : ℚ) / den) * den = 2 * num := by
    field_simp
  have hle (a b : ℚ) : a ≤ b ↔ a * den ≤ b * den := (mul_le_mul_iff_left₀ hden').symm
  have hlt (a b : ℚ) : a < b ↔ a * den < b * den := (mul_lt_mul_iff_left₀ hden').symm
  rw [RoundsTo, hle, hle _ (2 * (n : ℚ) + 1), hlt, hlt _ (2 * (n : ℚ) + 1), hscale] at h
  have hlow : (2 * (n : ℚ) - 1) * den = 2 * (n * den) - den := by ring
  have hhigh : (2 * (n : ℚ) + 1) * den = 2 * (n * den) + den := by ring
  rw [hlow, hhigh, sub_le_iff_le_add, sub_lt_iff_lt_add] at h
  norm_cast at h
  split at h
  · next heven => exact roundHalfEven_of_bounds hden h.1 h.2 (.inl heven)
  · exact roundHalfEven_of_bounds hden h.1.le h.2.le (.inr h)

/-! ## The last place -/

theorem log_eq {r : ℚ} {k : ℤ} (hlow : 2 ^ k ≤ r) (hhigh : r < 2 ^ (k + 1)) : Int.log 2 r = k := by
  have hr : 0 < r := lt_of_lt_of_le (by positivity) hlow
  have h₁ := (Int.zpow_le_iff_le_log (b := 2) (by decide) hr).mp (by exact_mod_cast hlow)
  have h₂ := (Int.lt_zpow_iff_log_lt (b := 2) (by decide) hr).mp (by exact_mod_cast hhigh)
  omega

theorem reaches_iff {num den : ℕ} (hden : 0 < den) (k : ℤ) :
    reaches num den k = true ↔ (2 : ℚ) ^ k ≤ num / den := by
  have hden' : (0 : ℚ) < den := by exact_mod_cast hden
  rw [reaches, le_div_iff₀ hden']
  split
  · next h =>
    obtain ⟨n, rfl⟩ := Int.eq_ofNat_of_zero_le h
    rw [decide_eq_true_iff, Int.toNat_natCast, zpow_natCast, Nat.pow_eq, Nat.mul_comm]
    exact_mod_cast Iff.rfl
  · next h =>
    obtain ⟨n, rfl⟩ : ∃ n : ℕ, k = -n := ⟨(-k).toNat, by omega⟩
    rw [decide_eq_true_iff, neg_neg, Int.toNat_natCast, zpow_neg, zpow_natCast, Nat.pow_eq,
      inv_mul_le_iff₀ (by positivity), mul_comm]
    exact_mod_cast Iff.rfl

theorem order_eq {num den : ℕ} (hnum : 0 < num) (hden : 0 < den) :
    order num den = Int.log 2 ((num : ℚ) / den) := by
  have hnum' : (0 : ℚ) < num := by exact_mod_cast hnum
  have hden' : (0 : ℚ) < den := by exact_mod_cast hden
  have hn₁ : (2 : ℚ) ^ num.log2 ≤ num := by exact_mod_cast Nat.log2_self_le hnum.ne'
  have hn₂ : (num : ℚ) < 2 ^ (num.log2 + 1) := by exact_mod_cast Nat.lt_log2_self
  have hd₁ : (2 : ℚ) ^ den.log2 ≤ den := by exact_mod_cast Nat.log2_self_le hden.ne'
  have hd₂ : (den : ℚ) < 2 ^ (den.log2 + 1) := by exact_mod_cast Nat.lt_log2_self
  have hlow : (2 : ℚ) ^ ((num.log2 : ℤ) - den.log2 - 1) ≤ num / den := by
    rw [le_div_iff₀ hden', sub_sub, zpow_sub₀ two_ne_zero, div_mul_eq_mul_div, div_le_iff₀ (by positivity)]
    calc (2 : ℚ) ^ (num.log2 : ℤ) * den ≤ num * den := by
          rw [zpow_natCast]
          gcongr
      _ ≤ num * 2 ^ ((den.log2 : ℤ) + 1) := by
          rw [← Nat.cast_succ, zpow_natCast]
          gcongr
  have hhigh : (num : ℚ) / den < 2 ^ ((num.log2 : ℤ) - den.log2 + 1) := by
    rw [div_lt_iff₀ hden', sub_add_eq_add_sub, zpow_sub₀ two_ne_zero, div_mul_eq_mul_div,
      lt_div_iff₀ (by positivity)]
    calc (num : ℚ) * 2 ^ (den.log2 : ℤ) ≤ num * den := by
          rw [zpow_natCast]
          gcongr
      _ < 2 ^ ((num.log2 : ℤ) + 1) * den := by
          rw [← Nat.cast_succ, zpow_natCast]
          gcongr
  rw [order]
  split
  · next h => exact (log_eq ((reaches_iff hden _).mp h) hhigh).symm
  · next h =>
    rw [reaches_iff hden, not_le] at h
    exact (log_eq hlow (by rwa [sub_add_cancel])).symm

/-- A fraction becomes the double with the mantissa that it is rounded to in units of the last place. -/
theorem nearestFraction_eq {num den n : ℕ} {e : ℤ} (hnum : 0 < num) (hden : 0 < den)
    (he : max (Int.log 2 ((num : ℚ) / den) - 52) leastExponent = e)
    (hn : RoundsTo ((num : ℚ) / den / 2 ^ e) n) :
    nearestFraction false num den = pack false n (e - leastExponent).toNat := by
  rw [nearestFraction]
  rw [order_eq hnum hden, he]
  congr 1
  split
  · next h =>
    obtain ⟨k, rfl⟩ := Int.eq_ofNat_of_zero_le h
    rw [Int.toNat_natCast, Nat.pow_eq]
    refine roundHalfEven_eq (by positivity) ?_
    rwa [Nat.cast_mul, Nat.cast_pow, Nat.cast_ofNat, ← div_div, ← zpow_natCast]
  · next h =>
    obtain ⟨k, rfl⟩ : ∃ k : ℕ, e = -k := ⟨(-e).toNat, by omega⟩
    rw [neg_neg, Int.toNat_natCast, Nat.pow_eq]
    refine roundHalfEven_eq hden ?_
    rwa [Nat.cast_mul, Nat.cast_pow, Nat.cast_ofNat, mul_div_right_comm, ← zpow_natCast, ← div_inv_eq_mul,
      ← zpow_neg]

/-! ## Words -/

/-- A number is rounded to the double with a given word. -/
def ReadsAs (r : ℚ) (word : ℕ) : Prop :=
  ∃ (n : ℕ) (e : ℤ), max (Int.log 2 r - 52) leastExponent = e ∧ RoundsTo (r / 2 ^ e) n ∧
    word = (e - leastExponent).toNat * 2 ^ 52 + n

section

variable {y : ℚ} {k : ℕ} (q : ℤ)

theorem log_mul (hlow : 2 ^ k ≤ y) (hhigh : y < 2 ^ (k + 1)) : Int.log 2 (y * 2 ^ q) = k + q := by
  apply log_eq
  · rw [zpow_add₀ two_ne_zero, zpow_natCast]
    gcongr
  · rw [add_right_comm, zpow_add₀ two_ne_zero, ← Nat.cast_succ, zpow_natCast]
    gcongr

theorem log_mul_lt (hpos : 0 < y) (hhigh : y < 2 ^ k) : Int.log 2 (y * 2 ^ q) < k + q := by
  rw [← Int.lt_zpow_iff_log_lt (by decide) (by positivity), Nat.cast_ofNat, zpow_add₀ two_ne_zero, zpow_natCast]
  gcongr

end

section

variable {word m steps : ℕ} {y : ℚ}

/-- In quarters of the last place, the interval is within two of the double. -/
theorem roundsTo_of_quarters {q : ℤ} (h : (interval m q).Holds 1 (4 * y)) : RoundsTo y m := by
  have hlow : 4 * (m : ℚ) - 2 ≤ (interval m q).low := by
    have hnat : 4 * m ≤ (interval m q).low + 2 := by
      rw [interval]
      simp only
      split <;> omega
    have hcast : 4 * (m : ℚ) ≤ (interval m q).low + 2 := by exact_mod_cast hnat
    linarith
  have hhigh : ((interval m q).high : ℚ) = 4 * m + 2 := by
    rw [interval]
    push_cast
    rfl
  have hclosed : (interval m q).closed = decide (m % 2 = 0) := rfl
  rw [Interval.Holds, hclosed, mul_one, mul_one, hhigh] at h
  rw [RoundsTo]
  by_cases heven : m % 2 = 0
  · rw [if_pos (by rw [heven]; decide)] at h
    rw [if_pos heven]
    constructor <;> linarith [h.1, h.2]
  · rw [if_neg (by rw [decide_eq_true_iff]; exact heven)] at h
    rw [if_neg heven]
    constructor <;> linarith [h.1, h.2]

theorem Parts.cast_lt (p : Parts word m steps) : (m : ℚ) ≤ 2 ^ 53 - 1 := by
  have hcast : ((m + 1 : ℕ) : ℚ) ≤ (2 ^ 53 : ℕ) := by exact_mod_cast p.lt
  push_cast at hcast
  linarith

/-- Next to zero the last place is always the least one. -/
theorem readsAs_least (p : Parts word m 0) (hy : RoundsTo y m) : ReadsAs (y * 2 ^ leastExponent) word := by
  have hone : (1 : ℚ) ≤ m := by exact_mod_cast p.pos
  have hhigh := log_mul_lt (y := y) (k := 53) leastExponent
    (by linarith [hy.bounds.1]) (by linarith [hy.bounds.2, p.cast_lt])
  refine ⟨m, leastExponent, by push_cast at hhigh; omega, ?_, ?_⟩
  · rwa [mul_div_cancel_right₀ _ (by positivity)]
  · rw [p.word_eq]
    omega

/-- From the order of the double on, the last place is that of the double. -/
theorem readsAs_same (p : Parts word m steps) (hy : RoundsTo y m) (hlow : 2 ^ 52 ≤ y) :
    ReadsAs (y * 2 ^ ((steps : ℤ) - 1074)) word := by
  have hleast : leastExponent = -1074 := rfl
  have hhigh : y < 2 ^ 53 := by linarith [hy.bounds.2, p.cast_lt]
  have hlog := log_mul ((steps : ℤ) - 1074) hlow hhigh
  refine ⟨m, steps - 1074, by rw [hlog, hleast]; omega, ?_, ?_⟩
  · rwa [mul_div_cancel_right₀ _ (by positivity)]
  · rw [p.word_eq, hleast]
    omega

/-- Just below a power of two the last place is half as large, and the mantissa twice as large. -/
theorem readsAs_below (p : Parts word (2 ^ 52) steps) (hsteps : steps ≠ 0) (hlow : 2 ^ 54 - 1 ≤ 4 * y)
    (hhigh : y < 2 ^ 52) : ReadsAs (y * 2 ^ ((steps : ℤ) - 1074)) word := by
  have hleast : leastExponent = -1074 := rfl
  have hlog := log_mul (k := 51) ((steps : ℤ) - 1074) (by norm_num at hlow ⊢; linarith) hhigh
  have htwice : y * 2 ^ ((steps : ℤ) - 1074) / 2 ^ ((steps : ℤ) - 1074 - 1) = 2 * y := by
    rw [zpow_sub₀ two_ne_zero _ 1]
    field_simp
  refine ⟨2 ^ 53, (steps : ℤ) - 1074 - 1, by rw [hlog, hleast]; omega, ?_, ?_⟩
  · rw [htwice, RoundsTo, if_pos (by decide)]
    push_cast
    constructor
    · norm_num at hlow ⊢
      linarith
    · linarith
  · rw [p.word_eq, hleast]
    omega

/-- A number in the interval of a double is rounded to the double. -/
theorem readsAs_of_quarters (p : Parts word m steps) (h : (interval m (steps - 1074)).Holds 1 (4 * y)) :
    ReadsAs (y * 2 ^ ((steps : ℤ) - 1074)) word := by
  have hy := roundsTo_of_quarters h
  obtain rfl | hsteps := eq_or_ne steps 0
  · exact readsAs_least p hy
  by_cases hbelow : y < 2 ^ 52
  · -- the decimal rounds up to the first mantissa with a leading bit
    have hpower : m = 2 ^ 52 := by
      by_contra hne
      have hleads := p.leads
      have hcast : ((2 ^ 52 + 1 : ℕ) : ℚ) ≤ m := by
        exact_mod_cast (show 2 ^ 52 + 1 ≤ m by omega)
      push_cast at hcast
      linarith [hy.bounds.1]
    subst hpower
    have hleast : leastExponent < steps - 1074 := by
      rw [show leastExponent = -1074 from rfl]
      omega
    have hnear : (interval (2 ^ 52) (steps - 1074)).low = 4 * 2 ^ 52 - 1 := by
      rw [interval, decide_eq_true ⟨rfl, hleast⟩]
      rfl
    have hlow := h.low_le
    rw [hnear, mul_one] at hlow
    exact readsAs_below p hsteps (by norm_num at hlow ⊢; exact hlow) hbelow
  · exact readsAs_same p hy (not_lt.mp hbelow)

end

/-! ## Back to the double -/

section

variable {word m steps : ℕ} {r : ℚ}

theorem readsAs_of_holds (p : Parts word m steps)
    (h : (interval m (steps - 1074)).Holds (2 ^ ((steps : ℤ) - 1074 - 2)) r) : ReadsAs r word := by
  have hpos : (0 : ℚ) < 4 / 2 ^ ((steps : ℤ) - 1074) := by positivity
  have hunit : (4 : ℚ) / 2 ^ ((steps : ℤ) - 1074) * 2 ^ ((steps : ℤ) - 1074 - 2) = 1 := by
    rw [zpow_sub₀ two_ne_zero _ 2]
    field_simp
    norm_num
  rw [← Interval.holds_mul_iff hpos, hunit, div_mul_eq_mul_div, mul_div_assoc] at h
  have hreads := readsAs_of_quarters p h
  rwa [div_mul_cancel₀ _ (by positivity)] at hreads

theorem bounds_of_holds (p : Parts word m steps)
    (h : (interval m (steps - 1074)).Holds (2 ^ ((steps : ℤ) - 1074 - 2)) r) :
    (2 : ℚ) ^ (-1075 : ℤ) ≤ r ∧ r ≤ 2 ^ (1024 : ℤ) := by
  obtain ⟨-, hpos, hlt, -, hsteps⟩ := p
  have hlow : (2 : ℚ) ≤ (interval m (steps - 1074)).low := by
    have hnat : 2 ≤ (interval m (steps - 1074)).low := by
      rw [interval]
      simp only
      split <;> omega
    exact_mod_cast hnat
  have hhigh : ((interval m (steps - 1074)).high : ℚ) ≤ 2 ^ 55 := by
    have hnat : (interval m (steps - 1074)).high ≤ 2 ^ 55 := by
      rw [interval]
      simp only
      omega
    exact_mod_cast hnat
  constructor
  · calc (2 : ℚ) ^ (-1075 : ℤ) = 2 * 2 ^ (-1076 : ℤ) := by
          rw [← zpow_one_add₀ two_ne_zero]
          rfl
      _ ≤ (interval m (steps - 1074)).low * 2 ^ ((steps : ℤ) - 1074 - 2) := by
          gcongr
          · exact one_le_two
          · omega
      _ ≤ r := h.low_le
  · calc r ≤ (interval m (steps - 1074)).high * 2 ^ ((steps : ℤ) - 1074 - 2) := h.le_high
      _ ≤ 2 ^ 55 * 2 ^ (969 : ℤ) := by
          gcongr
          · exact one_le_two
          · omega
      _ = 2 ^ (1024 : ℤ) := by
          rw [← zpow_natCast, ← zpow_add₀ two_ne_zero]
          rfl

theorem two_pow_lt_ten_pow : (2 : ℚ) ^ (1024 : ℤ) < 10 ^ (401 : ℤ) := by
  have hnat : 2 ^ 1024 < 10 ^ 401 := by decide +kernel
  exact_mod_cast hnat

theorem ten_pow_lt_two_pow : (10 : ℚ) ^ (-400 : ℤ) < 2 ^ (-1075 : ℤ) := by
  have hnat : 2 ^ 1075 < 10 ^ 400 := by decide +kernel
  rw [zpow_neg, zpow_neg, inv_lt_inv₀ (by positivity) (by positivity)]
  exact_mod_cast hnat

/-- A decimal that is neither too large nor too small is rounded as a fraction. -/
theorem exists_nearestFraction {digits : ℕ} {scale : ℤ} (hlow : (2 : ℚ) ^ (-1075 : ℤ) ≤ digits * 10 ^ scale)
    (hhigh : (digits : ℚ) * 10 ^ scale ≤ 2 ^ (1024 : ℤ)) : ∃ num den : ℕ, 0 < num ∧ 0 < den ∧
      (num : ℚ) / den = digits * 10 ^ scale ∧ nearest false digits scale = nearestFraction false num den := by
  have hdigits : 0 < digits := by
    by_contra hzero
    rw [Nat.eq_zero_of_not_pos hzero, Nat.cast_zero, zero_mul] at hlow
    exact absurd hlow (not_le.mpr (by positivity))
  have hone : (1 : ℚ) ≤ digits := by exact_mod_cast hdigits
  -- where `nearest` gives up on a decimal it lies outside the bounds
  have hscale : ¬ 400 < scale := by
    intro hlarge
    have hge : (10 : ℚ) ^ (401 : ℤ) ≤ digits * 10 ^ scale := by
      calc (10 : ℚ) ^ (401 : ℤ) ≤ 10 ^ scale := zpow_le_zpow_right₀ (by norm_num) (by omega)
        _ ≤ digits * 10 ^ scale := le_mul_of_one_le_left (by positivity) hone
    exact absurd (hge.trans hhigh) (not_le.mpr two_pow_lt_ten_pow)
  have hsmall : ¬ scale + digits.log2 < -400 := by
    intro hsmall
    have hlt : (digits : ℚ) * 10 ^ scale < 10 ^ (-400 : ℤ) := by
      have hlog : (digits : ℚ) < 10 ^ (digits.log2 + 1) := by
        calc (digits : ℚ) < 2 ^ (digits.log2 + 1) := by exact_mod_cast Nat.lt_log2_self
          _ ≤ 10 ^ (digits.log2 + 1) := by
            gcongr
            norm_num
      calc (digits : ℚ) * 10 ^ scale < 10 ^ (digits.log2 + 1) * 10 ^ scale := by gcongr
        _ = 10 ^ (((digits.log2 + 1 : ℕ) : ℤ) + scale) := by
            rw [zpow_add₀ (by norm_num), zpow_natCast]
        _ ≤ 10 ^ (-400 : ℤ) := zpow_le_zpow_right₀ (by norm_num) (by push_cast; omega)
    exact absurd (hlow.trans_lt hlt) (not_lt.mpr ten_pow_lt_two_pow.le)
  rw [nearest, if_neg hdigits.ne', if_neg hscale, if_neg hsmall]
  split
  · next h =>
    obtain ⟨k, rfl⟩ := Int.eq_ofNat_of_zero_le h
    refine ⟨_, _, ?_, Nat.one_pos, ?_, rfl⟩
    · exact Nat.mul_pos hdigits (Nat.pow_pos (by decide))
    · rw [Nat.cast_mul, Nat.pow_eq, Nat.cast_pow, Nat.cast_one, div_one, Int.toNat_natCast, zpow_natCast,
        Nat.cast_ofNat]
  · next h =>
    obtain ⟨k, rfl⟩ : ∃ k : ℕ, scale = -k := ⟨(-scale).toNat, by omega⟩
    refine ⟨_, _, hdigits, Nat.pow_pos (by decide), ?_, rfl⟩
    rw [Nat.cast_pow, neg_neg, Int.toNat_natCast, zpow_neg, zpow_natCast, Nat.cast_ofNat, div_eq_mul_inv]

/-- **A decimal in the interval of a double is read as the double.** -/
theorem nearest_of_holds {x : Float} (hx : Speed.admits x = true) (p : Parts x.toBits.toNat m steps)
    {digits : ℕ} {scale : ℤ} (h : (interval m (steps - 1074)).Holds (2 ^ ((steps : ℤ) - 1074 - 2))
      (digits * 10 ^ scale)) : nearest false digits scale = x := by
  obtain ⟨hlow, hhigh⟩ := bounds_of_holds p h
  obtain ⟨num, den, hnum, hden, hfraction, hnearest⟩ := exists_nearestFraction hlow hhigh
  rw [← hfraction] at h
  obtain ⟨n, e, he, hn, hword⟩ := readsAs_of_holds p h
  rw [hnearest, nearestFraction_eq hnum hden he hn]
  exact pack_of_word hx hword

end

end BlockPlayer.Double
