import Mathlib.Data.Rat.Cast.Defs
import BlockPlayer.Decimal.Numeral
import BlockPlayer.Proofs.Decimal.Nearest

/-!
# Digits of a double

The text of a double in TOML is two runs of digits with a point between them. What stands for the number are the
digits of both together, and the length of the second. No zero is written in front of the first run, unless
it is the only digit there.

Main statement: the text of a speed stands for a decimal that is read as the speed (`exists_write`).
-/

namespace BlockPlayer

/-! ## Digits of whole numbers -/

namespace Numeral

theorem ofDigits_toDigits (n : ℕ) : ofDigits (Nat.toDigits 10 n) = n := Nat.ofDigitChars_ten_toDigits

theorem ofDigits_zeros_append (k : ℕ) (cs : List Char) :
    ofDigits (List.replicate k '0' ++ cs) = ofDigits cs := by
  induction k with
  | zero => rfl
  | succ k ih => exact ih

theorem ofDigits_append_zeros (cs : List Char) (k : ℕ) :
    ofDigits (cs ++ List.replicate k '0') = ofDigits cs * 10 ^ k := by
  induction k with
  | zero => rw [List.replicate_zero, List.append_nil, pow_zero, mul_one]
  | succ k ih =>
    rw [List.replicate_succ', ← List.append_assoc, ofDigits, List.foldl_append]
    show 10 * ofDigits (cs ++ List.replicate k '0') + ('0'.toNat - '0'.toNat) = _
    rw [ih, pow_succ, Nat.sub_self]
    ring

theorem isDigit_of_mem_toDigits {n : ℕ} {c : Char} (h : c ∈ Nat.toDigits 10 n) : c.isDigit = true :=
  Nat.isDigit_of_mem_toDigits (by decide) (by decide) h

theorem isDigit_of_mem_zeros {k : ℕ} {c : Char} (h : c ∈ List.replicate k '0') : c.isDigit = true := by
  rw [List.eq_of_mem_replicate h]
  rfl

/-- No zero is written in front of other digits. -/
theorem head?_toDigits {n : ℕ} (h : n ≠ 0) : (Nat.toDigits 10 n).head? ≠ some '0' := by
  induction n using Nat.strong_induction_on with
  | h n ih =>
    by_cases hn : n < 10
    · rw [Nat.toDigits_of_lt_base hn]
      have hdigit : ∀ k < 10, k ≠ 0 → [Nat.digitChar k].head? ≠ some '0' := by decide
      exact hdigit n hn h
    · rw [Nat.toDigits_of_base_le (by decide) (by omega), List.head?_append_of_ne_nil _ Nat.toDigits_ne_nil]
      exact ih (n / 10) (by omega) (by omega)

end Numeral

/-! ## Two runs of digits -/

/-- Two runs of digits, none of them empty, and no zero in front of the first one that is not needed. -/
structure Runs (whole fraction : List Char) : Prop where
  whole_digits : ∀ c ∈ whole, c.isDigit = true
  fraction_digits : ∀ c ∈ fraction, c.isDigit = true
  whole_ne_nil : whole ≠ []
  fraction_ne_nil : fraction ≠ []
  leads : whole.length = 1 ∨ whole.head? ≠ some '0'

namespace Layout

/-- Two runs of digits with a point between them stand for the number with the digits `ds` and a scale. -/
structure StandFor (whole fraction ds : List Char) (scale : ℤ) : Prop where
  runs : Runs whole fraction
  value : (Numeral.ofDigits (whole ++ fraction) : ℚ) * 10 ^ (-(fraction.length : ℤ))
    = Numeral.ofDigits ds * 10 ^ scale

/-! ## The place of the point -/

section Point

variable {ds : List Char} {scale : ℤ} (hall : ∀ c ∈ ds, c.isDigit = true) (hnil : ds ≠ [])
include hall hnil

/-- All digits stand behind the point. -/
theorem standFor_behind (hpoint : (ds.length : ℤ) + scale ≤ 0) :
    StandFor ['0'] (List.replicate (-((ds.length : ℤ) + scale)).toNat '0' ++ ds) ds scale where
  runs := by
    refine ⟨by simp, ?_, by simp, by simp [hnil], .inl rfl⟩
    intro c hc
    exact (List.mem_append.mp hc).elim Numeral.isDigit_of_mem_zeros (hall c)
  value := by
    have hdropped : Numeral.ofDigits (['0'] ++ (List.replicate (-((ds.length : ℤ) + scale)).toNat '0' ++ ds))
        = Numeral.ofDigits ds := Numeral.ofDigits_zeros_append (_ + 1) ds
    rw [hdropped, List.length_append, List.length_replicate]
    congr 2
    push_cast
    omega

/-- The point stands between the digits. -/
theorem standFor_between (hleads : ds.head? ≠ some '0') (hpoint : ¬ (ds.length : ℤ) + scale ≤ 0)
    (hlt : (ds.length : ℤ) + scale < ds.length) :
    StandFor (ds.take ((ds.length : ℤ) + scale).toNat) (ds.drop ((ds.length : ℤ) + scale).toNat)
      ds scale where
  runs := by
    refine ⟨fun c hc => hall c (List.mem_of_mem_take hc), fun c hc => hall c (List.mem_of_mem_drop hc),
      ?_, ?_, .inr ?_⟩
    · rw [Ne, List.take_eq_nil_iff]
      rintro (h | h)
      · omega
      · exact hnil h
    · rw [Ne, List.drop_eq_nil_iff]
      omega
    · rwa [List.head?_take, if_neg (by omega)]
  value := by
    rw [List.take_append_drop, List.length_drop]
    congr 2
    omega

/-- Zeros stand between the digits and the point. -/
theorem standFor_zeros (hleads : ds.head? ≠ some '0') (hge : ¬ (ds.length : ℤ) + scale < ds.length) :
    StandFor (ds ++ List.replicate (((ds.length : ℤ) + scale).toNat - ds.length) '0') ['0']
      ds scale where
  runs := by
    refine ⟨?_, by simp, by simp [hnil], by simp, .inr ?_⟩
    · intro c hc
      exact (List.mem_append.mp hc).elim (hall c) Numeral.isDigit_of_mem_zeros
    · rwa [List.head?_append_of_ne_nil _ hnil]
  value := by
    obtain ⟨k, rfl⟩ : ∃ k : ℕ, scale = k := ⟨scale.toNat, by omega⟩
    have hk : ((ds.length : ℤ) + k).toNat - ds.length = k := by omega
    have hjoined : ds ++ List.replicate k '0' ++ ['0'] = ds ++ List.replicate (k + 1) '0' := by
      rw [List.append_assoc, List.replicate_succ']
    rw [hk, hjoined, Numeral.ofDigits_append_zeros]
    push_cast
    rw [List.length_singleton, Nat.cast_one, zpow_neg, zpow_one, zpow_natCast, pow_succ]
    field_simp

end Point

/-- A decimal is written as two runs of digits that stand for it. -/
theorem exists_decimal {digits : ℕ} (hdigits : digits ≠ 0) (scale : ℤ) : ∃ whole fraction,
    toml.decimal ⟨digits, scale⟩ = whole ++ '.' :: fraction ∧ Runs whole fraction ∧
      (Numeral.ofDigits (whole ++ fraction) : ℚ) * 10 ^ (-(fraction.length : ℤ)) = digits * 10 ^ scale := by
  have hall : ∀ c ∈ Nat.toDigits 10 digits, c.isDigit = true := fun _ => Numeral.isDigit_of_mem_toDigits
  have hnil : Nat.toDigits 10 digits ≠ [] := Nat.toDigits_ne_nil
  have hleads := Numeral.head?_toDigits hdigits
  obtain ⟨whole, fraction, htext, hstand⟩ : ∃ whole fraction,
      placePoint true (Nat.toDigits 10 digits) (((Nat.toDigits 10 digits).length : ℤ) + scale)
        = whole ++ '.' :: fraction ∧ StandFor whole fraction (Nat.toDigits 10 digits) scale := by
    rw [placePoint]
    split
    · next hpoint => exact ⟨_, _, rfl, standFor_behind hall hnil hpoint⟩
    · next hpoint =>
      split
      · next hlt => exact ⟨_, _, rfl, standFor_between hall hnil hleads hpoint hlt⟩
      · next hge => exact ⟨_, _, rfl, standFor_zeros hall hnil hleads hge⟩
  refine ⟨whole, fraction, htext, hstand.runs, ?_⟩
  rw [hstand.value, Numeral.ofDigits_toDigits]

/-- **A speed is written as two runs of digits that are read as the speed.** -/
theorem exists_write {x : Float} (hx : Speed.admits x = true) : ∃ whole fraction,
    (toml.write x).toList = whole ++ '.' :: fraction ∧ Runs whole fraction ∧
      Double.nearest false (Numeral.ofDigits (whole ++ fraction)) (-(fraction.length : ℤ)) = x := by
  obtain ⟨m, steps, p⟩ := Double.exists_parts hx
  have hholds := Double.holds_shortest toml.tie p.pos (steps - 1074)
  have hdigits : (Double.shortest toml.tie m (steps - 1074)).digits ≠ 0 := by
    intro hzero
    have hlow := (Double.bounds_of_holds p hholds).1
    rw [hzero, Nat.cast_zero, zero_mul] at hlow
    exact absurd hlow (not_le.mpr (by positivity))
  obtain ⟨whole, fraction, htext, hruns, hvalue⟩ :=
    exists_decimal hdigits (Double.shortest toml.tie m (steps - 1074)).scale
  refine ⟨whole, fraction, ?_, hruns, Double.nearest_of_holds hx p ?_⟩
  · rw [write, Double.ofFloat_of_parts p]
    simp only [Bool.false_eq_true, if_false, if_neg p.pos.ne', String.toList_ofList]
    exact htext
  · rw [hvalue]
    exact hholds

end Layout

end BlockPlayer
