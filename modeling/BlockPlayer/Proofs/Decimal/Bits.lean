import Mathlib.Algebra.Group.Nat.Defs
import BlockPlayer.Speed

/-!
# The bits of a multiplier

A multiplier is admitted as a speed if it is finite and above zero. The logic takes doubles apart into
fields of bits; here the word of an admitted multiplier is written as a number, `steps · 2 ^ 52 + mantissa`
(`Parts`). With the word in this form it can be told what the multiplier stands for (`ofFloat_of_parts`),
and the multiplier is packed again from any mantissa and steps that come to the same word (`pack_of_word`).

An admitted multiplier equals exactly itself, so comparing doubles as numbers and comparing their bits come
to the same for speeds (`beq_iff_eq_of_admits`).
-/

namespace BlockPlayer.Double

open Float.Model Float.Model.UnpackedFloat

/-! ## Fields of a word -/

/-- The bits of a double. -/
abbrev Word : Type := BitVec Format.binary64.numBits

theorem toNat_unpackMantissa (b : Word) : (unpackMantissa b).toNat = b.toNat % 2 ^ 52 := by
  simp [unpackMantissa]

theorem toNat_unpackExponent (b : Word) :
    (unpackExponent b).toNat = b.toNat / 2 ^ 52 % 2 ^ 11 := by
  simp [unpackExponent, BitVec.extractLsb_toNat, Nat.shiftRight_eq_div_pow]

theorem toNat_unpackSign (b : Word) : (unpackSign b).toNat = b.toNat / 2 ^ 63 % 2 := by
  show (b.extractLsb 63 63).toNat = b.toNat / 2 ^ 63 % 2
  simp [BitVec.extractLsb_toNat, Nat.shiftRight_eq_div_pow]

theorem toNat_unpackSign_of_positive {b : Word} (h : Sign.ofBitVec (unpackSign b) = .positive) :
    (unpackSign b).toNat = 0 := by
  rw [Sign.ofBitVec] at h
  split at h
  · next hzero =>
    rw [hzero]
    rfl
  · cases h

/-- The bit that is not stored of a mantissa. -/
theorem toNat_one_append (v : BitVec 52) : (1#1 ++ v).toNat = 2 ^ 52 + v.toNat := by
  rw [BitVec.toNat_append, ← Nat.shiftLeft_add_eq_or_of_lt v.isLt]
  simp [Nat.shiftLeft_eq]

/-! ## Mantissa and steps -/

/--
The word of the double `m · 2 ^ (steps - 1074)`. The leading bit of a mantissa carries into the exponent, so
the exponent of the word is one more than `steps` unless the mantissa is too small for a leading bit.
-/
structure Parts (word m steps : Nat) : Prop where
  word_eq : word = steps * 2 ^ 52 + m
  pos : 0 < m
  lt : m < 2 ^ 53
  /-- Only numbers next to zero have no leading bit. -/
  leads : steps = 0 ∨ 2 ^ 52 ≤ m
  steps_lt : steps < 2046

/-- The fields tell infinities, zeros, numbers next to zero, and other numbers apart. -/
theorem unpack_eq (b : Word) : UnpackedFloat.unpack Format.binary64 b =
    if unpackExponent b = -1#11 then
      if unpackMantissa b = 0#52 then .infinity (.ofBitVec (unpackSign b)) else .notANumber
    else if unpackExponent b = 0#11 then
      if h : unpackMantissa b = 0#52 then .zero (.ofBitVec (unpackSign b))
      else .finite (.ofBitVec (unpackSign b)) (unpackMantissa b).toNat
        ((unpackExponent b).toNat - (1023 + 52) + 1)
        (Nat.pos_of_ne_zero fun hn => h (BitVec.eq_of_toNat_eq hn))
    else .finite (.ofBitVec (unpackSign b)) (1#1 ++ unpackMantissa b).toNat
      ((unpackExponent b).toNat - (1023 + 52)) (by rw [toNat_one_append]; omega) := rfl

theorem parts_of_unpack {b : Word} {m : Nat} {e : Int} {h : 0 < m}
    (hb : UnpackedFloat.unpack Format.binary64 b = .finite .positive m e h) :
    ∃ steps : Nat, Parts b.toNat m steps ∧ e = steps - 1074 := by
  have hm := toNat_unpackMantissa b
  have he := toNat_unpackExponent b
  have hs := toNat_unpackSign b
  have hlt : b.toNat < 2 ^ 64 := b.isLt
  rw [unpack_eq] at hb
  by_cases hinfinite : unpackExponent b = -1#11
  · rw [if_pos hinfinite] at hb
    by_cases hzero : unpackMantissa b = 0#52
    · rw [if_pos hzero] at hb
      cases hb
    · rw [if_neg hzero] at hb
      cases hb
  rw [if_neg hinfinite] at hb
  simp [← BitVec.toNat_inj, he] at hinfinite
  by_cases hsmall : unpackExponent b = 0#11
  · -- next to zero
    rw [if_pos hsmall] at hb
    simp [← BitVec.toNat_inj, he] at hsmall
    by_cases hzero : unpackMantissa b = 0#52
    · rw [dif_pos hzero] at hb
      cases hb
    · rw [dif_neg hzero] at hb
      injection hb with hsign hmantissa hexponent
      have hpositive := toNat_unpackSign_of_positive hsign
      exact ⟨0, ⟨by omega, h, by omega, .inl rfl, by decide⟩, by omega⟩
  · rw [if_neg hsmall] at hb
    simp [← BitVec.toNat_inj, he] at hsmall
    injection hb with hsign hmantissa hexponent
    have hpositive := toNat_unpackSign_of_positive hsign
    rw [toNat_one_append] at hmantissa
    exact ⟨b.toNat / 2 ^ 52 % 2 ^ 11 - 1,
      ⟨by omega, h, by omega, .inr (by omega), by omega⟩, by omega⟩

/-! ## Admitted multipliers -/

theorem admits_iff_unpack (x : Float) :
    Speed.admits x = true ↔ ∃ m e h, x.toModel.unpack = .finite .positive m e h := by
  have hzero : (0 : Float).toModel.unpack = .zero .positive := rfl
  have hlt : 0 < x ↔ UnpackedFloat.lt (.zero .positive) x.toModel.unpack = true := by
    show decide ((0 : Float).toModel.unpack.lt x.toModel.unpack = true) = true ↔ _
    rw [hzero, decide_eq_true_iff]
  have hfinite : x.isFinite = x.toModel.unpack.isFinite := rfl
  rw [Speed.admits, Bool.and_eq_true, decide_eq_true_iff, hlt, hfinite]
  cases x.toModel.unpack with
  | infinity s | notANumber =>
    refine iff_of_false ?_ ?_
    · rintro ⟨hfinite, -⟩
      cases hfinite
    · rintro ⟨_, _, _, heq⟩
      cases heq
  | zero s =>
    refine iff_of_false ?_ ?_
    · rintro ⟨-, hlt⟩
      cases hlt
    · rintro ⟨_, _, _, heq⟩
      cases heq
  | finite s m e h =>
    cases s with
    | positive => exact iff_of_true ⟨rfl, rfl⟩ ⟨m, e, h, rfl⟩
    | negative =>
      refine iff_of_false ?_ ?_
      · rintro ⟨-, hlt⟩
        cases hlt
      · rintro ⟨_, _, _, heq⟩
        cases heq

/-- An admitted multiplier has a mantissa and steps. -/
theorem exists_parts {x : Float} (hx : Speed.admits x = true) :
    ∃ m steps, Parts x.toBits.toNat m steps := by
  obtain ⟨m, e, h, hu⟩ := (admits_iff_unpack x).mp hx
  obtain ⟨steps, p, -⟩ := parts_of_unpack hu
  exact ⟨m, steps, p⟩

/-- **What a double with given parts stands for.** -/
theorem ofFloat_of_parts {x : Float} {m steps : Nat} (p : Parts x.toBits.toNat m steps) :
    ofFloat x = .finite false m (steps - 1074) := by
  obtain ⟨hword, hpos, hlt, hleads, hsteps⟩ := p
  have hlead : leadingBit = 2 ^ 52 := rfl
  have hsign : signBit = 2 ^ 63 := rfl
  simp only [ofFloat, hlead, hsign, leastExponent, hword]
  rcases hleads with rfl | hleads
  · by_cases hm : m < 2 ^ 52
    · rw [if_neg (by omega), if_pos (by omega)]
      simp
      omega
    · rw [if_neg (by omega), if_neg (by omega)]
      simp
      omega
  · rw [if_neg (by omega), if_neg (by omega)]
    simp
    omega

/-! ## Words that come back -/

theorem toNat_packComponents (e : BitVec 11) (m : BitVec 52) :
    (packComponents Format.binary64 .positive e m).toNat = e.toNat * 2 ^ 52 + m.toNat := by
  show ((0#1 ++ e : BitVec 12) ++ m).toNat = e.toNat * 2 ^ 52 + m.toNat
  rw [BitVec.toNat_append, BitVec.toNat_append, ← Nat.shiftLeft_add_eq_or_of_lt m.isLt]
  simp [Nat.shiftLeft_eq]

/-- What is too large becomes infinity, and a number without a leading bit has the least exponent. -/
theorem pack_positive (m : Nat) (e : Int) (h : 0 < m) :
    UnpackedFloat.pack Format.binary64 (.finite .positive m e h) =
      if 2 ^ 11 ≤ (e + 1023 + 52).toNat + 1 then packedInfinity Format.binary64 .positive
      else if m.log2 + 1 = 53 then
        packComponents Format.binary64 .positive (BitVec.ofNat 11 (e + 1023 + 52).toNat) (BitVec.ofNat 52 m)
      else packComponents Format.binary64 .positive 0#11 (BitVec.ofNat 52 m) := rfl

/-- A mantissa and steps are packed into their word. -/
theorem Parts.toNat_pack {word m steps : Nat} (p : Parts word m steps) (h : 0 < m) :
    (UnpackedFloat.pack Format.binary64 (.finite .positive m (steps - 1074) h)).toNat = word := by
  obtain ⟨hword, -, hlt, hleads, hsteps⟩ := p
  have hexponent : ((steps : Int) - 1074 + 1023 + 52).toNat = steps + 1 := by omega
  rw [pack_positive, hexponent, if_neg (by omega)]
  by_cases hlead : 2 ^ 52 ≤ m
  · have hlog : m.log2 = 52 := (Nat.log2_eq_iff (by omega)).mpr ⟨hlead, hlt⟩
    rw [if_pos (by omega), toNat_packComponents, BitVec.toNat_ofNat, BitVec.toNat_ofNat]
    omega
  · have hlog : m.log2 < 52 := (Nat.log2_lt (by omega)).mpr (by omega)
    rw [if_neg (by omega), toNat_packComponents, BitVec.toNat_ofNat, BitVec.toNat_ofNat]
    omega

/-- Doubles with the same word are the same. -/
theorem eq_of_toNat_toBits {x y : Float} (h : x.toBits.toNat = y.toBits.toNat) : x = y := by
  obtain ⟨⟨bits, _⟩⟩ := x
  obtain ⟨⟨bits', _⟩⟩ := y
  obtain rfl : bits = bits' := UInt64.toNat_inj.mp h
  rfl

theorem ofBits_toBits_of_admits {x : Float} (hx : Speed.admits x = true) :
    Float.ofBits x.toBits = x := by
  obtain ⟨m, e, h, hu⟩ := (admits_iff_unpack x).mp hx
  obtain ⟨steps, p, rfl⟩ := parts_of_unpack hu
  refine eq_of_toNat_toBits ?_
  show (UnpackedFloat.pack Format.binary64 x.toModel.unpack).toNat = x.toBits.toNat
  rw [hu, p.toNat_pack]
  rfl

/-- A number above zero is equal to none but that of the same mantissa and exponent. -/
theorem beq_positive_iff {m : Nat} {e : Int} {h : 0 < m} {u : UnpackedFloat} :
    (UnpackedFloat.finite .positive m e h).beq u = true ↔ u = .finite .positive m e h := by
  constructor
  · intro heq
    cases u with
    | infinity s => cases s <;> cases heq
    | notANumber => cases heq
    | zero s => cases heq
    | finite s m' e' h' =>
      cases s with
      | negative => cases heq
      | positive =>
        have hcompare : some ((compare e e').then (compare m m')) = some Ordering.eq := eq_of_beq heq
        obtain ⟨he, hm⟩ := Ordering.then_eq_eq.mp (Option.some.inj hcompare)
        obtain rfl := Int.compare_eq_eq.mp he
        obtain rfl := Nat.compare_eq_eq.mp hm
        rfl
  · rintro rfl
    have hcompare : (compare e e).then (compare m m) = .eq :=
      Ordering.then_eq_eq.mpr ⟨Int.compare_eq_eq.mpr rfl, Nat.compare_eq_eq.mpr rfl⟩
    show (some ((compare e e).then (compare m m)) == some Ordering.eq) = true
    rw [hcompare]
    rfl

/-- **A multiplier is packed from any mantissa and steps that come to its word.** -/
theorem pack_of_word {x : Float} {m steps : Nat} (hx : Speed.admits x = true)
    (h : x.toBits.toNat = steps * 2 ^ 52 + m) : pack false m steps = x := by
  have hlead : leadingBit = 2 ^ 52 := rfl
  have hle : steps * leadingBit + m ≤ 2047 * leadingBit := by
    obtain ⟨m', steps', p⟩ := exists_parts hx
    have hword := p.word_eq
    have hlt := p.lt
    have hsteps := p.steps_lt
    rw [hlead]
    omega
  have hbits : UInt64.ofNat (0 + (steps * leadingBit + m)) = x.toBits := by
    rw [← UInt64.toNat_inj, UInt64.toNat_ofNat', Nat.zero_add, hlead, ← h]
    exact Nat.mod_eq_of_lt x.toBits.toNat_lt
  rw [pack]
  simp only [Bool.false_eq_true, if_false]
  rw [Nat.min_eq_left hle, hbits, ofBits_toBits_of_admits hx]

/-- **A speed is equal, as a number, to itself alone.** -/
theorem beq_iff_eq_of_admits {x y : Float} (hx : Speed.admits x = true) : (x == y) = true ↔ x = y := by
  obtain ⟨m, e, h, hu⟩ := (admits_iff_unpack x).mp hx
  have hbeq : (x == y) = x.toModel.unpack.beq y.toModel.unpack := rfl
  rw [hbeq, hu, beq_positive_iff]
  constructor
  · intro hv
    obtain ⟨steps, p, hsteps⟩ := parts_of_unpack hu
    obtain ⟨steps', p', hsteps'⟩ := parts_of_unpack hv
    obtain rfl : steps = steps' := by omega
    exact eq_of_toNat_toBits (p.word_eq.trans p'.word_eq.symm)
  · rintro rfl
    exact hu

end BlockPlayer.Double
