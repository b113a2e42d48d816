import Mathlib.Data.List.TakeWhile
import BlockPlayer.Proofs.Decimal.Digits
import BlockPlayer.Toml.Printer
import BlockPlayer.Toml.Scalar

/-!
# TOML words that were written

Numbers and truth values are written as words that are read as them. A word of digits is tried as a date and
as a name first, and a word with a point also as a whole number; all these fail, each for the sake of a character
that is there or is not.

Main statements: `word?_whole`, `word?_double` and `word?_bool`.
-/

namespace BlockPlayer.Toml

/-! ## Digits -/

theorem ne_of_isDigit {c d : Char} (hc : c.isDigit = true) (hd : d.isDigit = false) : c ≠ d := by
  rintro rfl
  rw [hc] at hd
  cases hd

theorem digits?_eq {cs : List Char} (hcs : ∀ c ∈ cs, c.isDigit = true) (hne : cs ≠ []) :
    digits? Char.isDigit cs = some cs := by
  induction cs with
  | nil => exact absurd rfl hne
  | cons c rest ih =>
    have hc := hcs c List.mem_cons_self
    have hrest : ∀ d ∈ rest, d.isDigit = true := fun d hd => hcs d (List.mem_cons_of_mem _ hd)
    cases rest with
    | nil => simp [digits?, hc]
    | cons d rest =>
      have hd : d ≠ '_' := ne_of_isDigit (hrest d List.mem_cons_self) rfl
      rw [digits?.eq_4 Char.isDigit c (d :: rest) (by simp) (by simp [hd]), if_pos hc,
        ih hrest (List.cons_ne_nil _ _)]
      rfl

/-- Nothing but digits and underscores makes up digits. -/
theorem digits?_eq_none {cs : List Char} {c : Char} (hmem : c ∈ cs) (hdigit : c.isDigit = false)
    (hmark : c ≠ '_') : digits? Char.isDigit cs = none := by
  induction cs using digits?.induct Char.isDigit with
  | case1 => cases hmem
  | case2 d hd =>
    rw [List.mem_singleton] at hmem
    exact absurd hmem.symm (ne_of_isDigit hd hdigit)
  | case3 d hd => rw [digits?, if_neg hd]
  | case4 d rest hd ih =>
    have hrest : c ∈ rest := by
      simpa [hmark, (ne_of_isDigit hd hdigit).symm] using hmem
    rw [digits?, if_pos hd, ih hrest]
    rfl
  | case5 d rest hd => rw [digits?, if_neg hd]
  | case6 d rest hnil hmark' hd ih =>
    have hrest : c ∈ rest := by
      simpa [(ne_of_isDigit hd hdigit).symm] using hmem
    rw [digits?.eq_4 _ _ _ hnil hmark', if_pos hd, ih hrest]
    rfl
  | case7 d rest hnil hmark' hd => rw [digits?.eq_4 _ _ _ hnil hmark', if_neg hd]

theorem wholeDigits?_eq {cs : List Char} (hcs : ∀ c ∈ cs, c.isDigit = true) (hne : cs ≠ [])
    (hleads : cs.length = 1 ∨ cs.head? ≠ some '0') : wholeDigits? cs = some cs := by
  rw [wholeDigits?, digits?_eq hcs hne, Option.filter_some, if_pos]
  rw [Bool.or_eq_true, beq_iff_eq, bne_iff_ne]
  exact hleads

/-! ## What words of digits are not -/

theorem takeSign_of_isDigit {c : Char} (hc : c.isDigit = true) (rest : List Char) :
    Numeral.takeSign (c :: rest) = (false, c :: rest) := by
  rw [Numeral.takeSign.eq_3 _ (fun _ h => ?_) (fun _ h => ?_)]
  · cases h
    cases hc
  · cases h
    cases hc

theorem isDate_eq_false {cs : List Char} (hdash : '-' ∉ cs) (hcolon : ':' ∉ cs) (k : Calendar) :
    isDate k cs = false := by
  have hdate : takeDate cs = none := takeDate.eq_2 cs fun _ _ _ _ _ _ _ _ _ h => hdash (by simp [h])
  have htime : takeTime k.lastHour cs = none :=
    takeTime.eq_2 _ cs fun _ _ _ _ _ _ _ h => hcolon (by simp [h])
  rw [isDate, hdate, htime]
  rfl

theorem named?_of_isDigit {c : Char} (hc : c.isDigit = true) (rest : List Char) :
    named? (c :: rest) = none := by
  rw [named?, takeSign_of_isDigit hc]
  have hi : c ≠ 'i' := ne_of_isDigit hc rfl
  have hn : c ≠ 'n' := ne_of_isDigit hc rfl
  simp [hi, hn]

/-- A word that begins with a digit and is no date is a number. -/
theorem word?_of_isDigit {c : Char} {rest : List Char} (hc : c.isDigit = true) (hdash : '-' ∉ rest)
    (hcolon : ':' ∉ rest) : word? (c :: rest) = (whole? (c :: rest)).or (decimal? (c :: rest)) := by
  have ht : c ≠ 't' := ne_of_isDigit hc rfl
  have hf : c ≠ 'f' := ne_of_isDigit hc rfl
  have hdash' : c ≠ '-' := ne_of_isDigit hc rfl
  have hcolon' : c ≠ ':' := ne_of_isDigit hc rfl
  have hdate : isDate .words (c :: rest) = false :=
    isDate_eq_false (by simp [hdash, hdash'.symm]) (by simp [hcolon, hcolon'.symm]) _
  rw [word?, if_neg (by simp [ht]), if_neg (by simp [hf]), hdate, if_neg (by decide),
    named?_of_isDigit hc, Option.none_or]

/-- A number without a letter for its base is a whole number if it consists of digits. -/
theorem whole?_of_isDigit {c : Char} {rest : List Char} (hc : c.isDigit = true)
    (hbase : 'x' ∉ rest ∧ 'o' ∉ rest ∧ 'b' ∉ rest) :
    whole? (c :: rest) = (wholeDigits? (c :: rest)).bind fun ds => inRange? (Numeral.ofDigits ds) := by
  rw [whole?.eq_4 _ (fun _ h => ?_) (fun _ h => ?_) (fun _ h => ?_), takeSign_of_isDigit hc]
  · rfl
  · cases h
    exact hbase.1 List.mem_cons_self
  · cases h
    exact hbase.2.1 List.mem_cons_self
  · cases h
    exact hbase.2.2 List.mem_cons_self

/-! ## Words that are read -/

theorem notMem_of_isDigit {cs : List Char} (hcs : ∀ c ∈ cs, c.isDigit = true) {c : Char}
    (hc : c.isDigit = false) : c ∉ cs := fun hmem => ne_of_isDigit (hcs c hmem) hc rfl

theorem word?_bool (b : Bool) : word? (if b then "true" else "false").toList = some (.bool b) := by
  cases b
  · rw [word?, if_neg (by decide), if_pos (by rfl)]
  · rw [word?, if_pos (by rfl)]

/-- **The digits of a whole number are read as the number**, if it is in range. -/
theorem word?_whole {n : ℕ} (h : (n : ℤ) ≤ Numeral.highest) :
    word? (Nat.toDigits 10 n) = some (.whole n) := by
  have hdigits : ∀ c ∈ Nat.toDigits 10 n, c.isDigit = true := fun _ => Numeral.isDigit_of_mem_toDigits
  have hleads : (Nat.toDigits 10 n).length = 1 ∨ (Nat.toDigits 10 n).head? ≠ some '0' := by
    by_cases hn : n = 0
    · subst hn
      exact .inl rfl
    · exact .inr (Numeral.head?_toDigits hn)
  have hwhole := wholeDigits?_eq hdigits Nat.toDigits_ne_nil hleads
  have hvalue := Numeral.ofDigits_toDigits n
  obtain ⟨c, rest, hcons⟩ := List.exists_cons_of_ne_nil (Nat.toDigits_ne_nil (n := n) (b := 10))
  rw [hcons] at hdigits hwhole hvalue ⊢
  have hrest : ∀ d ∈ rest, d.isDigit = true := fun d hd => hdigits d (List.mem_cons_of_mem _ hd)
  have hc := hdigits c List.mem_cons_self
  have hlow : Numeral.lowest ≤ n := by
    rw [Numeral.lowest]
    omega
  rw [word?_of_isDigit hc (notMem_of_isDigit hrest rfl) (notMem_of_isDigit hrest rfl),
    whole?_of_isDigit hc ⟨notMem_of_isDigit hrest rfl, notMem_of_isDigit hrest rfl,
      notMem_of_isDigit hrest rfl⟩, hwhole, Option.bind_some, hvalue, inRange?, if_pos ⟨hlow, h⟩]
  rfl

/-! ## Doubles -/

section

variable {whole fraction : List Char}

/-- Two runs of digits with a point between them are a number in all grammars. -/
theorem decimal?_runs (h : Runs whole fraction) : Numeral.decimal? false (whole ++ '.' :: fraction)
    = some (Double.nearest false (Numeral.ofDigits (whole ++ fraction)) (-(fraction.length : ℤ))) := by
  have hwhole : (whole ++ '.' :: fraction).takeWhile Char.isDigit = whole := by
    rw [List.takeWhile_append_of_pos h.whole_digits, List.takeWhile_cons_of_neg (by decide), List.append_nil]
  have hpoint : (whole ++ '.' :: fraction).dropWhile Char.isDigit = '.' :: fraction := by
    rw [List.dropWhile_append_of_pos h.whole_digits, List.dropWhile_cons_of_neg (by decide)]
  have hfraction : fraction.takeWhile Char.isDigit = fraction :=
    List.takeWhile_eq_self_iff.mpr h.fraction_digits
  have hend : fraction.dropWhile Char.isDigit = [] := List.dropWhile_eq_nil_iff.mpr h.fraction_digits
  rw [Numeral.decimal?, hwhole, hpoint]
  simp only [hfraction, hend, if_neg (fun hnil => h.whole_ne_nil (And.left hnil))]
  simp [Numeral.exponent?]

/-- Two runs of digits with a point between them are read as the double next to the decimal. -/
theorem word?_runs (h : Runs whole fraction) {x : Float} (hx : Numeral.decimal? false (whole ++ '.' :: fraction) = some x)
    (hfinite : x ≠ Double.packInfinite false) : word? (whole ++ '.' :: fraction) = some (.double x) := by
  have hspaced : ∀ c : Char, c.isDigit = true → isSpaced c = true := by
    intro c hc
    rw [isSpaced, hc]
    rfl
  have hwhole : (whole ++ '.' :: fraction).takeWhile isSpaced = whole := by
    rw [List.takeWhile_append_of_pos fun c hc => hspaced c (h.whole_digits c hc),
      List.takeWhile_cons_of_neg (by decide), List.append_nil]
  have hpoint : (whole ++ '.' :: fraction).dropWhile isSpaced = '.' :: fraction := by
    rw [List.dropWhile_append_of_pos fun c hc => hspaced c (h.whole_digits c hc),
      List.dropWhile_cons_of_neg (by decide)]
  have hfraction : fraction? ('.' :: fraction) = some ('.' :: fraction, []) := by
    rw [fraction?, List.takeWhile_eq_self_iff.mpr fun c hc => hspaced c (h.fraction_digits c hc),
      List.dropWhile_eq_nil_iff.mpr fun c hc => hspaced c (h.fraction_digits c hc),
      digits?_eq h.fraction_digits h.fraction_ne_nil]
    rfl
  have hdigits := wholeDigits?_eq h.whole_digits h.whole_ne_nil h.leads
  obtain ⟨c, rest, rfl⟩ := List.exists_cons_of_ne_nil h.whole_ne_nil
  have hc := h.whole_digits c List.mem_cons_self
  have hrest : ∀ {d : Char}, d.isDigit = false → d ≠ '.' → d ∉ rest ++ '.' :: fraction := by
    intro d hd hne hmem
    rw [List.mem_append, List.mem_cons] at hmem
    obtain hmem | rfl | hmem := hmem
    · exact notMem_of_isDigit h.whole_digits hd (List.mem_cons_of_mem _ hmem)
    · exact hne rfl
    · exact notMem_of_isDigit h.fraction_digits hd hmem
  -- the point keeps the word from being a whole number
  have hnowhole : wholeDigits? (c :: (rest ++ '.' :: fraction)) = none := by
    rw [wholeDigits?, digits?_eq_none (c := '.') (by simp) rfl (by decide)]
    rfl
  rw [List.cons_append] at hx hwhole hpoint ⊢
  rw [word?_of_isDigit hc (hrest rfl (by decide)) (hrest rfl (by decide)),
    whole?_of_isDigit hc ⟨hrest rfl (by decide), hrest rfl (by decide), hrest rfl (by decide)⟩, hnowhole,
    Option.bind_none, Option.none_or, decimal?, takeSign_of_isDigit hc]
  simp only [hwhole, hpoint, hdigits, hfraction, Option.bind_eq_bind, Option.bind_some, exponent?,
    List.append_nil, List.cons_append, hx, hfinite]
  rfl

/-- **The text of a speed is read as the speed.** -/
theorem word?_double {x : Float} (hx : Speed.admits x = true) :
    word? (Layout.toml.write x).toList = some (.double x) := by
  obtain ⟨whole, fraction, htext, hruns, hvalue⟩ := Layout.exists_write hx
  rw [htext]
  refine word?_runs hruns ?_ ?_
  · rw [decimal?_runs hruns, hvalue]
  · rintro rfl
    exact absurd hx (by decide)

end

end BlockPlayer.Toml
