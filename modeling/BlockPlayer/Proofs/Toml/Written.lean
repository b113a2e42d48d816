import BlockPlayer.Proofs.Toml.Words
import BlockPlayer.Toml.Statement

/-!
# TOML values that were written

What is written for a value is read as the value, whatever follows, as long as the line or the item ends
there. Values are scalars and lists of scalars; texts in them need no escapes.

Main statements: `value?_scalar` and `value?_write`.
-/

namespace BlockPlayer.Toml

/-! ## Characters -/

theorem notMem_of_all {p : Char → Bool} {c : Char} (hc : p c = true) {l : List Char}
    (hl : (l.all fun d => !p d) = true) : c ∉ l := by
  intro hmem
  have hnot := List.all_eq_true.mp hl c hmem
  rw [hc] at hnot
  cases hnot

/-- The characters that stand between statements. -/
def gaps : List Char := [' ', '\t', '#', '\n', '\r']

/-- Reading goes on at a character that is none of those that stand between statements. -/
theorem dropBlanks_of_notMem {c : Char} (hc : c ∉ gaps) (rest : List Char) :
    dropBlanks (c :: rest) = c :: rest := by
  rw [dropBlanks, List.dropWhile_cons_of_neg]
  simp only [gaps, List.mem_cons, not_or] at hc
  simp [isBlank, hc.1, hc.2.1]

theorem dropLines_of_notMem {c : Char} (hc : c ∉ gaps) (rest : List Char) (fuel : ℕ) :
    dropLines fuel (c :: rest) = c :: rest := by
  cases fuel with
  | zero => rfl
  | succ fuel =>
    have hblanks := dropBlanks_of_notMem hc rest
    simp only [gaps, List.mem_cons, not_or] at hc
    have hcomment : dropComment (c :: rest) = c :: rest :=
      dropComment.eq_2 _ fun _ h => hc.2.2.1 (List.head_eq_of_cons_eq h)
    have hnewline : newline? (c :: rest) = none :=
      newline?.eq_3 _ (fun _ h => hc.2.2.2.1 (List.head_eq_of_cons_eq h))
        fun _ h => hc.2.2.2.2.1 (List.head_eq_of_cons_eq h)
    rw [dropLines, hblanks, hcomment, hnewline]

theorem dropLines_break (rest : List Char) (fuel : ℕ) :
    dropLines (fuel + 1) ('\n' :: rest) = dropLines fuel rest := rfl

theorem dropLines_blank (rest : List Char) (fuel : ℕ) :
    dropLines (fuel + 1) (' ' :: rest) = dropLines (fuel + 1) rest := rfl

/-- What stands behind a value. -/
def Ends (rest : List Char) : Prop := ∃ c t, rest = c :: t ∧ c ∈ [',', ']', '\n']

/-! ## Scalars -/

/-- A scalar that is written without escapes and read back. -/
inductive Scalar : Toml → Prop
  | text {s : String} (h : ∀ c ∈ s.toList, isPlain c = true ∧ c ≠ '"' ∧ c ≠ '\\') : Scalar (.text s)
  | whole (n : ℕ) : Scalar (.whole n)
  | double {x : Float} (h : Speed.admits x = true) : Scalar (.double x)
  | bool (b : Bool) : Scalar (.bool b)

/-- The characters of a word, which is read as a value. -/
structure Word (cs : List Char) (v : Toml) : Prop where
  ne_nil : cs ≠ []
  chars : ∀ c ∈ cs, isWordChar c = true
  reads : word? cs = some v

theorem isWordChar_of_isDigit {c : Char} (hc : c.isDigit = true) : isWordChar c = true := by
  simp [isWordChar, Char.isAlphanum, hc]

theorem takeWord_append {cs rest : List Char} (hcs : ∀ c ∈ cs, isWordChar c = true) (hrest : Ends rest) :
    takeWord (cs ++ rest) = (cs, rest) := by
  obtain ⟨c, t, rfl, hc⟩ := hrest
  have hstop : ¬ isWordChar c = true := fun hword => notMem_of_all hword rfl hc
  have hblank : c ≠ ' ' := by
    rintro rfl
    exact absurd hc (by decide)
  rw [takeWord, List.takeWhile_append_of_pos hcs, List.takeWhile_cons_of_neg hstop,
    List.dropWhile_append_of_pos hcs, List.dropWhile_cons_of_neg hstop, List.append_nil]
  split
  · next heq => exact absurd (List.head_eq_of_cons_eq heq) hblank
  · rfl

theorem value?_word {cs rest : List Char} {v : Toml} (h : Word cs v) (hrest : Ends rest) (fuel depth : ℕ) :
    value? (fuel + 1) depth (cs ++ rest) = some (.value v, rest) := by
  have htake := takeWord_append h.chars hrest
  obtain ⟨c, t, rfl⟩ := List.exists_cons_of_ne_nil h.ne_nil
  have hc := h.chars c List.mem_cons_self
  have hnot : ∀ d : Char, isWordChar d = false → ∀ l, c :: t ++ rest ≠ d :: l := by
    intro d hd l heq
    rw [List.head_eq_of_cons_eq heq, hd] at hc
    cases hc
  rw [value?.eq_6 depth _ fuel (hnot _ rfl) (hnot _ rfl) (hnot _ rfl) (hnot _ rfl), htake, h.reads]
  rfl

theorem basic_append {s : List Char} (hs : ∀ c ∈ s, isPlain c = true ∧ c ≠ '"' ∧ c ≠ '\\')
    (rest : List Char) : basic (s ++ '"' :: rest) = some (s, rest) := by
  induction s with
  | nil => rfl
  | cons c s ih =>
    obtain ⟨hplain, hquote, hslash⟩ := hs c List.mem_cons_self
    rw [List.cons_append, basic.eq_6 _ _ hquote (fun _ _ _ _ _ h => absurd h hslash)
      (fun _ _ _ _ _ _ _ _ _ h => absurd h hslash) (fun _ _ h => absurd h hslash),
      ih fun d hd => hs d (List.mem_cons_of_mem _ hd), hplain, bne_iff_ne.mpr hslash]
    rfl

theorem value?_text {s : String} (hs : ∀ c ∈ s.toList, isPlain c = true ∧ c ≠ '"' ∧ c ≠ '\\')
    {rest : List Char} (hrest : Ends rest) (fuel depth : ℕ) :
    value? (fuel + 1) depth ('"' :: (s.toList ++ '"' :: rest)) = some (.value (.text s), rest) := by
  have hquotes : ∀ l, s.toList ++ '"' :: rest = '"' :: '"' :: l → False := by
    intro l heq
    cases hchars : s.toList with
    | nil =>
      -- only what follows could be a third quote
      rw [hchars, List.nil_append] at heq
      obtain ⟨c, t, rfl, hc⟩ := hrest
      have hquote : c = '"' := List.head_eq_of_cons_eq (List.tail_eq_of_cons_eq heq)
      rw [hquote] at hc
      exact absurd hc (by decide)
    | cons c t =>
      rw [hchars] at heq hs
      exact (hs c List.mem_cons_self).2.1 (List.head_eq_of_cons_eq heq)
  rw [value?.eq_4, string?.eq_3 _ hquotes, basic_append hs]
  show some (Term.value (text (String.ofList s.toList)), rest) = _
  rw [String.ofList_toList]

/-- The text of a scalar is a word, or a text between quotes. -/
theorem word_of_scalar {v : Toml} (hv : Scalar v) {cs : List Char} (hcs : scalar? v = some cs) :
    Word cs v ∨ ∃ s : String, v = .text s ∧ cs = '"' :: (s.toList ++ ['"']) := by
  cases hv with
  | @text s hs =>
    cases hcs
    exact .inr ⟨s, rfl, rfl⟩
  | whole n =>
    rw [scalar?] at hcs
    split at hcs
    · next hrange =>
      cases hcs
      have hchars : (toString (n : ℤ)).toList = Nat.toDigits 10 n := by
        show (Int.repr n).toList = _
        rw [Int.repr_eq_if, if_pos (by omega), Int.toNat_natCast, Nat.toList_repr]
      rw [hchars]
      exact .inl ⟨Nat.toDigits_ne_nil, fun c hc => isWordChar_of_isDigit (Numeral.isDigit_of_mem_toDigits hc),
        word?_whole hrange.2⟩
    · cases hcs
  | @double x hx =>
    cases hcs
    obtain ⟨whole, fraction, htext, hruns, -⟩ := Layout.exists_write hx
    refine .inl ⟨?_, ?_, word?_double hx⟩
    · rw [htext]
      exact List.append_ne_nil_of_right_ne_nil _ (List.cons_ne_nil _ _)
    · intro c hc
      rw [htext, List.mem_append, List.mem_cons] at hc
      obtain hc | rfl | hc := hc
      · exact isWordChar_of_isDigit (hruns.whole_digits c hc)
      · rfl
      · exact isWordChar_of_isDigit (hruns.fraction_digits c hc)
  | bool b =>
    cases hcs
    refine .inl ⟨?_, List.all_eq_true.mp ?_, word?_bool b⟩ <;> cases b <;> decide

/-- **What is written for a scalar is read as the scalar.** -/
theorem value?_scalar {v : Toml} (hv : Scalar v) {cs rest : List Char} (hcs : scalar? v = some cs)
    (hrest : Ends rest) (fuel depth : ℕ) :
    value? (fuel + 1) depth (cs ++ rest) = some (.value v, rest) := by
  obtain hword | ⟨s, rfl, rfl⟩ := word_of_scalar hv hcs
  · exact value?_word hword hrest fuel depth
  · cases hv with
    | text hs =>
      rw [List.cons_append, List.append_assoc]
      exact value?_text hs hrest fuel depth

/-- The text of a scalar begins with a character of words or with a quote. -/
theorem exists_cons_of_scalar {v : Toml} (hv : Scalar v) {cs : List Char} (hcs : scalar? v = some cs) :
    ∃ c t, cs = c :: t ∧ (isWordChar c = true ∨ c = '"') := by
  obtain hword | ⟨s, -, rfl⟩ := word_of_scalar hv hcs
  · obtain ⟨c, t, rfl⟩ := List.exists_cons_of_ne_nil hword.ne_nil
    exact ⟨c, t, rfl, .inl (hword.chars c List.mem_cons_self)⟩
  · exact ⟨_, _, rfl, .inr rfl⟩

/-! ## Lists -/

theorem notMem_gaps_of_scalar {c : Char} (hc : isWordChar c = true ∨ c = '"') : c ∉ gaps := by
  obtain hc | rfl := hc
  · exact notMem_of_all hc rfl
  · decide

theorem ne_bracket_of_scalar {v : Toml} (hv : Scalar v) {item : List Char} (hitem : scalar? v = some item)
    (rest l : List Char) : item ++ rest ≠ ']' :: l := by
  intro heq
  obtain ⟨c, t, rfl, hc⟩ := exists_cons_of_scalar hv hitem
  rw [List.head_eq_of_cons_eq heq] at hc
  exact absurd hc (by decide)

/-- An item with a comma behind it is taken off a list. -/
theorem items?_cons {v : Toml} (hv : Scalar v) {item : List Char} (hitem : scalar? v = some item)
    (fuel depth : ℕ) (rest : List Char) :
    items? (fuel + 2) depth (item ++ ',' :: rest)
      = (items? (fuel + 1) depth (dropLines rest.length rest)).map fun (items, rest) =>
        (.value v :: items, rest) := by
  have hends : Ends (',' :: rest) := ⟨_, _, rfl, by decide⟩
  rw [items?.eq_3 _ _ _ (ne_bracket_of_scalar hv hitem _), value?_scalar hv hitem hends fuel depth]
  simp only [Option.bind_eq_bind, Option.bind_some, dropLines_of_notMem (c := ',') (by decide)]
  cases items? (fuel + 1) depth (dropLines rest.length rest) <;> rfl

/-- The only item of a list needs no comma. -/
theorem items?_last {v : Toml} (hv : Scalar v) {item : List Char} (hitem : scalar? v = some item)
    (fuel depth : ℕ) (rest : List Char) :
    items? (fuel + 2) depth (item ++ ']' :: rest) = some ([.value v], rest) := by
  have hends : Ends (']' :: rest) := ⟨_, _, rfl, by decide⟩
  rw [items?.eq_3 _ _ _ (ne_bracket_of_scalar hv hitem _), value?_scalar hv hitem hends fuel depth]
  simp only [Option.bind_eq_bind, Option.bind_some, dropLines_of_notMem (c := ']') (by decide)]

/-- The items of a list that is written on several lines are read up to its end. -/
theorem items?_writeItems {vs : List Toml} (hvs : ∀ v ∈ vs, Scalar v) (depth : ℕ) (rest : List Char) :
    ∀ {cs : List Char}, writeItems? vs = some cs → ∀ {n fuel : ℕ}, 0 < n → vs.length < fuel →
      items? fuel depth (dropLines n (cs ++ ']' :: rest)) = some (vs.map .value, rest) := by
  induction vs with
  | nil =>
    intro cs hcs n fuel hn hfuel
    cases hcs
    obtain ⟨fuel, rfl⟩ := Nat.exists_eq_add_of_lt hfuel
    rw [List.nil_append, dropLines_of_notMem (by decide), List.length_nil, Nat.zero_add, items?.eq_2]
    rfl
  | cons v vs ih =>
    intro cs hcs n fuel hn hfuel
    obtain ⟨item, hitem, hcs⟩ := Option.bind_eq_some_iff.mp hcs
    obtain ⟨more, hmore, hcs⟩ := Option.bind_eq_some_iff.mp hcs
    cases hcs
    have hv := hvs v List.mem_cons_self
    rw [List.length_cons] at hfuel
    obtain ⟨n, rfl⟩ := Nat.exists_eq_succ_of_ne_zero hn.ne'
    obtain ⟨fuel, rfl⟩ : ∃ k, fuel = k + 2 := ⟨fuel - 2, by omega⟩
    -- blanks in front of the item take no fuel
    have hstart : dropLines (n + 1) ("    ".toList ++ item ++ ",\n".toList ++ more ++ ']' :: rest)
        = item ++ ',' :: '\n' :: (more ++ ']' :: rest) := by
      obtain ⟨c, t, rfl, hc⟩ := exists_cons_of_scalar hv hitem
      have hindent : "    ".toList = [' ', ' ', ' ', ' '] := rfl
      have hcomma : ",\n".toList = [',', '\n'] := rfl
      simp only [hindent, hcomma, List.cons_append, List.nil_append, List.append_assoc, dropLines_blank]
      exact dropLines_of_notMem (notMem_gaps_of_scalar hc) _ _
    rw [hstart, items?_cons hv hitem, List.length_cons, dropLines_break,
      ih (fun w hw => hvs w (List.mem_cons_of_mem _ hw)) hmore (by simp) (by omega)]
    rfl

/-! ## Values -/

/-- A value that is written and read back: a scalar, or a list of scalars. -/
inductive Printable : Toml → Prop
  | scalar {v : Toml} (h : Scalar v) : Printable v
  | array {vs : List Toml} (h : ∀ v ∈ vs, Scalar v) : Printable (.array vs)

/-- A value as a term, in which lists are taken apart. -/
def Term.ofToml : Toml → Term
  | .array vs => .array (vs.map .value)
  | v => .value v

theorem length_le_of_writeItems {vs : List Toml} : ∀ {cs : List Char}, writeItems? vs = some cs →
    vs.length ≤ cs.length := by
  induction vs with
  | nil =>
    intro cs hcs
    cases hcs
    exact Nat.le_refl _
  | cons v vs ih =>
    intro cs hcs
    obtain ⟨item, -, hcs⟩ := Option.bind_eq_some_iff.mp hcs
    obtain ⟨more, hmore, hcs⟩ := Option.bind_eq_some_iff.mp hcs
    cases hcs
    have hlength := ih hmore
    simp only [List.length_append, List.length_cons]
    have hcomma : ",\n".toList.length = 2 := rfl
    omega

/-- **What is written for a value is read as the value.** -/
theorem value?_write {v : Toml} (hv : Printable v) {cs : List Char} (hcs : write? v = some cs)
    {rest : List Char} (hrest : Ends rest) {fuel : ℕ} (hfuel : cs.length + 1 < fuel) :
    value? fuel 0 (cs ++ rest) = some (Term.ofToml v, rest) := by
  obtain ⟨fuel, rfl⟩ := Nat.exists_eq_succ_of_ne_zero (by omega : fuel ≠ 0)
  cases hv with
  | scalar h =>
    have hscalar : write? v = scalar? v ∧ Term.ofToml v = .value v := by
      cases h <;> exact ⟨rfl, rfl⟩
    rw [hscalar.1] at hcs
    rw [value?_scalar h hcs hrest, hscalar.2]
  | @array vs h =>
    match vs, h with
    | [], _ =>
      cases hcs
      obtain ⟨fuel, rfl⟩ := Nat.exists_eq_succ_of_ne_zero (by simp at hfuel; omega : fuel ≠ 0)
      show value? (fuel + 2) 0 ('[' :: ']' :: rest) = _
      rw [value?.eq_2, if_pos (by decide), dropLines_of_notMem (by decide), items?.eq_2]
      rfl
    | [v], h =>
      obtain ⟨item, hitem, rfl⟩ := Option.map_eq_some_iff.mp hcs
      have hv := h v List.mem_cons_self
      obtain ⟨c, t, rfl, hc⟩ := exists_cons_of_scalar hv hitem
      obtain ⟨fuel, rfl⟩ : ∃ k, fuel = k + 2 := ⟨fuel - 2, by simp at hfuel; omega⟩
      rw [List.cons_append, List.append_assoc, List.singleton_append, value?.eq_2, if_pos (by decide),
        List.cons_append, dropLines_of_notMem (notMem_gaps_of_scalar hc), ← List.cons_append,
        items?_last hv hitem]
      rfl
    | v :: w :: vs, h =>
      obtain ⟨items, hitems, rfl⟩ := Option.map_eq_some_iff.mp hcs
      have hlength := length_le_of_writeItems hitems
      have hopen : "[\n".toList = ['[', '\n'] := rfl
      simp only [hopen, List.cons_append, List.nil_append, List.append_assoc, List.length_cons] at hfuel ⊢
      rw [value?.eq_2, if_pos (by decide), List.length_cons, dropLines_break,
        items?_writeItems h 1 rest hitems (by simp) (by simp at hfuel; omega)]
      rfl

/-- The text of a value begins where reading goes on. -/
theorem exists_cons_of_write {v : Toml} (hv : Printable v) {cs : List Char} (hcs : write? v = some cs) :
    ∃ c t, cs = c :: t ∧ c ∉ gaps := by
  cases hv with
  | scalar h =>
    have hscalar : write? v = scalar? v := by
      cases h <;> rfl
    rw [hscalar] at hcs
    obtain ⟨c, t, rfl, hc⟩ := exists_cons_of_scalar h hcs
    exact ⟨c, t, rfl, notMem_gaps_of_scalar hc⟩
  | @array vs _ =>
    match vs with
    | [] =>
      cases hcs
      exact ⟨_, _, rfl, by decide⟩
    | [_] =>
      obtain ⟨_, -, rfl⟩ := Option.map_eq_some_iff.mp hcs
      exact ⟨_, _, rfl, by decide⟩
    | _ :: _ :: _ =>
      obtain ⟨_, -, rfl⟩ := Option.map_eq_some_iff.mp hcs
      exact ⟨_, _, rfl, by decide⟩

end BlockPlayer.Toml
