import BlockPlayer.Json.Quoted

/-!
# Texts between quotes read back

Every text is read as it was written, whatever characters it holds. Each character is written as one
piece: as itself, behind a backslash, or as the number of a 16-bit unit (`pieceOf`). What is written for
it is scanned to this piece (`scan_encodeChar`), and the pieces join to the text (`join_pieceOf`).
-/

namespace BlockPlayer.Json

/-- The piece that is written for a character. -/
def pieceOf (c : Char) : Piece :=
  if shortEscape? c = none ∧ c.toNat < 32 then .unit c.toNat else .char c

/-! ## Escapes -/

theorem digit?_hexDigit {n : Nat} (h : n < 16) : Hex.digit? (hexDigit n) = some n := by
  have hall : ∀ m ∈ List.range 16, Hex.digit? (hexDigit m) = some m := by decide
  exact hall n (List.mem_range.mpr h)

/-- The letter behind the backslash is read as the character that it stands for. -/
theorem unescapeShort?_of_shortEscape? {c e : Char} (h : shortEscape? c = some e) :
    e ≠ 'u' ∧ unescapeShort? e = some c := by
  unfold shortEscape? at h
  repeat' split at h
  all_goals
    cases h
    try (subst c; decide)

theorem unescape_of_shortEscape? {c e : Char} (h : shortEscape? c = some e) (rest : List Char) :
    unescape (e :: rest) = .ok (.char c, rest) := by
  obtain ⟨hu, hc⟩ := unescapeShort?_of_shortEscape? h
  rw [unescape, if_neg hu, hc]

theorem length_le_byteCount (cs : List Char) : cs.length ≤ byteCount cs := by
  induction cs with
  | nil => exact Nat.le_refl 0
  | cons c cs ih =>
    have hc := c.utf8Size_pos
    show cs.length + 1 ≤ c.utf8Size + byteCount cs
    omega

/-- The four digits of a small number. -/
theorem unescape_unit {n : Nat} (h : n < 32) (rest : List Char) :
    unescape ('u' :: '0' :: '0' :: hexDigit (n / 16) :: hexDigit (n % 16) :: rest)
      = .ok (.unit n, rest) := by
  have hlen := length_le_byteCount ('0' :: '0' :: hexDigit (n / 16) :: hexDigit (n % 16) :: rest)
  have hbytes : ¬ byteCount ('0' :: '0' :: hexDigit (n / 16) :: hexDigit (n % 16) :: rest) < 4 := by
    simp only [List.length_cons] at hlen
    omega
  have hnumber : Hex.number? ['0', '0', hexDigit (n / 16), hexDigit (n % 16)] = some n := by
    have h0 : Hex.digit? '0' = some 0 := by decide
    have h1 := digit?_hexDigit (show n / 16 < 16 by omega)
    have h2 := digit?_hexDigit (show n % 16 < 16 by omega)
    simp only [Hex.number?, List.mapM_cons, List.mapM_nil, h0, h1, h2, Option.pure_def,
      Option.bind_eq_bind, Option.bind_some, Option.map_some, List.foldl_cons, List.foldl_nil]
    congr 1
    omega
  have htake : ('0' :: '0' :: hexDigit (n / 16) :: hexDigit (n % 16) :: rest).take 4
      = ['0', '0', hexDigit (n / 16), hexDigit (n % 16)] := rfl
  rw [unescape, if_pos rfl, if_neg hbytes, htake, hnumber]
  rfl

/-! ## Scanning what was written -/

theorem scan_quote (rest : List Char) : scan ('"' :: rest) = ([], .closed rest) := by
  rw [scan, if_pos rfl]

theorem scan_backslash {rest after : List Char} {p : Piece} (h : unescape rest = .ok (p, after)) :
    scan ('\\' :: rest) = prepend p (scan after) := by
  rw [scan, if_neg (by decide), if_pos rfl]
  split
  · next he => rw [h] at he; cases he
  · next he =>
    rw [h] at he
    cases he
    rfl

theorem scan_plain {c : Char} (hq : c ≠ '"') (hb : c ≠ '\\') (hc : ¬ c.toNat < 32)
    (rest : List Char) : scan (c :: rest) = prepend (.char c) (scan rest) := by
  rw [scan, if_neg hq, if_neg hb, if_neg hc]

/-- What is written for a character is scanned to one piece. -/
theorem scan_encodeChar (c : Char) (rest : List Char) :
    scan (encodeChar c ++ rest) = prepend (pieceOf c) (scan rest) := by
  cases hs : shortEscape? c with
  | some e =>
    have hpiece : pieceOf c = .char c := by rw [pieceOf, hs, if_neg (by simp)]
    have hchar : encodeChar c = ['\\', e] := by rw [encodeChar, hs]
    rw [hpiece, hchar]
    exact scan_backslash (unescape_of_shortEscape? hs rest)
  | none =>
    by_cases hc : c.toNat < 32
    · have hpiece : pieceOf c = .unit c.toNat := by rw [pieceOf, if_pos ⟨hs, hc⟩]
      have hchar : encodeChar c
          = ['\\', 'u', '0', '0', hexDigit (c.toNat / 16), hexDigit (c.toNat % 16)] := by
        rw [encodeChar, hs]
        exact if_pos hc
      rw [hpiece, hchar]
      exact scan_backslash (unescape_unit hc rest)
    · have hpiece : pieceOf c = .char c := by rw [pieceOf, if_neg fun h => hc h.2]
      have hchar : encodeChar c = [c] := by
        rw [encodeChar, hs]
        exact if_neg hc
      -- the two characters that a scan stops at have escapes
      have hq : c ≠ '"' := by rintro rfl; cases hs
      have hb : c ≠ '\\' := by rintro rfl; cases hs
      rw [hpiece, hchar]
      exact scan_plain hq hb hc rest

theorem scan_encode (s rest : List Char) :
    scan (encode s ++ '"' :: rest) = (s.map pieceOf, .closed rest) := by
  induction s with
  | nil => exact scan_quote rest
  | cons c s ih =>
    rw [encode, List.flatMap_cons, List.append_assoc, scan_encodeChar,
      show s.flatMap encodeChar = encode s from rfl, ih]
    rfl

/-- **The pieces of a text make the text.** -/
theorem join_pieceOf (s : List Char) : join none (s.map pieceOf) = .ok s := by
  induction s with
  | nil => rfl
  | cons c s ih =>
    rw [List.map_cons, pieceOf]
    split
    · next h =>
      -- a control character is no half of another
      have hlow : isLowUnit c.toNat = false := by simp [isLowUnit]; omega
      have hhigh : isHighUnit c.toNat = false := by simp [isHighUnit]; omega
      unfold join
      simp only [hlow, hhigh, Bool.false_eq_true, if_false, ih, Except.map, Char.ofNat_toNat]
    · rw [join, ih]
      rfl

end BlockPlayer.Json
