import BlockPlayer.Json.Error
import BlockPlayer.Decimal.Numeral

/-!
# Numbers in JSON

A number is `[-] digits [. digits] [e [sign] digits]`, where no digit may follow a leading zero. One
without point and exponent that fits 64 bits is a whole number; all others are doubles, and so is
`-0`.

## The value of a double

The leading digits count as far as they fit 64 bits; the others only move the point. The number they
make is taken as a double and multiplied or divided by the power of ten that is left, as a double too.
A power beyond `10 ^ 308` is taken in several steps. The result is close to the decimal, and not
always the nearest double.
-/

namespace BlockPlayer.Json

/-! ## Value -/

/-- Takes digits as long as the number they make fits 64 bits. -/
def fitDigits : Nat → List Char → Nat × List Char
  | n, [] => (n, [])
  | n, c :: rest =>
    let m := 10 * n + (c.toNat - '0'.toNat)
    if m < Double.wordEnd then fitDigits m rest else (n, c :: rest)

/--
Multiplies a double by `10 ^ e`, in steps of at most `10 ^ 308`; `steps` bounds their number. There is
no answer if the product is too large for a double.
-/
def scaleByTen : Nat → Float → Int → Option Float
  | 0, _, _ => none
  | steps + 1, x, e =>
    if e.natAbs ≤ 308 then
      let power := Double.nearest false 1 (e.natAbs : Int)
      if 0 ≤ e then
        let y := x * power
        if y.isInf then none else some y
      else some (x / power)
    else if x == 0 then some x
    else if 0 ≤ e then none
    else scaleByTen steps (x / Double.nearest false 1 308) (e + 308)

/-- The double of a number that is not whole, from its digits and its exponent. -/
def doubleOf? (negative : Bool) (whole fraction : List Char) (exponent : Int) : Option Float := do
  let (n, wholeLeft) := fitDigits 0 whole
  let (m, fractionLeft) := fitDigits n fraction
  let moved : Int := wholeLeft.length - (fraction.length - fractionLeft.length : Nat)
  let e := exponent + moved
  let x ← scaleByTen (e.natAbs / 308 + 1) (Double.ofNat m) e
  some (if negative then -x else x)

/-- A number without point and exponent. -/
def wholeOf? (negative : Bool) (digits : List Char) : Option JsonNumber :=
  let n := Numeral.ofDigits digits
  if negative then
    if 0 < n ∧ n ≤ Nat.pow 2 63 then some (.whole (-n)) else (doubleOf? true digits [] 0).map .double
  else if n < Double.wordEnd then some (.whole n) else (doubleOf? false digits [] 0).map .double

/-! ## Grammar -/

/-- Takes at least one digit. -/
def someDigits (s : List Char) : Except Fault (List Char × List Char) :=
  match s with
  | [] => .error .truncated
  | c :: _ =>
    if c.isDigit then .ok (s.takeWhile Char.isDigit, s.dropWhile Char.isDigit)
    else .error .malformed

/-- Takes the digits before the point: a zero alone, or digits that start with another. -/
def wholeDigits (s : List Char) : Except Fault (List Char × List Char) := do
  let (digits, rest) ← someDigits s
  match digits with
  | '0' :: _ :: _ => .error .malformed
  | _ => .ok (digits, rest)

/-- Takes a point with the digits behind it, if there is one. -/
def fractionDigits (s : List Char) : Except Fault (Option (List Char) × List Char) :=
  match s with
  | '.' :: rest => (someDigits rest).map fun (digits, rest) => (some digits, rest)
  | _ => .ok (none, s)

/-- Takes an exponent, if there is one. -/
def exponentPart (s : List Char) : Except Fault (Option Int × List Char) :=
  match s with
  | c :: rest =>
    if c = 'e' ∨ c = 'E' then
      let (negative, rest) := Numeral.takeSign rest
      (someDigits rest).map fun (digits, rest) =>
        let n : Int := Numeral.ofDigits digits
        (some (if negative then -n else n), rest)
    else .ok (none, s)
  | [] => .ok (none, s)

/--
Reads a number. It has no value if it is too large for a double; whether that matters is up to the
reader.
-/
def scanNumber (s : List Char) : Except Fault (Option JsonNumber × List Char) := do
  let (negative, unsigned) := match s with
    | '-' :: rest => (true, rest)
    | _ => (false, s)
  let (whole, rest) ← wholeDigits unsigned
  let (fraction, rest) ← fractionDigits rest
  let (exponent, rest) ← exponentPart rest
  let value := match fraction, exponent with
    | none, none => wholeOf? negative whole
    | _, _ => (doubleOf? negative whole (fraction.getD []) (exponent.getD 0)).map .double
  .ok (value, rest)

/-! ## Reading a number uses up characters -/

theorem length_lt_of_someDigits {s digits rest : List Char}
    (h : someDigits s = .ok (digits, rest)) : rest.length < s.length := by
  unfold someDigits at h
  split at h
  · cases h
  · split at h
    · next c t hc =>
      cases h
      rw [List.dropWhile_cons_of_pos hc]
      have := (List.dropWhile_sublist (p := Char.isDigit) (l := t)).length_le
      simp only [List.length_cons]
      omega
    · cases h

theorem length_lt_of_wholeDigits {s digits rest : List Char}
    (h : wholeDigits s = .ok (digits, rest)) : rest.length < s.length := by
  unfold wholeDigits at h
  cases hd : someDigits s with
  | error f => rw [hd] at h; cases h
  | ok r =>
    obtain ⟨ds, r⟩ := r
    rw [hd] at h
    have hr : r = rest := by
      simp only [bind, Except.bind] at h
      split at h <;> cases h
      rfl
    exact hr ▸ length_lt_of_someDigits hd

theorem length_le_of_fractionDigits {s rest : List Char} {digits : Option (List Char)}
    (h : fractionDigits s = .ok (digits, rest)) : rest.length ≤ s.length := by
  unfold fractionDigits at h
  split at h
  · next t =>
    cases hd : someDigits t with
    | error f => rw [hd] at h; cases h
    | ok r =>
      rw [hd] at h
      cases h
      have := length_lt_of_someDigits hd
      simp only [List.length_cons]
      omega
  · cases h
    exact Nat.le_refl _

theorem length_takeSign_le (s : List Char) : (Numeral.takeSign s).2.length ≤ s.length := by
  unfold Numeral.takeSign
  split <;> simp

theorem length_le_of_exponentPart {s rest : List Char} {e : Option Int}
    (h : exponentPart s = .ok (e, rest)) : rest.length ≤ s.length := by
  unfold exponentPart at h
  split at h
  · next c t =>
    split at h
    · cases hd : someDigits (Numeral.takeSign t).2 with
      | error f => simp only [hd] at h; cases h
      | ok r =>
        simp only [hd] at h
        cases h
        have h1 := length_lt_of_someDigits hd
        have h2 := length_takeSign_le t
        simp only [List.length_cons]
        omega
    · cases h
      exact Nat.le_refl _
  · cases h
    exact Nat.le_refl _

theorem length_lt_of_scanNumber {s rest : List Char} {n : Option JsonNumber}
    (h : scanNumber s = .ok (n, rest)) : rest.length < s.length := by
  have hsign : (match s with
      | '-' :: rest => (true, rest)
      | _ => (false, s)).2.length ≤ s.length := by
    split <;> simp
  unfold scanNumber at h
  generalize (match s with
      | '-' :: rest => (true, rest)
      | _ => (false, s)) = signed at h hsign
  obtain ⟨negative, unsigned⟩ := signed
  cases hw : wholeDigits unsigned with
  | error f => simp only [hw] at h; cases h
  | ok w =>
    obtain ⟨whole, r1⟩ := w
    cases hf : fractionDigits r1 with
    | error f => simp only [hw, bind, Except.bind, hf] at h; cases h
    | ok f =>
      obtain ⟨fraction, r2⟩ := f
      cases he : exponentPart r2 with
      | error f => simp only [hw, bind, Except.bind, hf, he] at h; cases h
      | ok e =>
        obtain ⟨exponent, r3⟩ := e
        simp only [hw, bind, Except.bind, hf, he] at h
        cases h
        have h1 := length_lt_of_wholeDigits hw
        have h2 := length_le_of_fractionDigits hf
        have h3 := length_le_of_exponentPart he
        simp only at hsign
        omega

end BlockPlayer.Json
