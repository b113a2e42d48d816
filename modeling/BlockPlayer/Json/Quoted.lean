import BlockPlayer.Json.Error
import BlockPlayer.Text.Hex

/-!
# Texts between quotes

A JSON text stands between double quotes. The quote, the backslash and the control characters are
written with a backslash; everything else may stand as it is. `encode` writes the characters of a
text, and `scan` reads up to the closing quote.

Reading has two steps, because readers differ in how strict they are. `scan` splits the text into
plain characters and 16-bit units that were written as numbers, and stops at the first thing that
cannot be part of a text at all. `join` then puts characters together from the units, and refuses a
unit that is only half of one.

## Termination

Whatever follows a backslash, reading it leaves fewer characters (`length_lt_of_unescape`).
-/

namespace BlockPlayer.Json

/-! ## Writing -/

/-- A hexadecimal digit in lower case. -/
def hexDigit (n : Nat) : Char := Char.ofNat (if n < 10 then 48 + n else 87 + n)

/-- The character that is written behind a backslash in place of another, where there is one. -/
def shortEscape? (c : Char) : Option Char :=
  if c = '"' then some '"'
  else if c = '\\' then some '\\'
  else if c = '\x08' then some 'b'
  else if c = '\x0c' then some 'f'
  else if c = '\n' then some 'n'
  else if c = '\r' then some 'r'
  else if c = '\t' then some 't'
  else none

/-- One character between quotes. -/
def encodeChar (c : Char) : List Char :=
  match shortEscape? c with
  | some e => ['\\', e]
  | none =>
    if c.toNat < 32 then
      ['\\', 'u', '0', '0', hexDigit (c.toNat / 16), hexDigit (c.toNat % 16)]
    else [c]

/-- The characters of a text as they are written between quotes. -/
def encode (s : List Char) : List Char := s.flatMap encodeChar

/-- A text with its quotes. -/
def quote (s : String) : List Char := '"' :: (encode s.toList ++ ['"'])

/-! ## Splitting into pieces -/

/-- A part of a text: a character that stands for itself, or a 16-bit unit given by number. -/
inductive Piece
  | char (c : Char)
  | unit (n : Nat)
  deriving DecidableEq, Repr

/-- How reading a text came to an end: at its closing quote, or at a fault. -/
inductive Ending
  | closed (rest : List Char)
  | broken (f : Fault)
  deriving DecidableEq, Repr

/-- The number of bytes that characters take in UTF-8. -/
def byteCount (cs : List Char) : Nat := cs.foldr (fun c n => c.utf8Size + n) 0

/-- The character that a letter behind a backslash stands for. -/
def unescapeShort? (c : Char) : Option Char :=
  if c = '"' then some '"'
  else if c = '\\' then some '\\'
  else if c = '/' then some '/'
  else if c = 'b' then some '\x08'
  else if c = 'f' then some '\x0c'
  else if c = 'n' then some '\n'
  else if c = 'r' then some '\r'
  else if c = 't' then some '\t'
  else none

/--
Reads what follows a backslash. A number has four digits. If the text ends before four bytes have
come it is truncated, whatever those bytes are.
-/
def unescape : List Char → Except Fault (Piece × List Char)
  | [] => .error .truncated
  | c :: rest =>
    if c = 'u' then
      if byteCount rest < 4 then .error .truncated
      else match Hex.number? (rest.take 4) with
        | some n => .ok (.unit n, rest.drop 4)
        | none => .error .malformed
    else match unescapeShort? c with
      | some d => .ok (.char d, rest)
      | none => .error .malformed

theorem length_lt_of_unescape {s rest : List Char} {p : Piece} (h : unescape s = .ok (p, rest)) :
    rest.length < s.length := by
  unfold unescape at h
  split at h
  · cases h
  · split at h
    · split at h
      · cases h
      · split at h
        · cases h
          simp only [List.length_drop, List.length_cons]
          omega
        · cases h
    · split at h
      · cases h
        simp
      · cases h

/-- One more piece in front. -/
def prepend (p : Piece) (r : List Piece × Ending) : List Piece × Ending := (p :: r.1, r.2)

/-- Splits a text into its pieces, up to the closing quote or the first fault. -/
def scan : List Char → List Piece × Ending
  | [] => ([], .broken .truncated)
  | c :: rest =>
    if c = '"' then ([], .closed rest)
    else if c = '\\' then
      match _h : unescape rest with
      | .error f => ([], .broken f)
      | .ok (p, after) => prepend p (scan after)
    else if c.toNat < 32 then ([], .broken .malformed)
    else prepend (.char c) (scan rest)
termination_by s => s.length
decreasing_by
  · have := length_lt_of_unescape _h
    simp only [List.length_cons]
    omega
  · simp

/-- What a text leaves behind its closing quote is shorter. -/
theorem length_lt_of_scan {s rest : List Char} (h : (scan s).2 = .closed rest) :
    rest.length < s.length := by
  fun_induction scan s with
  | case1 => cases h
  | case2 => cases h; simp
  | case3 => cases h
  | case4 rest₀ p after hu _ ih =>
    have h1 := ih h
    have h2 := length_lt_of_unescape hu
    simp only [List.length_cons]
    omega
  | case5 => cases h
  | case6 c rest₀ _ _ _ ih =>
    have h1 := ih h
    simp only [List.length_cons]
    omega

/-! ## Joining pieces -/

/-- The first half of a character that takes two units. -/
def isHighUnit (n : Nat) : Bool := 0xD800 ≤ n && n < 0xDC00

/-- The second half of a character that takes two units. -/
def isLowUnit (n : Nat) : Bool := 0xDC00 ≤ n && n < 0xE000

/-- The character that two units make. -/
def joinUnits (high low : Nat) : Char :=
  Char.ofNat (0x10000 + (high - 0xD800) * 0x400 + (low - 0xDC00))

/--
The characters that pieces make. `fault` is the fault that stopped the scan, if one did. Half a
character is refused where it stands, unless the text breaks off right behind it.
-/
def join (fault : Option Fault) : List Piece → Except Fault (List Char)
  | [] => match fault with
    | none => .ok []
    | some f => .error f
  | .char c :: rest => (join fault rest).map (c :: ·)
  | .unit n :: rest =>
    if isLowUnit n then .error .malformed
    else if isHighUnit n then
      match rest with
      | .unit m :: rest => if isLowUnit m then (join fault rest).map (joinUnits n m :: ·)
        else .error .malformed
      | [] => .error (fault.getD .malformed)
      | .char _ :: _ => .error .malformed
    else (join fault rest).map (Char.ofNat n :: ·)

end BlockPlayer.Json
