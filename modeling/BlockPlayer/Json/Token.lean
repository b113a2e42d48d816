import BlockPlayer.Json.Quoted
import BlockPlayer.Json.Numeric

/-!
# Splitting a JSON text into tokens

Tokens are the marks that hold values together, and the values that have no parts. Blanks between them
are dropped. Splitting stops at the first thing that begins no token, or at a token that breaks off.

## Termination

Every token takes at least one character.
-/

namespace BlockPlayer.Json

/-- A fault in place of a value, as different readers notice it. -/
structure Break where
  /-- What a reader notices that wants the value. -/
  read : Fault
  /-- What a reader notices that skips the value. -/
  skip : Fault
  /-- What a reader notices that has no use for a value with this beginning. -/
  sight : Fault
  deriving DecidableEq, Repr

/-- A fault that all readers notice in the same way. -/
def Break.all (f : Fault) : Break := ⟨f, f, f⟩

/-- A token of a JSON text. -/
inductive Token
  | openArray
  | closeArray
  | openObject
  | closeObject
  | comma
  | colon
  | null
  | bool (b : Bool)
  /-- A number, without value if it is too large for a double. -/
  | number (n : Option JsonNumber)
  /-- A text, without value if it holds half a character. -/
  | text (s : Except Fault String)
  /-- A text that breaks off. -/
  | badText (b : Break)
  /-- Anything else that is no token. -/
  | bad (b : Break)

/-- Space, tab, line feed and carriage return. -/
def isBlank (c : Char) : Bool := c = ' ' || c = '\t' || c = '\n' || c = '\r'

/-- The token that is one mark. -/
def mark? (c : Char) : Option Token :=
  if c = '[' then some .openArray
  else if c = ']' then some .closeArray
  else if c = '\x7b' then some .openObject
  else if c = '\x7d' then some .closeObject
  else if c = ',' then some .comma
  else if c = ':' then some .colon
  else none

/-- Reads the letters of a word. -/
def expect : List Char → List Char → Except Fault (List Char)
  | [], s => .ok s
  | _ :: _, [] => .error .truncated
  | w :: word, c :: s => if c = w then expect word s else .error .malformed

theorem length_le_of_expect :
    ∀ {word s rest : List Char}, expect word s = .ok rest → rest.length ≤ s.length
  | [], _, _, h => by cases h; exact Nat.le_refl _
  | _ :: _, [], _, h => by cases h
  | w :: word, c :: s, _, h => by
    unfold expect at h
    split at h
    · have := length_le_of_expect h
      simp only [List.length_cons]
      omega
    · cases h

/-- The word that begins with a letter: its other letters, and its token. -/
def word? (c : Char) : Option (List Char × Token) :=
  if c = 'n' then some (['u', 'l', 'l'], .null)
  else if c = 't' then some (['r', 'u', 'e'], .bool true)
  else if c = 'f' then some (['a', 'l', 's', 'e'], .bool false)
  else none

/-- A text whose opening quote has been read, and what follows it, if it is closed. -/
def textToken (s : List Char) : Token × Option (List Char) :=
  match scan s with
  | (pieces, .closed rest) => (.text ((join none pieces).map String.ofList), some rest)
  | (pieces, .broken f) =>
    (match join (some f) pieces with
      | .ok _ => .badText (.all f)
      | .error g => .badText ⟨g, f, g⟩, none)

/-- The token that begins with a character, and what follows it, unless the text breaks off. -/
def tokenOf (c : Char) (s : List Char) : Token × Option (List Char) :=
  match mark? c with
  | some t => (t, some s)
  | none =>
    if c = '"' then textToken s
    else if c = '-' ∨ c.isDigit then
      match scanNumber (c :: s) with
      | .ok (n, rest) => (.number n, some rest)
      | .error f => (.bad ⟨f, .malformed, .malformed⟩, none)
    else match word? c with
      | some (letters, t) =>
        match expect letters s with
        | .ok rest => (t, some rest)
        | .error f => (.bad ⟨f, f, .malformed⟩, none)
      | none => (.bad (.all .malformed), none)

theorem length_le_of_tokenOf {c : Char} {s rest : List Char} {t : Token}
    (h : tokenOf c s = (t, some rest)) : rest.length ≤ s.length := by
  unfold tokenOf at h
  split at h
  · cases h
    exact Nat.le_refl _
  · split at h
    · unfold textToken at h
      cases hs : scan s with
      | mk pieces ending =>
        rw [hs] at h
        cases ending with
        | closed r =>
          cases h
          exact Nat.le_of_lt (length_lt_of_scan (s := s) (by rw [hs]))
        | broken f => simp at h
    · split at h
      · cases hn : scanNumber (c :: s) with
        | error f => rw [hn] at h; simp at h
        | ok r =>
          rw [hn] at h
          cases h
          have := length_lt_of_scanNumber hn
          simp only [List.length_cons] at this
          omega
      · split at h
        · next letters t' _ =>
          cases he : expect letters s with
          | error f => rw [he] at h; simp at h
          | ok r =>
            rw [he] at h
            cases h
            exact length_le_of_expect he
        · simp at h

/-- **The tokens of a text.** -/
def tokens : List Char → List Token
  | [] => []
  | c :: s =>
    if isBlank c then tokens s
    else match _h : tokenOf c s with
      | (t, none) => [t]
      | (t, some rest) => t :: tokens rest
termination_by s => s.length
decreasing_by
  · simp
  · have := length_le_of_tokenOf _h
    simp only [List.length_cons]
    omega

end BlockPlayer.Json
