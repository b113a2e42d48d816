import BlockPlayer.Text.Hex
import BlockPlayer.Yaml.Plain

/-!
# Quoted scalars

Between single quotes only the quote is special, which is written twice. Between double quotes a backslash begins
an escape, and leaves out a line break. Line breaks are folded as in plain scalars, and blanks around them do not
count. No line may begin to the left of the block to which the scalar belongs, or look like one that separates
documents; only the closing quote may, if the line break in front of it is left out.
-/

namespace BlockPlayer.Yaml

/-- What a letter stands for behind a backslash. -/
def escaped? : Char → Option Char
  | '0' => some '\x00'
  | 'a' => some '\x07'
  | 'b' => some '\x08'
  | 't' | '\t' => some '\t'
  | 'n' => some '\n'
  | 'v' => some '\x0b'
  | 'f' => some '\x0c'
  | 'r' => some '\r'
  | 'e' => some '\x1b'
  | ' ' => some ' '
  | '"' => some '"'
  | '/' => some '/'
  | '\\' => some '\\'
  | 'N' => some '\u0085'
  | '_' => some '\u00a0'
  | 'L' => some '\u2028'
  | 'P' => some '\u2029'
  | _ => none

/-- How many digits follow a letter behind a backslash. -/
def codeLength? : Char → Option Nat
  | 'x' => some 2
  | 'u' => some 4
  | 'U' => some 8
  | _ => none

/-- Where a place in a quoted scalar is. -/
inductive QuotedSpot
  | word
  /-- In the number of a character, of which some digits have been read and others follow. -/
  | code (left n : Nat)
  /-- Behind blanks in the same line, the last one first. -/
  | blanks (cs : List Char)
  /-- Right behind a line break that is left out. -/
  | leftOut
  /-- Behind a line break, which may be left out, and some empty lines. -/
  | lines (joined : Bool) (empties : Nat)
  deriving DecidableEq, Repr

namespace QuotedSpot

/-- The place behind a blank or a line break. -/
def across? (depth : Nat) (x : Cell) : QuotedSpot → Option QuotedSpot
  | code .. => none
  | word => some (if x.char = '\n' then lines false 0 else blanks [x.char])
  | blanks cs => some (if x.char = '\n' then lines false 0 else blanks (x.char :: cs))
  | leftOut => acrossLine? true 0
  | lines joined n => acrossLine? joined n
where
  acrossLine? (joined : Bool) (n : Nat) : Option QuotedSpot :=
    if x.char = '\n' then some (lines joined (n + 1))
    else if x.char = '\t' ∧ x.column + 1 < depth then none
    else some (lines joined n)

/-- What has to be put in front of the next word. -/
def joint : QuotedSpot → List Char
  | word | code .. | leftOut => []
  | blanks cs => cs.reverse
  | lines true n => List.replicate n '\n'
  | lines false n => foldedBreaks n

/-- Whether the line must not begin with what comes next. -/
def isMisplaced (mark : Char) (depth : Nat) (cs : List Cell) : QuotedSpot → Bool
  | lines .. => isTooEarly
  | leftOut => isTooEarly && (here cs).char != mark
  | _ => false
where
  isTooEarly : Bool := decide ((here cs).column + 1 < depth) || isDocumentLine cs

end QuotedSpot

/-- A scalar up to its closing quote, which is `mark`, and what follows. -/
def quoted? (mark : Char) (depth : Nat) : QuotedSpot → List Cell → Option (List Char × List Cell)
  | _, [] => none
  | spot, x :: rest =>
    if isBlank x.char || x.char == '\n' then
      (spot.across? depth x).bind fun spot => quoted? mark depth spot rest
    else match spot with
      | .code left n =>
        (Hex.digit? x.char).bind fun d => match left with
          | 0 => (Hex.ofNat? (16 * n + d)).bind fun c => prepend [c] (quoted? mark depth .word rest)
          | left + 1 => quoted? mark depth (.code left (16 * n + d)) rest
      | spot =>
        if spot.isMisplaced mark depth (x :: rest) ∨ x.char = '\x00' then none
        else prepend spot.joint <|
          if x.char = mark then
            match rest with
            | y :: rest =>
              if mark = '\'' ∧ y.char = '\'' then prepend ['\''] (quoted? mark depth .word rest)
              else some ([], y :: rest)
            | [] => some ([], [])
          else if x.char = '\\' ∧ mark = '"' then
            match rest with
            | [] => none
            | y :: rest =>
              if y.char = '\n' then quoted? mark depth .leftOut rest
              else match codeLength? y.char with
                | some k => quoted? mark depth (.code (k - 1) 0) rest
                | none => (escaped? y.char).bind fun c => prepend [c] (quoted? mark depth .word rest)
          else prepend [x.char] (quoted? mark depth .word rest)

end BlockPlayer.Yaml
