import BlockPlayer.Yaml.Cell

/-!
# Plain scalars

A plain scalar is a text without quotes. It ends in front of a colon that stands alone and in front of a comment,
and in brackets also in front of a comma or a bracket. It goes on over several lines as long as they are deep
enough: a line break becomes a space, and of several line breaks one is left out.
-/

namespace BlockPlayer.Yaml

/-- What stands for a line break with some empty lines behind it. -/
def foldedBreaks (empties : Nat) : List Char :=
  if empties = 0 then [' '] else List.replicate empties '\n'

/-- Where a place in a plain scalar is. -/
inductive PlainSpot
  | start
  | word
  /-- Behind blanks in the same line, the last one first. -/
  | blanks (cs : List Char)
  /-- Behind a line break and some empty lines. -/
  | lines (empties : Nat)
  /-- In a line that must be empty, because there is a tab in its margin. -/
  | tabbed (empties : Nat)
  /-- In a comment in such a line. -/
  | comment (empties : Nat)
  deriving DecidableEq, Repr

namespace PlainSpot

/-- The place behind a blank or a line break. -/
def across (depth : Nat) (x : Cell) : PlainSpot → PlainSpot
  | start | word => if x.char = '\n' then lines 0 else blanks [x.char]
  | blanks cs => if x.char = '\n' then lines 0 else blanks (x.char :: cs)
  | lines n =>
    if x.char = '\n' then lines (n + 1)
    else if x.char = '\t' ∧ x.column < depth then tabbed n
    else lines n
  | tabbed n => if x.char = '\n' then lines (n + 1) else tabbed n
  | comment n => if x.char = '\n' then lines n else comment n

/-- What has to be put in front of the next word. -/
def joint : PlainSpot → List Char
  | start | word | tabbed _ | comment _ => []
  | blanks cs => cs.reverse
  | lines n => foldedBreaks n

/-- Whether a scalar that may go on here ends in front of a character nevertheless. -/
def ends (inBrackets : Bool) (depth : Nat) (cs : List Cell) : PlainSpot → Bool
  | start | word => false
  | _ => (!inBrackets && decide ((here cs).column < depth)) || (here cs).char == '#' || isDocumentLine cs

end PlainSpot

/-- Whether the first of some characters can be part of a plain scalar. -/
def isPlain (inBrackets : Bool) (cs : List Cell) : Bool :=
  let after := (here (cs.drop 1)).char
  let c := (here cs).char
  c != '\x00' && !(c == ':' && (isBound after || (inBrackets && isFlow after))) && !(inBrackets && isFlow c)

/-- Puts characters in front of those that were read. -/
def prepend (cs : List Char) (r : Option (List Char × List Cell)) : Option (List Char × List Cell) :=
  r.map fun (s, rest) => (cs ++ s, rest)

/-- A plain scalar, and what follows it and the blanks and line breaks behind it. -/
def plain? (inBrackets : Bool) (depth : Nat) : PlainSpot → List Cell → Option (List Char × List Cell)
  | _, [] => some ([], [])
  | spot, x :: rest =>
    if isBlank x.char || x.char == '\n' then plain? inBrackets depth (spot.across depth x) rest
    else match spot with
      | .comment n =>
        if x.char = '\x00' then some ([], x :: rest) else plain? inBrackets depth (.comment n) rest
      | .tabbed n =>
        if x.char = '\x00' then some ([], x :: rest)
        else if x.char = '#' then plain? inBrackets depth (.comment n) rest
        else none
      | spot =>
        if spot.ends inBrackets depth (x :: rest) then some ([], x :: rest)
        else if inBrackets ∧ spot ≠ .word ∧ x.char = '-' ∧ isFlow (here rest).char then none
        else if isPlain inBrackets (x :: rest) then
          prepend (spot.joint ++ [x.char]) (plain? inBrackets depth .word rest)
        else some ([], x :: rest)

end BlockPlayer.Yaml
