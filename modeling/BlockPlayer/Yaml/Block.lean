import BlockPlayer.Yaml.Plain

/-!
# Block scalars

A block scalar is a text under a mark, of lines that begin in one column. The mark says whether the lines are
folded, how many columns they are deep, and what becomes of the line breaks at the end.
-/

namespace BlockPlayer.Yaml

/-- What becomes of the line breaks at the end of a block. -/
inductive Chomping
  | clip
  | strip
  | keep
  deriving DecidableEq, Repr

/-- The digit that says how much deeper a block is, if it is there. Zero does not count. -/
def increment? : List Cell → Option (Nat × List Cell)
  | [] => some (0, [])
  | x :: rest =>
    if x.char = '0' then none
    else if x.char.isDigit then some (x.char.toNat - '0'.toNat, rest)
    else some (0, x :: rest)

/-- The sign that says what becomes of the line breaks at the end. -/
def chomping : List Cell → Chomping × List Cell
  | [] => (.clip, [])
  | x :: rest =>
    if x.char = '+' then (.keep, rest) else if x.char = '-' then (.strip, rest) else (.clip, x :: rest)

/-- What stands behind the mark of a block: a sign and a digit in any order, one of them, or nothing. -/
def header? (cs : List Cell) : Option (Nat × Chomping × List Cell) := do
  match chomping cs with
  | (.clip, _) =>
    let (n, rest) ← increment? cs
    if n = 0 then some (0, .clip, rest)
    else
      let (c, rest) := chomping rest
      some (n, c, rest)
  | (c, rest) =>
    let (n, rest) ← increment? rest
    some (n, c, rest)

/-- Drops empty lines, counting them, and spaces up to a column. -/
def dropMargin (column : Nat) (empties : Nat) : List Cell → Nat × List Cell
  | [] => (empties, [])
  | x :: rest =>
    if x.char = ' ' ∧ x.column < column then dropMargin column empties rest
    else if x.char = '\n' then dropMargin column (empties + 1) rest
    else (empties, x :: rest)

/-- Drops empty lines, counting them, and all spaces, and gives the column of the longest margin. -/
def widestMargin (widest empties : Nat) : List Cell → Nat × Nat × List Cell
  | [] => (widest, empties, [])
  | x :: rest =>
    if x.char = ' ' then widestMargin widest empties rest
    else if x.char = '\n' then widestMargin (max widest x.column) (empties + 1) rest
    else (max widest x.column, empties, x :: rest)

/-- The contents of a block amid being read. -/
structure BlockText where
  text : List Char
  /-- Whether there is a line break behind the last line. -/
  closed : Bool
  /-- Whether the last line begins with a blank. -/
  loose : Bool
  /-- The empty lines behind the last line. -/
  empties : Nat
  deriving DecidableEq, Repr

namespace BlockText

/-- What stands between the last line and one that begins with `c`. -/
def joint (folded : Bool) (b : BlockText) (c : Char) : List Char :=
  if folded ∧ b.closed ∧ !b.loose ∧ !isBlank c then foldedBreaks b.empties
  else List.replicate (b.empties + if b.closed then 1 else 0) '\n'

/-- With the lines of a block from column `column` on, at most `fuel` of them. -/
def addLines (folded : Bool) (column : Nat) : Nat → BlockText → List Cell → BlockText × List Cell
  | 0, b, cs => (b, cs)
  | fuel + 1, b, cs =>
    let x := here cs
    if x.column ≠ column ∨ x.char = '\x00' ∨ (column = 0 ∧ isMarker '.' cs) then (b, cs)
    else
      let line := chars (cs.takeWhile fun x => !isLineEnd x.char)
      let text := b.text ++ b.joint folded x.char ++ line
      match dropLine cs with
      | ⟨_, '\n'⟩ :: rest =>
        let (empties, rest) := dropMargin column 0 rest
        addLines folded column fuel ⟨text, true, isBlank x.char, empties⟩ rest
      | rest => (⟨text, false, isBlank x.char, 0⟩, rest)

/-- The contents as a whole. The text may end in the column in which `last` is. -/
def finish (b : BlockText) (c : Chomping) (column : Nat) (last : Cell) : List Char :=
  let ending := if b.closed then ['\n'] else []
  let more := if last.char = '\x00' ∧ max column 1 ≤ last.column then ['\n'] else []
  match c with
  | .strip => b.text
  | .clip => b.text ++ ending ++ more
  | .keep => b.text ++ ending ++ more ++ List.replicate b.empties '\n'

end BlockText

/-- The text of a block that has no line before the end of the text. It has at least one line break. -/
def emptyBlock (c : Chomping) (empties : Nat) : List Char :=
  match c with
  | .strip => []
  | .clip => ['\n']
  | .keep => List.replicate (max empties 1) '\n'

/-- A block behind its first mark, and what follows. -/
def block? (folded : Bool) (depth : Nat) (cs : List Cell) : Option (List Char × List Cell) := do
  let (increment, c, rest) ← header? cs
  match ← endOfLine? rest with
  | ⟨_, '\n'⟩ :: rest =>
    if (here rest).char = '\t' then none
    else
      let (column, empties, rest) :=
        if increment = 0 then
          let (widest, empties, rest) := widestMargin 0 0 rest
          (max widest depth, empties, rest)
        else (depth - 1 + increment, dropMargin (depth - 1 + increment) 0 rest)
      let x := here rest
      if x.char = '\x00' then some (emptyBlock c empties, rest)
      else if x.column < column ∧ depth ≤ x.column then none
      else
        let (b, rest) := BlockText.addLines folded column rest.length ⟨[], false, false, empties⟩ rest
        some (b.finish c column (here rest), rest)
  | rest => some ([], rest)

end BlockPlayer.Yaml
