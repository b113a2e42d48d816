/-!
# Characters in their places

In YAML it matters in which column a thing stands, so the characters of a text keep their places. All ways to
end a line are the same. A zero character ends the text, and a text that has none gets one.

Between two tokens there may be blanks, line breaks, and comments. A line may not begin with tabs in place of
the blanks that show how deep its contents are; the *depth* is the number of columns that contents have to leave
free in front of them.
-/

namespace BlockPlayer.Yaml

/-! ## Characters -/

/-- Whether a character is a space or a tab. -/
def isBlank (c : Char) : Bool := c == ' ' || c == '\t'

/-- Whether a character parts words: a blank, a line break, or the end of the text. -/
def isBound (c : Char) : Bool := isBlank c || c == '\n' || c == '\x00'

/-- Whether a line or the text ends with a character. -/
def isLineEnd (c : Char) : Bool := c == '\n' || c == '\x00'

/-- Whether a character holds collections in brackets together. -/
def isFlow (c : Char) : Bool := c == ',' || c == '[' || c == ']' || c == '\x7b' || c == '\x7d'

/-- Whether a character belongs to the words of directives and tags. -/
def isWord (c : Char) : Bool := c.isAlphanum || c == '_' || c == '-'

/-! ## Places -/

/-- A place in a text. -/
structure Place where
  index : Nat
  line : Nat
  column : Nat
  /-- Whether nothing but blanks stands in front of it in its line. -/
  margin : Bool
  deriving DecidableEq, Repr

/-- The place behind a character. -/
def Place.next (p : Place) (c : Char) : Place :=
  if c = '\n' then ⟨p.index + 1, p.line + 1, 0, true⟩
  else ⟨p.index + 1, p.line, p.column + 1, p.margin && isBlank c⟩

/-- A character in its place. -/
structure Cell extends Place where
  char : Char
  deriving DecidableEq, Repr

/-- The cells of a text that begins at a place. -/
def cellsFrom (p : Place) : List Char → List Cell
  | [] => [⟨p, '\x00'⟩]
  | '\r' :: '\n' :: rest => ⟨p, '\n'⟩ :: cellsFrom (p.next '\n') rest
  | c :: rest =>
    if c = '\x00' then [⟨p, c⟩]
    else if c = '\r' then ⟨p, '\n'⟩ :: cellsFrom (p.next '\n') rest
    else ⟨p, c⟩ :: cellsFrom (p.next c) rest

/-- The cells of a text. -/
def cells (text : String) : List Cell := cellsFrom ⟨0, 0, 0, true⟩ text.toList

/-- The first cell. -/
def here : List Cell → Cell
  | [] => ⟨⟨0, 0, 0, true⟩, '\x00'⟩
  | x :: _ => x

/-- The characters of cells. -/
def chars (cs : List Cell) : List Char := cs.map Cell.char

/-- Whether a mark of three characters comes next that stands alone. -/
def isMarker (c : Char) : List Cell → Bool
  | x :: y :: z :: rest =>
    x.char == c && y.char == c && z.char == c && isBound (here rest).char
  | _ => false

/-- Whether a line begins that separates documents. -/
def isDocumentLine (cs : List Cell) : Bool :=
  (here cs).column == 0 && (isMarker '-' cs || isMarker '.' cs)

/-! ## Gaps -/

/-- Without blanks in front. -/
def dropBlanks (cs : List Cell) : List Cell := cs.dropWhile fun x => isBlank x.char

/-- The end of the line. -/
def dropLine (cs : List Cell) : List Cell := cs.dropWhile fun x => !isLineEnd x.char

/--
What follows blanks and a comment in the same line, and whether there were tabs, and spaces. A comment stands
behind a blank.
-/
def lineGap? (tabs spaces : Bool) : List Cell → Option (Bool × Bool × List Cell)
  | [] => some (tabs, spaces, [])
  | x :: rest =>
    if x.char = ' ' then lineGap? tabs true rest
    else if x.char = '\t' then lineGap? true spaces rest
    else if x.char = '#' then
      if tabs || spaces then some (tabs, spaces, dropLine rest) else none
    else some (tabs, spaces, x :: rest)

/-- What follows blanks and a comment in the same line. -/
def afterBlanks? (cs : List Cell) : Option (List Cell) := (lineGap? false false cs).map fun r => r.2.2

/-- What follows a gap up to the end of the line, which has to be reached. -/
def endOfLine? (cs : List Cell) : Option (List Cell) := do
  let rest ← afterBlanks? cs
  if isLineEnd (here rest).char then some rest else none

/-- Where a place between two tokens is. -/
inductive Spot
  | plain
  /-- Behind a tab where the contents of the line must not begin. -/
  | tabbed
  | comment
  deriving DecidableEq, Repr

/-- What follows a gap, and whether there is a line break in it. The margin may not hold tabs up to the depth. -/
def gap? (depth : Nat) (spot : Spot) (broken : Bool) : List Cell → Option (Bool × List Cell)
  | [] => some (broken, [])
  | x :: rest =>
    if x.char = '\n' then gap? depth .plain true rest
    else if x.char = '\x00' then some (broken, x :: rest)
    else match spot with
      | .comment => gap? depth .comment broken rest
      | .tabbed =>
        if isBlank x.char then gap? depth .tabbed broken rest
        else if x.char = '#' then gap? depth .comment broken rest
        else none
      | .plain =>
        if x.char = '\t' ∧ x.margin ∧ x.column + 1 < depth then gap? depth .tabbed broken rest
        else if isBlank x.char then gap? depth .plain broken rest
        else if x.char = '#' then gap? depth .comment broken rest
        else some (broken, x :: rest)

/-- What follows spaces, line breaks and comments. -/
def dropSpaces (comment : Bool) : List Cell → List Cell
  | [] => []
  | x :: rest =>
    if x.char = '\n' then dropSpaces false rest
    else if x.char = '\x00' then x :: rest
    else if comment || x.char == '#' then dropSpaces true rest
    else if x.char = ' ' then dropSpaces false rest
    else x :: rest

end BlockPlayer.Yaml
