import BlockPlayer.Yaml.Cell
import BlockPlayer.Yaml.Token

/-!
# A text amid being read

Tokens are read one after another. What has been read may later turn out to be a key, when a colon comes; then a
token is put in front of it. So the place of the last thing that may be a key is remembered, one for every pair of
brackets that is open.

Blocks open when something stands deeper than before, and close when something stands less deep. The depth is the
number of columns that contents have to leave free; for every block that is open the depth outside of it is
remembered. A colon, a dash or a bracket makes what follows one column deeper without a block.

* `Reading.open` — something begins in a column that opens a block
* `Reading.close` — something begins in a column that closes blocks
* `Reading.saveKey`, `Reading.dropKey?` — what is read next may be a key, or is none

## Termination

Blocks close one by one; their number is the length of `levels`.
-/

namespace BlockPlayer.Yaml

/-- A thing that may be a key. -/
structure KeyStart where
  place : Place
  /-- Whether it stands where nothing but a key can stand. -/
  required : Bool
  /-- The number of tokens in front of it. -/
  tokens : Nat
  deriving DecidableEq, Repr

/-- What made contents deeper. -/
structure Level where
  /-- The depth outside. -/
  outer : Nat
  isBlock : Bool
  deriving DecidableEq, Repr

/-- A text amid being read. -/
structure Reading where
  rest : List Cell
  tokens : Array Token
  /-- Whether a key may begin here. -/
  fresh : Bool
  /-- The last thing that may be a key. -/
  key : Option KeyStart
  /-- The same outside of each pair of brackets, the innermost first. -/
  outer : List (Option KeyStart)
  depth : Nat
  /-- What made contents as deep as they are, the last thing first. -/
  levels : List Level
  /-- The place right behind a quote or a bracket, where a colon needs no blank. -/
  tight : Nat
  /-- Whether the brackets hold members and not a single pair. -/
  braced : Bool
  /-- Whether a pair without brackets of its own is open. -/
  paired : Bool
  /-- Whether the last token says something about a node and begins its line. -/
  announced : Bool

namespace Reading

/-- At the beginning of a text. -/
def ofCells (cs : List Cell) : Reading :=
  ⟨cs, #[], true, none, [], 0, [], 0, false, false, false⟩

/-! ## Inspection -/

/-- The next cell. -/
def cell (r : Reading) : Cell := here r.rest

/-- Whether brackets are open. -/
def inBrackets (r : Reading) : Bool := !r.outer.isEmpty

/-- Whether the last thing that made contents deeper was a block. -/
def inBlock (r : Reading) : Bool := r.levels.head?.any Level.isBlock

/-! ## Tokens -/

/-- One more token. -/
def push (r : Reading) (t : Token) : Reading :=
  { r with tokens := r.tokens.push t, announced := false }

/-- With a token behind the first `n` of them. -/
def insert (r : Reading) (n : Nat) (t : Token) : Reading :=
  { r with tokens := r.tokens.insertIdxIfInBounds n t }

/-- Without some cells in front. -/
def drop (r : Reading) (n : Nat) : Reading := { r with rest := r.rest.drop n }

/-- With other text to come. -/
def goTo (r : Reading) (rest : List Cell) : Reading := { r with rest := rest }

/-! ## Blocks -/

/-- Closes blocks until contents need not be deeper than `depth`. Brackets keep them open. -/
def close (depth : Nat) (r : Reading) : Reading :=
  if r.inBrackets then r else closeLevels r r.levels
where
  closeLevels (r : Reading) : List Level → Reading
    | [] => r
    | l :: levels =>
      if r.depth ≤ depth then r
      else
        let r := { r with depth := l.outer, levels := levels }
        closeLevels (if l.isBlock then r.push .blockEnd else r) levels

/-- Opens a block in a column if contents are not as deep yet. Its token stands behind the first `n`. -/
def openAt (n column : Nat) (t : Token) (r : Reading) : Reading :=
  if r.inBrackets then r
  else
    let r := match r.levels with
      | ⟨outer, false⟩ :: levels =>
        if r.depth ≤ column + 1 then { r with depth := outer, levels := levels } else r
      | _ => r
    if r.depth ≤ column then
      { r with depth := column + 1, levels := ⟨r.depth, true⟩ :: r.levels }.insert n t
    else r

/-- Opens a block in a column if contents are not as deep yet. -/
def openBlock (column : Nat) (t : Token) (r : Reading) : Reading :=
  { r.openAt r.tokens.size column t with announced := false }

/-- What follows in a block is one column deeper. -/
def deepen (r : Reading) : Reading :=
  if !r.inBrackets ∧ r.inBlock then
    { r with depth := r.depth + 1, levels := ⟨r.depth, false⟩ :: r.levels }
  else r

/-- What follows is only as deep as the block. -/
def flatten (r : Reading) : Reading := go r r.levels
where
  go (r : Reading) : List Level → Reading
    | ⟨outer, false⟩ :: levels => go { r with depth := outer, levels := levels } levels
    | _ => r

/-! ## Keys -/

/-- What comes next may be a key, if a key may begin here. -/
def saveKey (r : Reading) : Reading :=
  if r.fresh then
    let required := !r.inBrackets && r.depth == r.cell.column + 1 && r.inBlock
    { r with key := some ⟨r.cell.toPlace, required, r.tokens.size⟩ }
  else r

/-- What was read is no key, which must not be where it has to be one. -/
def dropKey? (r : Reading) : Option Reading :=
  if r.key.any KeyStart.required then none else some { r with key := none }

/-- The greatest distance of a colon from its key. -/
def keyLimit : Nat := 1024

/-- Outside of brackets a key and its colon stand in one line, not too far apart. -/
def forgetKey? (r : Reading) : Option Reading :=
  match r.key with
  | none => some r
  | some k =>
    if !r.inBrackets ∧ (k.place.line < r.cell.line ∨ k.place.index + keyLimit < r.cell.index) then
      r.dropKey?
    else some r

/-- Drops the gap in front of the next token. Behind a line break outside of brackets a key may begin. -/
def dropGap? (r : Reading) : Option Reading := do
  let (broken, rest) ← gap? r.depth .plain false r.rest
  some { r with rest := rest, fresh := r.fresh || (broken && !r.inBrackets) }

end Reading

end BlockPlayer.Yaml
