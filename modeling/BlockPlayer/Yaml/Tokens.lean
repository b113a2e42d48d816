import BlockPlayer.Yaml.Block
import BlockPlayer.Yaml.Quoted
import BlockPlayer.Yaml.Reading
import BlockPlayer.Yaml.Tag

/-!
# Reading tokens

What the next token is depends on its first characters. A dash, a question mark or a colon stands for itself only
if nothing stands right behind it; else it begins a plain scalar.

* `Reading.next?` — reads one token
* `Token.ofText?` — the tokens of a text

## Termination

`fuel` bounds the number of tokens. Each takes at least one character.
-/

namespace BlockPlayer.Yaml

namespace Reading

/-! ## Documents -/

/-- Closes everything before a line that belongs to no document. -/
def closeDocument? (r : Reading) : Option Reading :=
  (r.close 0).dropKey?.map fun r => { r with fresh := false }

/-- A directive. -/
def directive? (r : Reading) : Option Reading := do
  let r ← r.closeDocument?
  let (d, rest) ← Yaml.directive? (r.rest.drop 1)
  some ((r.goTo rest).push (.directive d))

/-- The beginning of a document. -/
def documentStart? (r : Reading) : Option Reading := do
  let r ← r.closeDocument?
  some ((r.drop 3).push .documentStart)

/-- The end of a document, behind which the line ends. -/
def documentEnd? (r : Reading) : Option Reading := do
  let r ← r.closeDocument?
  let rest ← endOfLine? (r.rest.drop 3)
  some ((r.goTo rest).push .documentEnd)

/-- The end of the text. -/
def finish? (r : Reading) : Option Reading := r.dropKey?.map (close 0)

/-! ## Brackets -/

/-- The most brackets that may stand inside one another. -/
def bracketLimit : Nat := 255

/-- An opening bracket. -/
def openBracket? (t : Token) (r : Reading) : Option Reading := do
  let r := r.saveKey.deepen
  if bracketLimit ≤ r.outer.length then failure
  let rest ← afterBlanks? (r.rest.drop 1)
  some ({ r with
    rest := rest, key := none, outer := r.key :: r.outer, fresh := true,
    braced := r.braced || t == Token.flowMapping }.push t)

/-- Closes a pair without brackets of its own. -/
def closePair (r : Reading) : Reading :=
  if r.paired then { r with paired := false, braced := false }.push .flowMappingEnd else r

/-- A closing bracket. Which bracket it closes does not matter yet. -/
def closeBracket? (t : Token) (r : Reading) : Option Reading := do
  let r ← r.dropKey?
  let r := match r.outer with
    | [] => r
    | key :: outer => { r with key := key, outer := outer }
  let r := { r with fresh := false }.closePair
  let r := r.goTo (← afterBlanks? (r.rest.drop 1))
  some ({ r with tight := if r.inBrackets then r.cell.index else r.tight }.push t)

/-- A comma. -/
def comma? (r : Reading) : Option Reading := do
  let r ← r.dropKey?
  let r := { r with fresh := true }.closePair
  some ((r.goTo (← afterBlanks? (r.rest.drop 1))).push .flowEntry)

/-! ## Items and members -/

/-- A dash. Nothing that was said of a node may stand in the first column in front of it. -/
def dash? (r : Reading) : Option Reading := do
  if r.inBrackets ∨ !r.fresh then failure
  if r.announced ∧ r.cell.column = 0 ∧ 0 < r.depth then failure
  let (tabs, _, rest) ← lineGap? false false (r.rest.drop 1)
  let r := (r.openBlock r.cell.column .blockSequence).goTo rest
  let c := r.cell.char
  if tabs ∧ c = '-' ∧ isBound (here (rest.drop 1)).char then failure
  let r := if c = '\n' ∨ isFlow c then r.deepen else r
  let r ← r.dropKey?
  some ({ r with fresh := true }.push .blockEntry)

/-- A question mark, behind which there is a space or a line break, and no tab. -/
def question? (r : Reading) : Option Reading := do
  if !r.inBrackets ∧ !r.fresh then failure
  let r := if r.inBrackets then { r with braced := true }
    else r.openBlock r.cell.column .blockMapping
  let r ← r.dropKey?
  let after := r.rest.drop 1
  let rest := dropSpaces false after
  if (here after).char ≠ ' ' ∧ (here after).char ≠ '\n' ∨ (here rest).char = '\t' then failure
  some ({ r with rest := rest, fresh := !r.inBrackets }.push .key)

/-- What follows a colon. Tabs alone do not part it from a word. -/
def afterColon? (cs : List Cell) : Option (List Cell) := do
  if (here cs).char ≠ '\t' then some cs
  else
    let (_, spaces, rest) ← lineGap? false false cs
    if !spaces ∧ isWord (here rest).char then none else some rest

/-- A colon. What was read last may turn out to be a key; in brackets it may begin a pair. -/
def colon? (r : Reading) : Option Reading := do
  let x := r.cell
  let r := { r with paired := r.inBrackets && !r.braced }
  let r := r.goTo (← afterColon? (r.rest.drop 1))
  match r.key with
  | some k =>
    if r.paired ∧ k.place.line < x.line then failure
    let r := r.insert k.tokens .key
    let r := if r.paired then r.insert k.tokens .flowMapping else r
    let r := (r.openAt k.tokens k.place.column .blockMapping).deepen
    some ({ r with key := none, fresh := false }.push .value)
  | none =>
    let r := if r.paired then r.push .flowMapping else r
    if !r.inBrackets ∧ !r.fresh then failure
    let r := (r.openBlock x.column .blockMapping).deepen
    some ({ r with fresh := !r.inBrackets }.push .value)

/-! ## What is said of a node -/

/-- Whether a character may stand in the name of an anchor. -/
def isAnchorPart (c : Char) : Bool := !isBound c && !isFlow c && c != '\ufeff'

/-- A name behind a mark. -/
def named? (token : String → Token) (r : Reading) : Option Reading :=
  let name := chars ((r.rest.drop 1).takeWhile fun x => isAnchorPart x.char)
  if name = [] then none
  else some (({ r.saveKey with fresh := false }.drop (name.length + 1)).push (token (String.ofList name)))

/-- Something that is said of a node. -/
def announce (first : Cell) (r : Reading) : Reading := { r with announced := first.column == 0 }

/-- An anchor. -/
def anchor? (r : Reading) : Option Reading := (r.named? .anchor).map (announce r.cell)

/-- A tag. -/
def tag? (r : Reading) : Option Reading := do
  let (t, rest) ← Yaml.tag? r.inBrackets r.rest
  some ((({ r.saveKey with fresh := false }.goTo rest).push t).announce r.cell)

/-! ## Scalars -/

/-- A block scalar. -/
def block? (r : Reading) : Option Reading := do
  let folded := r.cell.char == '>'
  let r := { r.saveKey with fresh := true }.flatten
  let (s, rest) ← Yaml.block? folded r.depth (r.rest.drop 1)
  some ((r.goTo rest).push (.text (String.ofList s)))

/-- Whether a quoted scalar that began in a line may stand in front of what follows. -/
def endsQuoted (r : Reading) (line : Nat) (x : Cell) : Bool :=
  isLineEnd x.char
    || (r.inBrackets && (x.char == ',' || x.char == ']' || x.char == '\x7d' || x.char == ':'))
    || (x.char == ':' && line == x.line)

/-- A quoted scalar. -/
def quoted? (r : Reading) : Option Reading := do
  let x := r.cell
  let r := { r.saveKey with fresh := false }
  let (s, rest) ← Yaml.quoted? x.char r.depth .word (r.rest.drop 1)
  let rest ← afterBlanks? rest
  if !r.endsQuoted x.line (here rest) then failure
  let r ← (r.goTo rest).dropGap?
  some ({ r with tight := r.cell.index }.push (.text (String.ofList s)))

/-- A plain scalar. In brackets it stands deeper than they do. If it ends behind a line break, a key may begin. -/
def plain? (r : Reading) : Option Reading := do
  let r := r.saveKey.flatten
  if r.inBrackets ∧ r.cell.column < r.depth then failure
  let (s, rest) ← Yaml.plain? r.inBrackets r.depth .start r.rest
  if s = [] then failure
  some ({ r with rest := rest, fresh := (here rest).margin }.push (.plain (String.ofList s)))

/-! ## Tokens -/

/-- Whether a colon stands for itself here. -/
def isColon (r : Reading) : Bool :=
  let c := (here (r.rest.drop 1)).char
  isBound c || (r.inBrackets && (isFlow c || r.cell.index == r.tight))

/-- The token that begins here, which is not the first one of a line between documents. -/
def token? (r : Reading) : Option Reading :=
  let alone := isBound (here (r.rest.drop 1)).char
  match r.cell.char with
  | '[' => r.openBracket? .flowSequence
  | '\x7b' => r.openBracket? .flowMapping
  | ']' => r.closeBracket? .flowSequenceEnd
  | '\x7d' => r.closeBracket? .flowMappingEnd
  | ',' => r.comma?
  | '-' => if alone then r.dash? else r.plain?
  | '?' => if alone then r.question? else r.plain?
  | ':' => if r.isColon then r.colon? else r.plain?
  | '*' => r.named? .alias
  | '&' => r.anchor?
  | '!' => r.tag?
  | '|' | '>' => if r.inBrackets then r.plain? else r.block?
  | '\'' | '"' => r.quoted?
  | '%' | '@' | '\x60' => none
  | _ => r.plain?

/-- Reads the next token. -/
def next? (r : Reading) : Option Reading :=
  if r.cell.column = 0 ∧ r.cell.char = '%' then r.directive?
  else if r.cell.column = 0 ∧ isMarker '-' r.rest then r.documentStart?
  else if r.cell.column = 0 ∧ isMarker '.' r.rest then r.documentEnd?
  else if r.cell.column + 1 < r.depth then none
  else r.token?

/-- Reads all tokens. -/
def all? : Nat → Reading → Option Reading
  | 0, _ => none
  | fuel + 1, r => do
    let r ← r.dropGap?
    let r ← r.forgetKey?
    let r := r.close (r.cell.column + 1)
    if r.cell.char = '\x00' then r.finish? else all? fuel (← r.next?)

end Reading

/-- The tokens of a text. -/
def Token.ofText? (text : String) : Option (List Token) :=
  let cs := cells text
  ((Reading.ofCells cs).all? (cs.length + 1)).map fun r => r.tokens.toList

end BlockPlayer.Yaml
