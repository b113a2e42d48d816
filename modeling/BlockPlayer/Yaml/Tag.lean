import BlockPlayer.Text.Hex
import BlockPlayer.Yaml.Cell
import BlockPlayer.Yaml.Token

/-!
# Tags and directives

A tag says how a node is to be taken. It has a handle, which is short for the beginning of a longer name, and a
suffix, in which a percent sign stands in front of characters that are given by number.

A directive is a line in front of a document. It may say what a handle is short for.

The functions give what follows.
-/

namespace BlockPlayer.Yaml

/-! ## Names of tags -/

/-- Whether a character may stand in the long name of a tag. -/
def isUri (c : Char) : Bool := c.isAlphanum || "-#;/?:@&=+$,_.!~*'()[]%".toList.contains c

/-- Whether a character may stand in the suffix of a tag. -/
def isSuffix (c : Char) : Bool := isUri c && !isFlow c && c != '!'

/-- The character with the number of one or two octets. Of two octets neither may be one that stands alone. -/
def ofOctets? : List Nat → Option Char
  | [n] => if n < 0x80 then Hex.ofNat? n else none
  | [n, m] => if 0xC0 ≤ n ∧ n < 0xE0 ∧ 0x80 ≤ m ∧ m < 0xC0 then Hex.ofNat? (256 * n + m) else none
  | _ => none

/-- The characters of a name as far as all of them are in a class, and what follows. -/
def name? (isPart : Char → Bool) : List Cell → Option (List Char × List Cell)
  | [] => some ([], [])
  | x :: rest =>
    if !isPart x.char then some ([], x :: rest)
    else if x.char ≠ '%' then (name? isPart rest).map fun (s, rest) => (x.char :: s, rest)
    else match rest with
      | a :: b :: rest => do
        let n ← Hex.number? [a.char, b.char]
        match ofOctets? [n] with
        | some c => (name? isPart rest).map fun (s, rest) => (c :: s, rest)
        | none =>
          match rest with
          | ⟨_, '%'⟩ :: a :: b :: rest =>
            let c ← ofOctets? [n, ← Hex.number? [a.char, b.char]]
            (name? isPart rest).map fun (s, rest) => (c :: s, rest)
          | _ => none
      | _ => none

/-- A handle: an exclamation mark, or a word between two of them. In a tag the second mark may be missing. -/
def handle? (inDirective : Bool) : List Cell → Option (List Char × List Cell)
  | ⟨_, '!'⟩ :: rest =>
    let word := '!' :: chars (rest.takeWhile fun x => isWord x.char)
    match rest.dropWhile fun x => isWord x.char with
    | ⟨_, '!'⟩ :: rest => some (word ++ ['!'], rest)
    | rest => if inDirective ∧ word ≠ ['!'] then none else some (word, rest)
  | _ => none

/-- A tag between angle brackets, behind the first of them, without a handle. -/
def verbatim? (cs : List Cell) : Option (Token × List Cell) := do
  let (suffix, rest) ← name? isUri cs
  match rest with
  | ⟨_, '>'⟩ :: rest => some (.tag "" (String.ofList suffix), rest)
  | _ => none

/-- A tag with a handle. What looks like a handle, but has no second mark, belongs to the suffix. -/
def shorthand? (cs : List Cell) : Option (Token × List Cell) := do
  let (handle, rest) ← handle? false cs
  let (suffix, rest) ← name? isSuffix rest
  if 2 ≤ handle.length ∧ handle.getLast? = some '!' then
    if suffix = [] then none else some (.tag (String.ofList handle) (String.ofList suffix), rest)
  else
    let suffix := handle.drop 1 ++ suffix
    if suffix = [] then some (.tag "" "!", rest) else some (.tag "!" (String.ofList suffix), rest)

/-- A tag, which ends with a word. -/
def tag? (inBrackets : Bool) (cs : List Cell) : Option (Token × List Cell) := do
  let (t, rest) ← if (here (cs.drop 1)).char = '<' then verbatim? (cs.drop 2) else shorthand? cs
  let c := (here rest).char
  if isBound c ∨ (inBrackets ∧ isFlow c) then some (t, rest) else none

/-! ## Directives -/

/-- Some digits, and what follows. -/
def versionNumber? (cs : List Cell) : Option (List Cell) :=
  let n := (cs.takeWhile fun x => x.char.isDigit).length
  if 0 < n ∧ n ≤ 9 then some (cs.drop n) else none

/-- Two numbers with a point between them. -/
def version? (cs : List Cell) : Option (Directive × List Cell) := do
  match ← versionNumber? (dropBlanks cs) with
  | ⟨_, '.'⟩ :: rest => (versionNumber? rest).map fun rest => (.version, rest)
  | _ => none

/-- The name for which a handle is short. -/
def stem? (cs : List Cell) : Option (List Char × List Cell) :=
  match cs with
  | ⟨_, '!'⟩ :: rest => (name? isUri rest).map fun (s, rest) => ('!' :: s, rest)
  | _ => if isSuffix (here cs).char then name? isUri cs else none

/-- A handle and what it is short for. -/
def tagDirective? (cs : List Cell) : Option (Directive × List Cell) := do
  let (handle, rest) ← handle? true (dropBlanks cs)
  let (stem, rest) ← stem? (dropBlanks rest)
  if isBound (here rest).char then some (.tag (String.ofList handle) (String.ofList stem), rest) else none

/-- A directive behind its mark. What is not known says nothing. -/
def directive? (cs : List Cell) : Option (Directive × List Cell) := do
  let name := chars (cs.takeWhile fun x => isWord x.char)
  let rest := cs.drop name.length
  if name = [] ∨ !isBound (here rest).char then none
  else
    let (d, rest) ←
      if name = "YAML".toList then version? rest
      else if name = "TAG".toList then tagDirective? rest
      else some (.other, dropLine rest)
    (endOfLine? rest).map fun rest => (d, rest)

end BlockPlayer.Yaml
