import BlockPlayer.Ron.Scalar

/-!
# Reading RON

A record is a table, and so is a map whose keys are strings. Tuples and lists are lists. An option is what
is in it, and a name alone, like an empty pair of brackets, is a place that is left empty. The names of types
do not count.

A file may begin with attributes that allow other ways of writing. Of these only one matters here: the brackets
of an option may be left out.

## Termination

`fuel` bounds the number of calls inside one another. Every call takes at least one character off before
the next, so more fuel than twice the number of characters is always enough. `depth` is how deep data may
still go: a container counts once, and so does each place in one.
-/

namespace BlockPlayer.Ron

/-- How deep data may go. -/
def depthLimit : Nat := 128

/-! ## Data -/

/-- Whether what follows an opening bracket is a tuple, and not a record. -/
def isTuple? (cs : List Char) : Option Bool :=
  match name? cs with
  | none => some true
  | some (_, rest) => do
    match ← dropGap .outside rest with
    | [] => none
    | c :: _ => some (c != ':')

/-- What follows a comma with the gaps around it, and whether there is one. -/
def comma? (cs : List Char) : Option (Bool × List Char) := do
  match ← dropGap .outside cs with
  | ',' :: rest => some (true, ← dropGap .outside rest)
  | rest => some (false, rest)

mutual

/-- The datum in front; `bare` tells that options may do without brackets. -/
def datum? (bare : Bool) (fuel depth : Nat) (cs : List Char) : Option (Datum × List Char) :=
  match fuel with
  | 0 => none
  | fuel + 1 =>
    match dropWord? "Some" cs with
    | some rest => option? bare fuel depth rest
    | none =>
      match word? cs with
      | some r => some r
      | none =>
        match cs with
        | '(' :: ')' :: rest => some (.nothing, rest)
        | '(' :: rest => record? bare fuel depth rest
        | '[' :: rest =>
          match depth with
          | 0 => none
          | depth + 1 => do
            let (ds, rest) ← items? bare fuel depth ']' true (← dropGap .outside rest)
            some (.array ds, rest)
        | '\x7b' :: rest =>
          match depth with
          | 0 => none
          | depth + 1 => do
            let (ms, rest) ← members? bare fuel depth '\x7d' true [] (← dropGap .outside rest)
            some (.table ms, rest)
        | _ =>
          match name? cs with
          | some (_, rest) => do
            match ← dropGap .outside rest with
            | '(' :: rest => record? bare fuel depth rest
            | rest => some (.nothing, rest)
          | none =>
            match string? cs with
            | some (s, rest) => some (.text s, rest)
            | none => number? cs

/-- What an option holds, behind its word. -/
def option? (bare : Bool) (fuel depth : Nat) (cs : List Char) : Option (Datum × List Char) :=
  match fuel, depth with
  | fuel + 1, depth + 1 => do
    match ← dropGap .outside cs with
    | '(' :: rest =>
      let (d, rest) ← datum? bare fuel depth (← dropGap .outside rest)
      match ← comma? rest with
      | (_, ')' :: rest) => some (d, rest)
      | _ => none
    | rest => if bare then datum? bare fuel depth rest else none
  | _, _ => none

/-- A tuple or a record, behind its opening bracket. -/
def record? (bare : Bool) (fuel depth : Nat) (cs : List Char) : Option (Datum × List Char) :=
  match fuel, depth with
  | fuel + 1, depth + 1 => do
    let cs ← dropGap .outside cs
    if ← isTuple? cs then
      let (ds, rest) ← items? bare fuel depth ')' true cs
      some (.array ds, rest)
    else
      let (ms, rest) ← members? bare fuel depth ')' true [] cs
      some (.table ms, rest)
  | _, _ => none

/-- The items of a list up to its end, which is `mark`. `more` tells whether another may follow. -/
def items? (bare : Bool) (fuel depth : Nat) (mark : Char) (more : Bool) (cs : List Char) :
    Option (List Datum × List Char) :=
  match fuel, cs with
  | fuel + 1, c :: rest =>
    if c = mark then some ([], rest)
    else
      match more, depth with
      | true, depth + 1 => do
        let (d, rest) ← datum? bare fuel depth cs
        let (more, rest) ← comma? rest
        let (ds, rest) ← items? bare fuel (depth + 1) mark more rest
        some (d :: ds, rest)
      | _, _ => none
  | _, _ => none

/--
The members of a table up to its end, which is `mark`, behind those that came before. The keys of records are
names, and those of maps are strings.
-/
def members? (bare : Bool) (fuel depth : Nat) (mark : Char) (more : Bool) (before : Members) (cs : List Char) :
    Option (Members × List Char) :=
  match fuel, cs with
  | fuel + 1, c :: rest =>
    if c = mark then some (before, rest)
    else
      match more, depth with
      | true, depth + 1 => do
        let (key, rest) ← if mark = ')' then name? cs else string? cs
        match ← dropGap .outside rest with
        | ':' :: rest =>
          let (d, rest) ← datum? bare fuel depth (← dropGap .outside rest)
          let (more, rest) ← comma? rest
          members? bare fuel (depth + 1) mark more (Entries.put key d before) rest
        | _ => none
      | _, _ => none
  | _, _ => none

end

/-! ## Whole files -/

/-- The way of writing options without brackets. -/
def bareOptions : String := "implicit_some"

/-- The ways of writing that a file can allow. -/
def extensions : List String :=
  ["unwrap_newtypes", bareOptions, "unwrap_variant_newtypes", "explicit_struct_names"]

/-- What follows some words with gaps between them. -/
def dropAll? : List String → List Char → Option (List Char)
  | [], cs => some cs
  | w :: words, cs => do
    let cs ← dropGap .outside cs
    if w.toList.isPrefixOf cs then dropAll? words (cs.drop w.length) else none

/-- A list of extensions, of which the last may have a comma behind it. -/
def extensions? : Nat → List Char → Option (List String × List Char)
  | 0, _ => none
  | fuel + 1, cs => do
    let (name, rest) ← name? cs
    guard (name ∈ extensions)
    let (more, rest) ← comma? rest
    if rest.head?.any isNamePart then
      if more then
        let (names, rest) ← extensions? fuel rest
        some (name :: names, rest)
      else none
    else some ([name], rest)

/-- The extensions that the attributes at the beginning of a file allow. -/
def attributes? : Nat → List Char → Option (List String × List Char)
  | 0, _ => none
  | fuel + 1, cs =>
    match cs with
    | '#' :: _ => do
      let rest ← dropAll? ["#", "!", "[", "enable", "("] cs
      let (names, rest) ← extensions? (rest.length + 1) (← dropGap .outside rest)
      let rest ← dropAll? [")", "]"] rest
      let (more, rest) ← attributes? fuel (← dropGap .outside rest)
      some (names ++ more, rest)
    | _ => some ([], cs)

/-- What a text in RON says. -/
def readDatum? (text : String) : Option Datum := do
  let cs ← dropGap .outside text.toList
  let (names, cs) ← attributes? (cs.length + 1) cs
  let (d, rest) ← datum? (names.contains bareOptions) (2 * cs.length + 2) depthLimit cs
  match ← dropGap .outside rest with
  | [] => some d
  | _ => none

end BlockPlayer.Ron
