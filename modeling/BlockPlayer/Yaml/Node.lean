import BlockPlayer.Yaml.Token

/-!
# YAML nodes

A node is what a text consists of, in the order of the text. A node can be given a name, its anchor, and then
stand in other places by that name. A plain scalar is what it looks like, unless it has a tag.

`Node.ofTokens?` finds the nodes in the tokens of a text. A place where a node is missing holds the word for
nothing, but one for which something was announced holds an empty scalar.

## Termination

`fuel` bounds the number of calls inside one another. A call takes a token off, or makes only one call before the
next token is taken off; so more fuel than twice the number of tokens is always enough.
-/

namespace BlockPlayer.Yaml

/-- A tag that says how a plain scalar is to be taken. -/
inductive Tag
  /-- One of the tags that come with the language. -/
  | core (name : String)
  | other
  deriving DecidableEq, Repr

/-- A node of a text. -/
inductive Node
  | plain (tag : Option Tag) (s : String)
  /-- A scalar that is a text whatever it looks like. -/
  | text (s : String)
  | sequence (items : List Node)
  | mapping (members : List (Node × Node))
  | anchored (name : String) (n : Node)
  | alias (name : String)

/-! ## Tags -/

namespace Tag

/-- What the names of all tags that come with the language begin with. -/
def coreStem : String := "tag:yaml.org,2002:"

/-- Whether a handle may only be used if a directive says what it is short for. -/
def isNamed (handle : String) : Bool :=
  2 ≤ handle.length && handle.startsWith "!" && handle.endsWith "!"

/--
The tag with a handle and a suffix. `known` is a handle and what it is short for. The handle of two marks has a
meaning by itself.
-/
def ofHandle? (known : Option (String × String)) (handle suffix : String) : Option Tag := do
  let stem ← match known.filter fun k => k.1 == handle with
    | some k => some k.2
    | none =>
      if handle = "!!" then some coreStem else if isNamed handle then none else some handle
  some (if stem = coreStem then core suffix else other)

end Tag

namespace Node

/-! ## What is said of a node -/

/-- A place where there is nothing. -/
def missing : Node := .plain none "~"

/-- What is said of a node in front of it. -/
structure Announcement where
  anchor : Option String
  tag : Option Tag

/-- A node with what was said of it. Only plain scalars heed their tags. -/
def announced (a : Announcement) (n : Node) : Node :=
  let n := match n with
    | .plain none s => .plain a.tag s
    | n => n
  match a.anchor with
  | some name => .anchored name n
  | none => n

/-- What is said of the node in front: an anchor and a tag in any order, one of them, or nothing. -/
def announcement? (known : Option (String × String)) : List Token → Option (Announcement × List Token)
  | .anchor name :: .tag handle suffix :: rest
  | .tag handle suffix :: .anchor name :: rest =>
    (Tag.ofHandle? known handle suffix).map fun t => (⟨some name, some t⟩, rest)
  | .anchor name :: rest => some (⟨some name, none⟩, rest)
  | .tag handle suffix :: rest =>
    (Tag.ofHandle? known handle suffix).map fun t => (⟨none, some t⟩, rest)
  | ts => some (⟨none, none⟩, ts)

/-- An empty scalar, if anything was said of it. -/
def bare? (a : Announcement) (ts : List Token) : Option (Node × List Token) :=
  if a.anchor.isSome || a.tag.isSome then some (.plain none "", ts) else none

/-! ## Collections -/

/-- Whether a key or a value in a block is missing. -/
def lacksMember : List Token → Bool
  | .key :: _ | .value :: _ | .blockEnd :: _ => true
  | _ => false

/-- Whether an item of a block is missing. -/
def lacksItem : List Token → Bool
  | .blockEntry :: _ | .blockEnd :: _ => true
  | _ => false

/-- Whether a value in brackets is missing. -/
def lacksValue : List Token → Bool
  | .flowEntry :: _ | .flowSequenceEnd :: _ | .flowMappingEnd :: _ => true
  | _ => false

/-- What follows the comma that is needed in front of all members but the first. -/
def comma? (first : Bool) (ts : List Token) : Option (List Token) :=
  if first then some ts
  else match ts with
    | .flowEntry :: rest => some rest
    | _ => none

mutual

/--
The node in front. It may be a block if `inBlock` says so, and a sequence that is no deeper than the key in front
of it if `level` says so.
-/
def node? (known : Option (String × String)) (fuel : Nat) (inBlock level : Bool) (ts : List Token) :
    Option (Node × List Token) :=
  match fuel with
  | 0 => none
  | fuel + 1 =>
    match ts with
    | .alias name :: rest => some (.alias name, rest)
    | _ => do
      let (a, ts) ← announcement? known ts
      let (n, rest) ← match ts with
        | .plain s :: rest => some (.plain none s, rest)
        | .text s :: rest => some (.text s, rest)
        | .flowSequence :: rest => sequence? (flowItems? known fuel true rest)
        | .flowMapping :: rest => mapping? (flowMembers? known fuel true rest)
        | .blockSequence :: rest => if inBlock then sequence? (items? known fuel rest) else bare? a ts
        | .blockMapping :: rest => if inBlock then mapping? (members? known fuel rest) else bare? a ts
        | .blockEntry :: _ => if level then sequence? (levelItems? known fuel ts) else bare? a ts
        | _ => bare? a ts
      some (n.announced a, rest)
where
  sequence? (r : Option (List Node × List Token)) : Option (Node × List Token) :=
    r.map fun (ns, rest) => (.sequence ns, rest)
  mapping? (r : Option (List (Node × Node) × List Token)) : Option (Node × List Token) :=
    r.map fun (ms, rest) => (.mapping ms, rest)

/-- The items of a block up to its end. -/
def items? (known : Option (String × String)) (fuel : Nat) (ts : List Token) :
    Option (List Node × List Token) :=
  match fuel with
  | 0 => none
  | fuel + 1 =>
    match ts with
    | .blockEnd :: rest => some ([], rest)
    | .blockEntry :: rest => do
      let (n, rest) ← if lacksItem rest then some (missing, rest) else node? known fuel true false rest
      let (ns, rest) ← items? known fuel rest
      some (n :: ns, rest)
    | _ => none

/-- The items of a sequence that is no block of its own. -/
def levelItems? (known : Option (String × String)) (fuel : Nat) (ts : List Token) :
    Option (List Node × List Token) :=
  match fuel with
  | 0 => none
  | fuel + 1 =>
    match ts with
    | .blockEntry :: rest => do
      let (n, rest) ← if lacksItem rest || lacksMember rest then some (missing, rest)
        else node? known fuel true false rest
      let (ns, rest) ← levelItems? known fuel rest
      some (n :: ns, rest)
    | _ => some ([], ts)

/-- The members of a block up to its end. -/
def members? (known : Option (String × String)) (fuel : Nat) (ts : List Token) :
    Option (List (Node × Node) × List Token) :=
  match fuel with
  | 0 => none
  | fuel + 1 =>
    match ts with
    | .blockEnd :: rest => some ([], rest)
    | .value :: _ => do
      let (v, rest) ← memberValue? known fuel ts
      let (ms, rest) ← members? known fuel rest
      some ((missing, v) :: ms, rest)
    | .key :: rest => do
      let (k, rest) ← if lacksMember rest then some (missing, rest) else node? known fuel true true rest
      let (v, rest) ← memberValue? known fuel rest
      let (ms, rest) ← members? known fuel rest
      some ((k, v) :: ms, rest)
    | _ => none

/-- The value of a member of a block. -/
def memberValue? (known : Option (String × String)) (fuel : Nat) (ts : List Token) :
    Option (Node × List Token) :=
  match fuel, ts with
  | fuel + 1, .value :: rest =>
    if lacksMember rest then some (missing, rest) else node? known fuel true true rest
  | 0, _ => none
  | _, _ => some (missing, ts)

/-- The items of a sequence in brackets up to its end. An item may be a mapping with one member. -/
def flowItems? (known : Option (String × String)) (fuel : Nat) (first : Bool) (ts : List Token) :
    Option (List Node × List Token) :=
  match fuel with
  | 0 => none
  | fuel + 1 =>
    match ts with
    | .flowSequenceEnd :: rest => some ([], rest)
    | _ => do
      match ← comma? first ts with
      | .flowSequenceEnd :: rest => some ([], rest)
      | .key :: rest =>
        let (k, rest) ← match rest with
          | .value :: rest | .flowEntry :: rest | .flowSequenceEnd :: rest => some (missing, rest)
          | _ => node? known fuel false false rest
        let (v, rest) ← flowValue? known fuel rest
        let (ns, rest) ← flowItems? known fuel false rest
        some (.mapping [(k, v)] :: ns, rest)
      | ts =>
        let (n, rest) ← node? known fuel false false ts
        let (ns, rest) ← flowItems? known fuel false rest
        some (n :: ns, rest)

/-- The members of a mapping in brackets up to its end. -/
def flowMembers? (known : Option (String × String)) (fuel : Nat) (first : Bool) (ts : List Token) :
    Option (List (Node × Node) × List Token) :=
  match fuel with
  | 0 => none
  | fuel + 1 =>
    match ts with
    | .flowMappingEnd :: rest => some ([], rest)
    | _ => do
      match ← comma? first ts with
      | .flowMappingEnd :: rest => some ([], rest)
      | .value :: rest =>
        let (v, rest) ← flowValue? known fuel (.value :: rest)
        let (ms, rest) ← flowMembers? known fuel false rest
        some ((missing, v) :: ms, rest)
      | .key :: rest =>
        let (k, rest) ← match rest with
          | .value :: _ | .flowEntry :: _ | .flowMappingEnd :: _ => some (missing, rest)
          | _ => node? known fuel false false rest
        let (v, rest) ← flowValue? known fuel rest
        let (ms, rest) ← flowMembers? known fuel false rest
        some ((k, v) :: ms, rest)
      | ts =>
        let (k, rest) ← node? known fuel false false ts
        let (ms, rest) ← flowMembers? known fuel false rest
        some ((k, missing) :: ms, rest)

/-- The value of a member in brackets. -/
def flowValue? (known : Option (String × String)) (fuel : Nat) (ts : List Token) :
    Option (Node × List Token) :=
  match fuel, ts with
  | fuel + 1, .value :: rest =>
    if lacksValue rest then some (missing, rest) else node? known fuel false false rest
  | 0, _ => none
  | _, _ => some (missing, ts)

end

/-! ## Documents -/

/-- What follows directives, and what the last of them says of a handle. There may be one version. -/
def directives? (versioned : Bool) (known : Option (String × String)) :
    List Token → Option (Option (String × String) × List Token)
  | .directive .version :: rest => if versioned then none else directives? true none rest
  | .directive (.tag handle stem) :: rest => directives? versioned (some (handle, stem)) rest
  | .directive .other :: rest => directives? versioned none rest
  | ts => some (known, ts)

/-- Whether the document that has begun is empty. -/
def lacksContents : List Token → Bool
  | [] | .directive _ :: _ | .documentStart :: _ | .documentEnd :: _ => true
  | _ => false

/-- What follows the ends of documents. -/
def dropEnds (ts : List Token) : List Token := ts.dropWhile (· == .documentEnd)

/-- The contents of a document, which only needs a beginning if there are directives. -/
def contents? (ts : List Token) : Option (Node × List Token) :=
  match ts with
  | .directive _ :: _ => do
    match ← directives? false none ts with
    | (known, .documentStart :: rest) =>
      if lacksContents rest then some (missing, rest)
      else node? known (2 * rest.length + 2) true false rest
    | _ => none
  | .documentStart :: rest =>
    if lacksContents rest then some (missing, rest)
    else node? none (2 * rest.length + 2) true false rest
  | _ => node? none (2 * ts.length + 2) true false ts

/-- The only document in tokens, if there is any. -/
def ofTokens? (ts : List Token) : Option (Option Node) :=
  match dropEnds ts with
  | [] => some none
  | ts => do
    let (n, rest) ← contents? ts
    if dropEnds rest = [] then some (some n) else none

end Node

end BlockPlayer.Yaml
