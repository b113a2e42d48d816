import BlockPlayer.Compile
import BlockPlayer.Decimal.Numeral

/-!
# Arguments

The words behind the name of the program name a command and say how it shall be carried out. Options have
long names behind two dashes and sometimes short ones behind one. Their values follow as a word of their
own or, behind a mark of equality, in the same word; behind a short name the mark may be left out. Two
dashes by themselves end the options. The option for the file of settings may stand before the command
and behind it, and the later one counts.

A value is looked at when it is certain that nothing more belongs to it, that is at the next option, or
at the end. So an unknown word is reported before a bad value in front of it.
-/

namespace BlockPlayer.CommandLine

/-- What the program is to do. -/
inductive Job
  | compile (file : String) (policy : Option Policy)
  | run (file : String) (speed : Option Float) (single : Bool)
  | speeds
  | config
  deriving DecidableEq

/-- The meaning of all words together. -/
structure Invocation where
  config : Option String
  job : Job
  deriving DecidableEq

/-- Why words have no meaning, or ask for help instead. -/
inductive UsageError
  | nothingAsked
  | missingJob
  | unknownJob
  | unknownArgument
  | missingFile
  /-- A value is missing, or not one of the known ones. -/
  | badValue
  /-- A value is no number. -/
  | badNumber
  | repeated
  /-- A value was given to what takes none. -/
  | surplusValue
  | help
  deriving DecidableEq, Repr

/-- The status with which the program ends. -/
def UsageError.exitCode : UsageError → Nat
  | help => 0
  | _ => 2

/-- How the program is called. -/
def usage : String :=
  "Usage: blockdrive [--config FILE] COMMAND\n\n"
    ++ "compile FILE [-p|--policy skip|wait]   print the program of a workspace\n"
    ++ "run FILE [-s|--speed N] [--step]       play the program of a workspace\n"
    ++ "speeds                                 list the speeds on offer\n"
    ++ "config                                 print the settings\n"
    ++ "help                                   print this text\n"

/-! ## Words -/

/-- The kinds of words. -/
inductive Word
  /-- Two dashes alone. -/
  | ending
  | long (name : List Char) (value : Option (List Char))
  | short (name : Char) (rest : List Char)
  | plain
  deriving DecidableEq, Repr

def Word.ofChars : List Char → Word
  | ['-', '-'] => ending
  | '-' :: '-' :: cs =>
    match cs.dropWhile (· != '=') with
    | [] => long cs none
    | _ :: value => long (cs.takeWhile (· != '=')) (some value)
  | ['-'] => plain
  | '-' :: c :: rest => short c rest
  | _ => plain

/-- What a word can give a value to. -/
inductive Parameter
  | config
  | policy
  | speed
  | single
  | help
  | file
  deriving DecidableEq, Repr

/-- Whether a value belongs to a parameter. -/
def Parameter.takesValue : Parameter → Bool
  | single | help => false
  | config | policy | speed | file => true

/-- The words that are known in some place. -/
structure Vocabulary where
  longs : List (String × Parameter)
  shorts : List (Char × Parameter)
  /-- Whether a plain word can be the name of a file. -/
  file : Bool

namespace Vocabulary

/-- Before the command. -/
def outer : Vocabulary := ⟨[("config", .config), ("help", .help)], [('h', .help)], false⟩

def compile : Vocabulary :=
  ⟨("policy", .policy) :: outer.longs, ('p', .policy) :: outer.shorts, true⟩

def run : Vocabulary :=
  ⟨("speed", .speed) :: ("step", .single) :: outer.longs, ('s', .speed) :: outer.shorts, true⟩

end Vocabulary

/-! ## Values -/

/-- What was said so far. -/
structure Reading where
  config : Option String
  policy : Option Policy
  speed : Option Float
  single : Bool
  file : Option String
  /-- What was said last, with its value if that is there, but has not been looked at. -/
  pending : Option (Parameter × Option String)
  /-- Whether there are no more options. -/
  ended : Bool

namespace Reading

def blank : Reading := ⟨none, none, none, false, none, none, false⟩

/-- Gives a value to a parameter. That it has one already is noticed first. -/
def store (r : Reading) (p : Parameter) (value : String) : Except UsageError Reading :=
  match p with
  | .config => if r.config.isSome then .error .repeated else .ok { r with config := some value }
  | .policy =>
    if r.policy.isSome then .error .repeated
    else match Policy.ofName? value with
      | some policy => .ok { r with policy := some policy }
      | none => .error .badValue
  | .speed =>
    if r.speed.isSome then .error .repeated
    else match Numeral.double? value with
      | some speed => .ok { r with speed := some speed }
      | none => .error .badNumber
  | .single => if r.single then .error .repeated else .ok { r with single := true }
  | .help => .error .help
  | .file => if value.isEmpty then .error .badValue else .ok { r with file := some value }

/-- Looks at what was said last. -/
def resolve (r : Reading) : Except UsageError Reading :=
  match r.pending with
  | none => .ok r
  | some (_, none) => .error .badValue
  | some (p, some value) => { r with pending := none }.store p value

/-- Looks at what was said before, and waits for what belongs to a parameter. -/
def expect (r : Reading) (p : Parameter) (value : Option String) : Except UsageError Reading := do
  let r ← r.resolve
  .ok { r with pending := some (p, value) }

/-- A parameter and the value in the same word. -/
def attach (r : Reading) (p : Parameter) (value : String) : Except UsageError Reading := do
  let r ← r.resolve
  r.store p value

/-- A long name. -/
def long (v : Vocabulary) (r : Reading) (name : String) (value : Option String) :
    Except UsageError Reading :=
  match v.longs.lookup name with
  | none => .error .unknownArgument
  | some p =>
    match p.takesValue, value with
    | true, none => r.expect p none
    | true, some value => r.attach p value
    | false, none => r.attach p ""
    | false, some _ => .error .surplusValue

/-- A short name. -/
def short (v : Vocabulary) (r : Reading) (name : Char) (rest : List Char) :
    Except UsageError Reading :=
  match v.shorts.lookup name with
  | none => .error .unknownArgument
  | some p =>
    match p.takesValue, rest with
    | true, [] => r.expect p none
    | true, '=' :: value => r.attach p (String.ofList value)
    | true, value => r.attach p (String.ofList value)
    | false, _ => r.attach p ""

/-- Whether an option waits for its value. -/
def waits (r : Reading) : Bool :=
  match r.pending with
  | some (_, none) => true
  | _ => false

/-- A word that is no option. -/
def plain (v : Vocabulary) (r : Reading) (word : String) : Except UsageError Reading :=
  match r.pending, r.ended with
  | some (p, none), false => .ok { r with pending := some (p, some word) }
  | _, _ =>
    if v.file ∧ r.file.isNone ∧ r.pending.all (fun p => p.1 != .file) then r.expect .file (some word)
    else .error .unknownArgument

/-- Any word. -/
def next (v : Vocabulary) (r : Reading) (word : String) : Except UsageError Reading :=
  if r.ended then r.plain v word
  else match Word.ofChars word.toList with
    | .ending => .ok { r with ended := true }
    | .long name value => r.long v (String.ofList name) (value.map String.ofList)
    | .short name rest => r.short v name rest
    | .plain => r.plain v word

/-- All words behind a command. -/
def all (v : Vocabulary) (r : Reading) : List String → Except UsageError Reading
  | [] => r.resolve
  | word :: rest => do
    let r ← r.next v word
    r.all v rest

end Reading

/-! ## Commands -/

/-- The words that stand for commands, besides the one that asks for help. -/
def jobNames : List String := ["compile", "run", "speeds", "config"]

/-- What comes of the words behind the command that asks for help. -/
def helpOn : List String → UsageError
  | [] => .help
  | [name] => if name ∈ "help" :: jobNames then .help else .unknownJob
  | _ => .unknownJob

/-- Reads the words behind a command. -/
def readJob (name : String) (words : List String) : Except UsageError (Option String × Job) :=
  if name = "compile" then do
    let r ← Reading.blank.all .compile words
    match r.file with
    | some file => .ok (r.config, .compile file r.policy)
    | none => .error .missingFile
  else if name = "run" then do
    let r ← Reading.blank.all .run words
    match r.file with
    | some file => .ok (r.config, .run file r.speed r.single)
    | none => .error .missingFile
  else do
    let r ← Reading.blank.all .outer words
    .ok (r.config, if name = "speeds" then .speeds else .config)

/-- What is said of a word that may name a command and does not. -/
def strayWord (r : Reading) (word : String) : UsageError :=
  if r.ended ∧ word ∈ "help" :: jobNames then .unknownArgument else .unknownJob

/-- Reads the words up to the command, and those behind it. Options before it must not have ended. -/
def readOuter (r : Reading) : List String → Except UsageError Invocation
  | [] => do
    let r ← r.resolve
    .error (if r.config.isSome then .missingJob else .nothingAsked)
  | word :: rest =>
    if r.ended then .error (strayWord r word)
    else if r.waits ∨ Word.ofChars word.toList ≠ .plain then
      match r.next .outer word with
      | .ok r => readOuter r rest
      | .error e => .error e
    else if word = "help" then .error (helpOn rest)
    else if word ∈ jobNames then do
      let (config, job) ← readJob word rest
      let r ← r.resolve
      .ok ⟨config.or r.config, job⟩
    else .error (strayWord r word)

/-- **The meaning of the words behind the name of the program.** -/
def Invocation.ofWords (words : List String) : Except UsageError Invocation :=
  readOuter .blank words

end BlockPlayer.CommandLine
