import BlockPlayer.Entries
import BlockPlayer.Toml.Statement

/-!
# TOML documents

The statements of a text are put together to one table. No key may be given a value twice, and no table
may be opened twice. How a table has come about decides what may be added to it: a table that was
opened is closed for keys of other tables, one that is only part of the path of another may still be
opened, and one that is part of a key may get more keys of that kind.

`read?` is the reader of whole texts.
-/

namespace BlockPlayer.Toml

/-- How a table has come about. -/
inductive Origin
  /-- It was opened. -/
  | opened
  /-- It is part of the path of a table that was opened. -/
  | passed
  /-- It is part of a key. -/
  | dotted
  deriving DecidableEq, Repr

/-- A document that is being put together. -/
inductive Node
  | value (v : Toml)
  | table (origin : Origin) (members : List (String × Node))
  /-- A list of tables. The last one, `current`, is the one that can be added to. -/
  | tables (done : List (List (String × Node))) (current : List (String × Node))

namespace Node

/-! ## Plain values -/

mutual

/-- What was put together. -/
def plain : Node → Toml
  | .value v => v
  | .table _ members => .table (plainMembers members)
  | .tables done current => .array (plainTables done ++ [.table (plainMembers current)])
termination_by structural n => n

def plainMembers : List (String × Node) → List (String × Toml)
  | [] => []
  | (name, n) :: rest => (name, plain n) :: plainMembers rest
termination_by structural ms => ms

def plainTables : List (List (String × Node)) → List Toml
  | [] => []
  | ms :: rest => .table (plainMembers ms) :: plainTables rest
termination_by structural ts => ts

end

/-! ## Keys -/

/--
Gives a value to a key inside a table that has come about as `origin` says. Tables on the way are made if
they are missing; they may not have been opened, and the last one has to be part of keys alone.
-/
def assign (v : Node) : Path → Origin → List (String × Node) → Option (List (String × Node))
  | [], _, _ => none
  | [name], origin, members =>
    if (members.lookup name).isSome ∨ origin = .passed then none else some (members ++ [(name, v)])
  | name :: next :: path, _, members =>
    match members.lookup name with
    | none => (assign v (next :: path) .dotted []).map fun inner =>
        members ++ [(name, .table .dotted inner)]
    | some (.table .opened _) => none
    | some (.table origin inner) =>
      (assign v (next :: path) origin inner).map fun inner => Entries.put name (.table origin inner) members
    | some (.tables done current) =>
      (assign v (next :: path) .passed current).map fun inner => Entries.put name (.tables done inner) members
    | some (.value _) => none

/-- What becomes of the members of a table, for the sake of the one with a given name. -/
abbrev Change := String → List (String × Node) → Option (List (String × Node))

/-- Goes to the table in which a path ends, through whatever tables are there, and changes it. -/
def change (f : Change) : Path → List (String × Node) → Option (List (String × Node))
  | [], _ => none
  | [name], members => f name members
  | name :: next :: path, members =>
    match members.lookup name with
    | none => (change f (next :: path) []).map fun inner => members ++ [(name, .table .passed inner)]
    | some (.table origin inner) =>
      (change f (next :: path) inner).map fun inner => Entries.put name (.table origin inner) members
    | some (.tables done current) =>
      (change f (next :: path) current).map fun inner => Entries.put name (.tables done inner) members
    | some (.value _) => none

/-- Opens a table. It becomes the last member, even if it was passed before. -/
def openTable : Change := fun name members =>
  match members.lookup name with
  | none => some (members ++ [(name, .table .opened [])])
  | some (.table .passed inner) =>
    some (members.filter (fun m => m.1 != name) ++ [(name, .table .opened inner)])
  | some _ => none

/-- Opens the next table of a list. -/
def openItem : Change := fun name members =>
  match members.lookup name with
  | none => some (members ++ [(name, .tables [] [])])
  | some (.tables done current) => some (Entries.put name (.tables (done ++ [current]) []) members)
  | some _ => none

/-- Gives a value to a key of the table that is open. -/
def assignIn (key : Path) (v : Node) : Change := fun name members =>
  match members.lookup name with
  | some (.table origin inner) =>
    (assign v key .opened inner).map fun inner => Entries.put name (.table origin inner) members
  | some (.tables done current) =>
    (assign v key .opened current).map fun current => Entries.put name (.tables done current) members
  | _ => none

end Node

/-! ## Terms -/

mutual

/-- The value of a term. Tables inside it are complete: nothing can be added later. -/
def Term.toToml? : Term → Option Toml
  | .value v => some v
  | .array items => (tomlItems? items).map .array
  | .table members => (tomlMembers? [] members).map fun ms => .table (Node.plainMembers ms)
termination_by structural t => t

def tomlItems? : List Term → Option (List Toml)
  | [] => some []
  | t :: rest => do
    let v ← t.toToml?
    let vs ← tomlItems? rest
    some (v :: vs)
termination_by structural ts => ts

/-- The members of an inline table, put behind those that came before. -/
def tomlMembers? (before : List (String × Node)) : List (Path × Term) → Option (List (String × Node))
  | [] => some before
  | (key, t) :: rest => do
    let v ← t.toToml?
    let members ← Node.assign (.value v) key .opened before
    tomlMembers? members rest
termination_by structural ms => ms

end

/-! ## Whole texts -/

/-- Puts statements together, in a document in which the table at `here` is open. -/
def assemble (here : Path) (root : List (String × Node)) : List Statement → Option (List (String × Node))
  | [] => some root
  | .openTable path :: rest => do
    let root ← Node.change Node.openTable path root
    assemble path root rest
  | .openItem path :: rest => do
    let root ← Node.change Node.openItem path root
    assemble path root rest
  | .assign key t :: rest => do
    let v ← t.toToml?
    let root ← match here with
      | [] => Node.assign (.value v) key .opened root
      | _ => Node.change (Node.assignIn key (.value v)) here root
    assemble here root rest

/-- Without the mark with which some editors begin a text. -/
def dropMark : List Char → List Char
  | '\ufeff' :: rest => rest
  | cs => cs

/-- **The members of the table that a text describes, if it is TOML.** -/
def read? (text : String) : Option (List (String × Toml)) := do
  let cs := dropMark text.toList
  let statements ← statements? (cs.length + 1) cs
  let root ← assemble [] [] statements
  some (Node.plainMembers root)

end BlockPlayer.Toml
