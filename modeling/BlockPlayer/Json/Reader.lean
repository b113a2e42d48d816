import BlockPlayer.Json.Tree

/-!
# Reading values of known types

A reader takes a draft and gives a value of some type, or the first problem in the order of the text.
There is one reader for each basic type, and ways to make readers of lists, of optional values, of
records and of names out of others.

A record is written as an object, or as an array of its fields in their order. Fields may come in any
order in an object, unknown members are skipped, and a field that is not required may be left out.
-/

namespace BlockPlayer.Json

/-- Where a draft comes from. It matters for what is said of arrays that are too long. -/
inductive Origin
  | text
  /-- A value that was read before. -/
  | tree
  deriving DecidableEq, Repr

/-- The problem with an array of `n` items of which not all are wanted. -/
def Origin.surplus (o : Origin) (n : Nat) : Error :=
  match o with
  | text => .fault .malformed
  | tree => .mismatch (.length n "fewer elements in array")

/-! ## Skipping -/

def Tail.skip : Tail → Except Error Unit
  | .closed => .ok ()
  | .broken _ b => .error (.fault b.skip)

mutual

/-- Passes over a value that nobody wants. -/
def Draft.skip : Draft → Except Error Unit
  | .array items tail => do
    skipItems items
    tail.skip
  | .object members tail => do
    skipMembers members
    tail.skip
  | .broken b => .error (.fault b.skip)
  | .null | .bool _ | .number _ | .text _ => .ok ()
termination_by structural d => d

def skipItems : List Draft → Except Error Unit
  | [] => .ok ()
  | d :: rest => do
    d.skip
    skipItems rest
termination_by structural ds => ds

def skipMembers : List (Name × Draft) → Except Error Unit
  | [] => .ok ()
  | (_, d) :: rest => do
    d.skip
    skipMembers rest
termination_by structural ms => ms

end

/-! ## Basic types -/

/-- What a draft is, said in an error. -/
def Draft.found : Draft → Except Fault Found
  | .null => .ok .null
  | .bool b => .ok (.bool b)
  | .number (some n) => .ok (.number n)
  | .number none => .error .malformed
  | .text s => s.map .text
  | .array _ _ => .ok .array
  | .object _ _ => .ok .object
  | .broken b => .error b.read

/-- The problem with a draft of the wrong type. -/
def Draft.wrongType (d : Draft) (expected : String) : Error :=
  match d.found with
  | .ok found => .mismatch (.type found expected)
  | .error f => .fault f

/-- Whether a container has ended well. -/
def Tail.finish (t : Tail) : Except Error Unit := t.check.mapError .fault

def readText : Draft → Except Error String
  | .text s => s.mapError .fault
  | d => .error (d.wrongType "a string")

def readBool : Draft → Except Error Bool
  | .bool b => .ok b
  | d => .error (d.wrongType "a boolean")

/-- A whole number without a minus. `title` names the type in errors. -/
def readWhole (title : String) : Draft → Except Error Nat
  | .number (some (.whole n)) =>
    if 0 ≤ n then .ok n.toNat else .error (.mismatch (.value (.number (.whole n)) title))
  | d => .error (d.wrongType title)

def readDouble : Draft → Except Error Float
  | .number (some (.whole n)) => .ok (Double.nearest (n < 0) n.natAbs 0)
  | .number (some (.double x)) => .ok x
  | d => .error (d.wrongType "f64")

/-- A value that may be null instead. -/
def readOptional {α : Type} (read : Draft → Except Error α) : Draft → Except Error (Option α)
  | .null => .ok none
  | d => (read d).map some

/-- All items of an array. -/
def readList {α : Type} (read : Draft → Except Error α) : Draft → Except Error (List α)
  | .array items tail => do
    let values ← items.mapM read
    tail.finish
    .ok values
  | d => .error (d.wrongType "a sequence")

/-! ## Records -/

/-- One field of a record, and how it is put into a record of type `σ`. -/
structure Field (σ : Type) where
  name : String
  required : Bool
  read : Draft → σ → Except Error σ

/-- A record: what errors call it, and its fields in their order. -/
structure Record (σ : Type) where
  title : String
  fields : List (Field σ)

namespace Record

variable {σ : Type}

/-- What errors say of an array that is too short. -/
def lengthTitle (r : Record σ) : String :=
  r.title ++ " with " ++ toString r.fields.length
    ++ (if r.fields.length = 1 then " element" else " elements")

/-- Reads the members of an object into a record; `seen` holds the names of the fields so far. -/
def readMembers (fields : List (Field σ)) (seen : List String) (record : σ) :
    List (Name × Draft) → Except Error (List String × σ)
  | [] => .ok (seen, record)
  | (name, d) :: rest => do
    let name ← name.mapError .fault
    match fields.find? fun f => f.name == name with
    | none =>
      d.skip
      readMembers fields seen record rest
    | some f =>
      if name ∈ seen then .error (.mismatch (.duplicateField name))
      else
        let record ← f.read d record
        readMembers fields (name :: seen) record rest

/-- Reads the items of an array into a record, one field after another. -/
def readItems (r : Record σ) (o : Origin) (items : List Draft) (tail : Tail) :
    List (Field σ) → Nat → σ → List Draft → Except Error σ
  | [], _, record, [] => do
    tail.finish
    .ok record
  | [], _, _, _ :: _ => .error (o.surplus items.length)
  | f :: fields, n, record, [] => do
    tail.finish
    if f.required then .error (.mismatch (.length n r.lengthTitle))
    else readItems r o items tail fields (n + 1) record []
  | f :: fields, n, record, d :: rest => do
    let record ← f.read d record
    readItems r o items tail fields (n + 1) record rest

/-- Reads a record. What is not required and left out is as in `blank`. -/
def read (r : Record σ) (o : Origin) (blank : σ) : Draft → Except Error σ
  | .object members tail => do
    let (seen, record) ← readMembers r.fields [] blank members
    tail.finish
    match r.fields.find? fun f => f.required && !seen.contains f.name with
    | some f => .error (.mismatch (.missingField f.name))
    | none => .ok record
  | .array items tail => readItems r o items tail r.fields 0 blank items
  | d => .error (d.wrongType r.title)

end Record

/-! ## Names -/

/-- A text that is one of some names. -/
def readName {α : Type} (known : List (String × α)) : Draft → Except Error α
  | .text s => do
    let name ← s.mapError .fault
    match known.lookup name with
    | some a => .ok a
    | none => .error (.mismatch (.unknownVariant name (known.map Prod.fst)))
  | d => .error (d.wrongType "variant identifier")

/-- A name, or an object with the name as its only member, whose value is null. -/
def readChoice {α : Type} (known : List (String × α)) : Draft → Except Error α
  | .text s => readName known (.text s)
  | .object [] .closed => .error (.fault .malformed)
  | .object [] (.broken _ b) => .error (.fault b.read)
  | .object ((name, d) :: rest) tail => do
    let a ← readName known (.text name)
    match d with
    | .null => pure ()
    | d => throw (d.wrongType "unit")
    match rest, tail with
    | [], .closed => .ok a
    | [], .broken false b => .error (.fault b.read)
    | _, _ => .error (.fault .malformed)
  | .broken b => .error (.fault b.sight)
  | .null | .bool _ | .number _ | .array _ _ => .error (.fault .malformed)

/--
An object that names what it is in its member `tag`, or an array with the name as its first item.
Whatever else it holds has to be JSON, inside `depth` containers, and an array may hold nothing else.
-/
def readTagged {α : Type} (title tag : String) (known : List (String × α)) (depth : Nat) :
    Draft → Except Error α
  | .object members tail => do
    let found ← readMembers none members
    tail.finish
    match found with
    | some a => .ok a
    | none => .error (.mismatch (.missingField tag))
  | .array [] tail => do
    tail.finish
    .error (.mismatch (.missingField tag))
  | .array (d :: rest) tail => do
    let a ← readName known d
    let _ ← (treeItems (depth + 1) rest).mapError .fault
    tail.finish
    if rest.isEmpty then .ok a
    else .error (.mismatch (.length rest.length "0 elements in sequence"))
  | d => .error (d.wrongType title)
where
  readMembers (found : Option α) : List (Name × Draft) → Except Error (Option α)
    | [] => .ok found
    | (name, d) :: rest => do
      let name ← name.mapError .fault
      if name = tag then
        if found.isSome then .error (.mismatch (.duplicateField tag))
        else
          let a ← readName known d
          readMembers (some a) rest
      else
        let _ ← (d.tree (depth + 1)).mapError .fault
        readMembers found rest

/-! ## Texts -/

/-- **Reads a text.** Nothing but blanks may follow the value. -/
def read {α : Type} (reader : Draft → Except Error α) (text : String) : Except Error α :=
  let (d, more) := draft text.toList
  match reader d with
  | .ok a => if more then .error (.fault .malformed) else .ok a
  | .error e => .error e

/-- Reads a text that may hold any value. -/
def readTree (text : String) : Except Error Json :=
  read (fun d => (d.tree 0).mapError .fault) text

end BlockPlayer.Json
