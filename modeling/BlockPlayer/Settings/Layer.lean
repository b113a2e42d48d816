import BlockPlayer.Datum
import BlockPlayer.Decimal.Numeral
import BlockPlayer.Text.Folded

/-!
# Layers of settings

Settings come from several sources. Each source is a list of keys with data, and a later source is laid over
an earlier one. A table is laid over a table member by member, anything else takes the place of what was
there. Letters in keys count the same in both cases.

A key of a source is a path: names with points between them, and places in lists in square brackets. A
text that is no path is a name as a whole.
-/

namespace BlockPlayer

/-! ## Laying over -/

mutual

/-- What is left of `old` when `new` is laid over it. -/
def Datum.over (old : Option Datum) : Datum → Datum
  | .table [] => old.getD (.table [])
  | .table (m :: rest) => .table (overMembers ((old.getD .nothing).members) (m :: rest))
  | d => d
termination_by structural d => d

/-- Lays members over others. -/
def overMembers (old : Members) : Members → Members
  | [] => old
  | (name, d) :: rest =>
    overMembers (Entries.put (Folded.text name) (d.over (old.lookup (Folded.text name))) old) rest
termination_by structural ms => ms

end

/-! ## Paths -/

/-- One step of a path. -/
inductive KeyStep
  | name (s : String)
  | place (i : Int)
  deriving DecidableEq, Repr

namespace KeyStep

/-- The characters that names in paths are made of. -/
def isNameChar (c : Char) : Bool := c.isAlphanum || c == ' ' || c == '_' || c == '-'

/-- A name of a path. -/
def nameOf (cs : List Char) : String := Folded.text (String.ofList (cs.takeWhile isNameChar))

/-- A place in a list, between spaces and tabs, and what follows it. -/
def place? (cs : List Char) : Option (Int × List Char) :=
  let isSpace (c : Char) : Bool := c == ' ' || c == '\t'
  let cs := cs.dropWhile isSpace
  let (negative, cs) := match cs with
    | '-' :: rest => (true, rest)
    | cs => (false, cs)
  let ds := cs.takeWhile Char.isDigit
  let n : Int := Numeral.ofDigits ds
  let i := if negative then -n else n
  match (cs.dropWhile Char.isDigit).dropWhile isSpace with
  | ']' :: rest =>
    if ds ≠ [] ∧ Numeral.lowest ≤ i ∧ i ≤ Numeral.highest then some (i, rest) else none
  | _ => none

/-- The steps of a path after the first. -/
def rest? : Nat → List Char → Option (List KeyStep)
  | _, [] => some []
  | 0, _ => none
  | fuel + 1, '.' :: cs =>
    if (cs.takeWhile isNameChar).isEmpty then none
    else (rest? fuel (cs.dropWhile isNameChar)).map (name (nameOf cs) :: ·)
  | fuel + 1, '[' :: cs => do
    let (i, cs) ← place? cs
    let steps ← rest? fuel cs
    some (place i :: steps)
  | _, _ => none

/-- The first name of a path, and the steps after it. -/
def path (key : String) : String × List KeyStep :=
  let cs := key.toList
  match cs.takeWhile isNameChar, rest? key.length (cs.dropWhile isNameChar) with
  | [], _ | _, none => (Folded.text key, [])
  | _, some steps => (nameOf cs, steps)

end KeyStep

/--
The list with `f` done to the item at place `i`, where a negative place counts from the end. If the list is
too short, places that are left empty make it longer, at its end or in front.
-/
def changeAt (f : Datum → Datum) (i : Int) (ds : List Datum) : List Datum :=
  let place := if 0 ≤ i then i.toNat else ds.length - i.natAbs
  let front := if 0 ≤ i then 0 else i.natAbs - ds.length
  let ds := List.replicate front .nothing ++ ds
  (ds ++ List.replicate (place + 1 - ds.length) .nothing).modify place f

/-- A piece of data with another one laid over what is found behind some steps. -/
def Datum.setBehind (d : Datum) : List KeyStep → Datum → Datum
  | [], old => d.over old
  | [.name s], old => .table (overMembers old.members [(s, d)])
  | .name s :: steps, old =>
    .table (Entries.put s (setBehind d steps ((old.members.lookup s).getD .nothing)) old.members)
  | [.place i], old => .array (changeAt (fun _ => d) i old.items)
  | .place i :: steps, old => .array (changeAt (setBehind d steps) i old.items)

namespace Members

/-- Sets the key of a source. -/
def set (ms : Members) (key : String) (d : Datum) : Members :=
  match KeyStep.path key with
  | (name, []) => overMembers ms [(name, d)]
  | (name, steps) => Entries.put name (d.setBehind steps ((ms.lookup name).getD .nothing)) ms

/-- Lays a source over what is set. -/
def lay (ms : Members) (source : Members) : Members :=
  source.foldl (fun ms (key, d) => ms.set key d) ms

end Members

end BlockPlayer
