import BlockPlayer.Json.Draft

/-!
# From drafts to values and back

`Draft.tree` is the strict reader: it takes a draft for a value if there is no fault in it at all. Of
members with the same name the last counts, and members are kept in the order of their names, so what
was the order of the text is lost. Containers may be nested up to a fixed depth.

`toDraft` goes the other way. It serves readers of records, which take drafts: a record in a value is
read like a record in a text.
-/

namespace BlockPlayer.Json

/-- The most containers that may be open at the same time. -/
def depthLimit : Nat := 127

/-- Whether a container has ended well. -/
def Tail.check : Tail → Except Fault Unit
  | .closed => .ok ()
  | .broken _ b => .error b.read

/-- Puts a member where its name belongs, in place of one with the same name. -/
def insertMember (name : String) (value : Json) : List (String × Json) → List (String × Json)
  | [] => [(name, value)]
  | (n, v) :: rest =>
    if name < n then (name, value) :: (n, v) :: rest
    else if name = n then (name, value) :: rest
    else (n, v) :: insertMember name value rest

mutual

/-- The value of a draft inside `depth` containers. -/
def Draft.tree (depth : Nat) : Draft → Except Fault Json
  | .null => .ok .null
  | .bool b => .ok (.bool b)
  | .number (some n) => .ok (.number n)
  | .number none => .error .malformed
  | .text s => s.map .text
  | .array items tail =>
    if depthLimit ≤ depth then .error .malformed
    else do
      let values ← treeItems (depth + 1) items
      tail.check
      .ok (.array values)
  | .object members tail =>
    if depthLimit ≤ depth then .error .malformed
    else do
      let values ← treeMembers (depth + 1) [] members
      tail.check
      .ok (.object values)
  | .broken b => .error b.read
termination_by structural d => d

def treeItems (depth : Nat) : List Draft → Except Fault (List Json)
  | [] => .ok []
  | d :: rest => do
    let v ← d.tree depth
    let values ← treeItems depth rest
    .ok (v :: values)
termination_by structural ds => ds

/-- The members of an object, put behind those that came before. -/
def treeMembers (depth : Nat) (before : List (String × Json)) :
    List (Name × Draft) → Except Fault (List (String × Json))
  | [] => .ok before
  | (name, d) :: rest => do
    let name ← name
    let v ← d.tree depth
    treeMembers depth (insertMember name v before) rest
termination_by structural ms => ms

end

mutual

/-- A value as a draft without faults. -/
def toDraft : Json → Draft
  | .null => .null
  | .bool b => .bool b
  | .number n => .number (some n)
  | .text s => .text (.ok s)
  | .array items => .array (itemsToDraft items) .closed
  | .object members => .object (membersToDraft members) .closed
termination_by structural j => j

def itemsToDraft : List Json → List Draft
  | [] => []
  | j :: rest => toDraft j :: itemsToDraft rest
termination_by structural js => js

def membersToDraft : List (String × Json) → List (Name × Draft)
  | [] => []
  | (name, j) :: rest => (.ok name, toDraft j) :: membersToDraft rest
termination_by structural ms => ms

end

end BlockPlayer.Json
