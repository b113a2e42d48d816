import BlockPlayer.Graph.Walk

/-!
# Editing a graph

Edits take and give whole graphs. One that cannot be done gives the reason and no graph. A block that
is put in takes over the successor of the block that it is put behind, whatever link it brought along;
when a block is removed, every link to it moves on to its successor.
-/

namespace BlockPlayer.Graph

/-! ## Putting blocks in -/

/-- The table with `b` linked in behind `after`. -/
def splice (t : Table) (after : BlockId) (b : Block) : Table :=
  (t.relink fun x => if x.id = after then some b.id else x.next).insert
    ⟨b.id, b.kind, (t.find? after).bind Block.next⟩

theorem find?_splice (t : Table) (after : BlockId) (b : Block) (id : BlockId) :
    (splice t after b).find? id
      = if b.id = id then some ⟨b.id, b.kind, (t.find? after).bind Block.next⟩
        else (t.find? id).map fun x => ⟨x.id, x.kind, if x.id = after then some b.id else x.next⟩ := by
  simp [splice]

theorem start_kind_splice (g : Graph) (after : BlockId) {b : Block}
    (h : ¬ g.contains b.id = true) :
    ((splice g.table after b).find? g.start).map Block.kind = some .start := by
  have hne : b.id ≠ g.start := fun he => h (he ▸ g.contains_start)
  have hk := g.start_kind
  rw [find?_splice, if_neg hne, Option.map_map]
  exact hk

/--
Puts a block behind another. That its id is taken is noticed before it is noticed that there is no
block to put it behind.
-/
def insertAfter (g : Graph) (after : BlockId) (b : Block) : Except GraphError Graph :=
  if h : g.contains b.id = true then .error (.duplicate b.id)
  else if g.contains after then .ok ⟨g.start, splice g.table after b, g.start_kind_splice after h⟩
  else .error (.unknown after)

/-- Puts a block behind the last of the chain. -/
def append (g : Graph) (b : Block) : Except GraphError Graph := g.insertAfter g.tail b

/-! ## Taking blocks out -/

/-- The table without the block `b`, links to it moved on to its successor. -/
def bypass (t : Table) (b : Block) : Table :=
  (t.erase b.id).relink fun x => if x.next = some b.id then b.next else x.next

theorem find?_bypass (t : Table) (b : Block) (id : BlockId) :
    (bypass t b).find? id
      = if id = b.id then none
        else (t.find? id).map fun x =>
          ⟨x.id, x.kind, if x.next = some b.id then b.next else x.next⟩ := by
  rw [bypass, Table.find?_relink, Table.find?_erase]
  split <;> rfl

theorem start_kind_bypass (g : Graph) {b : Block} (h : b.id ≠ g.start) :
    ((bypass g.table b).find? g.start).map Block.kind = some .start := by
  have hk := g.start_kind
  rw [find?_bypass, if_neg (Ne.symm h), Option.map_map]
  exact hk

/-- Takes a block out and gives it back as it was. -/
def remove (g : Graph) (id : BlockId) : Except GraphError (Block × Graph) :=
  if hs : id = g.start then .error (.undeletable id)
  else match h : g.find? id with
    | none => .error (.unknown id)
    | some b =>
      have hb : b.id ≠ g.start := Table.find?_eq_some_id h ▸ hs
      .ok (b, ⟨g.start, bypass g.table b, g.start_kind_bypass hb⟩)

/-- Keeps the start block alone. -/
def clear (g : Graph) : Graph := new g.start

/-! ## Links -/

/-- The table with the link of one block changed. -/
def redirect (t : Table) (source : BlockId) (target : Option BlockId) : Table :=
  t.relink fun x => if x.id = source then target else x.next

theorem find?_redirect (t : Table) (source : BlockId) (target : Option BlockId) (id : BlockId) :
    (redirect t source target).find? id
      = (t.find? id).map fun x => ⟨x.id, x.kind, if x.id = source then target else x.next⟩ :=
  Table.find?_relink ..

theorem start_kind_redirect (g : Graph) (source : BlockId) (target : Option BlockId) :
    ((redirect g.table source target).find? g.start).map Block.kind = some .start := by
  have hk := g.start_kind
  rw [find?_redirect, Option.map_map]
  exact hk

/-- Lets a block be followed by another, or by none. The target is looked for first. -/
def link (g : Graph) (source : BlockId) (target : Option BlockId) : Except GraphError Graph :=
  match target.filter fun id => !g.contains id with
  | some id => .error (.unknown id)
  | none =>
    if g.contains source then
      .ok ⟨g.start, redirect g.table source target, g.start_kind_redirect source target⟩
    else .error (.unknown source)

/-! ## Edits as values -/

/-- A change of a graph. The ids of blocks that are put in are chosen by whoever makes the change. -/
inductive Edit
  | append (b : Block)
  | insertAfter (after : BlockId) (b : Block)
  | remove (id : BlockId)
  | link (source : BlockId) (target : Option BlockId)
  | clear
  deriving DecidableEq, Repr

/-- The graph after a change. -/
def apply (g : Graph) : Edit → Except GraphError Graph
  | .append b => g.append b
  | .insertAfter after b => g.insertAfter after b
  | .remove id => (g.remove id).map Prod.snd
  | .link source target => g.link source target
  | .clear => .ok g.clear

/-- No change moves the start. -/
theorem start_apply {g h : Graph} {e : Edit} (he : g.apply e = .ok h) : h.start = g.start := by
  have insertAfter_start : ∀ {after : BlockId} {b : Block},
      g.insertAfter after b = .ok h → h.start = g.start := by
    intro after b hi
    unfold insertAfter at hi
    split at hi
    · cases hi
    · split at hi
      · cases hi; rfl
      · cases hi
  cases e with
  | append b => exact insertAfter_start he
  | insertAfter after b => exact insertAfter_start he
  | remove id =>
    simp only [apply, remove] at he
    split at he
    · cases he
    · split at he
      · cases he
      · cases he; rfl
  | link source target =>
    simp only [apply, link] at he
    split at he
    · cases he
    · split at he
      · cases he; rfl
      · cases he
  | clear => cases he; rfl

end BlockPlayer.Graph
