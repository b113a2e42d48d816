import BlockPlayer.Vocabulary

/-!
# Tables of blocks

A table holds blocks under their ids, at most one under each. The blocks are kept in increasing order
of their ids, so there is only one way to hold a set of blocks, and tables with the same blocks are
equal (`Table.ext_find?`).

The view of a table is `find?`. Each operation has a lemma that says what it does to the view:
`find?_insert`, `find?_erase`, `find?_relink`.
-/

namespace BlockPlayer

/-- One block, with the id of the block that follows it. That id may name no block. -/
structure Block where
  id : BlockId
  kind : BlockKind
  next : Option BlockId
  deriving DecidableEq, Repr

/-- Blocks in increasing order of their ids. -/
structure Table where
  entries : List Block
  sorted : entries.Pairwise fun a b => a.id < b.id
  deriving DecidableEq

namespace Table

/-! ## Operations -/

def empty : Table := ⟨[], .nil⟩

/-- The block with a given id. -/
def find? (t : Table) (id : BlockId) : Option Block := t.entries.find? fun b => b.id == id

def contains (t : Table) (id : BlockId) : Bool := (t.find? id).isSome

def size (t : Table) : Nat := t.entries.length

/-- Puts a block where its id belongs, in place of a block with the same id. -/
def insertSorted (b : Block) : List Block → List Block
  | [] => [b]
  | c :: rest =>
    if b.id < c.id then b :: c :: rest
    else if b.id = c.id then b :: rest
    else c :: insertSorted b rest

theorem mem_insertSorted {b x : Block} :
    ∀ {l : List Block}, x ∈ insertSorted b l → x = b ∨ x ∈ l
  | [], h => by simpa [insertSorted] using h
  | c :: rest, h => by
    unfold insertSorted at h
    split at h
    · simpa using h
    · split at h
      · rcases List.mem_cons.mp h with h | h
        · exact .inl h
        · exact .inr (List.mem_cons_of_mem _ h)
      · rcases List.mem_cons.mp h with h | h
        · exact .inr (by simp [h])
        · exact (mem_insertSorted h).imp_right (List.mem_cons_of_mem _)

theorem lt_of_not_lt_of_ne {a b : BlockId} (hlt : ¬ a < b) (hne : a ≠ b) : b < a := by
  by_cases h : b < a
  · exact h
  · exact absurd (String.le_antisymm (String.not_lt.mp h) (String.not_lt.mp hlt)) hne

theorem pairwise_insertSorted (b : Block) :
    ∀ {l : List Block}, l.Pairwise (fun a b => a.id < b.id) →
      (insertSorted b l).Pairwise fun a b => a.id < b.id
  | [], _ => by simp [insertSorted]
  | c :: rest, h => by
    obtain ⟨hc, hrest⟩ := List.pairwise_cons.mp h
    unfold insertSorted
    split
    · next hlt =>
      refine List.pairwise_cons.mpr ⟨fun x hx => ?_, h⟩
      rcases List.mem_cons.mp hx with hx | hx
      · exact hx ▸ hlt
      · exact String.lt_trans hlt (hc x hx)
    · next hlt =>
      split
      · next heq => exact List.pairwise_cons.mpr ⟨fun x hx => heq ▸ hc x hx, hrest⟩
      · next hne =>
        refine List.pairwise_cons.mpr ⟨fun x hx => ?_, pairwise_insertSorted b hrest⟩
        rcases mem_insertSorted hx with hx | hx
        · exact hx ▸ lt_of_not_lt_of_ne hlt hne
        · exact hc x hx

/-- Adds a block, in place of a block with the same id. -/
def insert (t : Table) (b : Block) : Table :=
  ⟨insertSorted b t.entries, pairwise_insertSorted b t.sorted⟩

/-- Takes the block with a given id out. -/
def erase (t : Table) (id : BlockId) : Table :=
  ⟨t.entries.filter fun b => b.id != id, t.sorted.filter _⟩

/-- Gives every block a new successor. -/
def relink (t : Table) (next : Block → Option BlockId) : Table :=
  ⟨t.entries.map fun b => ⟨b.id, b.kind, next b⟩, List.pairwise_map.mpr t.sorted⟩

/-! ## What the operations do to the view -/

theorem find?_eq_some_id {t : Table} {id : BlockId} {b : Block} (h : t.find? id = some b) :
    b.id = id := by simpa using List.find?_some h

theorem mem_of_find? {t : Table} {id : BlockId} {b : Block} (h : t.find? id = some b) :
    b ∈ t.entries := List.mem_of_find?_eq_some h

theorem find?_of_pairwise {b : Block} :
    ∀ {l : List Block}, l.Pairwise (fun a b => a.id < b.id) → b ∈ l →
      l.find? (fun x => x.id == b.id) = some b
  | c :: rest, h, hb => by
    obtain ⟨hc, hrest⟩ := List.pairwise_cons.mp h
    rcases List.mem_cons.mp hb with hb | hb
    · subst hb
      simp
    · have hne : c.id ≠ b.id := fun he => String.lt_irrefl _ (he ▸ hc b hb)
      rw [List.find?_cons_of_neg (by simpa using hne)]
      exact find?_of_pairwise hrest hb

/-- A block of a table is found under its id. -/
theorem find?_of_mem {t : Table} {b : Block} (h : b ∈ t.entries) : t.find? b.id = some b :=
  find?_of_pairwise t.sorted h

@[simp] theorem find?_empty (id : BlockId) : empty.find? id = none := rfl

theorem find?_insertSorted (b : Block) (id : BlockId) :
    ∀ {l : List Block}, l.Pairwise (fun a b => a.id < b.id) →
      (insertSorted b l).find? (fun x => x.id == id)
        = if b.id = id then some b else l.find? fun x => x.id == id
  | [], _ => by
    by_cases hb : b.id = id <;> simp [insertSorted, hb]
  | c :: rest, h => by
    obtain ⟨hc, hrest⟩ := List.pairwise_cons.mp h
    unfold insertSorted
    split
    · by_cases hb : b.id = id <;> simp [hb]
    · split
      · next heq =>
        by_cases hb : b.id = id
        · simp [hb]
        · simp [hb, heq ▸ hb]
      · next hne =>
        by_cases hcid : c.id = id
        · simp [hcid, hcid ▸ hne]
        · simp only [List.find?_cons, beq_eq_false_iff_ne.mpr hcid]
          exact find?_insertSorted b id hrest

@[simp] theorem find?_insert (t : Table) (b : Block) (id : BlockId) :
    (t.insert b).find? id = if b.id = id then some b else t.find? id :=
  find?_insertSorted b id t.sorted

theorem find?_filter_ne (id x : BlockId) :
    ∀ l : List Block, (l.filter fun b => b.id != id).find? (fun b => b.id == x)
      = if x = id then none else l.find? fun b => b.id == x
  | [] => by simp
  | c :: rest => by
    have ih := find?_filter_ne id x rest
    by_cases hc : c.id = id
    · by_cases hx : x = id
      · rw [List.filter_cons_of_neg (by simp [hc]), ih, if_pos hx, if_pos hx]
      · rw [List.filter_cons_of_neg (by simp [hc]), ih, if_neg hx, if_neg hx,
          List.find?_cons_of_neg (by simp [hc, Ne.symm hx])]
    · rw [List.filter_cons_of_pos (by simp [hc])]
      by_cases hcx : c.id = x
      · rw [List.find?_cons_of_pos (by simp [hcx]), if_neg (hcx ▸ hc),
          List.find?_cons_of_pos (by simp [hcx])]
      · rw [List.find?_cons_of_neg (by simp [hcx]), ih, List.find?_cons_of_neg (by simp [hcx])]

@[simp] theorem find?_erase (t : Table) (id x : BlockId) :
    (t.erase id).find? x = if x = id then none else t.find? x :=
  find?_filter_ne id x t.entries

@[simp] theorem find?_relink (t : Table) (next : Block → Option BlockId) (id : BlockId) :
    (t.relink next).find? id = (t.find? id).map fun b => ⟨b.id, b.kind, next b⟩ := by
  simp only [find?, relink, List.find?_map]
  rfl

/-! ## Tables with the same view are equal -/

theorem eq_of_pairwise_of_mem :
    ∀ {l m : List Block}, l.Pairwise (fun a b => a.id < b.id) → m.Pairwise (fun a b => a.id < b.id) →
      (∀ b, b ∈ l ↔ b ∈ m) → l = m
  | [], [], _, _, _ => rfl
  | [], c :: _, _, _, h => absurd ((h c).mpr List.mem_cons_self) List.not_mem_nil
  | b :: _, [], _, _, h => absurd ((h b).mp List.mem_cons_self) List.not_mem_nil
  | b :: l, c :: m, hl, hm, h => by
    obtain ⟨hb, hl'⟩ := List.pairwise_cons.mp hl
    obtain ⟨hc, hm'⟩ := List.pairwise_cons.mp hm
    have hbc : b = c := by
      rcases List.mem_cons.mp ((h b).mp List.mem_cons_self) with he | hbm
      · exact he
      · rcases List.mem_cons.mp ((h c).mpr List.mem_cons_self) with he | hcl
        · exact he.symm
        · exact absurd (hb c hcl) (String.lt_asymm (hc b hbm))
    subst hbc
    refine congrArg (b :: ·) (eq_of_pairwise_of_mem hl' hm' fun x => ⟨fun hx => ?_, fun hx => ?_⟩)
    · rcases List.mem_cons.mp ((h x).mp (List.mem_cons_of_mem _ hx)) with he | hx'
      · exact absurd (he ▸ hb x hx) (String.lt_irrefl _)
      · exact hx'
    · rcases List.mem_cons.mp ((h x).mpr (List.mem_cons_of_mem _ hx)) with he | hx'
      · exact absurd (he ▸ hc x hx) (String.lt_irrefl _)
      · exact hx'

/-- **Two tables that hold the same block under every id are equal.** -/
theorem ext_find? {s t : Table} (h : ∀ id, s.find? id = t.find? id) : s = t := by
  have hmem : ∀ b, b ∈ s.entries ↔ b ∈ t.entries := fun b =>
    ⟨fun hb => mem_of_find? (h b.id ▸ find?_of_mem hb),
      fun hb => mem_of_find? ((h b.id).symm ▸ find?_of_mem hb)⟩
  cases s
  cases t
  simpa using eq_of_pairwise_of_mem (by assumption) (by assumption) hmem

end Table

end BlockPlayer
