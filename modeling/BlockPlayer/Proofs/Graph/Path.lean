import BlockPlayer.Graph.Walk

/-!
# Paths along links

A path leads from a link along blocks of a table to the link of the last of them. A path that meets no
block twice and cannot be continued to a new block is a *trail*: its last link is missing, names no
block, or comes back. There is exactly one trail from every link.

* `Table.trail_follow` — what `follow` meets is a trail
* `Table.Trail.unique` — there is no other
* `Graph.chain_eq_of_trail` — whatever is a trail from the start block is the chain

So what an edit does to the chain can be shown by giving the trail of the new table.
-/

namespace BlockPlayer

namespace Table

/-! ## Paths -/

/-- A path from a link along blocks to the link behind the last of them. -/
inductive Path (t : Table) : Option BlockId → List Block → Option BlockId → Prop
  | nil (link : Option BlockId) : Path t link [] link
  | cons {id : BlockId} {b : Block} {rest : List Block} {last : Option BlockId} :
    t.find? id = some b → Path t b.next rest last → Path t (some id) (b :: rest) last

namespace Path

variable {t u : Table} {link middle last : Option BlockId} {l m : List Block}

theorem append (h : Path t link l middle) (h' : Path t middle m last) :
    Path t link (l ++ m) last := by
  induction h with
  | nil => exact h'
  | cons hb _ ih => exact .cons hb (ih h')

/-- A path can be cut anywhere. -/
theorem split : ∀ {l : List Block} {link : Option BlockId}, Path t link (l ++ m) last →
    ∃ middle, Path t link l middle ∧ Path t middle m last
  | [], link, h => ⟨link, .nil link, h⟩
  | _ :: _, _, .cons hb h => by
    obtain ⟨middle, h1, h2⟩ := split h
    exact ⟨middle, .cons hb h1, h2⟩

/-- A path can be cut at one of its blocks. -/
theorem split_cons {b : Block} (h : Path t link (l ++ b :: m) last) :
    Path t link l (some b.id) ∧ t.find? b.id = some b ∧ Path t b.next m last := by
  obtain ⟨middle, h1, h2⟩ := h.split
  cases h2 with
  | cons hb h2 =>
    obtain rfl := find?_eq_some_id hb
    exact ⟨h1, hb, h2⟩

/-- The blocks of a path are blocks of the table. -/
theorem find?_of_mem {b : Block} (h : Path t link l last) (hb : b ∈ l) : t.find? b.id = some b := by
  obtain ⟨l₁, l₂, rfl⟩ := List.append_of_mem hb
  exact h.split_cons.2.1

/-- A block that is found under the id of a block of a path is on the path. -/
theorem mem_of_id_mem {id : BlockId} {b : Block} (h : Path t link l last)
    (hid : id ∈ l.map Block.id) (hb : t.find? id = some b) : b ∈ l := by
  obtain ⟨c, hc, rfl⟩ := List.mem_map.mp hid
  rw [h.find?_of_mem hc] at hb
  cases hb
  exact hc

/-- A path is there in every table that has the same blocks. -/
theorem congr (h : Path t link l last) (hu : ∀ b ∈ l, u.find? b.id = some b) :
    Path u link l last := by
  induction h with
  | nil link => exact .nil link
  | cons hb _ ih =>
    obtain rfl := find?_eq_some_id hb
    exact .cons (hu _ List.mem_cons_self) (ih fun b hm => hu b (List.mem_cons_of_mem _ hm))

/-- The link of the last block is the link that the path leads to. -/
theorem last_eq {b : Block} (h : Path t link l last) (hb : l.getLast? = some b) : last = b.next := by
  obtain ⟨init, rfl⟩ := List.getLast?_eq_some_iff.mp hb
  obtain ⟨-, -, hp⟩ := h.split_cons
  generalize b.next = link' at hp
  cases hp
  rfl

/-- The link that a path leads from names its first block. -/
theorem first_eq {b : Block} (h : Path t link (b :: l) last) : link = some b.id := by
  cases h with
  | cons hb _ => rw [find?_eq_some_id hb]

/-- Of two paths from the same link, one goes on where the other stops. -/
theorem compare (h : Path t link l middle) (h' : Path t link m last) :
    (∃ rest, m = l ++ rest ∧ Path t middle rest last) ∨
    ∃ b rest, l = m ++ b :: rest ∧ Path t last (b :: rest) middle := by
  induction h generalizing m with
  | nil => exact .inl ⟨m, rfl, h'⟩
  | @cons _ b _ _ hb hp ih =>
    cases h' with
    | nil => exact .inr ⟨b, _, rfl, .cons hb hp⟩
    | cons hb' h' =>
      rw [hb] at hb'
      cases hb'
      rcases ih h' with ⟨rest, rfl, hr⟩ | ⟨c, rest, rfl, hr⟩
      · exact .inl ⟨rest, rfl, hr⟩
      · exact .inr ⟨c, rest, rfl, hr⟩

end Path

/-! ## Trails -/

/-- A path that meets no block twice and leads to no block that it did not meet. -/
structure Trail (t : Table) (link : Option BlockId) (l : List Block) (last : Option BlockId) :
    Prop where
  path : Path t link l last
  nodup : (l.map Block.id).Nodup
  stops : ∀ b, last.bind t.find? = some b → b ∈ l

namespace Trail

variable {t : Table} {link last last' : Option BlockId} {l l' : List Block}

/-- Blocks of a trail with the same id are the same. -/
theorem eq_of_id_eq {b c : Block} (h : Trail t link l last) (hb : b ∈ l) (hc : c ∈ l)
    (he : b.id = c.id) : b = c := by
  have hfind := h.path.find?_of_mem hb
  rw [he, h.path.find?_of_mem hc] at hfind
  exact (Option.some.inj hfind).symm

/-- The blocks before and behind a block of a trail have other ids. -/
theorem id_ne_of_split {a : Block} {l₁ l₂ : List Block} (h : Trail t link (l₁ ++ a :: l₂) last) :
    (∀ c ∈ l₁, c.id ≠ a.id) ∧ ∀ c ∈ l₂, c.id ≠ a.id := by
  have hnodup := h.nodup
  simp only [List.map_append, List.map_cons, List.nodup_append, List.nodup_cons] at hnodup
  obtain ⟨-, ⟨hl₂, -⟩, hl₁⟩ := hnodup
  constructor
  · exact fun c hc => hl₁ c.id (List.mem_map_of_mem hc) a.id List.mem_cons_self
  · exact fun c hc he => hl₂ (he ▸ List.mem_map_of_mem hc)

/-- Nothing can be added to a trail. -/
theorem not_longer {b : Block} {rest : List Block} (h : Trail t link l last)
    (hp : Path t last (b :: rest) last') (hd : ((l ++ b :: rest).map Block.id).Nodup) : False := by
  cases hp with
  | cons hb _ =>
    have hmem : b ∈ l := h.stops b hb
    rw [List.map_append, List.nodup_append] at hd
    exact hd.2.2 b.id (List.mem_map_of_mem hmem) b.id (by simp) rfl

/-- **There is only one trail from a link.** -/
theorem unique (h : Trail t link l last) (h' : Trail t link l' last') : l = l' ∧ last = last' := by
  rcases h.path.compare h'.path with ⟨rest, rfl, hp⟩ | ⟨b, rest, rfl, hp⟩
  · cases rest with
    | nil => cases hp; exact ⟨(List.append_nil l).symm, rfl⟩
    | cons b rest => exact (h.not_longer hp h'.nodup).elim
  · exact (h'.not_longer hp h.nodup).elim

end Trail

/-! ## Following links -/

theorem follow_none (t : Table) : Graph.follow t.entries none = [] := by
  rw [Graph.follow]

theorem follow_of_find?_eq_none {t : Table} {id : BlockId} (h : t.find? id = none) :
    Graph.follow t.entries (some id) = [] := by
  rw [Graph.follow]
  split
  · rfl
  · next b hb => rw [show t.find? id = _ from hb] at h; cases h

/-- What follows a block is looked for in the table without it. -/
theorem follow_of_find?_eq_some {t : Table} {id : BlockId} {b : Block} (h : t.find? id = some b) :
    Graph.follow t.entries (some id) = b :: Graph.follow (t.erase id).entries b.next := by
  rw [Graph.follow]
  split
  · next hn => rw [show t.find? id = _ from hn] at h; cases h
  · next c hc =>
    rw [show t.find? id = _ from hc] at h
    cases h
    rfl

theorem size_erase_lt {t : Table} {id : BlockId} {b : Block} (h : t.find? id = some b) :
    (t.erase id).size < t.size := Graph.length_without_of_find? h

theorem find?_eq_some_of_erase {t : Table} {id x : BlockId} {b : Block}
    (h : (t.erase id).find? x = some b) : x ≠ id ∧ t.find? x = some b := by
  rw [find?_erase] at h
  split at h
  · cases h
  · next hne => exact ⟨hne, h⟩

/-- A trail of a table without one block, with this block in front. -/
theorem Trail.cons {t : Table} {id : BlockId} {b : Block} {l : List Block} {last : Option BlockId}
    (hb : t.find? id = some b) (h : Trail (t.erase id) b.next l last) :
    Trail t (some id) (b :: l) last where
  path := by
    refine .cons hb (h.path.congr fun c hc => ?_)
    exact (find?_eq_some_of_erase (h.path.find?_of_mem hc)).2
  nodup := by
    refine List.nodup_cons.mpr ⟨fun hmem => ?_, h.nodup⟩
    obtain ⟨c, hc, hid⟩ := List.mem_map.mp hmem
    refine (find?_eq_some_of_erase (h.path.find?_of_mem hc)).1 ?_
    rw [hid, find?_eq_some_id hb]
  stops := by
    intro c hc
    obtain ⟨x, rfl, hx⟩ := Option.bind_eq_some_iff.mp hc
    by_cases he : x = id
    · subst he
      rw [hb] at hx
      cases hx
      exact List.mem_cons_self
    · refine List.mem_cons_of_mem _ (h.stops c ?_)
      rw [Option.bind_some, find?_erase, if_neg he]
      exact hx

/-- **What is met from a link on is a trail.** -/
theorem trail_follow (t : Table) (link : Option BlockId) :
    ∃ last, Trail t link (Graph.follow t.entries link) last := by
  cases link with
  | none =>
    rw [follow_none]
    exact ⟨none, .nil none, .nil, fun b hb => by cases hb⟩
  | some id =>
    cases hb : t.find? id with
    | none =>
      rw [follow_of_find?_eq_none hb]
      refine ⟨some id, .nil _, .nil, fun b hs => ?_⟩
      rw [Option.bind_some, hb] at hs
      cases hs
    | some b =>
      -- the block leaves the table, so what follows is a trail of a smaller one
      obtain ⟨last, h⟩ := trail_follow (t.erase id) b.next
      rw [follow_of_find?_eq_some hb]
      exact ⟨last, h.cons hb⟩
termination_by t.size
decreasing_by exact size_erase_lt hb

end Table

namespace Graph

open Table (Path Trail)

theorem contains_iff {g : Graph} {id : BlockId} :
    g.contains id = true ↔ ∃ b, g.find? id = some b :=
  Option.isSome_iff_exists

/-! ## The chain as a trail -/

/-- The link of the last block of the chain. -/
def lastLink (g : Graph) : Option BlockId := (g.find? g.tail).bind Block.next

theorem chain_ne_nil (g : Graph) : g.chain ≠ [] := by
  intro h
  have hhead := g.head?_chain
  rw [h] at hhead
  cases hhead

/-- The last block of the chain. -/
theorem getLast?_chain (g : Graph) :
    ∃ b, g.chain.getLast? = some b ∧ b.id = g.tail ∧ b.next = g.lastLink := by
  obtain ⟨b, hb⟩ := Option.ne_none_iff_exists'.mp (mt List.getLast?_eq_none_iff.mp g.chain_ne_nil)
  have htail : g.tail = b.id := by
    rw [tail, chainIds, List.getLast?_map, hb, Option.map_some, Option.getD_some]
  refine ⟨b, hb, htail.symm, ?_⟩
  rw [lastLink, htail, find?_of_mem_chain (List.mem_of_getLast? hb), Option.bind_some]

/-- **The chain is a trail from the start block.** -/
theorem trail_chain (g : Graph) : Trail g.table (some g.start) g.chain g.lastLink := by
  obtain ⟨last, h⟩ := Table.trail_follow g.table (some g.start)
  obtain ⟨b, hb, -, hnext⟩ := g.getLast?_chain
  rw [← hnext, ← h.path.last_eq hb]
  exact h

/-- **A trail from the start block is the chain.** -/
theorem chain_eq_of_trail {g : Graph} {l : List Block} {last : Option BlockId}
    (h : Trail g.table (some g.start) l last) : g.chain = l ∧ g.lastLink = last :=
  g.trail_chain.unique h

theorem nodup_chainIds (g : Graph) : g.chainIds.Nodup := g.trail_chain.nodup

theorem mem_chainIds {g : Graph} {id : BlockId} :
    id ∈ g.chainIds ↔ ∃ b ∈ g.chain, b.id = id := by
  rw [chainIds, List.mem_map]

theorem start_mem_chainIds (g : Graph) : g.start ∈ g.chainIds :=
  mem_chainIds.mpr ⟨g.startBlock, List.mem_of_mem_head? g.head?_chain, rfl⟩

/-- The block of a graph that has an id on the chain is on the chain. -/
theorem mem_chain_iff {g : Graph} {b : Block} :
    b ∈ g.chain ↔ b.id ∈ g.chainIds ∧ g.find? b.id = some b := by
  constructor
  · intro hb
    exact ⟨mem_chainIds.mpr ⟨b, hb, rfl⟩, find?_of_mem_chain hb⟩
  · rintro ⟨hid, hb⟩
    exact g.trail_chain.path.mem_of_id_mem hid hb

/-- The last link names no block, or a block of the chain. -/
theorem mem_chainIds_of_lastLink {g : Graph} {id : BlockId} (h : g.lastLink = some id)
    (hid : g.contains id = true) : id ∈ g.chainIds := by
  obtain ⟨b, hb⟩ := contains_iff.mp hid
  refine mem_chainIds.mpr ⟨b, g.trail_chain.stops b ?_, Table.find?_eq_some_id hb⟩
  rw [h]
  exact hb

end Graph

end BlockPlayer
