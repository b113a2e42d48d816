import Mathlib.Data.List.Perm.Subperm
import BlockPlayer.Proofs.Graph.Path

/-!
# Tours

A *tour* of a graph is a list of ids that begins with the start, goes from each block to the one that
its link names, comes to no block twice, and ends only where no new block comes next. This says nothing
of how a tour is found. There is one and no other: the ids of the chain.

A walk finds it, one block a turn. It keeps the ids that it has met and stops where a link is missing,
names no block, or leads back to one of them. Links may lead anywhere, so it is not the links that bring
it to an end: every turn meets a block of the graph that was not met before, and of those there are only
so many.

* `tour_iff` — the tours of a graph are told from its links alone, and the chain is the only one
* `Leads.meetNext`, `Leads.stops` — what one turn keeps, and what is left when there is no further turn
* `isSome_walkAfter_iff` — how many turns there are
* `walk_makes_only_tour` — **the walk ends, and the ids that it has met then are the only tour**
-/

namespace BlockPlayer.Graph

open Table (Path Trail)

variable {g : Graph} {id : BlockId} {ids : List BlockId} {l : List Block}
  {link last : Option BlockId}

/-! ## Tours -/

/-- The link of the block with a given id. -/
def linkOf (g : Graph) (id : BlockId) : Option BlockId := (g.find? id).bind Block.next

/-- Distinct ids of blocks, from the start along the links, with no new block to follow. -/
structure Tour (g : Graph) (ids : List BlockId) : Prop where
  starts : ids.head? = some g.start
  contained : ∀ id ∈ ids, g.contains id = true
  nodup : ids.Nodup
  linked : ids.IsChain fun a b => g.linkOf a = some b
  /-- The last link, if there is one, names no block or leads back. -/
  ends : ∀ a id, ids.getLast? = some a → g.linkOf a = some id →
    g.contains id = false ∨ id ∈ ids

theorem linkOf_of_find? {b : Block} (h : g.find? b.id = some b) : g.linkOf b.id = b.next := by
  rw [linkOf, h, Option.bind_some]

/-- Along a path, each id is followed by the one that its block links to. -/
theorem isChain_of_path (h : Path g.table link l last) :
    (l.map Block.id).IsChain fun a b => g.linkOf a = some b := by
  induction h with
  | nil => exact .nil
  | @cons _ b rest _ hb hp ih =>
    obtain rfl := Table.find?_eq_some_id hb
    cases rest with
    | nil => exact .singleton _
    | cons c rest =>
      refine List.isChain_cons_cons.mpr ⟨?_, ih⟩
      rw [linkOf_of_find? hb]
      exact hp.first_eq

/-- Ids that follow each other by their links are those of the blocks of a path. -/
theorem exists_path_of_isChain : ∀ {ids : List BlockId} {id : BlockId},
    (id :: ids).IsChain (fun a b => g.linkOf a = some b) →
    (∀ x ∈ id :: ids, g.contains x = true) →
    ∃ l last, Path g.table (some id) l last ∧ l.map Block.id = id :: ids
  | [], id, _, hids => by
    obtain ⟨b, hb⟩ := contains_iff.mp (hids id List.mem_cons_self)
    obtain rfl := Table.find?_eq_some_id hb
    exact ⟨[b], b.next, .cons hb (.nil _), rfl⟩
  | x :: ids, id, h, hids => by
    obtain ⟨hx, hrest⟩ := List.isChain_cons_cons.mp h
    obtain ⟨b, hb⟩ := contains_iff.mp (hids id List.mem_cons_self)
    obtain rfl := Table.find?_eq_some_id hb
    obtain ⟨l, last, hp, hl⟩ :=
      exists_path_of_isChain hrest fun y hy => hids y (List.mem_cons_of_mem _ hy)
    rw [linkOf_of_find? hb] at hx
    exact ⟨b :: l, last, .cons hb (hx ▸ hp), by rw [List.map_cons, hl]⟩

/-- A path along blocks with the ids of a tour is a trail. -/
theorem Tour.trail (h : g.Tour ids) (hp : Path g.table (some g.start) l last)
    (hl : l.map Block.id = ids) : Trail g.table (some g.start) l last where
  path := hp
  nodup := hl ▸ h.nodup
  stops := by
    intro b hb
    obtain ⟨id, rfl, hid⟩ := Option.bind_eq_some_iff.mp hb
    -- a tour has a last block, and it is the link of this block that nothing new may follow
    cases hc : l.getLast? with
    | none =>
      rw [← hl, List.getLast?_eq_none_iff.mp hc] at h
      cases h.starts
    | some c =>
      have hlink : g.linkOf c.id = some id := by
        rw [linkOf_of_find? (hp.find?_of_mem (List.mem_of_getLast? hc)), ← hp.last_eq hc]
      have hlast : ids.getLast? = some c.id := by
        rw [← hl, List.getLast?_map, hc, Option.map_some]
      rcases h.ends c.id id hlast hlink with hnone | hmem
      · rw [contains_iff.mpr ⟨b, hid⟩] at hnone
        cases hnone
      · exact hp.mem_of_id_mem (hl ▸ hmem) hid

/-- The chain makes a tour. -/
theorem tour_chainIds (g : Graph) : g.Tour g.chainIds where
  starts := by
    rw [chainIds, List.head?_map, g.head?_chain]
    rfl
  contained := by
    intro id hid
    obtain ⟨b, hb, rfl⟩ := mem_chainIds.mp hid
    exact contains_iff.mpr ⟨b, find?_of_mem_chain hb⟩
  nodup := g.nodup_chainIds
  linked := isChain_of_path g.trail_chain.path
  ends := by
    intro a id ha hid
    obtain ⟨b, hb, -, hnext⟩ := g.getLast?_chain
    rw [chainIds, List.getLast?_map, hb] at ha
    cases ha
    rw [linkOf_of_find? (find?_of_mem_chain (List.mem_of_getLast? hb)), hnext] at hid
    cases hc : g.contains id with
    | false => exact .inl rfl
    | true => exact .inr (mem_chainIds_of_lastLink hid hc)

/-- **A graph has one tour, the ids of its chain.** -/
theorem tour_iff : g.Tour ids ↔ ids = g.chainIds := by
  constructor
  · intro h
    cases ids with
    | nil => cases h.starts
    | cons id ids =>
      obtain rfl : id = g.start := Option.some.inj h.starts
      obtain ⟨l, last, hp, hl⟩ := exists_path_of_isChain h.linked h.contained
      rw [← hl, chainIds, (chain_eq_of_trail (h.trail hp hl)).1]
  · rintro rfl
    exact g.tour_chainIds

/-! ## One turn of a walk -/

/-- How far a walk has come: the ids that it has met, and the link to follow next. -/
structure Walk where
  met : List BlockId
  link : Option BlockId
  deriving DecidableEq, Repr

/--
One turn of a walk. There is none if there is no link, if it leads to an id that was met, or if it names
no block.
-/
def meetNext (g : Graph) (w : Walk) : Option Walk :=
  match w.link with
  | none => none
  | some id =>
    if id ∈ w.met then none else (g.find? id).map fun b => ⟨w.met ++ [id], b.next⟩

variable {w v : Walk}

/-- A turn meets a block that was not met before. -/
theorem exists_of_meetNext (h : g.meetNext w = some v) :
    ∃ b, w.link = some b.id ∧ g.find? b.id = some b ∧ b.id ∉ w.met ∧
      v = ⟨w.met ++ [b.id], b.next⟩ := by
  unfold meetNext at h
  split at h
  · cases h
  · next id hid =>
    split at h
    · cases h
    · next hmem =>
      obtain ⟨b, hb, rfl⟩ := Option.map_eq_some_iff.mp h
      obtain rfl := Table.find?_eq_some_id hb
      exact ⟨b, hid, hb, hmem, rfl⟩

/-- Where there is no further turn, a block that the link names was met. -/
theorem mem_met_of_meetNext {b : Block} (h : g.meetNext w = none) (hid : w.link = some id)
    (hb : g.find? id = some b) : id ∈ w.met := by
  by_contra hmem
  rw [meetNext, hid] at h
  simp only [if_neg hmem, hb, Option.map_some] at h
  cases h

/-- The walk has come from the start along some blocks and has met each of them once. -/
structure Leads (g : Graph) (w : Walk) (l : List Block) : Prop where
  path : Path g.table (some g.start) l w.link
  met : w.met = l.map Block.id
  nodup : w.met.Nodup

namespace Leads

/-- A turn takes a walk on by one block. -/
theorem meetNext (h : Leads g w l) (hv : g.meetNext w = some v) : ∃ b, Leads g v (l ++ [b]) := by
  obtain ⟨b, hlink, hb, hnew, rfl⟩ := exists_of_meetNext hv
  refine ⟨b, ?_, ?_, ?_⟩
  · have hpath := h.path
    rw [hlink] at hpath
    exact hpath.append (.cons hb (.nil _))
  · rw [h.met, List.map_append]
    rfl
  · refine List.nodup_append.mpr ⟨h.nodup, by simp, fun x hx y hy he => hnew ?_⟩
    rw [← List.mem_singleton.mp hy, ← he]
    exact hx

/-- A walk has met no more blocks than there are. -/
theorem length_le (h : Leads g w l) : l.length ≤ g.size := by
  have hsub : w.met ⊆ g.table.entries.map Block.id := by
    intro id hid
    obtain ⟨b, hb, rfl⟩ := List.mem_map.mp (h.met ▸ hid)
    exact List.mem_map_of_mem (Table.mem_of_find? (h.path.find?_of_mem hb))
  have hle := (h.nodup.subperm hsub).length_le
  rw [h.met, List.length_map, List.length_map] at hle
  exact hle

/-- A walk that cannot go on has met the chain. -/
theorem stops (h : Leads g w l) (hn : g.meetNext w = none) : w = ⟨g.chainIds, g.lastLink⟩ := by
  have htrail : Trail g.table (some g.start) l w.link := by
    refine ⟨h.path, h.met ▸ h.nodup, fun b hb => ?_⟩
    obtain ⟨id, hid, hfind⟩ := Option.bind_eq_some_iff.mp hb
    exact h.path.mem_of_id_mem (h.met ▸ mem_met_of_meetNext hn hid hfind) hfind
  obtain ⟨hchain, hlast⟩ := chain_eq_of_trail htrail
  rw [chainIds, hchain, hlast, ← h.met]

end Leads

/-! ## Whole walks -/

/-- The walk from the start after some turns, if there are so many. -/
def walkAfter (g : Graph) : Nat → Option Walk
  | 0 => some ⟨[], some g.start⟩
  | n + 1 => (g.walkAfter n).bind g.meetNext

variable {m n : Nat}

/-- As many blocks have been met as there were turns. -/
theorem exists_leads_of_walkAfter (h : g.walkAfter n = some w) :
    ∃ l, Leads g w l ∧ l.length = n := by
  induction n generalizing w with
  | zero =>
    cases h
    exact ⟨[], ⟨.nil _, rfl, .nil⟩, rfl⟩
  | succ n ih =>
    obtain ⟨v, hv, hw⟩ := Option.bind_eq_some_iff.mp h
    obtain ⟨l, hl, hlen⟩ := ih hv
    obtain ⟨b, hb⟩ := hl.meetNext hw
    exact ⟨l ++ [b], hb, by rw [List.length_append, hlen]; rfl⟩

theorem le_size_of_walkAfter (h : g.walkAfter n = some w) : n ≤ g.size := by
  obtain ⟨l, hl, rfl⟩ := exists_leads_of_walkAfter h
  exact hl.length_le

/-- From wherever a walk has come to, it comes to an end. -/
theorem exists_stop {n : Nat} {w : Walk} (h : g.walkAfter n = some w) :
    ∃ m v, g.walkAfter m = some v ∧ g.meetNext v = none := by
  cases hv : g.meetNext w with
  | none => exact ⟨n, w, h, hv⟩
  | some v =>
    have hnext : g.walkAfter (n + 1) = some v := by rw [walkAfter, h, Option.bind_some, hv]
    -- the blocks that are left to be met become fewer
    have hlt : n < g.size := le_size_of_walkAfter hnext
    exact exists_stop hnext
termination_by g.size - n

/-- With as many turns as there are blocks on the chain, the walk has met the chain and stops. -/
theorem walkAfter_length (g : Graph) :
    g.walkAfter g.chainIds.length = some ⟨g.chainIds, g.lastLink⟩ ∧
      g.walkAfter (g.chainIds.length + 1) = none := by
  obtain ⟨m, v, hv, hn⟩ := g.exists_stop (n := 0) rfl
  obtain ⟨l, hl, rfl⟩ := exists_leads_of_walkAfter hv
  obtain rfl := hl.stops hn
  have hlen : g.chainIds.length = l.length := by
    rw [show g.chainIds = _ from hl.met, List.length_map]
  rw [hlen, walkAfter, hv, Option.bind_some]
  exact ⟨rfl, hn⟩

theorem isSome_walkAfter_of_le (h : m ≤ n) (hn : (g.walkAfter n).isSome = true) :
    (g.walkAfter m).isSome = true := by
  induction h with
  | refl => exact hn
  | @step n _ ih =>
    refine ih ?_
    rw [walkAfter] at hn
    exact Option.isSome_of_isSome_bind hn

/-- **There are as many turns as blocks on the chain.** -/
theorem isSome_walkAfter_iff : (g.walkAfter n).isSome = true ↔ n ≤ g.chainIds.length := by
  obtain ⟨hlast, hnone⟩ := g.walkAfter_length
  constructor
  · intro hn
    by_contra hlt
    have hsucc := isSome_walkAfter_of_le (Nat.lt_of_not_le hlt) hn
    rw [Nat.succ_eq_add_one, hnone] at hsucc
    cases hsucc
  · intro hn
    refine isSome_walkAfter_of_le hn ?_
    rw [hlast]
    rfl

/--
**The walk along the chain ends, and what it has met then is the only tour.** It makes one turn for each
block of the chain, of which there is at least one and are no more than the graph has blocks, and then
none. Whatever the links are, a list of ids is a tour if and only if it is the one that was met.
-/
theorem walk_makes_only_tour (g : Graph) :
    (∀ n, (g.walkAfter n).isSome = true ↔ n ≤ g.chainIds.length) ∧
    g.walkAfter g.chainIds.length = some ⟨g.chainIds, g.lastLink⟩ ∧
    1 ≤ g.chainIds.length ∧ g.chainIds.length ≤ g.size ∧
    ∀ ids, g.Tour ids ↔ ids = g.chainIds := by
  obtain ⟨hlast, -⟩ := g.walkAfter_length
  refine ⟨fun _ => isSome_walkAfter_iff, hlast, ?_, le_size_of_walkAfter hlast, fun _ => tour_iff⟩
  exact List.length_pos_of_mem g.start_mem_chainIds

/-- The chain comes back to its second block; a detached block is linked to it as well. -/
example :
    let blocks : List Block := [⟨"s", .start, some "a"⟩, ⟨"a", .action .wait, some "b"⟩,
      ⟨"b", .action .wait, some "a"⟩, ⟨"d", .action .wait, some "a"⟩]
    ((ofBlocks "s" blocks).toOption.bind fun g => g.walkAfter 3) = some ⟨["s", "a", "b"], some "a"⟩ ∧
      ((ofBlocks "s" blocks).toOption.bind fun g => g.walkAfter 4) = none := by
  decide

end BlockPlayer.Graph
