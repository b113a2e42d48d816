import BlockPlayer.Graph.Document
import BlockPlayer.Proofs.Graph.Path

/-!
# Documents of graphs

The document of a graph holds each of its blocks once (`Graph.document_perm`), and the blocks of a
table, in any order, make the table (`Table.foldl_insert_of_perm`). So the graph of the document is the
graph itself (`Graph.ofBlocks_document`), whatever its chain looks like.

Which graph loose blocks make is told by what is found in it (`Graph.ofBlocks_eq_ok_iff_find?`), and an
id is told to be repeated if it is the first that is (`Graph.ofBlocks_eq_duplicate_iff`).
-/

namespace BlockPlayer

namespace Table

/-! ## Tables of loose blocks -/

theorem nodup_entries (t : Table) : (t.entries.map Block.id).Nodup := by
  refine List.pairwise_map.mpr (t.sorted.imp fun {a b} hlt he => ?_)
  rw [he] at hlt
  exact String.lt_irrefl b.id hlt

/-- Under an id that no block brings, the table stays as it was. -/
theorem find?_foldl_insert_of_not_mem {blocks : List Block} {id : BlockId} :
    ∀ {t : Table}, id ∉ blocks.map Block.id →
      (blocks.foldl Table.insert t).find? id = t.find? id := by
  induction blocks with
  | nil => exact fun _ => rfl
  | cons b rest ih =>
    intro t hid
    rw [List.map_cons, List.mem_cons, not_or] at hid
    rw [List.foldl_cons, ih hid.2, find?_insert, if_neg (Ne.symm hid.1)]

/-- Under the id of a block, the block is found, if no other block has this id. -/
theorem find?_foldl_insert_of_mem {blocks : List Block} {b : Block} :
    ∀ {t : Table}, (blocks.map Block.id).Nodup → b ∈ blocks →
      (blocks.foldl Table.insert t).find? b.id = some b := by
  induction blocks with
  | nil => exact fun _ hb => absurd hb List.not_mem_nil
  | cons c rest ih =>
    intro t hnodup hb
    rw [List.map_cons, List.nodup_cons] at hnodup
    rw [List.foldl_cons]
    rcases List.mem_cons.mp hb with rfl | hb
    · rw [find?_foldl_insert_of_not_mem hnodup.1, find?_insert, if_pos rfl]
    · exact ih hnodup.2 hb

/-- The blocks of a table, in any order, make the table. -/
theorem foldl_insert_of_perm {blocks : List Block} {t : Table} (h : blocks.Perm t.entries) :
    blocks.foldl Table.insert .empty = t := by
  have hnodup : (blocks.map Block.id).Nodup := ((h.map Block.id).nodup_iff).mpr t.nodup_entries
  refine ext_find? fun id => ?_
  cases hb : t.find? id with
  | some b =>
    obtain rfl := find?_eq_some_id hb
    exact find?_foldl_insert_of_mem hnodup (h.mem_iff.mpr (mem_of_find? hb))
  | none =>
    rw [find?_foldl_insert_of_not_mem, find?_empty]
    intro hid
    obtain ⟨b, hmem, rfl⟩ := List.mem_map.mp hid
    rw [find?_of_mem (h.mem_iff.mp hmem)] at hb
    cases hb

/-- The table of loose blocks holds these blocks and no others. -/
theorem eq_foldl_insert_iff {blocks : List Block} {t : Table}
    (hnodup : (blocks.map Block.id).Nodup) :
    t = blocks.foldl Table.insert .empty ↔ ∀ b, t.find? b.id = some b ↔ b ∈ blocks := by
  have hheld : ∀ b, (blocks.foldl Table.insert .empty).find? b.id = some b ↔ b ∈ blocks := by
    intro b
    refine ⟨fun hb => ?_, find?_foldl_insert_of_mem hnodup⟩
    by_cases hid : b.id ∈ blocks.map Block.id
    · obtain ⟨c, hc, he⟩ := List.mem_map.mp hid
      rw [← he, find?_foldl_insert_of_mem hnodup hc] at hb
      cases hb
      exact hc
    · rw [find?_foldl_insert_of_not_mem hid, find?_empty] at hb
      cases hb
  refine ⟨fun ht => ht ▸ hheld, fun h => ext_find? fun id => Option.ext fun b => ?_⟩
  constructor
  · intro hb
    obtain rfl := find?_eq_some_id hb
    exact (hheld b).mpr ((h b).mp hb)
  · intro hb
    obtain rfl := find?_eq_some_id hb
    exact (h b).mpr ((hheld b).mp hb)

end Table

namespace Graph

/-! ## Graphs of loose blocks -/

theorem repeated?_eq_none_iff {blocks : List Block} : ∀ {seen : List BlockId},
    repeated? seen blocks = none ↔
      (blocks.map Block.id).Nodup ∧ ∀ b ∈ blocks, b.id ∉ seen := by
  induction blocks with
  | nil => simp [repeated?]
  | cons b rest ih =>
    intro seen
    rw [repeated?]
    split
    · next hmem => simp [hmem]
    · next hmem =>
      rw [ih, List.map_cons, List.nodup_cons]
      simp only [List.mem_cons, not_or, forall_eq_or_imp, List.mem_map, not_exists, not_and]
      constructor
      · rintro ⟨hnodup, hrest⟩
        exact ⟨⟨fun c hc he => (hrest c hc).1 he, hnodup⟩, hmem, fun c hc => (hrest c hc).2⟩
      · rintro ⟨⟨hb, hnodup⟩, -, hrest⟩
        exact ⟨hnodup, fun c hc => ⟨hb c hc, hrest c hc⟩⟩

/-- What makes loose blocks a graph, and which one. -/
theorem ofBlocks_eq_ok_iff {start : BlockId} {blocks : List Block} {g : Graph} :
    ofBlocks start blocks = .ok g ↔
      (blocks.map Block.id).Nodup ∧ g.start = start ∧
        g.table = blocks.foldl Table.insert .empty := by
  have hnodup : repeated? [] blocks = none ↔ (blocks.map Block.id).Nodup := by
    simp [repeated?_eq_none_iff]
  rw [← hnodup]
  unfold ofBlocks
  split
  · next hr => simp [hr]
  · next hr =>
    simp only [hr, true_and]
    have hkind := g.start_kind
    constructor
    · intro h
      split at h
      · cases h
      · split at h
        · cases h; exact ⟨rfl, rfl⟩
        · cases h
    · rintro ⟨rfl, ht⟩
      rw [ht] at hkind
      split
      · next hn => rw [hn] at hkind; cases hkind
      · next b hb =>
        rw [hb] at hkind
        rw [dif_pos (Option.some.inj hkind)]
        cases g
        simp_all

/-- The first id that was used before, behind ids that are all new. -/
theorem repeated?_eq_some_iff {blocks : List Block} {id : BlockId} : ∀ {seen : List BlockId},
    repeated? seen blocks = some id ↔ ∃ before b after, blocks = before ++ b :: after ∧ b.id = id ∧
      repeated? seen before = none ∧ (id ∈ seen ∨ id ∈ before.map Block.id) := by
  induction blocks with
  | nil => simp [repeated?]
  | cons c rest ih =>
    intro seen
    rw [repeated?]
    split
    · next hmem =>
      constructor
      · intro h
        cases h
        exact ⟨[], c, rest, rfl, rfl, rfl, .inl hmem⟩
      · rintro ⟨before, b, after, hl, rfl, hnew, hold⟩
        cases before with
        | nil => cases hl; rfl
        | cons d before =>
          -- the first block repeats an id, so nothing new stands before a repetition
          cases hl
          rw [repeated?, if_pos hmem] at hnew
          cases hnew
    · next hmem =>
      rw [ih]
      constructor
      · rintro ⟨before, b, after, rfl, rfl, hnew, hold⟩
        refine ⟨c :: before, b, after, rfl, rfl, ?_, ?_⟩
        · rw [repeated?, if_neg hmem, hnew]
        · simpa [or_assoc, or_left_comm] using hold
      · rintro ⟨before, b, after, hl, rfl, hnew, hold⟩
        cases before with
        | nil =>
          cases hl
          simp [hmem] at hold
        | cons d before =>
          cases hl
          rw [repeated?, if_neg hmem] at hnew
          exact ⟨before, b, after, rfl, rfl, hnew, by simpa [or_assoc, or_left_comm] using hold⟩

/-- What makes loose blocks a graph, and what is found in it. -/
theorem ofBlocks_eq_ok_iff_find? {start : BlockId} {blocks : List Block} {g : Graph} :
    ofBlocks start blocks = .ok g ↔ (blocks.map Block.id).Nodup ∧ g.start = start ∧
      ∀ b, g.find? b.id = some b ↔ b ∈ blocks := by
  rw [ofBlocks_eq_ok_iff]
  exact and_congr_right fun hnodup => and_congr_right fun _ => Table.eq_foldl_insert_iff hnodup

/-- Blocks with different ids make a graph with any of them that is a start block. -/
theorem exists_ofBlocks {blocks : List Block} {b : Block} (hnodup : (blocks.map Block.id).Nodup)
    (hb : b ∈ blocks) (hk : b.kind = .start) : ∃ g, ofBlocks b.id blocks = .ok g := by
  have hfind : (blocks.foldl Table.insert .empty).find? b.id = some b :=
    Table.find?_foldl_insert_of_mem hnodup hb
  exact ⟨⟨b.id, blocks.foldl Table.insert .empty, by rw [hfind, Option.map_some, hk]⟩,
    ofBlocks_eq_ok_iff.mpr ⟨hnodup, rfl, rfl⟩⟩

theorem ofBlocks_of_not_nodup {start : BlockId} {blocks : List Block}
    (h : ¬ (blocks.map Block.id).Nodup) : ∃ id, ofBlocks start blocks = .error (.duplicate id) := by
  cases hr : repeated? [] blocks with
  | none => exact absurd (repeated?_eq_none_iff.mp hr).1 h
  | some id =>
    refine ⟨id, ?_⟩
    unfold ofBlocks
    split
    · next hid => rw [hr] at hid; cases hid; rfl
    · next hnone => rw [hr] at hnone; cases hnone

/-- Which id is told to be repeated. -/
theorem ofBlocks_eq_duplicate_iff {start id : BlockId} {blocks : List Block} :
    ofBlocks start blocks = .error (.duplicate id) ↔
      ∃ before b after, blocks = before ++ b :: after ∧ b.id = id ∧
        (before.map Block.id).Nodup ∧ id ∈ before.map Block.id := by
  have hrepeated : ofBlocks start blocks = .error (.duplicate id) ↔
      repeated? [] blocks = some id := by
    unfold ofBlocks
    split
    · next hr => simp [hr]
    · next hr =>
      simp only [hr, reduceCtorEq, iff_false]
      intro h
      split at h
      · cases h
      · split at h <;> cases h
  simp [hrepeated, repeated?_eq_some_iff, repeated?_eq_none_iff]

/-! ## The document -/

theorem mem_detached {g : Graph} {b : Block} :
    b ∈ g.detached ↔ b ∈ g.table.entries ∧ b.id ∉ g.chainIds := by
  rw [detached, List.mem_filter]
  simp

/-- **The document holds each block once.** -/
theorem document_perm (g : Graph) : g.document.Perm g.table.entries := by
  have hnodup : ∀ {l : List Block}, (l.map Block.id).Nodup → l.Nodup :=
    List.Pairwise.of_map Block.id fun _ _ hne he => hne (congrArg Block.id he)
  have hentries := hnodup g.table.nodup_entries
  have hchain := hnodup g.trail_chain.nodup
  have hdetached : g.detached.Nodup := hentries.sublist List.filter_sublist
  have hdisjoint : ∀ b ∈ g.chain, ∀ c ∈ g.detached, b ≠ c := by
    rintro b hb c hc rfl
    exact (mem_detached.mp hc).2 (mem_chain_iff.mp hb).1
  -- neither part repeats a block and they share none, so only membership is left to compare
  refine (List.perm_ext_iff_of_nodup (List.nodup_append.mpr ⟨hchain, hdetached, hdisjoint⟩)
    hentries).mpr fun b => ?_
  rw [List.mem_append, mem_detached, mem_chain_iff]
  constructor
  · rintro (⟨-, hb⟩ | ⟨hb, -⟩)
    · exact Table.mem_of_find? hb
    · exact hb
  · intro hb
    by_cases hid : b.id ∈ g.chainIds
    · exact .inl ⟨hid, Table.find?_of_mem hb⟩
    · exact .inr ⟨hb, hid⟩

/-- **The graph of the document is the graph.** -/
theorem ofBlocks_document (g : Graph) : ofBlocks g.start g.document = .ok g :=
  ofBlocks_eq_ok_iff.mpr
    ⟨((g.document_perm.map Block.id).nodup_iff).mpr g.table.nodup_entries, rfl,
      (Table.foldl_insert_of_perm g.document_perm).symm⟩

end Graph

end BlockPlayer
