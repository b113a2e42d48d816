import Mathlib.Data.List.Basic
import BlockPlayer.Proofs.Graph.Document

/-!
# The order of a document

A table keeps its blocks in the order of their ids. Whoever keeps them in another order, or in none, has
to sort those that are not on the chain before they are saved, and comes to the same document
(`Graph.documentOf_eq`). So nothing is left in a document of the order in which blocks came.

* `Graph.ofBlocks_eq_ok_congr` — loose blocks make the same graph in every order
* `Graph.document_canonical` — **what is in a document, in which order, and what it does not depend on**
-/

namespace BlockPlayer.Graph

variable {g : Graph} {start : BlockId} {blocks blocks' order : List Block}

/--
The document, put together from blocks that come in any order: the blocks that the ids of the chain
name, and behind them all others, sorted by their ids.
-/
def documentOf (g : Graph) (order : List Block) : List Block :=
  g.chainIds.filterMap g.find?
    ++ (order.filter fun b => !g.chainIds.contains b.id).mergeSort fun a b => decide (a.id ≤ b.id)

/-! ## The two parts -/

/-- The ids of the chain name its blocks. -/
theorem filterMap_chainIds (g : Graph) : g.chainIds.filterMap g.find? = g.chain := by
  have hfind : ∀ b ∈ g.chain, (g.find? ∘ Block.id) b = some b := fun b hb => find?_of_mem_chain hb
  rw [chainIds, List.filterMap_map, List.filterMap_congr hfind, List.filterMap_some]

theorem sorted_detached (g : Graph) : g.detached.Pairwise fun a b => a.id < b.id :=
  g.table.sorted.filter _

/-- Blocks that are sorted by their ids are the detached ones, if these are all there are. -/
theorem mergeSort_eq_detached {l : List Block} (h : l.Perm g.detached) :
    (l.mergeSort fun a b => decide (a.id ≤ b.id)) = g.detached := by
  have hsorted : (l.mergeSort fun a b => decide (a.id ≤ b.id)).Pairwise fun a b => a.id ≤ b.id := by
    have htrans : ∀ a b c : Block, decide (a.id ≤ b.id) = true → decide (b.id ≤ c.id) = true →
        decide (a.id ≤ c.id) = true := fun a b c hab hbc =>
      decide_eq_true (String.le_trans (of_decide_eq_true hab) (of_decide_eq_true hbc))
    have htotal : ∀ a b : Block, (decide (a.id ≤ b.id) || decide (b.id ≤ a.id)) = true := by
      intro a b
      simpa using String.le_total a.id b.id
    exact (List.pairwise_mergeSort htrans htotal l).imp of_decide_eq_true
  have hdetached : g.detached.Pairwise fun a b => a.id ≤ b.id :=
    g.sorted_detached.imp fun hlt => String.not_lt.mp (String.lt_asymm hlt)
  have hperm := (List.mergeSort_perm l fun a b => decide (a.id ≤ b.id)).trans h
  refine hperm.eq_of_pairwise (fun a b ha hb hab hba => ?_) hsorted hdetached
  -- there is only one block under an id, so blocks that are neither before nor behind are the same
  have hfind := Table.find?_of_mem (mem_detached.mp (hperm.mem_iff.mp ha)).1
  rw [String.le_antisymm hab hba, Table.find?_of_mem (mem_detached.mp hb).1] at hfind
  exact (Option.some.inj hfind).symm

/-- **The document does not depend on the order in which the blocks of the table come.** -/
theorem documentOf_eq (h : order.Perm g.table.entries) : g.documentOf order = g.document := by
  rw [documentOf, filterMap_chainIds, mergeSort_eq_detached (h.filter _), document]

/-! ## Loose blocks -/

/-- Loose blocks make the same graph in every order, if they make one. -/
theorem ofBlocks_eq_ok_congr (h : blocks.Perm blocks') :
    ofBlocks start blocks = .ok g ↔ ofBlocks start blocks' = .ok g := by
  rw [ofBlocks_eq_ok_iff_find?, ofBlocks_eq_ok_iff_find?, (h.map Block.id).nodup_iff]
  simp only [h.mem_iff]

/-- A graph of loose blocks holds each of them once, and no others. -/
theorem perm_entries_of_ofBlocks (h : ofBlocks start blocks = .ok g) :
    blocks.Perm g.table.entries := by
  obtain ⟨hnodup, -, hfind⟩ := ofBlocks_eq_ok_iff_find?.mp h
  have hids : ∀ {l : List Block}, (l.map Block.id).Nodup → l.Nodup :=
    List.Pairwise.of_map Block.id fun _ _ hne he => hne (congrArg Block.id he)
  refine (List.perm_ext_iff_of_nodup (hids hnodup) (hids g.table.nodup_entries)).mpr fun b => ?_
  exact ⟨fun hb => Table.mem_of_find? ((hfind b).mpr hb),
    fun hb => (hfind b).mp (Table.find?_of_mem hb)⟩

/--
**Documents are complete and canonical.** The document of a graph holds each of its blocks once. It
begins with the chain, whose first block is the start block, and goes on with all other blocks, whose ids
increase; in which order the blocks come that it is put together from makes no difference. Loose blocks
make a graph in every order or in none, and then it is the same graph with the same document, which may
be put together from these blocks in any order.
-/
theorem document_canonical :
    (∀ g : Graph, g.document.Perm g.table.entries ∧ g.document.head? = some g.startBlock ∧
      (g.document.take g.chainIds.length).map Block.id = g.chainIds ∧
      (g.document.drop g.chainIds.length).Pairwise (fun a b => a.id < b.id) ∧
      ∀ order, order.Perm g.table.entries → g.documentOf order = g.document) ∧
    ∀ {start : BlockId} {blocks blocks' : List Block}, blocks.Perm blocks' →
      ((∃ g, ofBlocks start blocks = .ok g) ↔ ∃ g, ofBlocks start blocks' = .ok g) ∧
      ∀ {g g' : Graph}, ofBlocks start blocks = .ok g → ofBlocks start blocks' = .ok g' →
        g = g' ∧ ∀ order order', order.Perm blocks → order'.Perm blocks →
          g.documentOf order = g'.documentOf order' := by
  refine ⟨fun g => ⟨g.document_perm, ?_, ?_, ?_, fun _ => documentOf_eq⟩, fun h => ⟨?_, ?_⟩⟩
  · rw [document, List.head?_append, g.head?_chain]
    rfl
  · rw [document, chainIds, List.length_map, List.take_left]
  · rw [document, chainIds, List.length_map, List.drop_left]
    exact g.sorted_detached
  · exact exists_congr fun g => ofBlocks_eq_ok_congr h
  · intro g g' hg hg'
    rw [ofBlocks_eq_ok_congr h, hg'] at hg
    cases hg
    have hentries := h.trans (perm_entries_of_ofBlocks hg')
    refine ⟨rfl, fun order order' horder horder' => ?_⟩
    rw [documentOf_eq (horder.trans hentries), documentOf_eq (horder'.trans hentries)]

/-- The chain is a loop, and the two detached blocks come before the start block. -/
theorem document_canonical_reversed :
    let blocks : List Block := [⟨"z", .action .wait, none⟩, ⟨"d", .action .deliver, some "x"⟩,
      ⟨"a", .action .wait, some "s"⟩, ⟨"s", .start, some "a"⟩]
    (ofBlocks "s" blocks).toOption.map document
        = some [⟨"s", .start, some "a"⟩, ⟨"a", .action .wait, some "s"⟩,
          ⟨"d", .action .deliver, some "x"⟩, ⟨"z", .action .wait, none⟩] ∧
      ∃ g g', ofBlocks "s" blocks = .ok g ∧ ofBlocks "s" blocks.reverse = .ok g' ∧ g = g' ∧
        g.documentOf blocks = g'.documentOf blocks.reverse := by
  intro blocks
  have hperm : blocks.Perm blocks.reverse := (List.reverse_perm blocks).symm
  obtain ⟨g, hg⟩ : ∃ g, ofBlocks "s" blocks = .ok g :=
    exists_ofBlocks (b := ⟨"s", .start, some "a"⟩) (by decide) (by simp [blocks]) rfl
  obtain ⟨g', hg'⟩ := (document_canonical.2 hperm).1.mp ⟨g, hg⟩
  obtain ⟨hgraph, hdocument⟩ := (document_canonical.2 hperm).2 hg hg'
  exact ⟨by cbv, g, g', hg, hg', hgraph, hdocument _ _ (.refl blocks) hperm.symm⟩

end BlockPlayer.Graph
