import BlockPlayer.Proofs.Chain.Places
import BlockPlayer.Proofs.Graph.Path

/-!
# The places of the chain of a graph

Walking from handle to handle one meets the blocks of the chain, in their order (`nodeAt_of_getElem?`).
What comes behind the last of them is what its link leads to (`nodeAt_length_chain`): nothing, and then
the walk ends there, or a block of the chain, and then it goes round for ever.
-/

namespace BlockPlayer.Graph

open Chain
open Table (Path)

/-- The walk from a handle goes along the path from its link, and on to where the path leads. -/
theorem nodeAt_of_path {g : Graph} {l : List Block} {last : Option BlockId} :
    ∀ {b : Block}, Path g.table b.next l last →
      (∀ k c, l[k]? = some c → nodeAt (⟨g, b⟩ : Node) (k + 1) = some ⟨g, c⟩) ∧
      nodeAt (⟨g, b⟩ : Node) (l.length + 1) = last.bind g.node? := by
  induction l with
  | nil =>
    intro b h
    -- a path is taken apart by its link, which has to be a variable for that
    generalize hnext : b.next = link at h
    cases h
    refine ⟨fun k c hc => by simp at hc, ?_⟩
    rw [← hnext]
    rfl
  | cons d rest ih =>
    intro b h
    generalize hnext : b.next = link at h
    cases h with
    | @cons id _ _ _ hd hp =>
      have hstep : ChainNode.next (⟨g, b⟩ : Node) = some ⟨g, d⟩ := by
        show b.next.bind (fun id => (g.table.find? id).map (Node.mk g)) = _
        rw [hnext, Option.bind_some, hd, Option.map_some]
      obtain ⟨hplaces, hend⟩ := ih hp
      constructor
      · intro k c hc
        rw [nodeAt_succ_eq_bind, hstep, Option.bind_some]
        cases k with
        | zero => cases hc; rfl
        | succ k => exact hplaces k c hc
      · rw [nodeAt_succ_eq_bind, hstep, Option.bind_some]
        exact hend

variable (g : Graph)

/-- The chain is the start block and a path from its link. -/
theorem exists_chain_eq_cons :
    ∃ rest, g.chain = g.startBlock :: rest ∧ Path g.table g.startBlock.next rest g.lastLink := by
  have hpath := g.trail_chain.path
  cases hc : g.chain with
  | nil => exact absurd hc g.chain_ne_nil
  | cons b rest =>
    have hhead := g.head?_chain
    rw [hc] at hhead
    cases hhead
    rw [hc] at hpath
    cases hpath with
    | cons hb hp => exact ⟨rest, rfl, hp⟩

/-- At each place of the chain is its block. -/
theorem nodeAt_of_getElem? {k : Nat} {b : Block} (h : g.chain[k]? = some b) :
    nodeAt g.startNode k = some ⟨g, b⟩ := by
  obtain ⟨rest, hc, hp⟩ := g.exists_chain_eq_cons
  rw [hc] at h
  cases k with
  | zero => cases h; rfl
  | succ k => exact (nodeAt_of_path hp).1 k b h

/-- Behind the chain is what its last link leads to. -/
theorem nodeAt_length_chain : nodeAt g.startNode g.chain.length = g.lastLink.bind g.node? := by
  obtain ⟨rest, hc, hp⟩ := g.exists_chain_eq_cons
  rw [hc]
  exact (nodeAt_of_path hp).2

theorem idAt_of_getElem? {k : Nat} {id : BlockId} (h : g.chainIds[k]? = some id) :
    idAt g.startNode k = some id := by
  rw [chainIds, List.getElem?_map] at h
  obtain ⟨b, hb, rfl⟩ := Option.map_eq_some_iff.mp h
  exact idAt_of_nodeAt (g.nodeAt_of_getElem? hb)

/-- On the chain, the walk does not come back. -/
theorem not_returns_of_lt {k : Nat} (hk : k < g.chain.length) : ¬ Returns g.startNode k := by
  rintro ⟨j, hj, id, hidj, hidk⟩
  have hlen : g.chainIds.length = g.chain.length := List.length_map _
  have hk' : k < g.chainIds.length := hlen.symm ▸ hk
  have hj' : j < g.chainIds.length := Nat.lt_trans hj hk'
  rw [g.idAt_of_getElem? (List.getElem?_eq_getElem hj')] at hidj
  rw [g.idAt_of_getElem? (List.getElem?_eq_getElem hk')] at hidk
  have hjk := (List.nodup_iff_pairwise_ne.mp g.nodup_chainIds)
  exact (List.pairwise_iff_getElem.mp hjk j k hj' hk' hj)
    (Option.some.inj (hidj.trans hidk.symm))

/-- If the last link names a block, the walk comes back to it behind the chain. -/
theorem loopsAt_length_chain {id : BlockId} (h : g.lastLink = some id)
    (hid : g.contains id = true) : LoopsAt g.startNode g.chain.length id := by
  obtain ⟨b, hb⟩ := contains_iff.mp hid
  have hplace : idAt g.startNode g.chain.length = some id := by
    rw [idAt, g.nodeAt_length_chain, h, Option.bind_some, node?,
      hb, Option.map_some, Option.map_some]
    exact congrArg some (Table.find?_eq_some_id hb)
  obtain ⟨j, hj, hget⟩ := List.mem_iff_getElem.mp (mem_chainIds_of_lastLink h hid)
  refine ⟨hplace, ⟨j, ?_, id, ?_, hplace⟩, fun k hk => g.not_returns_of_lt hk⟩
  · exact (List.length_map Block.id : g.chainIds.length = g.chain.length) ▸ hj
  · exact g.idAt_of_getElem? (List.getElem?_eq_some_iff.mpr ⟨hj, hget⟩)

/-- If the last link names no block, the walk ends with the chain. -/
theorem endsAt_of_lastLink (h : ¬ ∃ id, g.lastLink = some id ∧ g.contains id = true) :
    EndsAt g.startNode (g.chain.length - 1) := by
  have hpos : 0 < g.chain.length := List.length_pos_iff.mpr g.chain_ne_nil
  have hlast : g.chain.length - 1 < g.chain.length := Nat.sub_lt hpos Nat.one_pos
  refine ⟨?_, ?_⟩
  · rw [g.nodeAt_of_getElem? (List.getElem?_eq_getElem hlast)]
    rfl
  · rw [Nat.sub_add_cancel hpos, g.nodeAt_length_chain]
    cases hl : g.lastLink with
    | none => rfl
    | some id =>
      have hid : g.find? id = none :=
        Option.eq_none_iff_forall_ne_some.mpr fun b hb => h ⟨id, hl, contains_iff.mpr ⟨b, hb⟩⟩
      rw [Option.bind_some, node?, hid, Option.map_none]

end BlockPlayer.Graph
