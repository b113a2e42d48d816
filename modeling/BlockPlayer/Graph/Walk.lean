import BlockPlayer.Graph.Basic

/-!
# The chain of a graph

The chain is what one meets by following the links from the start block. It ends where a link is
missing, names no block, or comes back to a block that was met.

## Termination

Each block that is met is taken out of the blocks that can still be met. A link back to it then names
no block, and the blocks that are left become fewer.
-/

namespace BlockPlayer.Graph

/-- The blocks with other ids. -/
def without (blocks : List Block) (id : BlockId) : List Block := blocks.filter fun x => x.id != id

theorem length_without_of_find? {id : BlockId} {b : Block} {blocks : List Block}
    (h : blocks.find? (fun x => x.id == id) = some b) :
    (without blocks id).length < blocks.length := by
  have hid : b.id = id := by simpa using List.find?_some h
  refine List.length_filter_lt_length_iff_exists.mpr ⟨b, List.mem_of_find?_eq_some h, ?_⟩
  simp [hid]

/-- The blocks that are met from a link on, among those that can still be met. -/
def follow (blocks : List Block) (link : Option BlockId) : List Block :=
  match link with
  | none => []
  | some id =>
    match _h : blocks.find? fun x => x.id == id with
    | none => []
    | some b => b :: follow (without blocks id) b.next
termination_by blocks.length
decreasing_by exact length_without_of_find? _h

/-- The blocks of the chain, start block first. -/
def chain (g : Graph) : List Block := follow g.table.entries (some g.start)

/-- The ids of the chain, start block first. -/
def chainIds (g : Graph) : List BlockId := g.chain.map Block.id

/-- The id of the last block of the chain. -/
def tail (g : Graph) : BlockId := g.chainIds.getLast?.getD g.start

/-! ## What a walk meets -/

/-- Every block that is met is one of those that could be met. -/
theorem mem_of_mem_follow {blocks : List Block} {link : Option BlockId} {x : Block}
    (hx : x ∈ follow blocks link) : x ∈ blocks := by
  fun_induction follow blocks link with
  | case1 => exact absurd hx List.not_mem_nil
  | case2 => exact absurd hx List.not_mem_nil
  | case3 blocks id b h ih =>
    rcases List.mem_cons.mp hx with hx | hx
    · exact hx ▸ List.mem_of_find?_eq_some h
    · exact (List.mem_filter.mp (ih hx)).1

/-- The blocks of the chain are blocks of the graph. -/
theorem find?_of_mem_chain {g : Graph} {b : Block} (h : b ∈ g.chain) : g.find? b.id = some b :=
  Table.find?_of_mem (mem_of_mem_follow h)

/-- The chain begins with the start block. -/
theorem head?_chain (g : Graph) : g.chain.head? = some g.startBlock := by
  have h : g.table.entries.find? (fun x => x.id == g.start) = some g.startBlock := g.find?_start
  unfold chain follow
  split
  · next hn => rw [h] at hn; cases hn
  · next b hb =>
    rw [h] at hb
    cases hb
    rfl

/-- The last block of the chain is a block of the graph. -/
theorem contains_tail (g : Graph) : g.contains g.tail = true := by
  unfold tail chainIds
  rw [List.getLast?_map]
  cases h : g.chain.getLast? with
  | none => exact g.contains_start
  | some b =>
    have hb := find?_of_mem_chain (List.mem_of_getLast? h)
    simp [contains, Table.contains, show g.table.find? b.id = _ from hb]

end BlockPlayer.Graph
