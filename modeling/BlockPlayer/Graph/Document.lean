import BlockPlayer.Graph.Walk

/-!
# The blocks of a graph in the order in which they are saved

The chain comes first, in its order; all other blocks follow in the order of their ids.
-/

namespace BlockPlayer.Graph

/-- The blocks that the chain does not reach, in the order of their ids. -/
def detached (g : Graph) : List Block :=
  let ids := g.chainIds
  g.table.entries.filter fun b => !ids.contains b.id

/-- All blocks in the order in which they are saved. -/
def document (g : Graph) : List Block := g.chain ++ g.detached

end BlockPlayer.Graph
