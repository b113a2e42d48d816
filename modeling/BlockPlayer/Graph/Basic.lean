import BlockPlayer.Graph.Table
import BlockPlayer.Chain

/-!
# Graphs of blocks

A graph is a table of blocks and the id of its start block. The table may hold anything else: stacks
that hang on nothing, links that lead nowhere or in a circle. That the start id names a start block is
part of the type, so the start block of a graph never has to be looked for (`Graph.find?_start`).
-/

namespace BlockPlayer

/-- Why blocks make no graph, or why a graph was not edited. -/
inductive GraphError
  | missingStart (id : BlockId)
  /-- The block named as the start is of another kind. -/
  | notAStart (id : BlockId) (kind : BlockKind)
  | duplicate (id : BlockId)
  | unknown (id : BlockId)
  /-- The start block cannot be removed. -/
  | undeletable (id : BlockId)
  deriving DecidableEq, Repr

def GraphError.message : GraphError → String
  | missingStart id => "Start block " ++ id ++ " is not part of the graph"
  | notAStart id kind => "Block " ++ id ++ " is a " ++ kind.tag ++ " block, not a start block"
  | duplicate id => "Block id " ++ id ++ " is used more than once"
  | unknown id => "No block with id " ++ id
  | undeletable id => "Block " ++ id ++ " is the start block and cannot be removed"

/-- A table of blocks, one of them the start of the chain. -/
structure Graph where
  start : BlockId
  table : Table
  start_kind : (table.find? start).map Block.kind = some .start
  deriving DecidableEq

namespace Graph

/-- The block with a given id. -/
def find? (g : Graph) (id : BlockId) : Option Block := g.table.find? id

def contains (g : Graph) (id : BlockId) : Bool := g.table.contains id

/-- The number of all blocks. -/
def size (g : Graph) : Nat := g.table.size

/-! ## Making graphs -/

/-- Only a start block. -/
def new (start : BlockId) : Graph :=
  ⟨start, Table.empty.insert ⟨start, .start, none⟩, by simp⟩

/-- The first id in a list of blocks that was used before, by the list or by `seen`. -/
def repeated? : List BlockId → List Block → Option BlockId
  | _, [] => none
  | seen, b :: rest => if b.id ∈ seen then some b.id else repeated? (b.id :: seen) rest

/-- The graph of loose blocks. A repeated id is noticed before anything about the start block. -/
def ofBlocks (start : BlockId) (blocks : List Block) : Except GraphError Graph :=
  match repeated? [] blocks with
  | some id => .error (.duplicate id)
  | none =>
    let table := blocks.foldl Table.insert .empty
    match h : table.find? start with
    | none => .error (.missingStart start)
    | some b =>
      if hk : b.kind = .start then .ok ⟨start, table, by simp [h, hk]⟩
      else .error (.notAStart start b.kind)

/-! ## The start block -/

/-- The block from which the chain hangs. -/
def startBlock (g : Graph) : Block := ⟨g.start, .start, (g.find? g.start).bind Block.next⟩

/-- The start id names the start block. -/
theorem find?_start (g : Graph) : g.find? g.start = some g.startBlock := by
  obtain ⟨b, hb, hk⟩ := Option.map_eq_some_iff.mp g.start_kind
  have hid := Table.find?_eq_some_id hb
  have hb' : g.find? g.start = some b := hb
  rw [startBlock, hb', Option.bind_some]
  cases b
  simp_all

theorem contains_start (g : Graph) : g.contains g.start = true := by
  have h := g.find?_start
  simp [contains, Table.contains, show g.table.find? g.start = _ from h]

/-! ## Handles -/

/-- One block of a graph, as part of a chain. -/
structure Node where
  graph : Graph
  block : Block

/-- The block behind a block. A link that names no block ends the chain. -/
def Node.next (n : Node) : Option Node :=
  n.block.next.bind fun id => (n.graph.find? id).map fun b => ⟨n.graph, b⟩

instance : ChainNode Node where
  kind n := n.block.kind
  id n := n.block.id
  next := Node.next

/-- The handle on the start block. -/
def startNode (g : Graph) : Node := ⟨g, g.startBlock⟩

/-- The handle on the block with a given id. -/
def node? (g : Graph) (id : BlockId) : Option Node := (g.find? id).map fun b => ⟨g, b⟩

end Graph

end BlockPlayer
