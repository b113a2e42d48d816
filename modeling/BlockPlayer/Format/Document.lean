import BlockPlayer.Format.Program
import BlockPlayer.Graph.Document

/-!
# Graphs as flat documents

A flat document is a record of the start id and the list of all blocks. A block is a record of its id,
its tag and, if it has one, the id that it links to. Blocks may come in any order; they are written in
the order of `Graph.document`.
-/

namespace BlockPlayer

open Json (Draft Error Field Origin Record)

/-! ## Blocks -/

def Block.toJson (b : Block) : Json :=
  .object ([("id", .text b.id), ("type", .text b.kind.tag)]
    ++ b.next.toList.map fun next => ("next", .text next))

def Block.record : Record Block :=
  ⟨"struct Block",
    [⟨"id", true, fun d b => do .ok ⟨← Json.readText d, b.kind, b.next⟩⟩,
     ⟨"type", true, fun d b => do .ok ⟨b.id, ← BlockKind.read d, b.next⟩⟩,
     ⟨"next", false, fun d b => do .ok ⟨b.id, b.kind, ← Json.readOptional Json.readText d⟩⟩]⟩

def Block.read (o : Origin) : Draft → Except Error Block := record.read o ⟨"", .start, none⟩

/-! ## Documents -/

/-- What a flat document says, whether it describes a graph or not. -/
structure FlatDocument where
  start : BlockId
  blocks : List Block
  deriving DecidableEq, Repr

namespace FlatDocument

def record (o : Origin) : Record FlatDocument :=
  ⟨"struct GraphDocument",
    [⟨"start", true, fun d doc => do .ok ⟨← Json.readText d, doc.blocks⟩⟩,
     ⟨"blocks", true, fun d doc => do .ok ⟨doc.start, ← Json.readList (Block.read o) d⟩⟩]⟩

def read (o : Origin) : Draft → Except Error FlatDocument := (record o).read o ⟨"", []⟩

def toJson (doc : FlatDocument) : Json :=
  .object [("start", .text doc.start), ("blocks", .array (doc.blocks.map Block.toJson))]

end FlatDocument

namespace Graph

/-- What is saved of a graph. -/
def toFlat (g : Graph) : FlatDocument := ⟨g.start, g.document⟩

def toJson (g : Graph) : Json := g.toFlat.toJson

/-- The text under which a graph is saved. -/
def text (g : Graph) : String := g.toJson.pretty

/-- Reads a graph. Blocks that make no graph are refused, with the reason. -/
def read (o : Origin) (d : Draft) : Except Error Graph := do
  let doc ← FlatDocument.read o d
  (ofBlocks doc.start doc.blocks).mapError fun e => .mismatch (.refused e.message)

/-- Reads the text of a flat document. -/
def ofText (text : String) : Except Error Graph := Json.read (read .text) text

end Graph

end BlockPlayer
