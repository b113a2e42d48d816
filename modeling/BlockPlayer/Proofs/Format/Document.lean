import BlockPlayer.Format.Load
import BlockPlayer.Proofs.Graph.Document
import BlockPlayer.Proofs.Json.Record
import BlockPlayer.Proofs.Json.Written

/-!
# Flat documents read back

A flat document is read back as it was written, both from its text and from the value that the text is
read into first, in which members are ordered by name (`Block.tree`, `FlatDocument.tree`). What is written
of the kind of a block is its tag, so a block with a tag of its own that is written like a known one is
read as the known one (`Block.retagged`). Nothing changes if all kinds come from tags.
-/

namespace BlockPlayer

open Json (Draft Error NumberFree NumberFreeItems NumberFreeMembers Origin readList toDraft)

/-- The kind comes from a tag. -/
def BlockKind.FromTag (k : BlockKind) : Prop := ∃ tag, k = .ofTag tag

theorem BlockKind.FromTag.ofTag_tag {k : BlockKind} (h : k.FromTag) : .ofTag k.tag = k := by
  obtain ⟨tag, rfl⟩ := h
  exact ofTag_tag_ofTag tag

/-! ## Lists -/

theorem Json.readList_map {α β : Type} {read : Draft → Except Error β} {f : α → Draft} {g : α → β}
    {items : List α} (h : ∀ a ∈ items, read (f a) = .ok (g a)) :
    readList read (.array (items.map f) .closed) = .ok (items.map g) := by
  have hitems : (items.map f).mapM read = .ok (items.map g) := by
    induction items with
    | nil => rfl
    | cons a rest ih =>
      rw [List.map_cons, List.mapM_cons, h a List.mem_cons_self,
        ih fun b hb => h b (List.mem_cons_of_mem _ hb)]
      rfl
  rw [readList, hitems]
  rfl

theorem Json.treeItems_map {α : Type} {depth : Nat} {f : α → Draft} {g : α → Json}
    {items : List α} (h : ∀ a ∈ items, (f a).tree depth = .ok (g a)) :
    treeItems depth (items.map f) = .ok (items.map g) := by
  induction items with
  | nil => rfl
  | cons a rest ih =>
    rw [List.map_cons, treeItems, h a List.mem_cons_self,
      ih fun b hb => h b (List.mem_cons_of_mem _ hb)]
    rfl

/-! ## Blocks -/

namespace Block

/-- A block as the value that its text is read into. -/
def tree (b : Block) : Json :=
  .object (("id", .text b.id) :: b.next.toList.map (fun next => ("next", .text next))
    ++ [("type", .text b.kind.tag)])

theorem numberFree_toJson (b : Block) : NumberFree b.toJson := by
  obtain ⟨id, kind, next⟩ := b
  cases next <;> simp [toJson, NumberFree, NumberFreeMembers]

/-- A block as its tag tells. -/
def retagged (b : Block) : Block := ⟨b.id, .ofTag b.kind.tag, b.next⟩

theorem retagged_of_fromTag {b : Block} (h : b.kind.FromTag) : b.retagged = b := by
  rw [retagged, h.ofTag_tag]

/-- A block is read back from what is written for it. -/
theorem read_toJson (o : Origin) (b : Block) : read o (toDraft b.toJson) = .ok b.retagged := by
  obtain ⟨id, kind, next⟩ := b
  cases next <;> rfl

theorem read_tree (o : Origin) (b : Block) : read o (toDraft b.tree) = .ok b.retagged := by
  obtain ⟨id, kind, next⟩ := b
  cases next <;> rfl

theorem tree_toJson (b : Block) : (toDraft b.toJson).tree 2 = .ok b.tree := by
  obtain ⟨id, kind, next⟩ := b
  cases next <;> rfl

end Block

/-! ## Documents -/

namespace FlatDocument

/-- A document as the value that its text is read into. -/
def tree (doc : FlatDocument) : Json :=
  .object [("blocks", .array (doc.blocks.map Block.tree)), ("start", .text doc.start)]

theorem numberFree_toJson (doc : FlatDocument) : NumberFree doc.toJson := by
  refine ⟨trivial, Json.numberFreeItems_iff.mpr fun j hj => ?_, trivial⟩
  obtain ⟨b, -, rfl⟩ := List.mem_map.mp hj
  exact b.numberFree_toJson

/-- What is written for a list is the draft of its items. -/
theorem toDraft_array {α : Type} (f : α → Json) (items : List α) :
    toDraft (.array (items.map f)) = .array (items.map fun a => toDraft (f a)) .closed := by
  rw [toDraft, Json.itemsToDraft_eq, List.map_map]
  rfl

section Members

variable {o : Origin} {start : BlockId} {d : Draft} {blocks : List Block}

/-- The two members of a document may come in either order. -/
theorem read_start_blocks (h : readList (Block.read o) d = .ok blocks) :
    read o (.object [(.ok "start", .text (.ok start)), (.ok "blocks", d)] .closed)
      = .ok ⟨start, blocks⟩ := by
  simp [read, record, Json.Record.read, Json.Record.readMembers, Json.readText, h, bind,
    Except.bind, Json.mapError_ok, Json.Tail.finish, Json.Tail.check]

theorem read_blocks_start (h : readList (Block.read o) d = .ok blocks) :
    read o (.object [(.ok "blocks", d), (.ok "start", .text (.ok start))] .closed)
      = .ok ⟨start, blocks⟩ := by
  simp [read, record, Json.Record.read, Json.Record.readMembers, Json.readText, h, bind,
    Except.bind, Json.mapError_ok, Json.Tail.finish, Json.Tail.check]

end Members

/-- A document as the tags of its blocks tell. -/
def retagged (doc : FlatDocument) : FlatDocument := ⟨doc.start, doc.blocks.map Block.retagged⟩

theorem retagged_of_fromTag {doc : FlatDocument} (h : ∀ b ∈ doc.blocks, b.kind.FromTag) :
    doc.retagged = doc := by
  rw [retagged, List.map_congr_left fun b hb => Block.retagged_of_fromTag (h b hb), List.map_id']

/-- A document is read back from what is written for it. -/
theorem read_toJson (o : Origin) (doc : FlatDocument) :
    read o (toDraft doc.toJson) = .ok doc.retagged := by
  refine read_start_blocks ?_
  show readList (Block.read o) (toDraft (.array (doc.blocks.map Block.toJson))) = _
  rw [toDraft_array]
  exact Json.readList_map fun b _ => Block.read_toJson o b

theorem read_tree (o : Origin) (doc : FlatDocument) :
    read o (toDraft doc.tree) = .ok doc.retagged := by
  refine read_blocks_start ?_
  show readList (Block.read o) (toDraft (.array (doc.blocks.map Block.tree))) = _
  rw [toDraft_array]
  exact Json.readList_map fun b _ => Block.read_tree o b

theorem tree_toJson (doc : FlatDocument) : (toDraft doc.toJson).tree 0 = .ok doc.tree := by
  have hblocks : (toDraft (.array (doc.blocks.map Block.toJson))).tree 1
      = .ok (.array (doc.blocks.map Block.tree)) := by
    rw [toDraft_array, Draft.tree, if_neg (by decide)]
    rw [Json.treeItems_map fun b _ => b.tree_toJson]
    rfl
  show (Draft.object [(.ok "start", .text (.ok doc.start)),
    (.ok "blocks", toDraft (.array (doc.blocks.map Block.toJson)))] .closed).tree 0 = _
  rw [Draft.tree, if_neg (by decide)]
  -- in a tree the members are in the order of their names, and so the blocks come first
  simp only [Json.treeMembers, hblocks, Draft.tree, bind, Except.bind, Except.map,
    Json.Tail.check]
  rfl

end FlatDocument

/-! ## Graphs -/

namespace Graph

variable {g : Graph}

/-- All blocks of a graph have kinds that come from tags. -/
def FromTags (g : Graph) : Prop := ∀ b id, g.find? id = some b → b.kind.FromTag

theorem FromTags.document (h : g.FromTags) : ∀ b ∈ g.toFlat.blocks, b.kind.FromTag :=
  fun b hb => h b b.id (Table.find?_of_mem (g.document_perm.mem_iff.mp hb))

/-- A graph is read from a document, however that was written. -/
theorem read_of_flat {o : Origin} {d : Draft} {doc : FlatDocument}
    (h : FlatDocument.read o d = .ok doc) (hblocks : ofBlocks doc.start doc.blocks = .ok g) :
    read o d = .ok g := by
  rw [read, h]
  show (ofBlocks doc.start doc.blocks).mapError _ = _
  rw [hblocks]
  rfl

/-- The text of a flat document is loaded as its graph; no ids are made up for it. -/
theorem load_flat {doc : FlatDocument} (fresh : Nat → BlockId) (lines : Bool)
    (hblocks : ofBlocks doc.start doc.retagged.blocks = .ok g) :
    load fresh (String.ofList (Json.write lines 0 doc.toJson)) = .ok g := by
  have htree := Json.readTree_write doc.numberFree_toJson doc.tree_toJson lines
  have hstart : (doc.tree.get? "start").isSome = true := by
    simp [FlatDocument.tree, Json.get?, List.lookup_cons]
  rw [load, htree]
  simp only [Json.mapError_ok, bind, Except.bind, hstart, if_true,
    read_of_flat (FlatDocument.read_tree .tree doc) hblocks]

theorem FromTags.ofBlocks_retagged (h : g.FromTags) :
    ofBlocks g.toFlat.start g.toFlat.retagged.blocks = .ok g := by
  rw [FlatDocument.retagged_of_fromTag h.document]
  exact g.ofBlocks_document

/-- The text of a graph is read as the graph. -/
theorem ofText_text (h : g.FromTags) : ofText g.text = .ok g := by
  rw [ofText, text, Json.pretty, toJson, Json.read_write _ g.toFlat.numberFree_toJson]
  exact read_of_flat (FlatDocument.read_toJson .text g.toFlat) h.ofBlocks_retagged

theorem load_text (h : g.FromTags) (fresh : Nat → BlockId) : load fresh g.text = .ok g :=
  load_flat fresh true h.ofBlocks_retagged

end Graph

end BlockPlayer
