import BlockPlayer.Format.Load
import BlockPlayer.Proofs.Graph.Document
import BlockPlayer.Proofs.Graph.Edits
import BlockPlayer.Proofs.Json.Record

/-!
# Graphs from any source

A graph can be made new, of loose blocks, or of what is read in either format (`Source`). Every source names
a start id and blocks (`Source.says?`), and there is one check that they all go through
(`Source.graph?_eq`): the ids of the blocks differ, and the start id is that of a start block.

Whatever is done or tried with the graph from then on, that id goes on to name the start block, all blocks
are found under their own ids, and each of them is saved once (`Graph.Sound`).

* `Graph.Sound.edited` — one edit, done or refused
* `Source.sound_editedAll` — **any source and any edits**
-/

namespace BlockPlayer

open Json (Origin toDraft toOption_bind toOption_mapError)

/-! ## Sources -/

/-- What graphs are made of. -/
inductive Source
  | new (start : BlockId)
  /-- Loose blocks, one of which is said to be the start. -/
  | loose (start : BlockId) (blocks : List Block)
  /-- The text of a flat document. -/
  | flat (text : String)
  /-- A value with nested stacks. -/
  | nested (j : Json)
  /-- The text of such a value. -/
  | nestedText (text : String)
  /-- The text of a saved workspace of either kind. -/
  | saved (text : String)

/-- The start and the blocks of nested stacks. -/
def Stacks.says? (fresh : Nat → BlockId) (j : Json) : Option FlatDocument :=
  ((place? j).bind Json.items?).bind fun heads =>
    (stacksOf ⟨fresh, 0⟩ heads).toOption.bind fun piles =>
      (start? piles).map fun b => ⟨b.id, piles.flatten⟩

namespace Source

variable {fresh : Nat → BlockId}

/-- The graph that is made, if any. -/
def graph? (fresh : Nat → BlockId) : Source → Option Graph
  | new start => some (.new start)
  | loose start blocks => (Graph.ofBlocks start blocks).toOption
  | flat text => (Graph.ofText text).toOption
  | nested j => (Graph.ofStacks fresh j).toOption
  | nestedText text => (Graph.ofStacksText fresh text).toOption
  | saved text => (Graph.load fresh text).toOption

/-- The start and the blocks that are named, whether they make a graph or not. -/
def says? (fresh : Nat → BlockId) : Source → Option FlatDocument
  | new start => some ⟨start, [⟨start, .start, none⟩]⟩
  | loose start blocks => some ⟨start, blocks⟩
  | flat text => (Json.read (FlatDocument.read .text) text).toOption
  | nested j => Stacks.says? fresh j
  | nestedText text => (Json.readTree text).toOption.bind (Stacks.says? fresh)
  | saved text => (Json.readTree text).toOption.bind fun j =>
    if (j.get? "start").isSome then (FlatDocument.read .tree (toDraft j)).toOption
    else Stacks.says? fresh j

end Source

namespace FlatDocument

/-- The graph of a document. -/
def graph? (doc : FlatDocument) : Option Graph := (Graph.ofBlocks doc.start doc.blocks).toOption

end FlatDocument

namespace Graph

variable {fresh : Nat → BlockId}

theorem toOption_read (o : Origin) (d : Json.Draft) :
    (read o d).toOption = (FlatDocument.read o d).toOption.bind FlatDocument.graph? := by
  rw [read, toOption_bind]
  refine congrArg _ (funext fun doc => ?_)
  rw [toOption_mapError]
  rfl

theorem toOption_ofText (text : String) : (ofText text).toOption
    = (Json.read (FlatDocument.read .text) text).toOption.bind FlatDocument.graph? := by
  rw [ofText, Json.toOption_read, Json.toOption_read, toOption_read]
  split <;> rfl

theorem toOption_ofStacks (j : Json) :
    (ofStacks fresh j).toOption = (Stacks.says? fresh j).bind FlatDocument.graph? := by
  unfold ofStacks Stacks.says?
  cases (Stacks.place? j).bind Json.items? with
  | none => rfl
  | some heads =>
    cases hpiles : Stacks.stacksOf ⟨fresh, 0⟩ heads with
    | error e => simp [hpiles, Except.toOption]
    | ok piles =>
      cases hb : Stacks.start? piles with
      | none => simp [hpiles, hb, Except.toOption]
      | some b => simp [hpiles, hb, Json.toOption_ok, toOption_mapError, FlatDocument.graph?]

theorem toOption_ofStacksText (text : String) : (ofStacksText fresh text).toOption
    = ((Json.readTree text).toOption.bind (Stacks.says? fresh)).bind FlatDocument.graph? := by
  rw [ofStacksText, toOption_bind, toOption_mapError, Option.bind_assoc]
  refine congrArg _ (funext fun j => ?_)
  rw [toOption_mapError, toOption_ofStacks]

theorem toOption_load (text : String) : (load fresh text).toOption
    = ((Source.saved text).says? fresh).bind FlatDocument.graph? := by
  rw [load, toOption_bind, toOption_mapError, Source.says?, Option.bind_assoc]
  refine congrArg _ (funext fun j => ?_)
  split
  · rw [toOption_mapError, toOption_read]
  · split
    · rw [toOption_mapError, toOption_ofStacks]
    · next hplace =>
      have hnone : Stacks.place? j = none := by simpa using hplace
      rw [Stacks.says?, hnone]
      rfl

end Graph

namespace Source

variable {fresh : Nat → BlockId} {s : Source} {g : Graph}

/-- **Every source goes through the check of loose blocks.** -/
theorem graph?_eq (fresh : Nat → BlockId) (s : Source) :
    s.graph? fresh = (s.says? fresh).bind FlatDocument.graph? := by
  cases s with
  | new start =>
    have hnew : Graph.ofBlocks start [⟨start, .start, none⟩] = .ok (.new start) :=
      Graph.ofBlocks_eq_ok_iff.mpr ⟨List.pairwise_singleton _ _, rfl, rfl⟩
    exact (Json.toOption_eq_some_iff.mpr hnew).symm
  | loose start blocks => rfl
  | flat text => exact Graph.toOption_ofText text
  | nested j => exact Graph.toOption_ofStacks j
  | nestedText text => exact Graph.toOption_ofStacksText text
  | saved text => exact Graph.toOption_load text

/-- What a source has to say for a graph to be made of it. -/
theorem exists_says?_of_graph? (h : s.graph? fresh = some g) :
    ∃ doc, s.says? fresh = some doc ∧ (doc.blocks.map Block.id).Nodup ∧
      (∃ b ∈ doc.blocks, b.id = doc.start ∧ b.kind = .start) ∧ g.start = doc.start := by
  rw [graph?_eq] at h
  obtain ⟨doc, hdoc, hg⟩ := Option.bind_eq_some_iff.mp h
  obtain ⟨hnodup, hs, hheld⟩ := Graph.ofBlocks_eq_ok_iff_find?.mp (Json.toOption_eq_some_iff.mp hg)
  exact ⟨doc, hdoc, hnodup, ⟨g.startBlock, (hheld _).mp g.find?_start, hs, rfl⟩, hs⟩

end Source

/-! ## Soundness -/

namespace Graph

variable {start : BlockId} {g : Graph}

theorem size_eq (g : Graph) : g.size = g.document.length := g.document_perm.length_eq.symm

theorem mem_document_iff {b : Block} : b ∈ g.document ↔ g.find? b.id = some b :=
  g.document_perm.mem_iff.trans ⟨Table.find?_of_mem, Table.mem_of_find?⟩

theorem node?_start (g : Graph) : g.node? g.start = some g.startNode := by
  rw [node?, find?_start]
  rfl

/-- A graph with its start where it belongs, that can be saved and made again. -/
structure Sound (start : BlockId) (g : Graph) : Prop where
  start_eq : g.start = start
  /-- A start block is found under the start id. -/
  start_block : ∃ b, g.find? start = some b ∧ b.kind = .start
  /-- The handle from which programs are compiled is what is looked up there. -/
  start_node : g.node? start = some g.startNode
  /-- What is found under an id has this id. -/
  filed : ∀ id b, g.find? id = some b → b.id = id
  /-- The blocks that are saved are those that are found. -/
  mem_document : ∀ b, b ∈ g.document ↔ g.find? b.id = some b
  /-- No two of them share an id, and the graph has no others. -/
  nodup_document : (g.document.map Block.id).Nodup
  size_eq : g.size = g.document.length
  size_pos : 1 ≤ g.size
  /-- What is saved makes the graph again. -/
  ofBlocks : ofBlocks g.toFlat.start g.toFlat.blocks = .ok g

theorem sound_of_start_eq (hs : g.start = start) : g.Sound start := by
  subst hs
  have hstart := g.find?_start
  have hmem : g.startBlock ∈ g.document := mem_document_iff.mpr hstart
  exact {
    start_eq := rfl
    start_block := ⟨g.startBlock, hstart, rfl⟩
    start_node := g.node?_start
    filed := fun _ _ => Table.find?_eq_some_id
    mem_document := fun _ => mem_document_iff
    nodup_document := (ofBlocks_eq_ok_iff.mp g.ofBlocks_document).1
    size_eq := g.size_eq
    size_pos := g.size_eq ▸ List.length_pos_of_mem hmem
    ofBlocks := g.ofBlocks_document }

/-- No edit moves the start, whether it succeeds or not. -/
theorem start_edited (g : Graph) (e : Edit) : (g.edited e).start = g.start := by
  rw [edited]
  split
  · next hok => exact start_apply hok
  · rfl

theorem Sound.edited (hg : g.Sound start) (e : Edit) : (g.edited e).Sound start :=
  sound_of_start_eq ((g.start_edited e).trans hg.start_eq)

theorem Sound.editedAll (hg : g.Sound start) (es : List Edit) : (g.editedAll es).Sound start := by
  induction es generalizing g with
  | nil => exact hg
  | cons e rest ih => exact ih (hg.edited e)

end Graph

namespace Source

variable {fresh : Nat → BlockId} {s : Source} {g : Graph}

/--
**A graph from any source is sound, and stays so through all edits, done or refused.** Its start id is the
one that the source names, and the source has a start block under it; the ids of its blocks differ.
-/
theorem sound_editedAll (hg : s.graph? fresh = some g) (es : List Graph.Edit) :
    ∃ doc, s.says? fresh = some doc ∧ (doc.blocks.map Block.id).Nodup ∧
      (∃ b ∈ doc.blocks, b.id = doc.start ∧ b.kind = .start) ∧
      (g.editedAll es).Sound doc.start := by
  obtain ⟨doc, hdoc, hnodup, hstart, hs⟩ := exists_says?_of_graph? hg
  exact ⟨doc, hdoc, hnodup, hstart, (Graph.sound_of_start_eq hs).editedAll es⟩

/--
Two start blocks, the second of which links to itself and is taken out; that the first is taken out and that
an id is used again is refused.
-/
theorem sound_amid_refusals :
    ∃ g, (loose "s" [⟨"s", .start, some "a"⟩, ⟨"a", .start, some "a"⟩,
        ⟨"b", .unrecognized "gear", some "gone"⟩]).graph? (fun _ => "") = some g ∧
      (g.editedAll [.remove "s", .append ⟨"b", .start, none⟩, .remove "a", .link "b" (some "s"),
        .insertAfter "b" ⟨"c", .action .wait, none⟩]).Sound "s" := by
  have hgraph : (loose "s" [⟨"s", .start, some "a"⟩, ⟨"a", .start, some "a"⟩,
    ⟨"b", .unrecognized "gear", some "gone"⟩]).graph? (fun _ => "") = some _ := rfl
  obtain ⟨doc, hdoc, -, -, hsound⟩ := sound_editedAll hgraph [.remove "s", .append ⟨"b", .start, none⟩,
    .remove "a", .link "b" (some "s"), .insertAfter "b" ⟨"c", .action .wait, none⟩]
  cases hdoc
  exact ⟨_, hgraph, hsound⟩

end Source

end BlockPlayer
