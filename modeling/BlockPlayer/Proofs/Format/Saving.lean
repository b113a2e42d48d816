import BlockPlayer.Graph.Edit
import BlockPlayer.Proofs.Format.Document
import BlockPlayer.Proofs.Graph.Edits

/-!
# Saved graphs

Graphs are made new, put together from loose blocks, read from either kind of text, and edited
(`Graph.Built`). All their blocks have kinds that come from tags, as long as the blocks have that are put
in from outside (`Graph.Built.fromTags`). That is all it takes for a graph to be read back from the text
under which it is saved (`Graph.saved_reads_back`).
-/

namespace BlockPlayer

open Json (Draft Error Origin)

/-! ## Kinds that are read come from tags -/

theorem BlockKind.fromTag_start : BlockKind.start.FromTag := ⟨"start", BlockKind.ofTag_start.symm⟩

theorem BlockKind.fromTag_of_read {d : Draft} {k : BlockKind} (h : read d = .ok k) : k.FromTag := by
  unfold read at h
  cases ht : Json.readText d with
  | error e => rw [ht] at h; cases h
  | ok tag =>
    rw [ht] at h
    cases h
    exact ⟨tag, rfl⟩

theorem Block.fromTag_of_read {o : Origin} {d : Draft} {b : Block} (h : read o d = .ok b) :
    b.kind.FromTag := by
  refine Json.Record.read_keeps (P := fun b : Block => b.kind.FromTag) ?_ h
    BlockKind.fromTag_start
  intro f hf d s s' hs hkind
  simp only [record, List.mem_cons, List.not_mem_nil, or_false] at hf
  rcases hf with rfl | rfl | rfl
  · obtain ⟨id, -, hs⟩ := Json.bind_eq_ok hs
    cases hs
    exact hkind
  · obtain ⟨k, hk, hs⟩ := Json.bind_eq_ok hs
    cases hs
    exact BlockKind.fromTag_of_read hk
  · obtain ⟨next, -, hs⟩ := Json.bind_eq_ok hs
    cases hs
    exact hkind

theorem FlatDocument.fromTag_of_read {o : Origin} {d : Draft} {doc : FlatDocument}
    (h : read o d = .ok doc) : ∀ b ∈ doc.blocks, b.kind.FromTag := by
  refine Json.Record.read_keeps (P := fun doc => ∀ b ∈ doc.blocks, b.kind.FromTag) ?_ h
    fun _ hb => absurd hb List.not_mem_nil
  intro f hf d s s' hs hblocks
  simp only [record, List.mem_cons, List.not_mem_nil, or_false] at hf
  rcases hf with rfl | rfl
  · obtain ⟨start, -, hs⟩ := Json.bind_eq_ok hs
    cases hs
    exact hblocks
  · obtain ⟨blocks, hb, hs⟩ := Json.bind_eq_ok hs
    cases hs
    exact Json.forall_of_readList (fun _ _ => Block.fromTag_of_read) hb

namespace Stacks

theorem fromTag_of_blockOf {s s' : Supply} {j : Json} {b : Block}
    (h : blockOf s j = .ok (b, s')) : b.kind.FromTag := by
  unfold blockOf at h
  split at h
  · cases h
  · next tag _ =>
    split at h <;>
    · cases h
      exact ⟨tag, rfl⟩

theorem fromTag_of_stackOf {s s' : Supply} {j : Json} {blocks : List Block}
    (h : stackOf s j = .ok (blocks, s')) : ∀ b ∈ blocks, b.kind.FromTag := by
  fun_induction stackOf s j generalizing blocks s' with
  | case1 => cases h
  | case2 s j b s₁ hb =>
    cases h
    intro c hc
    obtain rfl := List.mem_singleton.mp hc
    exact fromTag_of_blockOf hb
  | case3 => cases h
  | case4 s j b s₁ hb k hk rest s₂ hrest ih =>
    cases h
    intro c hc
    rcases List.mem_cons.mp hc with rfl | hc
    · exact (fromTag_of_blockOf hb : b.kind.FromTag)
    · exact ih hrest c hc

theorem fromTag_of_stacksOf {heads : List Json} : ∀ {s : Supply} {piles : List (List Block)},
    stacksOf s heads = .ok piles → ∀ b ∈ piles.flatten, b.kind.FromTag := by
  induction heads with
  | nil =>
    intro s piles h
    cases h
    exact fun _ hb => absurd hb List.not_mem_nil
  | cons j rest ih =>
    intro s piles h
    rw [stacksOf] at h
    split at h
    · cases h
    · next stack s₁ hstack =>
      cases hrest : stacksOf s₁ rest with
      | error e => rw [hrest] at h; cases h
      | ok piles' =>
        rw [hrest] at h
        cases h
        intro b hb
        rw [List.flatten_cons, List.mem_append] at hb
        rcases hb with hb | hb
        · exact fromTag_of_stackOf hstack b hb
        · exact ih hrest b hb

end Stacks

namespace Graph

variable {g h : Graph}

theorem fromTags_ofBlocks {start : BlockId} {blocks : List Block}
    (hb : ∀ b ∈ blocks, b.kind.FromTag) (hok : ofBlocks start blocks = .ok g) : g.FromTags := by
  obtain ⟨-, -, hheld⟩ := ofBlocks_eq_ok_iff_find?.mp hok
  intro b id hfind
  obtain rfl := Table.find?_eq_some_id hfind
  exact hb b ((hheld b).mp hfind)

theorem fromTags_read {o : Origin} {d : Draft} (hok : read o d = .ok g) : g.FromTags := by
  obtain ⟨doc, hdoc, hok⟩ := Json.bind_eq_ok hok
  exact fromTags_ofBlocks (FlatDocument.fromTag_of_read hdoc) (Json.mapError_eq_ok hok)

theorem fromTags_ofText {text : String} (hok : ofText text = .ok g) : g.FromTags := by
  obtain ⟨d, hread⟩ := Json.exists_of_read hok
  exact fromTags_read hread

theorem fromTags_ofStacks {fresh : Nat → BlockId} {j : Json} (hok : ofStacks fresh j = .ok g) :
    g.FromTags := by
  unfold ofStacks at hok
  split at hok
  · cases hok
  · split at hok
    · cases hok
    · next piles hpiles =>
      split at hok
      · cases hok
      · exact fromTags_ofBlocks (Stacks.fromTag_of_stacksOf hpiles) (Json.mapError_eq_ok hok)

theorem fromTags_ofStacksText {fresh : Nat → BlockId} {text : String}
    (hok : ofStacksText fresh text = .ok g) : g.FromTags := by
  obtain ⟨j, -, hok⟩ := Json.bind_eq_ok hok
  exact fromTags_ofStacks (Json.mapError_eq_ok hok)

theorem fromTags_load {fresh : Nat → BlockId} {text : String} (hok : load fresh text = .ok g) :
    g.FromTags := by
  obtain ⟨j, -, hok⟩ := Json.bind_eq_ok hok
  split at hok
  · exact fromTags_read (Json.mapError_eq_ok hok)
  · split at hok
    · exact fromTags_ofStacks (Json.mapError_eq_ok hok)
    · cases hok

/-! ## Edits -/

theorem fromTags_new (start : BlockId) : (new start).FromTags := by
  intro b id hb
  simp only [find?, new, Table.find?_insert, Table.find?_empty] at hb
  split at hb
  · cases hb
    exact BlockKind.fromTag_start
  · cases hb

theorem fromTags_insertAfter {after : BlockId} {b : Block} (hg : g.FromTags)
    (hb : b.kind.FromTag) (hok : g.insertAfter after b = .ok h) : h.FromTags := by
  obtain ⟨-, -, -, ht⟩ := insertAfter_eq_ok_iff.mp hok
  intro c id hc
  rw [find?, ht, find?_splice] at hc
  split at hc
  · cases hc
    exact hb
  · obtain ⟨x, hx, rfl⟩ := Option.map_eq_some_iff.mp hc
    exact (hg x id hx : x.kind.FromTag)

theorem fromTags_apply {e : Edit} (hg : g.FromTags)
    (he : ∀ b, e.block? = some b → b.kind.FromTag) (hok : g.apply e = .ok h) : h.FromTags := by
  cases e with
  | append b => exact fromTags_insertAfter hg (he b rfl) hok
  | insertAfter after b => exact fromTags_insertAfter hg (he b rfl) hok
  | remove id =>
    rw [apply] at hok
    cases hr : g.remove id with
    | error err => rw [hr] at hok; cases hok
    | ok r =>
      obtain ⟨b, h'⟩ := r
      rw [hr] at hok
      cases hok
      obtain ⟨-, -, -, ht⟩ := remove_eq_ok_iff.mp hr
      intro c id hc
      rw [find?, ht, find?_bypass] at hc
      split at hc
      · cases hc
      · obtain ⟨x, hx, rfl⟩ := Option.map_eq_some_iff.mp hc
        exact (hg x id hx : x.kind.FromTag)
  | link source target =>
    obtain ⟨-, -, -, ht⟩ := link_eq_ok_iff.mp hok
    intro c id hc
    rw [find?, ht, find?_redirect] at hc
    obtain ⟨x, hx, rfl⟩ := Option.map_eq_some_iff.mp hc
    exact (hg x id hx : x.kind.FromTag)
  | clear =>
    cases hok
    exact fromTags_new g.start

/-! ## How graphs come about -/

/-- A graph that was made new, put together, read or edited. Blocks from outside have tags. -/
inductive Built : Graph → Prop
  | new (start : BlockId) : Built (new start)
  | ofBlocks {start : BlockId} {blocks : List Block} {g : Graph} :
    (∀ b ∈ blocks, b.kind.FromTag) → ofBlocks start blocks = .ok g → Built g
  | ofText {text : String} {g : Graph} : ofText text = .ok g → Built g
  | ofStacksText {fresh : Nat → BlockId} {text : String} {g : Graph} :
    ofStacksText fresh text = .ok g → Built g
  | load {fresh : Nat → BlockId} {text : String} {g : Graph} : load fresh text = .ok g → Built g
  | apply {g h : Graph} {e : Edit} : Built g → (∀ b, e.block? = some b → b.kind.FromTag) →
    g.apply e = .ok h → Built h

theorem Built.fromTags (hg : g.Built) : g.FromTags := by
  induction hg with
  | new start => exact fromTags_new start
  | ofBlocks hb hok => exact fromTags_ofBlocks hb hok
  | ofText hok => exact fromTags_ofText hok
  | ofStacksText hok => exact fromTags_ofStacksText hok
  | load hok => exact fromTags_load hok
  | apply _ he hok ih => exact fromTags_apply ih he hok

/--
**A graph is read back from the text under which it is saved**, by the reader of flat documents and by
the one that takes either kind of text, and the graph that was read is saved under the same text. Its
links may be any, and so may its ids and unknown tags.
-/
theorem saved_reads_back (hg : g.Built) (fresh : Nat → BlockId) :
    ofText g.text = .ok g ∧ load fresh g.text = .ok g ∧
      (ofText g.text).map text = .ok g.text ∧ (load fresh g.text).map text = .ok g.text := by
  have hread := ofText_text hg.fromTags
  have hload := load_text hg.fromTags fresh
  refine ⟨hread, hload, ?_, ?_⟩
  · rw [hread]
    rfl
  · rw [hload]
    rfl

/--
A graph with ids that have to be escaped, a tag of its own, a loose block, and a chain that an edit bends
into a loop.
-/
theorem looping_graph_reads_back :
    let fresh : Nat → BlockId := fun n => toString n
    ∃ g h, ofBlocks "\"" [⟨"\"", .start, some "a\\"⟩, ⟨"a\\", .ofTag "dreht sich", none⟩,
        ⟨"b\n", .ofTag "van", some "gone"⟩] = .ok g ∧
      g.apply (.link "a\\" (some "\"")) = .ok h ∧
      h.document = [⟨"\"", .start, some "a\\"⟩, ⟨"a\\", .ofTag "dreht sich", some "\""⟩,
        ⟨"b\n", .ofTag "van", some "gone"⟩] ∧
      ofText h.text = .ok h ∧ load fresh h.text = .ok h ∧
        (ofText h.text).map text = .ok h.text ∧ (load fresh h.text).map text = .ok h.text := by
  intro fresh
  have hblocks : ofBlocks "\"" [⟨"\"", .start, some "a\\"⟩, ⟨"a\\", .ofTag "dreht sich", none⟩,
    ⟨"b\n", .ofTag "van", some "gone"⟩] = .ok _ := rfl
  refine ⟨_, _, hblocks, rfl, ?_, ?_⟩
  · cbv
  · refine saved_reads_back
      (.apply (e := .link "a\\" (some "\"")) (.ofBlocks ?_ hblocks) (fun _ he => by cases he) rfl)
      fresh
    intro c hc
    simp only [List.mem_cons, List.not_mem_nil, or_false] at hc
    rcases hc with rfl | rfl | rfl
    · exact BlockKind.fromTag_start
    · exact ⟨"dreht sich", rfl⟩
    · exact ⟨"van", rfl⟩

end Graph

end BlockPlayer
