import BlockPlayer.Proofs.Graph.Edits

/-!
# Taking out what was put in

A block is put in behind an anchor and taken out again. The anchor had its link moved on to the block,
and gets it back; the other links that lead to the block go where the link of the anchor goes. These
are the links that waited for the id of the block, so nothing is left of the two edits if there are none.

* `bypass_splice` — what the two edits make of a table
* `remove_insertAfter_iff` — when they make nothing of a graph
* `remove_inserted` — **a block that was put in under a new id is taken out without a trace**
-/

namespace BlockPlayer

/-- A table whose links stay the same stays the same. -/
theorem Table.relink_eq_self_iff {t : Table} {next : Block → Option BlockId} :
    t.relink next = t ↔ ∀ b, t.find? b.id = some b → next b = b.next := by
  constructor
  · intro h b hb
    have hfind := find?_relink t next b.id
    rw [h, hb, Option.map_some] at hfind
    exact (congrArg Block.next (Option.some.inj hfind)).symm
  · intro h
    refine ext_find? fun id => ?_
    rw [find?_relink]
    cases hb : t.find? id with
    | none => rfl
    | some b =>
      obtain rfl := find?_eq_some_id hb
      rw [Option.map_some, h b hb]

namespace Graph

variable {t : Table} {g h : Graph} {after : BlockId} {a b : Block}

/-- The block `b` as it is when it has been put in behind `a`. -/
def placed (a b : Block) : Block := ⟨b.id, b.kind, a.next⟩

/-- Of the two edits, the links are left that waited for the id of the block. They follow the anchor. -/
theorem bypass_splice (ha : t.find? a.id = some a) (hb : t.find? b.id = none) :
    bypass (splice t a.id b) (placed a b)
      = t.relink fun c => if c.next = some b.id then a.next else c.next := by
  refine Table.ext_find? fun id => ?_
  rw [Table.find?_relink]
  by_cases hid : id = b.id
  · rw [find?_bypass, if_pos (show id = (placed a b).id from hid), hid, hb, Option.map_none]
  · rw [find?_bypass_of_ne (r := placed a b) hid, find?_splice, if_neg (Ne.symm hid),
      Option.map_map]
    cases hc : t.find? id with
    | none => rfl
    | some c =>
      obtain rfl := Table.find?_eq_some_id hc
      simp only [Option.map_some, Function.comp_apply, skirted]
      by_cases hca : c.id = a.id
      · -- the anchor has the link back that the block took over
        rw [hca, ha] at hc
        cases hc
        rw [if_pos rfl, skirt, if_pos (show some b.id = some (placed a b).id from rfl), ite_self]
        rfl
      · rw [if_neg hca]
        rfl

/-- A block that was put in behind `a` can be taken out. -/
theorem remove_insertAfter (ha : g.find? a.id = some a) (hok : g.insertAfter a.id b = .ok h) :
    ∃ f, h.remove b.id = .ok (placed a b, f) ∧ f.start = g.start ∧
      f.table = g.table.relink fun c => if c.next = some b.id then a.next else c.next := by
  obtain ⟨hb, -, hs, ht⟩ := insertAfter_eq_ok_iff.mp hok
  have hne : b.id ≠ h.start := by
    intro he
    rw [he, hs, g.find?_start] at hb
    cases hb
  have hfind : h.find? b.id = some (placed a b) := by
    rw [find?, ht]
    exact find?_splice_new ha
  obtain ⟨f, hf⟩ := exists_remove hne hfind
  obtain ⟨-, -, hstart, htable⟩ := remove_eq_ok_iff.mp hf
  exact ⟨f, hf, hstart.trans hs, by rw [htable, ht, bypass_splice ha hb]⟩

/--
The two edits make nothing of a graph if and only if no link waited for the id, or else the link of the
anchor did.
-/
theorem remove_insertAfter_iff (ha : g.find? a.id = some a) (hok : g.insertAfter a.id b = .ok h) :
    h.remove b.id = .ok (placed a b, g) ↔
      ∀ c, g.find? c.id = some c → c.next = some b.id → a.next = some b.id := by
  obtain ⟨f, hf, hstart, htable⟩ := remove_insertAfter ha hok
  have hgraph : f = g ↔ f.table = g.table := by
    refine ⟨congrArg table, fun ht => ?_⟩
    cases f
    cases g
    simp_all
  rw [hf, Except.ok.injEq, Prod.mk.injEq, hgraph, htable, Table.relink_eq_self_iff]
  simp only [true_and]
  refine forall_congr' fun c => forall_congr' fun _ => ?_
  by_cases hc : c.next = some b.id
  · rw [if_pos hc, hc]
    exact ⟨fun h _ => h, fun h => h rfl⟩
  · simp [hc]

/--
**A block that was put in under a new id is taken out without a trace.** The id is new if no block has it
and no link names it. The anchor may be any block of the graph, and the links of the graph may be any;
the block may have brought a link along. What is taken out is the block with the link of its anchor.
-/
theorem remove_inserted (hb : g.contains b.id = false)
    (hlinks : ∀ c, g.find? c.id = some c → c.next ≠ some b.id) :
    (∀ after, g.contains after = true → ∃ h r, g.insertAfter after b = .ok h ∧
      h.remove b.id = .ok (r, g) ∧ r.id = b.id ∧ r.kind = b.kind ∧
        r.next = (g.find? after).bind Block.next) ∧
    ∃ h r, g.append b = .ok h ∧
      h.remove b.id = .ok (r, g) ∧ r.id = b.id ∧ r.kind = b.kind ∧ r.next = g.lastLink := by
  have hinsert : ∀ after, g.contains after = true → ∃ h r, g.insertAfter after b = .ok h ∧
      h.remove b.id = .ok (r, g) ∧ r.id = b.id ∧ r.kind = b.kind ∧
        r.next = (g.find? after).bind Block.next := by
    intro after hafter
    obtain ⟨a, ha⟩ := contains_iff.mp hafter
    obtain rfl := Table.find?_eq_some_id ha
    obtain ⟨h, hok⟩ := exists_insertAfter hb hafter
    refine ⟨h, placed a b, hok, ?_, rfl, rfl, by rw [ha]; rfl⟩
    exact (remove_insertAfter_iff ha hok).mpr fun c hc hnext => absurd hnext (hlinks c hc)
  exact ⟨hinsert, hinsert g.tail g.contains_tail⟩

/-- The anchors are on the chain, off it, and linked to themselves; the graph is bent into loops. -/
theorem remove_inserted_amid_loops :
    let g := (new "s").editedAll [.insertAfter "s" ⟨"a", .action .wait, none⟩, .link "a" (some "s"),
      .insertAfter "s" ⟨"b", .action .deliver, none⟩, .link "b" (some "b")]
    let b : Block := ⟨"x", .action .wait, some "a"⟩
    g.table.entries = [⟨"a", .action .wait, some "s"⟩, ⟨"b", .action .deliver, some "b"⟩,
        ⟨"s", .start, some "b"⟩] ∧
      g.contains b.id = false ∧ (∀ c ∈ g.table.entries, c.next ≠ some b.id) ∧
      ∀ after ∈ ["s", "a", "b"], g.contains after = true ∧ ∃ h r, g.insertAfter after b = .ok h ∧
        h.remove b.id = .ok (r, g) ∧ r.id = b.id ∧ r.kind = b.kind ∧
          r.next = (g.find? after).bind Block.next := by
  intro g b
  have hb : g.contains b.id = false := by decide
  have hlinks : ∀ c ∈ g.table.entries, c.next ≠ some b.id := by decide
  have hafter : ∀ after ∈ ["s", "a", "b"], g.contains after = true := by decide
  refine ⟨by decide, hb, hlinks, fun after hmem => ⟨hafter after hmem, ?_⟩⟩
  exact (remove_inserted hb fun c hc => hlinks c (Table.mem_of_find? hc)).1 after
    (hafter after hmem)

end Graph

end BlockPlayer
