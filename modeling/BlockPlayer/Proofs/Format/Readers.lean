import BlockPlayer.Proofs.Format.Document
import BlockPlayer.Proofs.Json.Agreement

/-!
# Two readers of flat documents

The text of a flat document is read in one pass by `Graph.ofText`, and by `Graph.load` after it was taken for
a value. The fields of a block and of a document may come in any order, so both give the same
(`Graph.agree`), whatever else the text says, as long as no object repeats a name.
-/

namespace BlockPlayer

open Json (Agree Origin readOptional readText toDraft)

theorem BlockKind.agree : Agree BlockKind.read BlockKind.read := Agree.text.map ofTag

namespace Block

/-- Both readers of blocks have the fields of `record`. -/
theorem fieldsAgree :
    List.Forall₂ Json.Record.FieldsAgree record.fields record.fields := by
  refine .cons ⟨rfl, rfl, fun s d j h => ?_⟩ (.cons ⟨rfl, rfl, fun s d j h => ?_⟩
    (.cons ⟨rfl, rfl, fun s d j h => ?_⟩ .nil))
  · simp only [Json.toOption_bind, Agree.text h]
  · simp only [Json.toOption_bind, BlockKind.agree h]
  · simp only [Json.toOption_bind, Agree.text.optional h]

theorem unordered : Json.Record.Unordered record.fields := by
  refine .cons (List.forall_mem_cons.mpr ⟨?_, List.forall_mem_singleton.mpr ?_⟩)
    (.cons (List.forall_mem_singleton.mpr ?_) (List.pairwise_singleton _ _))
  · exact Json.Record.commutes_of_puts rfl rfl fun _ _ _ => rfl
  · exact Json.Record.commutes_of_puts rfl rfl fun _ _ _ => rfl
  · exact Json.Record.commutes_of_puts rfl rfl fun _ _ _ => rfl

theorem agree (o o' : Origin) : Agree (read o) (read o') := Agree.record fieldsAgree unordered

end Block

namespace FlatDocument

theorem fieldsAgree (o o' : Origin) :
    List.Forall₂ Json.Record.FieldsAgree (record o).fields (record o').fields := by
  refine .cons ⟨rfl, rfl, fun s d j h => ?_⟩ (.cons ⟨rfl, rfl, fun s d j h => ?_⟩ .nil)
  · simp only [Json.toOption_bind, Agree.text h]
  · simp only [Json.toOption_bind, Agree.list (Block.agree o o') h]

theorem unordered (o : Origin) : Json.Record.Unordered (record o).fields := by
  refine .cons (List.forall_mem_singleton.mpr ?_) (List.pairwise_singleton _ _)
  exact Json.Record.commutes_of_puts rfl rfl fun _ _ _ => rfl

theorem agree (o o' : Origin) : Agree (read o) (read o') :=
  Agree.record (fieldsAgree o o') (unordered o')

end FlatDocument

namespace Graph

theorem agree (o o' : Origin) : Agree (read o) (read o') := by
  intro d j h
  rw [read, read, Json.toOption_bind, Json.toOption_bind, FlatDocument.agree o o' h]

/--
**Both readers of a flat document give the same graph, or both give none.** The text may hold anything that
is a value, with a member `start` and without repeated names.
-/
theorem load_eq_ok_iff_ofText {text : String} {j : Json} (hj : Json.readTree text = .ok j)
    (hstart : (j.get? "start").isSome = true) (hnames : (Json.draft text.toList).1.NoRepeats)
    (fresh : Nat → BlockId) (g : Graph) : load fresh text = .ok g ↔ ofText text = .ok g := by
  have hload : load fresh text = (read .tree (toDraft j)).mapError .json := by
    rw [load, hj]
    simp only [Json.mapError_ok, bind, Except.bind, hstart, if_true]
  rw [← Json.toOption_eq_some_iff, ← Json.toOption_eq_some_iff, hload, Json.toOption_mapError, ofText,
    Agree.toOption_read (agree .text .tree) hj hnames]

/-- A document with its members out of order, with members of no use, and with one block as an array. -/
def mixed : Json :=
  .object [("view", .object [("start", .null)]),
    ("blocks", .array [
      .object [("color", .array [.bool true]), ("next", .text "a"), ("type", .text "van"),
        ("id", .text "s")],
      .array [.text "a", .text "wait"],
      .object [("type", .text "wave"), ("next", .null), ("id", .text "b")]]),
    ("start", .text "s")]

/-- The same with all members in the order of their names. -/
def sorted : Json :=
  .object [
    ("blocks", .array [
      .object [("color", .array [.bool true]), ("id", .text "s"), ("next", .text "a"),
        ("type", .text "van")],
      .array [.text "a", .text "wait"],
      .object [("id", .text "b"), ("next", .null), ("type", .text "wave")]]),
    ("start", .text "s"),
    ("view", .object [("start", .null)])]

/-- The blocks of both. -/
def mixedBlocks : List Block :=
  [⟨"s", .start, some "a"⟩, ⟨"a", .action .wait, none⟩, ⟨"b", .unrecognized "wave", none⟩]

theorem numberFree_mixed : Json.NumberFree mixed := by
  simp [mixed, Json.NumberFree, Json.NumberFreeItems, Json.NumberFreeMembers]

theorem noRepeats_mixed :
    (Json.draft (String.ofList (Json.write true 0 mixed)).toList).1.NoRepeats := by
  rw [String.toList_ofList, Json.draft_write numberFree_mixed]
  simp [mixed, toDraft, Json.membersToDraft, Json.itemsToDraft, Json.Draft.NoRepeats,
    Json.NoRepeatsItems, Json.NoRepeatsMembers]

theorem exists_ofText_mixed : ∃ g, ofText (String.ofList (Json.write true 0 mixed)) = .ok g := by
  have hnodup : (mixedBlocks.map Block.id).Nodup := by decide
  obtain ⟨g, hg⟩ := exists_ofBlocks hnodup List.mem_cons_self rfl
  have hflat : FlatDocument.read .text (toDraft mixed) = .ok ⟨"s", mixedBlocks⟩ := rfl
  refine ⟨g, ?_⟩
  rw [ofText, Json.read_write _ numberFree_mixed]
  exact read_of_flat hflat hg

/-- Both readers take the mixed document, and give one graph. -/
theorem load_mixed :
    Json.readTree (String.ofList (Json.write true 0 mixed)) = .ok sorted
      ∧ (sorted.get? "start").isSome = true
      ∧ (Json.draft (String.ofList (Json.write true 0 mixed)).toList).1.NoRepeats
      ∧ ∃ g, ofText (String.ofList (Json.write true 0 mixed)) = .ok g
        ∧ load (fun _ => "") (String.ofList (Json.write true 0 mixed)) = .ok g := by
  have hj := Json.readTree_write (k := sorted) numberFree_mixed rfl true
  obtain ⟨g, hg⟩ := exists_ofText_mixed
  exact ⟨hj, by decide, noRepeats_mixed, g, hg,
    (load_eq_ok_iff_ofText hj (by decide) noRepeats_mixed _ g).mpr hg⟩

end Graph

end BlockPlayer
