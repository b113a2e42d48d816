import BlockPlayer.Proofs.Chain.Compile
import BlockPlayer.Proofs.Graph.Edits
import BlockPlayer.Proofs.Graph.Places

/-!
# Which edits make loops

A chain loops if its last link names a block. Then the block is on the chain, and every compiler whose
limit is large enough comes back to it (`Graph.loops_iff`); a chain that does not loop has a program for
every such limit (`Graph.not_loops_iff`).

A last link that names no block is waiting: as soon as a block is put in under that id, the link leads to
it. If the block stands on the chain by then, the chain loops. This is the only way in which a loop comes
about other than by a link that is set (`Graph.loops_edits`).
-/

namespace BlockPlayer.Graph

open Chain

/-- A compiler that may walk far enough finds that the chain comes back to a block. -/
def Loops (g : Graph) : Prop := ∃ o id, compile o g.startNode = .error (.loop id)

variable {g h : Graph}

/-- The chain loops if and only if its last link names a block. -/
theorem loops_iff : g.Loops ↔ ∃ id, g.lastLink = some id ∧ g.contains id = true := by
  constructor
  · rintro ⟨o, id, hloop⟩
    obtain ⟨-, k, -, hl⟩ := compile_eq_loop_iff.mp hloop
    refine Classical.byContradiction fun hnone => ?_
    -- the walk ends with the chain, on which it does not come back
    have hle := (g.endsAt_of_lastLink hnone).le hl.returns.isSome
    have hpos : 0 < g.chain.length := List.length_pos_iff.mpr g.chain_ne_nil
    exact g.not_returns_of_lt (by omega) hl.returns
  · rintro ⟨id, hid, hc⟩
    refine ⟨⟨.skip, g.chain.length⟩, id, compile_eq_loop_iff.mpr ⟨rfl, g.chain.length, ?_, ?_⟩⟩
    · exact Nat.le_succ _
    · exact g.loopsAt_length_chain hid hc

/-- A chain that does not loop has a program, if the limit is large enough. -/
theorem not_loops_iff : ¬ g.Loops ↔ ∃ o p, compile o g.startNode = .ok p := by
  constructor
  · intro hg
    have hend := g.endsAt_of_lastLink (mt loops_iff.mpr hg)
    have hpos : 0 < g.chain.length := List.length_pos_iff.mpr g.chain_ne_nil
    refine ⟨⟨.skip, g.chain.length⟩, _,
      compile_eq_ok_iff.mpr ⟨rfl, g.chain.length - 1, Nat.sub_le _ _, hend, ?_, rfl⟩⟩
    exact (distinct_iff hend.last).mpr fun k hk => g.not_returns_of_lt (by omega)
  · rintro ⟨o, p, hok⟩ ⟨o', id, hloop⟩
    obtain ⟨-, n, -, hend, hdistinct, -⟩ := compile_eq_ok_iff.mp hok
    obtain ⟨-, k, -, hl⟩ := compile_eq_loop_iff.mp hloop
    exact (distinct_iff hend.last).mp hdistinct k (hend.le hl.returns.isSome) hl.returns

/-! ## Edits -/

variable {after id : BlockId} {b : Block}

/-- Behind a block of the chain, a block is put in without moving the last link. -/
theorem lastLink_insertAfter (hok : g.insertAfter after b = .ok h) (hmem : after ∈ g.chainIds) :
    h.lastLink = g.lastLink := by
  obtain ⟨hb, -, hs, ht⟩ := insertAfter_eq_ok_iff.mp hok
  obtain ⟨a, ha, rfl⟩ := mem_chainIds.mp hmem
  obtain ⟨l₁, l₂, hl⟩ := List.append_of_mem ha
  exact (chain_of_splice hs ht hb hl).2

/-- A block put in behind a block of the chain makes a loop if the last link was waiting for it. -/
theorem loops_insertAfter_iff (hg : ¬ g.Loops) (hok : g.insertAfter after b = .ok h)
    (hmem : after ∈ g.chainIds) : h.Loops ↔ g.lastLink = some b.id := by
  rw [loops_iff, lastLink_insertAfter hok hmem]
  constructor
  · rintro ⟨x, hx, hc⟩
    rcases (contains_insertAfter hok x).mp hc with rfl | hc
    · exact hx
    · exact absurd (loops_iff.mpr ⟨x, hx, hc⟩) hg
  · intro hx
    exact ⟨b.id, hx, (contains_insertAfter hok b.id).mpr (.inl rfl)⟩

/-- Wherever a block is put in, the last link has to be waiting for it if the chain loops then. -/
theorem lastLink_of_loops_insertAfter (hg : ¬ g.Loops) (hok : g.insertAfter after b = .ok h)
    (hloops : h.Loops) : g.lastLink = some b.id := by
  by_cases hmem : after ∈ g.chainIds
  · exact (loops_insertAfter_iff hg hok hmem).mp hloops
  · by_cases hlast : g.lastLink = some b.id
    · exact hlast
    · obtain ⟨hb, -, hs, ht⟩ := insertAfter_eq_ok_iff.mp hok
      obtain ⟨x, hx, hc⟩ := loops_iff.mp hloops
      rw [(chain_of_splice_of_not_mem hs ht hb hmem hlast).2] at hx
      rcases (contains_insertAfter hok x).mp hc with rfl | hc
      · exact hx
      · exact absurd (loops_iff.mpr ⟨x, hx, hc⟩) hg

theorem not_loops_remove (hg : ¬ g.Loops) (hok : g.remove id = .ok (b, h)) : ¬ h.Loops := by
  intro hloops
  obtain ⟨x, hx, hc⟩ := loops_iff.mp hloops
  obtain ⟨hne, hc⟩ := (contains_remove hok x).mp hc
  obtain ⟨hstart, hb, hs, ht⟩ := remove_eq_ok_iff.mp hok
  obtain rfl := Table.find?_eq_some_id hb
  rw [(chain_of_bypass hs ht hb hstart).2, skirt] at hx
  split at hx
  · -- a last link that names a block makes a loop
    next hlast =>
    exact hg (loops_iff.mpr ⟨b.id, hlast, contains_iff.mpr ⟨b, hb⟩⟩)
  · exact hg (loops_iff.mpr ⟨x, hx, hc⟩)

theorem lastLink_new (start : BlockId) : (new start).lastLink = none := by
  have hfind : (new start).table.find? start = some ⟨start, .start, none⟩ := by simp [new]
  exact (chain_eq_of_trail ⟨.cons hfind (.nil none), by simp, by simp⟩).2

theorem not_loops_new (start : BlockId) : ¬ (new start).Loops := by
  rw [loops_iff, lastLink_new]
  rintro ⟨_, ⟨⟩, -⟩

/--
**Of all edits that set no link, only one makes a loop**: a block is put in under the id for which the
last link of the chain has been waiting. Behind a block of the chain, and so at its end, that always
makes a loop.
-/
theorem loops_edits (hg : ∃ o p, compile o g.startNode = .ok p) :
    (∀ {after : BlockId} {b : Block} {h : Graph}, g.insertAfter after b = .ok h →
      (h.Loops → g.lastLink = some b.id) ∧
      (after ∈ g.chainIds → (h.Loops ↔ g.lastLink = some b.id))) ∧
    (∀ {b : Block} {h : Graph}, g.append b = .ok h → (h.Loops ↔ g.lastLink = some b.id)) ∧
    (∀ {id : BlockId} {b : Block} {h : Graph}, g.remove id = .ok (b, h) → ¬ h.Loops) ∧
    ¬ g.clear.Loops := by
  have hg := not_loops_iff.mpr hg
  refine ⟨?_, ?_, ?_, not_loops_new g.start⟩
  · exact fun hok => ⟨lastLink_of_loops_insertAfter hg hok, loops_insertAfter_iff hg hok⟩
  · exact fun hok => loops_insertAfter_iff hg hok g.tail_mem_chainIds
  · exact fun hok => not_loops_remove hg hok

/-- Amid a chain whose last link waits, another block makes no loop; the awaited one does. -/
theorem loops_amid_waiting_chain :
    let g : Graph := ⟨"s", (Table.empty.insert ⟨"s", .start, some "a"⟩).insert
      ⟨"a", .action .wait, some "x"⟩, rfl⟩
    compile .default g.startNode = .ok [⟨"a", .perform .wait⟩] ∧
      ¬ (g.edited (.insertAfter "s" ⟨"b", .action .deliver, some "s"⟩)).Loops ∧
      (g.edited (.insertAfter "s" ⟨"x", .action .deliver, none⟩)).Loops := by
  intro g
  have hg : compile .default g.startNode = .ok [⟨"a", .perform .wait⟩] := rfl
  have hlast : g.lastLink = some "x" := by cbv
  have hother : g.insertAfter "s" ⟨"b", .action .deliver, some "s"⟩ = .ok _ := rfl
  have hawaited : g.insertAfter "s" ⟨"x", .action .deliver, none⟩ = .ok _ := rfl
  obtain ⟨hinsert, -⟩ := loops_edits ⟨.default, _, hg⟩
  refine ⟨hg, fun hloops => ?_, ((hinsert hawaited).2 g.start_mem_chainIds).mpr hlast⟩
  have hb := (hinsert hother).1 hloops
  rw [hlast] at hb
  exact absurd hb (by decide)

/-- The last link of a chain waits for a block, which is then appended: it links to itself. -/
theorem append_awaited_loops :
    ∃ g, ofBlocks "s" [⟨"s", .start, some "x"⟩] = .ok g ∧
      compile .default g.startNode = .ok [] ∧
      compile .default (g.edited (.append ⟨"x", .action .wait, none⟩)).startNode
        = .error (.loop "x") := by
  refine ⟨_, rfl, rfl, ?_⟩
  cbv

end BlockPlayer.Graph
