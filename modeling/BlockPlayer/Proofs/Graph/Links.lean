import Mathlib.Data.List.Induction
import BlockPlayer.Proofs.Graph.Edits

/-!
# Links that name blocks

A graph is *closed* if every link names one of its blocks. A new graph is closed, and edits keep it so,
with one exception: a block that links to itself is taken out while another block links to it. Such a
link is led to the successor of the block, which is the block itself, and so it stays and names nothing.

* `Graph.links_remove` — which links name a block that was taken out
* `Graph.closed_edited_iff` — which edits keep a graph closed
* `Graph.links_edits` — **the same for runs of edits**
-/

namespace BlockPlayer.Graph

/-- Every link names a block. -/
def Closed (g : Graph) : Prop :=
  ∀ b id, g.find? b.id = some b → b.next = some id → g.contains id = true

/-- The edit takes out a block that links to itself, and another block links to it as well. -/
def Strands (g : Graph) (e : Edit) : Prop :=
  ∃ b c, e = .remove b.id ∧ b.id ≠ g.start ∧ g.find? b.id = some b ∧ b.next = some b.id ∧
    g.find? c.id = some c ∧ c.id ≠ b.id ∧ c.next = some b.id

variable {g h : Graph} {after id source : BlockId} {b : Block} {e : Edit}

theorem closed_new (start : BlockId) : (new start).Closed := by
  intro b id hb hnext
  simp only [find?, new, Table.find?_insert, Table.find?_empty] at hb
  split at hb
  · cases hb; cases hnext
  · cases hb

/-! ## Each edit by itself -/

theorem closed_insertAfter (hg : g.Closed) (hok : g.insertAfter after b = .ok h) : h.Closed := by
  obtain ⟨hb, -, -, ht⟩ := insertAfter_eq_ok_iff.mp hok
  intro c id hc hnext
  rw [contains_insertAfter hok]
  rw [find?, ht, find?_splice] at hc
  split at hc
  · -- the new block has the link of the block that it is put behind
    cases hc
    obtain ⟨a, ha, hid⟩ := Option.bind_eq_some_iff.mp hnext
    obtain rfl := Table.find?_eq_some_id ha
    exact .inr (hg a id ha hid)
  · obtain ⟨x, hx, rfl⟩ := Option.map_eq_some_iff.mp hc
    simp only at hnext
    split at hnext
    · cases hnext
      exact .inl rfl
    · exact .inr (hg x id hx hnext)

theorem closed_link {target : Option BlockId} (hg : g.Closed)
    (hok : g.link source target = .ok h) : h.Closed := by
  obtain ⟨htarget, -, -, ht⟩ := link_eq_ok_iff.mp hok
  have hcontains : ∀ x, h.contains x = g.contains x := by
    intro x
    rw [contains, contains, Table.contains, Table.contains, ht, find?_redirect, Option.isSome_map]
  intro c id hc hnext
  rw [hcontains]
  rw [find?, ht, find?_redirect] at hc
  obtain ⟨x, hx, rfl⟩ := Option.map_eq_some_iff.mp hc
  simp only at hnext
  split at hnext
  · exact htarget id hnext
  · exact hg x id hx hnext

/--
Links to a block that was taken out are those that named a block that links to itself. The graph may
be any.
-/
theorem links_remove (hok : g.remove id = .ok (b, h)) :
    (∃ c, h.find? c.id = some c ∧ c.next = some id) ↔ g.Strands (.remove id) := by
  obtain ⟨hstart, hb, -, ht⟩ := remove_eq_ok_iff.mp hok
  obtain rfl := Table.find?_eq_some_id hb
  constructor
  · rintro ⟨c, hc, hnext⟩
    rw [find?, ht, find?_bypass] at hc
    split at hc
    · cases hc
    · next hne =>
      obtain ⟨x, hx, hxc⟩ := Option.map_eq_some_iff.mp hc
      obtain ⟨hid, hxnext⟩ : x.id = c.id ∧ skirt b x.next = c.next := by
        rw [← hxc]
        exact ⟨rfl, rfl⟩
      rw [hnext, skirt] at hxnext
      -- a link is led to the block only by the block itself
      split at hxnext
      · next hx' =>
        exact ⟨b, x, rfl, hstart, hb, hxnext, hid ▸ hx, hid ▸ hne, hx'⟩
      · next hx' => exact absurd hxnext hx'
  · rintro ⟨b', c, he, -, hb', hself, hc, hne, hnext⟩
    have hid : b.id = b'.id := Edit.remove.inj he
    rw [← hid, hb] at hb'
    cases hb'
    refine ⟨skirted b c, ?_, ?_⟩
    · show h.table.find? c.id = _
      rw [ht, find?_bypass_of_ne hne, show g.table.find? c.id = some c from hc, Option.map_some]
    · rw [skirted, hnext, skirt, if_pos rfl, hself]

theorem closed_remove_iff (hg : g.Closed) (hok : g.remove id = .ok (b, h)) :
    h.Closed ↔ ¬ g.Strands (.remove id) := by
  rw [← links_remove hok]
  have hcontains := contains_remove hok
  obtain ⟨-, hb, -, ht⟩ := remove_eq_ok_iff.mp hok
  obtain rfl := Table.find?_eq_some_id hb
  constructor
  · rintro hclosed ⟨c, hc, hnext⟩
    exact ((hcontains b.id).mp (hclosed c b.id hc hnext)).1 rfl
  · intro hnone c id hc hnext
    refine (hcontains id).mpr ⟨fun he => hnone ⟨c, hc, he ▸ hnext⟩, ?_⟩
    rw [find?, ht, find?_bypass] at hc
    split at hc
    · cases hc
    · obtain ⟨x, hx, rfl⟩ := Option.map_eq_some_iff.mp hc
      simp only at hnext
      split at hnext
      · exact hg b id hb hnext
      · exact hg x id hx hnext

/-! ## Any edit, and runs -/

theorem closed_edited (hg : g.Closed) (hok : ∀ h, g.apply e = .ok h → h.Closed) :
    (g.edited e).Closed := by
  unfold edited
  cases he : g.apply e with
  | ok h => exact hok h he
  | error _ => exact hg

/-- **Edits keep a graph closed, unless they leave a link to a block that linked to itself.** -/
theorem closed_edited_iff (hg : g.Closed) : (g.edited e).Closed ↔ ¬ g.Strands e := by
  have hother : (∀ id, e ≠ .remove id) → ¬ g.Strands e := by
    rintro he ⟨b, -, rfl, -⟩
    exact he b.id rfl
  cases e with
  | append b =>
    exact iff_of_true (closed_edited hg fun _ => closed_insertAfter hg) (hother fun _ => nofun)
  | insertAfter after b =>
    exact iff_of_true (closed_edited hg fun _ => closed_insertAfter hg) (hother fun _ => nofun)
  | link source target =>
    exact iff_of_true (closed_edited hg fun _ => closed_link hg) (hother fun _ => nofun)
  | clear => exact iff_of_true (closed_new g.start) (hother fun _ => nofun)
  | remove id =>
    rw [edited, apply]
    cases hok : g.remove id with
    | ok r => exact closed_remove_iff hg hok
    | error err =>
      refine iff_of_true hg ?_
      -- what is taken out amid such links is a block of the graph, and not the start block
      rintro ⟨b, c, he, hstart, hb, -⟩
      cases he
      obtain ⟨h, hremove⟩ := exists_remove hstart hb
      rw [hok] at hremove
      cases hremove

/--
**Runs of edits keep a graph closed as long as no link is left to a block that linked to itself**, and no
longer. Edits that cannot be done count as well. Whatever the links of a graph are, when a block has been
taken out, links to it are left in that one case only.
-/
theorem links_edits (hg : g.Closed) (es : List Edit) :
    ((∀ done, done <+: es → (g.editedAll done).Closed) ↔
      ∀ done e, done ++ [e] <+: es → ¬ (g.editedAll done).Strands e) ∧
    ∀ {f h : Graph} {id : BlockId} {b : Block}, f.remove id = .ok (b, h) →
      ((∃ c, h.find? c.id = some c ∧ c.next = some id) ↔ f.Strands (.remove id)) := by
  refine ⟨⟨fun hclosed done e hdone => ?_, fun hstrands done => ?_⟩, links_remove⟩
  · have hbefore := hclosed done ((List.prefix_append done [e]).trans hdone)
    have hafter := hclosed (done ++ [e]) hdone
    rw [editedAll_concat] at hafter
    exact (closed_edited_iff hbefore).mp hafter
  · -- from one edit to the next
    induction done using List.reverseRecOn with
    | nil => exact fun _ => hg
    | append_singleton done e ih =>
      intro hdone
      rw [editedAll_concat, closed_edited_iff (ih ((List.prefix_append done [e]).trans hdone))]
      exact hstrands done e hdone

/-- A loop of two blocks is taken out block by block; with the second, a link to it is left. -/
theorem links_edits_amid_loop :
    let es : List Edit := [.insertAfter "s" ⟨"b", .action .wait, none⟩,
      .insertAfter "s" ⟨"a", .action .wait, none⟩, .link "b" (some "a"), .remove "a", .remove "b"]
    (new "s").Closed ∧ ¬ ∀ done, done <+: es → ((new "s").editedAll done).Closed := by
  intro es
  refine ⟨closed_new "s", fun hclosed => ?_⟩
  have hnone := (links_edits (closed_new "s") es).1.mp hclosed
  refine hnone (es.take 4) (.remove "b") (List.prefix_refl es) ?_
  exact ⟨⟨"b", .action .wait, some "b"⟩, ⟨"s", .start, some "b"⟩, rfl, by decide, by decide, rfl,
    by decide, by decide, rfl⟩

/-- A block that links to itself is taken out of a chain: the link to it stays. -/
theorem remove_self_linked_strands :
    let g := (new "s").editedAll
      [.insertAfter "s" ⟨"a", .action .wait, none⟩, .link "a" (some "a"), .remove "a"]
    (new "s").Closed ∧ g.contains "a" = false ∧ g.find? "s" = some ⟨"s", .start, some "a"⟩ ∧
      ¬ g.Closed := by
  intro g
  have hfind : g.find? "s" = some ⟨"s", .start, some "a"⟩ := by decide
  have hnot : g.contains "a" = false := by decide
  refine ⟨closed_new "s", hnot, hfind, fun hclosed => ?_⟩
  have ha := hclosed ⟨"s", .start, some "a"⟩ "a" hfind rfl
  rw [hnot] at ha
  cases ha

end BlockPlayer.Graph
