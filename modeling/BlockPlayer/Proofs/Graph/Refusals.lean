import BlockPlayer.Proofs.Graph.Edits

/-!
# Edits that are refused

An edit is refused for one of three reasons, which are looked for in this order: the id of the block that
is to be put in is taken, the start block is to be removed, or a block is not there that the edit needs.
Nothing else keeps an edit from being made.

* `apply_eq_error_iff` — **why an edit is refused**
* `exists_apply_eq_ok_iff` — **an edit is made if there is no reason not to**
-/

namespace BlockPlayer.Graph

variable {g : Graph} {after id source : BlockId} {target : Option BlockId} {b : Block}
  {r : GraphError} {e : Edit}

/-! ## Reasons -/

/-- The blocks that have to be there for an edit, in the order in which they are looked for. -/
def Edit.needs : Edit → List BlockId
  | insertAfter after _ => [after]
  | remove id => [id]
  | link source target => target.toList ++ [source]
  | _ => []

/-- Why an edit is to be refused, if it is. -/
def refusal? (g : Graph) (e : Edit) : Option GraphError :=
  match e.block?.filter fun b => g.contains b.id with
  | some b => some (.duplicate b.id)
  | none =>
    if e = .remove g.start then some (.undeletable g.start)
    else (e.needs.find? fun id => !g.contains id).map .unknown

/-! ## Each edit by itself -/

theorem insertAfter_eq_error_iff : g.insertAfter after b = .error r ↔
    g.refusal? (.insertAfter after b) = some r := by
  rw [insertAfter]
  split
  · next hb => simp [refusal?, Edit.block?, Option.filter_some, hb]
  · next hb =>
    split
    · next ha => simp [refusal?, Edit.block?, Edit.needs, Option.filter_some, hb, ha]
    · next ha => simp [refusal?, Edit.block?, Edit.needs, Option.filter_some, hb, ha]

/-- A block is appended behind one that is there. -/
theorem append_eq_error_iff : g.append b = .error r ↔ g.refusal? (.append b) = some r := by
  rw [append, insertAfter]
  split
  · next hb => simp [refusal?, Edit.block?, Option.filter_some, hb]
  · next hb =>
    simp [refusal?, Edit.block?, Edit.needs, Option.filter_some, hb, g.contains_tail]

theorem remove_eq_error_iff : g.remove id = .error r ↔ g.refusal? (.remove id) = some r := by
  rw [remove]
  split
  · next hs => simp [refusal?, Edit.block?, hs]
  · next hs =>
    split
    · next hn =>
      have hc : g.contains id = false := by
        rw [contains, Table.contains, show g.table.find? id = none from hn]
        rfl
      simp [refusal?, Edit.block?, Edit.needs, hs, hc]
    · next c hfind =>
      have hc : g.contains id = true := contains_iff.mpr ⟨c, hfind⟩
      simp [refusal?, Edit.block?, Edit.needs, hs, hc]

theorem link_eq_error_iff : g.link source target = .error r ↔
    g.refusal? (.link source target) = some r := by
  rw [link]
  split
  · next x hx =>
    obtain ⟨rfl, hc⟩ : target = some x ∧ g.contains x = false := by
      simpa [Option.filter_eq_some_iff] using hx
    simp [refusal?, Edit.block?, Edit.needs, hc]
  · next hx =>
    have htarget : target.toList.find? (fun id => !g.contains id) = none := by
      cases target <;> simp_all [Option.filter_some]
    have hneeds : (target.toList ++ [source]).find? (fun id => !g.contains id)
        = if g.contains source then none else some source := by
      rw [List.find?_append, htarget]
      cases hs : g.contains source <;> simp [hs]
    split
    · next hs => simp [refusal?, Edit.block?, Edit.needs, hneeds, hs]
    · next hs => simp [refusal?, Edit.block?, Edit.needs, hneeds, hs]

/-! ## All edits -/

/-- **An edit is refused for the reason that there is.** -/
theorem apply_eq_error_iff : g.apply e = .error r ↔ g.refusal? e = some r := by
  cases e with
  | append b => exact append_eq_error_iff
  | insertAfter after b => exact insertAfter_eq_error_iff
  | remove id =>
    have hmap : (g.remove id).map Prod.snd = .error r ↔ g.remove id = .error r := by
      cases g.remove id <;> simp [Except.map]
    exact hmap.trans remove_eq_error_iff
  | link source target => exact link_eq_error_iff
  | clear => simp [apply, refusal?, Edit.block?, Edit.needs]

/-- **An edit is made if there is no reason not to.** -/
theorem exists_apply_eq_ok_iff : (∃ h, g.apply e = .ok h) ↔ g.refusal? e = none := by
  rw [Option.eq_none_iff_forall_ne_some]
  cases h : g.apply e with
  | ok g' =>
    refine iff_of_true ⟨g', rfl⟩ fun r hr => ?_
    rw [apply_eq_error_iff.mpr hr] at h
    cases h
  | error r => exact iff_of_false nofun fun hn => hn r (apply_eq_error_iff.mp h)

/-! ## Which reason there is -/

/-- The block that an edit puts in, if there is one, has an id that is free. -/
def Fresh (g : Graph) (e : Edit) : Prop := ∀ b, e.block? = some b → g.contains b.id = false

theorem refusal?_cases (g : Graph) (e : Edit) :
    (∃ b, e.block? = some b ∧ g.contains b.id = true ∧ g.refusal? e = some (.duplicate b.id)) ∨
    e = .remove g.start ∧ g.refusal? e = some (.undeletable g.start) ∨
    g.Fresh e ∧ e ≠ .remove g.start ∧
      g.refusal? e = (e.needs.find? fun id => !g.contains id).map .unknown := by
  unfold refusal?
  split
  · next b hb =>
    obtain ⟨hblock, hc⟩ := Option.filter_eq_some_iff.mp hb
    exact .inl ⟨b, hblock, hc, rfl⟩
  · next hnone =>
    refine .inr ?_
    split
    · next he => exact .inl ⟨he, rfl⟩
    · next he =>
      refine .inr ⟨fun b hb => ?_, he, rfl⟩
      have hfree := Option.filter_eq_none_iff.mp hnone b hb
      simpa using hfree

theorem refusal?_eq_duplicate_iff : g.refusal? e = some (.duplicate id) ↔
    ∃ b, e.block? = some b ∧ b.id = id ∧ g.contains id = true := by
  constructor
  · intro h
    rcases g.refusal?_cases e with ⟨b, hb, hc, hr⟩ | ⟨-, hr⟩ | ⟨-, -, hr⟩
    · cases hr.symm.trans h
      exact ⟨b, hb, rfl, hc⟩
    · cases hr.symm.trans h
    · rw [hr] at h
      simp at h
  · rintro ⟨b, hb, rfl, hc⟩
    rw [refusal?, hb, Option.filter_some, if_pos hc]

theorem refusal?_eq_undeletable_iff : g.refusal? e = some (.undeletable id) ↔
    e = .remove id ∧ id = g.start := by
  constructor
  · intro h
    rcases g.refusal?_cases e with ⟨b, -, -, hr⟩ | ⟨rfl, hr⟩ | ⟨-, -, hr⟩
    · cases hr.symm.trans h
    · cases hr.symm.trans h
      exact ⟨rfl, rfl⟩
    · rw [hr] at h
      simp at h
  · rintro ⟨rfl, rfl⟩
    exact if_pos rfl

theorem refusal?_of_fresh (hfresh : g.Fresh e) (hne : e ≠ .remove g.start) :
    g.refusal? e = (e.needs.find? fun id => !g.contains id).map .unknown := by
  rcases g.refusal?_cases e with ⟨b, hb, hc, -⟩ | ⟨he, -⟩ | ⟨-, -, hr⟩
  · rw [hfresh b hb] at hc
    cases hc
  · exact absurd he hne
  · exact hr

/-- The first block that an edit needs and that is not there is the one that is missed. -/
theorem refusal?_eq_unknown_iff : g.refusal? e = some (.unknown id) ↔
    g.Fresh e ∧ e ≠ .remove g.start ∧ (e.needs.find? fun x => !g.contains x) = some id := by
  constructor
  · intro h
    rcases g.refusal?_cases e with ⟨b, -, -, hr⟩ | ⟨-, hr⟩ | ⟨hfresh, hne, hr⟩
    · cases hr.symm.trans h
    · cases hr.symm.trans h
    · obtain ⟨x, hx, he⟩ := Option.map_eq_some_iff.mp (hr.symm.trans h)
      cases he
      exact ⟨hfresh, hne, hx⟩
  · rintro ⟨hfresh, hne, hx⟩
    rw [refusal?_of_fresh hfresh hne, hx]
    rfl

theorem refusal?_eq_none_iff : g.refusal? e = none ↔
    g.Fresh e ∧ e ≠ .remove g.start ∧ ∀ id ∈ e.needs, g.contains id = true := by
  have hneeds : (e.needs.find? fun id => !g.contains id) = none ↔
      ∀ id ∈ e.needs, g.contains id = true := by
    simp [List.find?_eq_none]
  rw [← hneeds]
  constructor
  · intro h
    rcases g.refusal?_cases e with ⟨b, -, -, hr⟩ | ⟨-, hr⟩ | ⟨hfresh, hne, hr⟩
    · cases hr.symm.trans h
    · cases hr.symm.trans h
    · exact ⟨hfresh, hne, Option.map_eq_none_iff.mp (hr.symm.trans h)⟩
  · rintro ⟨hfresh, hne, hx⟩
    rw [refusal?_of_fresh hfresh hne, hx]
    rfl

end BlockPlayer.Graph
