import BlockPlayer.Json.Reader

/-!
# What reading keeps

A record that is read begins as a blank one and is changed field by field, whether it is written as an
object or as an array. So what holds of the blank record, and is kept by every field, holds of the record
that was read (`Record.read_keeps`). What holds of everything that a reader gives holds of every item of
a list (`forall_of_readList`).

What a computation gives, however it may fail, is compared as an optional value (`toOption_bind`,
`toOption_read`).
-/

namespace BlockPlayer.Json

/-! ## What computations give -/

/-- What a computation in two steps gives comes from what its first step gives. -/
theorem bind_eq_ok {ε α β : Type} {x : Except ε α} {f : α → Except ε β} {b : β}
    (h : (x >>= f) = .ok b) : ∃ a, x = .ok a ∧ f a = .ok b := by
  cases x with
  | error e => cases h
  | ok a => exact ⟨a, rfl, h⟩

theorem mapError_ok {ε ε' α : Type} (a : α) (f : ε → ε') :
    (Except.ok a : Except ε α).mapError f = .ok a :=
  rfl

theorem mapError_eq_ok {ε ε' α : Type} {x : Except ε α} {f : ε → ε'} {a : α}
    (h : x.mapError f = .ok a) : x = .ok a := by
  cases x with
  | error e => cases h
  | ok b => cases h; rfl

theorem mapError_eq_ok_iff {ε ε' α : Type} {x : Except ε α} {f : ε → ε'} {a : α} :
    x.mapError f = .ok a ↔ x = .ok a := by
  refine ⟨mapError_eq_ok, ?_⟩
  rintro rfl
  exact mapError_ok a f

section Except

variable {ε ε' α β : Type}

theorem toOption_ok (a : α) : (Except.ok a : Except ε α).toOption = some a := rfl

theorem toOption_error (e : ε) : (Except.error e : Except ε α).toOption = none := rfl

theorem toOption_bind (x : Except ε α) (f : α → Except ε β) :
    (x >>= f).toOption = x.toOption.bind fun a => (f a).toOption := by
  cases x <;> rfl

theorem toOption_map (x : Except ε α) (f : α → β) : (x.map f).toOption = x.toOption.map f := by
  cases x <;> rfl

theorem toOption_mapError (x : Except ε α) (f : ε → ε') : (x.mapError f).toOption = x.toOption := by
  cases x <;> rfl

theorem toOption_eq_some_iff {x : Except ε α} {a : α} : x.toOption = some a ↔ x = .ok a := by
  cases x <;> simp [Except.toOption]

end Except

/-! ## Texts and lists -/

/-- Nothing is read from a text with something behind its value. -/
theorem toOption_read {α : Type} (reader : Draft → Except Error α) (text : String) :
    (read reader text).toOption
      = if (draft text.toList).2 then none else (reader (draft text.toList).1).toOption := by
  rw [read]
  rcases draft text.toList with ⟨d, more⟩
  simp only
  cases reader d <;> cases more <;> rfl

/-- What is read from a text is read from what the text is read into. -/
theorem exists_of_read {α : Type} {reader : Draft → Except Error α} {text : String} {a : α}
    (h : read reader text = .ok a) : ∃ d, reader d = .ok a := by
  refine ⟨(draft text.toList).1, ?_⟩
  rw [read] at h
  cases hr : reader (draft text.toList).1 with
  | error e => simp [hr] at h
  | ok b =>
    simp only [hr] at h
    split at h
    · cases h
    · exact h

theorem forall_of_readList {α : Type} {read : Draft → Except Error α} {P : α → Prop}
    (hread : ∀ d a, read d = .ok a → P a) {d : Draft} {values : List α}
    (h : readList read d = .ok values) : ∀ a ∈ values, P a := by
  have hitems : ∀ {items : List Draft} {values : List α}, items.mapM read = .ok values →
      ∀ a ∈ values, P a := by
    intro items
    induction items with
    | nil =>
      intro values h
      cases h
      exact fun _ ha => absurd ha List.not_mem_nil
    | cons d rest ih =>
      intro values h
      rw [List.mapM_cons] at h
      obtain ⟨a, ha, h⟩ := bind_eq_ok h
      obtain ⟨as, has, h⟩ := bind_eq_ok h
      cases h
      intro x hx
      rcases List.mem_cons.mp hx with rfl | hx
      · exact hread d x ha
      · exact ih has x hx
  unfold readList at h
  split at h
  · obtain ⟨as, has, h⟩ := bind_eq_ok h
    obtain ⟨-, -, h⟩ := bind_eq_ok h
    cases h
    exact hitems has
  · cases h

/-! ## Records -/

namespace Record

variable {σ : Type} {P : σ → Prop}

/-- Every field keeps a property of the record that it is put into. -/
def FieldsKeep (P : σ → Prop) (fields : List (Field σ)) : Prop :=
  ∀ f ∈ fields, ∀ d s s', f.read d s = .ok s' → P s → P s'

theorem readMembers_keeps {fields : List (Field σ)} (hf : FieldsKeep P fields)
    {members : List (Name × Draft)} : ∀ {seen : List String} {s : σ} {r : List String × σ},
      readMembers fields seen s members = .ok r → P s → P r.2 := by
  induction members with
  | nil =>
    intro seen s r h hs
    cases h
    exact hs
  | cons m rest ih =>
    intro seen s r h hs
    rw [readMembers] at h
    obtain ⟨name, -, h⟩ := bind_eq_ok h
    split at h
    · obtain ⟨-, -, h⟩ := bind_eq_ok h
      exact ih h hs
    · next f hfind =>
      split at h
      · cases h
      · obtain ⟨s', hs', h⟩ := bind_eq_ok h
        exact ih h (hf f (List.mem_of_find?_eq_some hfind) _ _ _ hs' hs)

theorem readItems_keeps {rec : Record σ} {o : Origin} {items : List Draft} {tail : Tail}
    {fields : List (Field σ)} (hf : FieldsKeep P fields) :
    ∀ {n : Nat} {s r : σ} {rest : List Draft},
      readItems rec o items tail fields n s rest = .ok r → P s → P r := by
  induction fields with
  | nil =>
    intro n s r rest h hs
    cases rest with
    | nil =>
      rw [readItems] at h
      obtain ⟨-, -, h⟩ := bind_eq_ok h
      cases h
      exact hs
    | cons d rest => cases h
  | cons f fields ih =>
    have hfields : FieldsKeep P fields := fun g hg => hf g (List.mem_cons_of_mem _ hg)
    intro n s r rest h hs
    cases rest with
    | nil =>
      rw [readItems] at h
      obtain ⟨-, -, h⟩ := bind_eq_ok h
      split at h
      · cases h
      · exact ih hfields h hs
    | cons d rest =>
      rw [readItems] at h
      obtain ⟨s', hs', h⟩ := bind_eq_ok h
      exact ih hfields h (hf f List.mem_cons_self _ _ _ hs' hs)

/-- **What holds of the blank record and is kept by every field holds of what is read.** -/
theorem read_keeps {rec : Record σ} {o : Origin} {blank r : σ} {d : Draft}
    (hf : FieldsKeep P rec.fields) (h : rec.read o blank d = .ok r) (hblank : P blank) : P r := by
  unfold read at h
  split at h
  · obtain ⟨⟨seen, s⟩, hs, h⟩ := bind_eq_ok h
    obtain ⟨-, -, h⟩ := bind_eq_ok h
    split at h
    · cases h
    · cases h
      exact readMembers_keeps hf hs hblank
  · exact readItems_keeps hf h hblank
  · cases h

end Record

end BlockPlayer.Json
