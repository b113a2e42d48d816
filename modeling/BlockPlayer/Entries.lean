/-!
# Lists of entries

A list of names with what stands under them, in the order in which the names were first met.

Main statements: what was put under a name is found under it (`lookup_put`), and what is found under other
names does not change (`lookup_put_of_ne`).
-/

namespace BlockPlayer.Entries

/-- Puts something in place of what has its name, or behind all others. -/
def put {α : Type} (name : String) (a : α) : List (String × α) → List (String × α)
  | [] => [(name, a)]
  | (n, b) :: rest => if name = n then (n, a) :: rest else (n, b) :: put name a rest

theorem lookup_put {α : Type} (name : String) (a : α) (l : List (String × α)) :
    (put name a l).lookup name = some a := by
  induction l with
  | nil => simp [put]
  | cons m rest ih =>
    obtain ⟨n, b⟩ := m
    by_cases h : name = n
    · simp [put, h]
    · simpa [put, h, List.lookup_cons, beq_eq_false_iff_ne.mpr h] using ih

theorem lookup_put_of_ne {α : Type} {name other : String} (a : α) (l : List (String × α))
    (h : other ≠ name) : (put name a l).lookup other = l.lookup other := by
  have hb : (other == name) = false := beq_eq_false_iff_ne.mpr h
  induction l with
  | nil => simp [put, h]
  | cons m rest ih =>
    obtain ⟨n, b⟩ := m
    by_cases hn : name = n
    · subst hn
      simp [put, List.lookup_cons, hb]
    · simp [put, hn, List.lookup_cons, ih]

theorem lookup_eq_none_of_notMem {α : Type} {name : String} {l : List (String × α)}
    (h : name ∉ l.map Prod.fst) : l.lookup name = none := by
  rw [List.lookup_eq_none_iff]
  intro m hm
  rw [bne_iff_ne]
  rintro rfl
  exact h (List.mem_map_of_mem hm)

/-! ## The last entry -/

section

variable {α : Type} {name : String} {l : List (String × α)} (h : name ∉ l.map Prod.fst)
include h

theorem lookup_append_of_notMem (a : α) : (l ++ [(name, a)]).lookup name = some a := by
  rw [List.lookup_append, lookup_eq_none_of_notMem h]
  simp

theorem put_append_of_notMem (a b : α) : put name b (l ++ [(name, a)]) = l ++ [(name, b)] := by
  induction l with
  | nil => simp [put]
  | cons m l ih =>
    rw [List.map_cons, List.mem_cons, not_or] at h
    rw [List.cons_append, put, if_neg h.1, ih h.2]
    rfl

end

end BlockPlayer.Entries
