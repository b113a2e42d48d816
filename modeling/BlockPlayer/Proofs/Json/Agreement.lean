import Mathlib.Data.List.Forall2
import Mathlib.Data.List.Nodup
import Mathlib.Data.List.Pairwise
import BlockPlayer.Proofs.Json.Record

/-!
# Reading a text and reading its value

A text can be read in one pass, from its draft, or in two, by taking the draft for a value first and reading
that. In between the members of objects are put in the order of their names, and of members with one name
only the last is kept. So the two ways come to the same if no object repeats a name (`Says`) and the reader
does not mind the order of members. They may fail for different reasons; what is compared is what they give
if they do not fail (`Except.toOption`).

* `Says.form` — a draft and its value have the same form
* `Agree` — two readers, one for drafts and one for values, give the same
* `Agree.text`, `Agree.map`, `Agree.optional`, `Agree.list`, `Agree.record` — **one lemma for each way to
  make a reader**
* `Record.toOption_read_object` — a record is what its members put into it, and all that is required is
  there
-/

namespace BlockPlayer.Json

/-! ## Drafts without repeated names -/

mutual

/-- No object in a draft repeats a name. -/
def Draft.NoRepeats : Draft → Prop
  | .array items _ => NoRepeatsItems items
  | .object members _ => (members.map Prod.fst).Nodup ∧ NoRepeatsMembers members
  | .null | .bool _ | .number _ | .text _ | .broken _ => True
termination_by structural d => d

def NoRepeatsItems : List Draft → Prop
  | [] => True
  | d :: rest => d.NoRepeats ∧ NoRepeatsItems rest
termination_by structural ds => ds

def NoRepeatsMembers : List (Name × Draft) → Prop
  | [] => True
  | (_, d) :: rest => d.NoRepeats ∧ NoRepeatsMembers rest
termination_by structural ms => ms

end

/-- A draft is taken for a value, and nothing in it is lost but the order of members. -/
def Says (d : Draft) (j : Json) : Prop := d.NoRepeats ∧ ∃ depth, d.tree depth = .ok j

/-- A member with its draft and the same member with its value. -/
def MemberSays (m : String × Draft) (v : String × Json) : Prop := m.1 = v.1 ∧ Says m.2 v.2

/-- A member without faults in its name. -/
def named (m : String × Draft) : Name × Draft := (.ok m.1, m.2)

theorem itemsSay_of_treeItems {depth : Nat} {items : List Draft} (hitems : NoRepeatsItems items)
    {js : List Json} (h : treeItems depth items = .ok js) : List.Forall₂ Says items js := by
  induction items generalizing js with
  | nil =>
    cases h
    exact .nil
  | cons d rest ih =>
    rw [treeItems] at h
    obtain ⟨j, hj, h⟩ := bind_eq_ok h
    obtain ⟨js, hjs, h⟩ := bind_eq_ok h
    cases h
    exact .cons ⟨hitems.1, depth, hj⟩ (ih hitems.2 hjs)

/-- A member with a new name is put between the others. -/
theorem insertMember_perm {name : String} {j : Json} {before : List (String × Json)}
    (h : name ∉ before.map Prod.fst) : (insertMember name j before).Perm ((name, j) :: before) := by
  induction before with
  | nil => exact .refl _
  | cons m rest ih =>
    obtain ⟨hne, hrest⟩ := not_or.mp (fun h' => h (List.mem_cons.mpr h'))
    rw [insertMember]
    split
    · exact .refl _
    · exact ((ih hrest).cons _).trans (.swap _ _ _)

/-- The members of an object that repeats no name are the same in its value, but for their order. -/
theorem membersSay_of_treeMembers {depth : Nat} {members : List (Name × Draft)}
    (hmembers : NoRepeatsMembers members) (hnodup : (members.map Prod.fst).Nodup)
    {before values : List (String × Json)}
    (hbefore : ∀ name ∈ before.map Prod.fst, .ok name ∉ members.map Prod.fst)
    (h : treeMembers depth before members = .ok values) :
    ∃ (ms : List (String × Draft)) (vs : List (String × Json)), members = ms.map named
      ∧ List.Forall₂ MemberSays ms vs ∧ (before ++ vs).Perm values := by
  induction members generalizing before with
  | nil =>
    cases h
    exact ⟨[], [], rfl, .nil, by rw [List.append_nil]⟩
  | cons m rest ih =>
    obtain ⟨n, d⟩ := m
    rw [treeMembers] at h
    obtain ⟨name, hn, hvalue⟩ := bind_eq_ok h
    obtain ⟨j, hj, htree⟩ := bind_eq_ok hvalue
    subst hn
    obtain ⟨hnew, hnodup⟩ := List.nodup_cons.mp hnodup
    have hname : name ∉ before.map Prod.fst := fun hmem => hbefore name hmem List.mem_cons_self
    have hperm := insertMember_perm (j := j) hname
    have hbefore' : ∀ k ∈ (insertMember name j before).map Prod.fst, .ok k ∉ rest.map Prod.fst := by
      intro k hk
      rcases List.mem_cons.mp ((hperm.map Prod.fst).mem_iff.mp hk) with rfl | hk
      · exact hnew
      · exact fun hrest => hbefore k hk (List.mem_cons_of_mem _ hrest)
    obtain ⟨ms, vs, rfl, hsays, hvalues⟩ := ih hmembers.2 hnodup hbefore' htree
    exact ⟨(name, d) :: ms, (name, j) :: vs, rfl, .cons ⟨rfl, hmembers.1, depth, hj⟩ hsays,
      (List.perm_middle.trans (hperm.symm.append_right vs)).trans hvalues⟩

/-- The forms in which a draft says a value. -/
inductive Says.Form : Draft → Json → Prop
  | null : Form .null .null
  | bool (b : Bool) : Form (.bool b) (.bool b)
  | number (n : JsonNumber) : Form (.number (some n)) (.number n)
  | text (s : String) : Form (.text (.ok s)) (.text s)
  | array {items : List Draft} {js : List Json} (h : List.Forall₂ Says items js) :
    Form (.array items .closed) (.array js)
  /-- The members of the value are those of the draft in some order. -/
  | object {ms : List (String × Draft)} {vs values : List (String × Json)}
    (hnodup : (ms.map Prod.fst).Nodup) (h : List.Forall₂ MemberSays ms vs) (hperm : vs.Perm values) :
    Form (.object (ms.map named) .closed) (.object values)

theorem Tail.eq_closed_of_check {t : Tail} {u : Unit} (h : t.check = .ok u) : t = .closed := by
  cases t with
  | closed => rfl
  | broken afterComma b => cases h

theorem Says.form {d : Draft} {j : Json} (h : Says d j) : Says.Form d j := by
  obtain ⟨hnames, depth, h⟩ := h
  cases d with
  | null =>
    cases h
    exact .null
  | bool b =>
    cases h
    exact .bool b
  | number n =>
    cases n with
    | none => cases h
    | some n =>
      cases h
      exact .number n
  | text s =>
    cases s with
    | error f => cases h
    | ok s =>
      cases h
      exact .text s
  | array items tail =>
    rw [Draft.tree] at h
    split at h
    · cases h
    · obtain ⟨js, hjs, h⟩ := bind_eq_ok h
      obtain ⟨u, hu, h⟩ := bind_eq_ok h
      cases h
      obtain rfl := Tail.eq_closed_of_check hu
      exact .array (itemsSay_of_treeItems hnames hjs)
  | object members tail =>
    rw [Draft.tree] at h
    split at h
    · cases h
    · obtain ⟨values, hvalues, h⟩ := bind_eq_ok h
      obtain ⟨u, hu, h⟩ := bind_eq_ok h
      cases h
      obtain rfl := Tail.eq_closed_of_check hu
      obtain ⟨ms, vs, rfl, hsays, hperm⟩ := membersSay_of_treeMembers hnames.2 hnames.1
        (fun _ hk => absurd hk List.not_mem_nil) hvalues
      refine .object ?_ hsays hperm
      have hnodup := hnames.1
      rw [List.map_map] at hnodup
      refine List.Nodup.of_map (Except.ok : String → Name) ?_
      rw [List.map_map]
      exact hnodup
  | broken b => cases h

/-! ## Skipping -/

mutual

/-- A draft that is taken for a value can be skipped. -/
theorem skip_of_tree : ∀ {d : Draft} {depth : Nat} {j : Json}, d.tree depth = .ok j → d.skip = .ok ()
  | .null, _, _, _ | .bool _, _, _, _ | .number _, _, _, _ | .text _, _, _, _ => rfl
  | .array items tail, depth, j, h => by
    rw [Draft.tree] at h
    split at h
    · cases h
    · obtain ⟨js, hjs, h⟩ := bind_eq_ok h
      obtain ⟨u, hu, -⟩ := bind_eq_ok h
      obtain rfl := Tail.eq_closed_of_check hu
      rw [Draft.skip, skipItems_of_treeItems hjs]
      rfl
  | .object members tail, depth, j, h => by
    rw [Draft.tree] at h
    split at h
    · cases h
    · obtain ⟨values, hvalues, h⟩ := bind_eq_ok h
      obtain ⟨u, hu, -⟩ := bind_eq_ok h
      obtain rfl := Tail.eq_closed_of_check hu
      rw [Draft.skip, skipMembers_of_treeMembers hvalues]
      rfl
  | .broken b, _, _, h => by cases h

theorem skipItems_of_treeItems : ∀ {items : List Draft} {depth : Nat} {js : List Json},
    treeItems depth items = .ok js → skipItems items = .ok ()
  | [], _, _, _ => rfl
  | d :: rest, depth, js, h => by
    rw [treeItems] at h
    obtain ⟨j, hj, h⟩ := bind_eq_ok h
    obtain ⟨js, hjs, -⟩ := bind_eq_ok h
    rw [skipItems, skip_of_tree hj]
    exact skipItems_of_treeItems hjs

theorem skipMembers_of_treeMembers : ∀ {members : List (Name × Draft)} {depth : Nat}
    {before values : List (String × Json)},
    treeMembers depth before members = .ok values → skipMembers members = .ok ()
  | [], _, _, _, _ => rfl
  | (n, d) :: rest, depth, before, values, h => by
    rw [treeMembers] at h
    obtain ⟨name, -, h⟩ := bind_eq_ok h
    obtain ⟨j, hj, h⟩ := bind_eq_ok h
    rw [skipMembers, skip_of_tree hj]
    exact skipMembers_of_treeMembers h

end

mutual

theorem skip_toDraft : ∀ j : Json, (toDraft j).skip = .ok ()
  | .null | .bool _ | .number _ | .text _ => rfl
  | .array items => by
    rw [toDraft, Draft.skip, skipItems_itemsToDraft items]
    rfl
  | .object members => by
    rw [toDraft, Draft.skip, skipMembers_membersToDraft members]
    rfl

theorem skipItems_itemsToDraft : ∀ items : List Json, skipItems (itemsToDraft items) = .ok ()
  | [] => rfl
  | j :: rest => by
    rw [itemsToDraft, skipItems, skip_toDraft j]
    exact skipItems_itemsToDraft rest

theorem skipMembers_membersToDraft : ∀ members : List (String × Json),
    skipMembers (membersToDraft members) = .ok ()
  | [] => rfl
  | (_, j) :: rest => by
    rw [membersToDraft, skipMembers, skip_toDraft j]
    exact skipMembers_membersToDraft rest

end

/-! ## Readers -/

/-- What the first reader gives for a draft is what the second gives for the value. -/
def Agree {α : Type} (read read' : Draft → Except Error α) : Prop :=
  ∀ {d : Draft} {j : Json}, Says d j → (read d).toOption = (read' (toDraft j)).toOption

namespace Agree

variable {α β : Type} {read read' : Draft → Except Error α}

theorem text : Agree readText readText := by
  intro d j h
  cases h.form <;> rfl

theorem map (f : α → β) (h : Agree read read') :
    Agree (fun d => (read d).map f) (fun d => (read' d).map f) := by
  intro d j hd
  rw [toOption_map, toOption_map, h hd]

theorem optional (h : Agree read read') : Agree (readOptional read) (readOptional read') := by
  intro d j hd
  have hvalue := h.map some hd
  cases hd.form with
  | null => rfl
  | bool | number | text | array | object => exact hvalue

theorem mapM_items (h : Agree read read') {items : List Draft} {js : List Json}
    (hitems : List.Forall₂ Says items js) :
    (items.mapM read).toOption = ((itemsToDraft js).mapM read').toOption := by
  induction hitems with
  | nil => rfl
  | cons hd _ ih =>
    simp only [itemsToDraft, List.mapM_cons, toOption_bind, h hd, ih]

theorem list (h : Agree read read') : Agree (readList read) (readList read') := by
  intro d j hd
  cases hd.form with
  | array hitems =>
    rw [toDraft, readList, readList, toOption_bind, toOption_bind, h.mapM_items hitems]
  | null | bool | number | text | object => rfl

end Agree

/-! ## Records -/

namespace Record

variable {σ : Type}

/-- Two fields of one name, one for drafts and one for values. -/
structure FieldsAgree (f f' : Field σ) : Prop where
  name : f.name = f'.name
  required : f.required = f'.required
  read : ∀ s, Agree (f.read · s) (f'.read · s)

/-- Of two fields either may be read first. -/
def Commutes (f g : Field σ) : Prop :=
  ∀ d e s, ((f.read d s).toOption.bind fun s => (g.read e s).toOption)
    = (g.read e s).toOption.bind fun s => (f.read d s).toOption

instance : Std.Symm (@Commutes σ) := ⟨fun _ _ h d e s => (h e d s).symm⟩

/-- Fields that put their values into different places of a record commute. -/
theorem commutes_of_puts {f g : Field σ} {α β : Type} {value : Draft → Except Error α}
    {value' : Draft → Except Error β} {put : σ → α → σ} {put' : σ → β → σ}
    (hf : f.read = fun d s => do .ok (put s (← value d)))
    (hg : g.read = fun d s => do .ok (put' s (← value' d)))
    (hput : ∀ s a b, put' (put s a) b = put (put' s b) a) : Commutes f g := by
  intro d e s
  simp only [hf, hg, toOption_bind]
  cases value d with
  | error _ => cases value' e <;> rfl
  | ok a =>
    cases value' e with
    | error _ => rfl
    | ok b => exact congrArg some (hput s a b)

/-- The fields may be read in any order. -/
def Unordered (fields : List (Field σ)) : Prop := fields.Pairwise Commutes

theorem Unordered.commutes {fields : List (Field σ)} (h : Unordered fields) {f g : Field σ}
    (hf : f ∈ fields) (hg : g ∈ fields) (hne : f.name ≠ g.name) : Commutes f g :=
  List.Pairwise.forall h hf hg fun heq => hne (congrArg Field.name heq)

/-- The field with a given name. -/
def field? (fields : List (Field σ)) (name : String) : Option (Field σ) :=
  fields.find? fun f => f.name == name

/-- What a member puts into a record. -/
def put (fields : List (Field σ)) (r : Option σ) (m : String × Draft) : Option σ :=
  match field? fields m.1 with
  | none => r
  | some f => r.bind fun s => (f.read m.2 s).toOption

/-- Everything that is required is among some names. -/
def Complete (fields : List (Field σ)) (names : List String) : Prop :=
  ∀ f ∈ fields, f.required = true → f.name ∈ names

instance (fields : List (Field σ)) (names : List String) : Decidable (Complete fields names) :=
  inferInstanceAs (Decidable (∀ f ∈ fields, f.required = true → f.name ∈ names))

variable {fields fields' : List (Field σ)}

theorem foldl_put_none (ms : List (String × Draft)) : ms.foldl (put fields) none = none := by
  induction ms with
  | nil => rfl
  | cons m rest ih =>
    have hput : put fields none m = none := by
      rw [put]
      split <;> rfl
    rw [List.foldl_cons, hput, ih]

/-- The names of fields that were met, last first. -/
def met (fields : List (Field σ)) (ms : List (String × Draft)) : List String :=
  ((ms.map Prod.fst).filter fun name => (field? fields name).isSome).reverse

/-- **Members with different names are put into the record one after another.** -/
theorem toOption_readMembers {ms : List (String × Draft)} (hskip : ∀ m ∈ ms, m.2.skip = .ok ())
    (hnodup : (ms.map Prod.fst).Nodup) :
    ∀ {seen : List String} {s : σ}, (∀ name ∈ ms.map Prod.fst, name ∉ seen) →
      (readMembers fields seen s (ms.map named)).toOption
        = (ms.foldl (put fields) (some s)).map fun r => (met fields ms ++ seen, r) := by
  induction ms with
  | nil => exact fun _ => rfl
  | cons m rest ih =>
    intro seen s hseen
    obtain ⟨name, d⟩ := m
    obtain ⟨hnew, hnodup⟩ := List.nodup_cons.mp hnodup
    have hrest := fun m hm => hskip m (List.mem_cons_of_mem _ hm)
    have hseen' := fun k hk => hseen k (List.mem_cons_of_mem _ hk)
    rw [List.map_cons, named, readMembers, List.foldl_cons, put]
    simp only [Json.mapError_ok, bind, Except.bind]
    rw [← field?]
    cases hf : field? fields name with
    | none =>
      have hmet : met fields ((name, d) :: rest) = met fields rest := by simp [met, hf]
      simp only [hskip (name, d) List.mem_cons_self]
      rw [ih hrest hnodup hseen', hmet]
    | some f =>
      have hmet : met fields ((name, d) :: rest) ++ seen = met fields rest ++ name :: seen := by
        simp [met, hf]
      simp only [if_neg (hseen name List.mem_cons_self), Option.bind_some]
      cases hr : f.read d s with
      | error e =>
        simp only [toOption_error, foldl_put_none, Option.map_none]
      | ok s =>
        simp only [toOption_ok]
        rw [ih hrest hnodup, hmet]
        rintro k hk (_ | ⟨_, hk'⟩)
        · exact hnew hk
        · exact hseen' k hk hk'

theorem mem_met_iff {ms : List (String × Draft)} {f : Field σ} (hf : f ∈ fields) :
    f.name ∈ met fields ms ↔ f.name ∈ ms.map Prod.fst := by
  have hfield : (field? fields f.name).isSome = true := by
    rw [field?, List.find?_isSome]
    exact ⟨f, hf, beq_self_eq_true _⟩
  rw [met, List.mem_reverse, List.mem_filter]
  exact and_iff_left hfield

/-- **A record is what its members put into it, if all that is required is there.** -/
theorem toOption_read_object (rec : Record σ) (o : Origin) (blank : σ) {ms : List (String × Draft)}
    (hskip : ∀ m ∈ ms, m.2.skip = .ok ()) (hnodup : (ms.map Prod.fst).Nodup) :
    (rec.read o blank (.object (ms.map named) .closed)).toOption
      = if Complete rec.fields (ms.map Prod.fst) then ms.foldl (put rec.fields) (some blank)
        else none := by
  have hmissing : (rec.fields.find? fun f => f.required && !(met rec.fields ms ++ []).contains f.name)
      = none ↔ Complete rec.fields (ms.map Prod.fst) := by
    rw [List.find?_eq_none]
    refine forall₂_congr fun f hf => ?_
    simp [mem_met_iff hf]
  rw [read, toOption_bind, toOption_readMembers hskip hnodup (fun _ _ => List.not_mem_nil)]
  cases ms.foldl (put rec.fields) (some blank) with
  | none => simp
  | some r =>
    simp only [Option.map_some, Option.bind_some]
    split_ifs with hcomplete
    · rw [hmissing.mpr hcomplete]
      rfl
    · cases hfind : rec.fields.find? fun f => f.required && !(met rec.fields ms ++ []).contains f.name with
      | none => exact absurd (hmissing.mp hfind) hcomplete
      | some f => rfl

/-! ### The order of members -/

/-- Of two members with different names either may be put in first. -/
theorem put_comm (h : Unordered fields) {m n : String × Draft} (hne : m.1 ≠ n.1) (r : Option σ) :
    put fields (put fields r m) n = put fields (put fields r n) m := by
  simp only [put]
  cases hf : field? fields m.1 with
  | none => cases field? fields n.1 <;> rfl
  | some f =>
    cases hg : field? fields n.1 with
    | none => rfl
    | some g =>
      have hfname := List.find?_some hf
      have hgname := List.find?_some hg
      have hnames : f.name ≠ g.name := by
        rwa [eq_of_beq hfname, eq_of_beq hgname]
      cases r with
      | none => rfl
      | some s =>
        exact h.commutes (List.mem_of_find?_eq_some hf) (List.mem_of_find?_eq_some hg) hnames m.2 n.2 s

theorem foldl_put_perm (h : Unordered fields) {ms ms' : List (String × Draft)}
    (hnodup : (ms.map Prod.fst).Nodup) (hperm : ms.Perm ms') (r : Option σ) :
    ms.foldl (put fields) r = ms'.foldl (put fields) r := by
  refine hperm.foldl_eq' (fun m hm n hn r => ?_) r
  by_cases hne : m.1 = n.1
  · rw [List.inj_on_of_nodup_map hnodup hm hn hne]
  · exact put_comm h hne r

/-! ### Records of drafts and of values -/

/-- A member of a value as a member of a draft. -/
def drafted (v : String × Json) : String × Draft := (v.1, toDraft v.2)

theorem membersToDraft_eq (vs : List (String × Json)) :
    membersToDraft vs = (vs.map drafted).map named := by
  induction vs with
  | nil => rfl
  | cons v rest ih => rw [membersToDraft, ih]; rfl

theorem map_fst_drafted (vs : List (String × Json)) :
    (vs.map drafted).map Prod.fst = vs.map Prod.fst := by
  rw [List.map_map]
  rfl

theorem map_fst_of_memberSays {ms : List (String × Draft)} {vs : List (String × Json)}
    (h : List.Forall₂ MemberSays ms vs) : ms.map Prod.fst = vs.map Prod.fst := by
  induction h with
  | nil => rfl
  | cons hm _ ih => rw [List.map_cons, List.map_cons, hm.1, ih]

theorem skip_of_memberSays {ms : List (String × Draft)} {vs : List (String × Json)}
    (h : List.Forall₂ MemberSays ms vs) : ∀ m ∈ ms, m.2.skip = .ok () := by
  induction h with
  | nil => exact fun _ hm => absurd hm List.not_mem_nil
  | cons hm _ ih =>
    obtain ⟨-, -, depth, htree⟩ := hm
    exact List.forall_mem_cons.mpr ⟨skip_of_tree htree, ih⟩

theorem field?_agree (hf : List.Forall₂ FieldsAgree fields fields') (name : String) :
    Option.Rel FieldsAgree (field? fields name) (field? fields' name) := by
  induction hf with
  | nil => exact .none
  | cons hfield _ ih =>
    rw [field?, field?, List.find?_cons, List.find?_cons, hfield.name]
    split
    · exact .some hfield
    · exact ih

theorem foldl_put_agree (hf : List.Forall₂ FieldsAgree fields fields') {ms : List (String × Draft)}
    {vs : List (String × Json)} (h : List.Forall₂ MemberSays ms vs) (r : Option σ) :
    ms.foldl (put fields) r = (vs.map drafted).foldl (put fields') r := by
  induction h generalizing r with
  | nil => rfl
  | @cons m v _ _ hm _ ih =>
    obtain ⟨hname, hd⟩ := hm
    have hput : put fields r m = put fields' r (drafted v) := by
      have hfield := field?_agree hf v.1
      rw [put, put, drafted, hname]
      simp only
      generalize field? fields v.1 = x, field? fields' v.1 = x' at hfield
      cases hfield with
      | none => rfl
      | some hfield => exact congrArg r.bind (funext fun s => hfield.read s hd)
    rw [List.foldl_cons, List.map_cons, List.foldl_cons, hput, ih]

theorem complete_agree (hf : List.Forall₂ FieldsAgree fields fields') {names names' : List String}
    (hnames : ∀ name, name ∈ names ↔ name ∈ names') :
    Complete fields names ↔ Complete fields' names' := by
  simp only [Complete]
  induction hf with
  | nil => exact iff_of_true (fun _ h => absurd h List.not_mem_nil) (fun _ h => absurd h List.not_mem_nil)
  | cons hfield _ ih =>
    rw [List.forall_mem_cons, List.forall_mem_cons, ih, hfield.name, hfield.required, hnames]

/-- Fields that are read from the items of an array are read in their order. -/
theorem readItems_agree {rec rec' : Record σ} {o o' : Origin} {all : List Draft} {all' : List Draft}
    (hf : List.Forall₂ FieldsAgree fields fields') {n : Nat} {s : σ} {items : List Draft}
    {js : List Json} (h : List.Forall₂ Says items js) :
    (readItems rec o all .closed fields n s items).toOption
      = (readItems rec' o' all' .closed fields' n s (itemsToDraft js)).toOption := by
  induction hf generalizing n s items js with
  | nil => cases h <;> rfl
  | cons hfield _ ih =>
    cases h with
    | nil =>
      rw [itemsToDraft, readItems, readItems, toOption_bind, toOption_bind, hfield.required]
      refine congrArg _ (funext fun _ => ?_)
      split
      · rfl
      · exact ih .nil
    | cons hd hrest =>
      rw [itemsToDraft, readItems, readItems, toOption_bind, toOption_bind, hfield.read s hd]
      exact congrArg _ (funext fun _ => ih hrest)

end Record

/-- **Readers of records agree if their fields do and may be read in any order.** -/
theorem Agree.record {σ : Type} {rec rec' : Record σ} {o o' : Origin} {blank : σ}
    (hf : List.Forall₂ Record.FieldsAgree rec.fields rec'.fields)
    (hunordered : Record.Unordered rec'.fields) : Agree (rec.read o blank) (rec'.read o' blank) := by
  intro d j hd
  cases hd.form with
  | array hitems =>
    rw [toDraft, Record.read, Record.read]
    exact Record.readItems_agree hf hitems
  | @object ms vs values hnodup hsays hperm =>
    have hnames := Record.map_fst_of_memberSays hsays
    have hvs : ((vs.map Record.drafted).map Prod.fst).Nodup := by
      rwa [Record.map_fst_drafted, ← hnames]
    have hperm' := hperm.map Record.drafted
    have hskip : ∀ m ∈ values.map Record.drafted, m.2.skip = .ok () :=
      List.forall_mem_map.mpr fun v _ => skip_toDraft v.2
    rw [toDraft, Record.membersToDraft_eq,
      Record.toOption_read_object rec o blank (Record.skip_of_memberSays hsays) hnodup,
      Record.toOption_read_object rec' o' blank hskip ((hperm'.map Prod.fst).nodup_iff.mp hvs),
      Record.foldl_put_agree hf hsays, Record.foldl_put_perm hunordered hvs hperm']
    refine if_congr (Record.complete_agree hf fun name => ?_) rfl rfl
    rw [hnames, Record.map_fst_drafted]
    exact (hperm.map Prod.fst).mem_iff
  | null | bool | number | text => rfl

/-! ## Texts -/

/-- **A text that repeats no name is read as its value is.** -/
theorem Agree.toOption_read {α : Type} {reader reader' : Draft → Except Error α}
    (h : Agree reader reader') {text : String} {j : Json} (hj : readTree text = .ok j)
    (hnames : (draft text.toList).1.NoRepeats) :
    (read reader text).toOption = (reader' (toDraft j)).toOption := by
  have htree := toOption_eq_some_iff.mpr hj
  rw [readTree, Json.toOption_read, toOption_mapError] at htree
  rw [Json.toOption_read]
  split at htree
  · cases htree
  · next hmore => rw [if_neg hmore, h ⟨hnames, 0, toOption_eq_some_iff.mp htree⟩]

end BlockPlayer.Json
