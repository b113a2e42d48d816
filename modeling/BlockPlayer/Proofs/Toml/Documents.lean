import BlockPlayer.Proofs.Toml.Written
import BlockPlayer.Toml.Document

/-!
# TOML documents that were written

A document that is written as tables is read as these tables. The lines of its text are read one after the other
as statements, and the statements are put together again.

Main statement: `read?_document`.
-/

namespace BlockPlayer.Toml

/-! ## Lines -/

/-- A name that can be written as it is. -/
structure IsName (name : String) : Prop where
  ne_nil : name.toList ≠ []
  chars : ∀ c ∈ name.toList, isNameChar c = true

theorem isName_iff {name : String} :
    IsName name ↔ (!name.toList.isEmpty && name.toList.all isNameChar) = true := by
  rw [Bool.and_eq_true, Bool.not_eq_true', List.isEmpty_eq_false_iff, List.all_eq_true]
  exact ⟨fun h => ⟨h.ne_nil, h.chars⟩, fun h => ⟨h.1, h.2⟩⟩

theorem endLine?_break (rest : List Char) : endLine? ('\n' :: rest) = some rest := rfl

section Keys

variable {name : String} (h : IsName name)
include h

theorem IsName.not_bracket {rest l : List Char} (heq : name.toList ++ rest = '[' :: l) :
    isNameChar '[' = true := by
  obtain ⟨d, t, hcons⟩ := List.exists_cons_of_ne_nil h.ne_nil
  rw [hcons, List.cons_append] at heq
  rw [← List.head_eq_of_cons_eq heq]
  exact h.chars d (by rw [hcons]; exact List.mem_cons_self)

/-- A name is read up to the first character that cannot be in it. -/
theorem name?_append {c : Char} (hc : isNameChar c = false) (rest : List Char) :
    name? (name.toList ++ c :: rest) = some (name, c :: rest) := by
  obtain ⟨d, t, hcons⟩ := List.exists_cons_of_ne_nil h.ne_nil
  have hd : isNameChar d = true := h.chars d (by rw [hcons]; exact List.mem_cons_self)
  have hnot : ∀ e, isNameChar e = false → ∀ l, name.toList ++ c :: rest = e :: l → False := by
    intro e he l heq
    rw [hcons, List.cons_append] at heq
    rw [List.head_eq_of_cons_eq heq, he] at hd
    cases hd
  have htake : (name.toList ++ c :: rest).takeWhile isNameChar = name.toList := by
    rw [List.takeWhile_append_of_pos h.chars, List.takeWhile_cons_of_neg (by rw [hc]; decide), List.append_nil]
  have hdrop : (name.toList ++ c :: rest).dropWhile isNameChar = c :: rest := by
    rw [List.dropWhile_append_of_pos h.chars, List.dropWhile_cons_of_neg (by rw [hc]; decide)]
  rw [name?.eq_3 _ (hnot _ rfl) (hnot _ rfl), htake, hdrop, if_neg (by simp [h.ne_nil]), String.ofList_toList]

theorem dropBlanks_name (rest : List Char) : dropBlanks (name.toList ++ rest) = name.toList ++ rest := by
  obtain ⟨d, t, hcons⟩ := List.exists_cons_of_ne_nil h.ne_nil
  have hd : isNameChar d = true := h.chars d (by rw [hcons]; exact List.mem_cons_self)
  rw [hcons, List.cons_append, dropBlanks_of_notMem (notMem_of_all hd rfl)]

/-- A name on its own is a key, before a bracket or before a mark of equality. -/
theorem key?_name {c : Char} (hc : isNameChar c = false) {rest rest' : List Char}
    (hrest : dropBlanks (c :: rest) = rest') (hpoint : ∀ l, rest' ≠ '.' :: l) :
    key? (name.toList ++ c :: rest) = some ([name], rest') := by
  rw [key?, names?, dropBlanks_name h]
  simp only [name?_append h hc, Option.bind_eq_bind, Option.bind_some, hrest]
  rfl

end Keys

/-! ## Statements -/

/-- A value that is written behind a key. -/
theorem member?_write {name : String} (hname : IsName name) {v : Toml} (hv : Printable v) {cs : List Char}
    (hcs : write? v = some cs) (rest : List Char) {fuel : ℕ} (hfuel : cs.length + 2 < fuel) :
    member? fuel 0 (name.toList ++ " = ".toList ++ cs ++ '\n' :: rest)
      = some (([name], Term.ofToml v), '\n' :: rest) := by
  obtain ⟨fuel, rfl⟩ := Nat.exists_eq_succ_of_ne_zero (by omega : fuel ≠ 0)
  obtain ⟨c, t, rfl, hc⟩ := exists_cons_of_write hv hcs
  have hmark : " = ".toList = [' ', '=', ' '] := rfl
  have hends : Ends ('\n' :: rest) := ⟨_, _, rfl, by decide⟩
  have hkey : key? (name.toList ++ ' ' :: '=' :: ' ' :: c :: (t ++ '\n' :: rest))
      = some ([name], '=' :: ' ' :: c :: (t ++ '\n' :: rest)) := key?_name hname rfl rfl (by simp)
  have hequals (l : List Char) : dropBlanks ('=' :: l) = '=' :: l := dropBlanks_of_notMem (by decide) l
  have hblank : dropBlanks (' ' :: c :: (t ++ '\n' :: rest)) = c :: (t ++ '\n' :: rest) :=
    dropBlanks_of_notMem hc _
  have hvalue : value? fuel 0 (c :: (t ++ '\n' :: rest)) = some (Term.ofToml v, '\n' :: rest) :=
    value?_write hv hcs hends (by omega)
  simp only [hmark, List.append_assoc, List.cons_append, List.nil_append]
  rw [member?, hkey]
  simp only [Option.bind_eq_bind, Option.bind_some, hequals, hblank, hvalue]

theorem statement?_write {name : String} (hname : IsName name) {v : Toml} (hv : Printable v) {cs : List Char}
    (hcs : write? v = some cs) (rest : List Char) :
    statement? (name.toList ++ " = ".toList ++ cs ++ '\n' :: rest)
      = some (.assign [name] (Term.ofToml v), rest) := by
  have hbracket : ∀ l, name.toList ++ " = ".toList ++ cs ++ '\n' :: rest ≠ '[' :: l := by
    intro l heq
    rw [List.append_assoc, List.append_assoc] at heq
    exact absurd (hname.not_bracket heq) (by decide)
  rw [statement?.eq_3 _ (fun _ => hbracket _) (fun _ => hbracket _), member?_write hname hv hcs rest (by simp; omega)]
  rfl

theorem statement?_openTable {name : String} (hname : IsName name) (rest : List Char) :
    statement? ('[' :: (name.toList ++ "]\n".toList ++ rest)) = some (.openTable [name], rest) := by
  have hbracket : ∀ l, name.toList ++ "]\n".toList ++ rest ≠ '[' :: l := by
    intro l heq
    rw [List.append_assoc] at heq
    exact absurd (hname.not_bracket heq) (by decide)
  have hstop : dropBlanks (']' :: '\n' :: rest) = ']' :: '\n' :: rest := rfl
  have hkey : key? (name.toList ++ ']' :: '\n' :: rest) = some ([name], ']' :: '\n' :: rest) :=
    key?_name hname rfl hstop (by simp)
  have hclose : "]\n".toList = [']', '\n'] := rfl
  rw [statement?.eq_2 _ hbracket, hclose, List.append_assoc, List.cons_append, List.singleton_append, hkey]
  simp only [Option.bind_eq_bind, Option.bind_some, hstop, endLine?_break]

theorem statements?_cons {c : Char} {t rest : List Char} {s : Statement} (hc : c ∉ gaps)
    (hs : statement? (c :: t) = some (s, rest)) (fuel : ℕ) :
    statements? (fuel + 1) (c :: t) = (statements? fuel rest).map (s :: ·) := by
  have hcomment : c ≠ '#' := by
    rintro rfl
    exact hc (by decide)
  rw [statements?.eq_2, dropLines_of_notMem hc]
  split
  · next heq => cases heq
  · next heq => exact absurd (List.head_eq_of_cons_eq heq) hcomment
  · rw [hs]
    simp only [Option.bind_eq_bind, Option.bind_some]
    cases statements? fuel rest <;> rfl

theorem statements?_break (fuel : ℕ) (rest : List Char) :
    statements? fuel ('\n' :: rest) = statements? fuel rest := by
  cases fuel <;> rfl

/-! ## Tables -/

/-- Members that are written with their names and read back. -/
def Writable (ms : List (String × Toml)) : Prop := ∀ m ∈ ms, IsName m.1 ∧ Printable m.2

/-- The lines of a table. -/
def assigns (ms : List (String × Toml)) : List Statement :=
  ms.map fun m => .assign [m.1] (Term.ofToml m.2)

theorem statements?_writeMembers {ms : List (String × Toml)} (hms : Writable ms) (fuel : ℕ) (rest : List Char) :
    ∀ {cs : List Char}, writeMembers? ms = some cs →
      statements? (fuel + ms.length) (cs ++ rest) = (statements? fuel rest).map (assigns ms ++ ·) := by
  induction ms with
  | nil =>
    intro cs hcs
    cases hcs
    show statements? fuel rest = _
    cases statements? fuel rest <;> rfl
  | cons m ms ih =>
    intro cs hcs
    obtain ⟨name, v⟩ := m
    obtain ⟨value, hvalue, hcs⟩ := Option.bind_eq_some_iff.mp hcs
    obtain ⟨more, hmore, hcs⟩ := Option.bind_eq_some_iff.mp hcs
    cases hcs
    obtain ⟨hname, hv⟩ := hms (name, v) List.mem_cons_self
    have hstatement := statement?_write hname hv hvalue (more ++ rest)
    obtain ⟨c, t, hcons⟩ := List.exists_cons_of_ne_nil hname.ne_nil
    have hc : c ∉ gaps := notMem_of_all
      (hname.chars c (by rw [hcons]; exact List.mem_cons_self)) rfl
    rw [List.append_assoc, List.cons_append, List.length_cons, ← Nat.add_assoc]
    simp only [hcons, List.cons_append] at hstatement ⊢
    rw [statements?_cons hc hstatement, ih (fun n hn => hms n (List.mem_cons_of_mem _ hn)) hmore, Option.map_map]
    rfl

/-- The lines of a document. -/
def tableLines (ts : List (String × List (String × Toml))) : List Statement :=
  ts.flatMap fun t => .openTable [t.1] :: assigns t.2

theorem statements?_writeTable {name : String} (hname : IsName name) {ms : List (String × Toml)}
    (hms : Writable ms) {cs : List Char} (hcs : writeTable? name ms = some cs) (fuel : ℕ) (rest : List Char) :
    statements? (fuel + (ms.length + 1)) (cs ++ rest)
      = (statements? fuel rest).map (.openTable [name] :: assigns ms ++ ·) := by
  obtain ⟨lines, hlines, rfl⟩ := Option.map_eq_some_iff.mp hcs
  rw [← Nat.add_assoc, List.cons_append, List.append_assoc,
    statements?_cons (by decide) (statement?_openTable hname _), statements?_writeMembers hms fuel rest hlines,
    Option.map_map]
  rfl

/-- The number of lines of a document. -/
def lineCount (ts : List (String × List (String × Toml))) : ℕ := (ts.map fun t => t.2.length + 1).sum

theorem statements?_document {ts : List (String × List (String × Toml))}
    (hts : ∀ t ∈ ts, IsName t.1 ∧ Writable t.2) : ∀ {cs : List Char}, document? ts = some cs →
      ∀ fuel, statements? (fuel + 1 + lineCount ts) cs = some (tableLines ts) := by
  induction ts with
  | nil =>
    intro cs hcs fuel
    cases hcs
    rfl
  | cons t ts ih =>
    intro cs hcs fuel
    obtain ⟨name, ms⟩ := t
    obtain ⟨hname, hms⟩ := hts (name, ms) List.mem_cons_self
    have hcount : fuel + 1 + lineCount ((name, ms) :: ts) = fuel + 1 + lineCount ts + (ms.length + 1) := by
      simp [lineCount]
      omega
    rw [hcount]
    cases ts with
    | nil =>
      have htable := statements?_writeTable hname hms hcs (fuel + 1 + lineCount []) []
      rw [List.append_nil] at htable
      rw [htable]
      show Option.map _ (some []) = _
      simp [tableLines]
    | cons t' ts =>
      obtain ⟨first, hfirst, hcs⟩ := Option.bind_eq_some_iff.mp hcs
      obtain ⟨more, hmore, hcs⟩ := Option.bind_eq_some_iff.mp hcs
      cases hcs
      rw [statements?_writeTable hname hms hfirst, statements?_break,
        ih (fun t ht => hts t (List.mem_cons_of_mem _ ht)) hmore fuel]
      rfl

/-! ## Putting together -/

namespace Node

/-- A table that is opened, with its values. -/
def opened (ms : List (String × Toml)) : Node := .table .opened (ms.map fun m => (m.1, .value m.2))

section

variable {name : String} {root : List (String × Node)} (h : name ∉ root.map Prod.fst)
include h

theorem change_openTable : change openTable [name] root = some (root ++ [(name, opened [])]) := by
  rw [change, openTable, Entries.lookup_eq_none_of_notMem h]
  rfl

theorem change_assignIn {ms : List (String × Toml)} {key : String} (hkey : key ∉ ms.map Prod.fst) (v : Toml) :
    change (assignIn [key] (.value v)) [name] (root ++ [(name, opened ms)])
      = some (root ++ [(name, opened (ms ++ [(key, v)]))]) := by
  have hlookup : (ms.map fun m => (m.1, Node.value m.2)).lookup key = none := by
    apply Entries.lookup_eq_none_of_notMem
    rwa [List.map_map]
  have hassign : assign (.value v) [key] .opened (ms.map fun m => (m.1, Node.value m.2))
      = some ((ms ++ [(key, v)]).map fun m => (m.1, Node.value m.2)) := by
    rw [assign, hlookup, if_neg (by simp), List.map_append]
    rfl
  rw [change, assignIn, Entries.lookup_append_of_notMem h, opened]
  simp only [hassign, Option.map_some, Entries.put_append_of_notMem h]
  rfl

end

theorem plainMembers_value (ms : List (String × Toml)) :
    plainMembers (ms.map fun m => (m.1, .value m.2)) = ms := by
  induction ms with
  | nil => rfl
  | cons m ms ih =>
    rw [List.map_cons, plainMembers, ih]
    rfl

theorem plainMembers_opened (ts : List (String × List (String × Toml))) :
    plainMembers (ts.map fun t => (t.1, opened t.2)) = ts.map fun t => (t.1, .table t.2) := by
  induction ts with
  | nil => rfl
  | cons t ts ih =>
    rw [List.map_cons, plainMembers, ih, opened, plain, plainMembers_value]
    rfl

end Node

theorem Term.toToml?_ofToml (v : Toml) : (ofToml v).toToml? = some v := by
  cases v with
  | array vs =>
    have hitems : tomlItems? (vs.map .value) = some vs := by
      induction vs with
      | nil => rfl
      | cons v vs ih =>
        rw [List.map_cons, tomlItems?, ih]
        rfl
    rw [ofToml, toToml?, hitems]
    rfl
  | _ => rfl

theorem assemble_assigns {name : String} {root : List (String × Node)} (hname : name ∉ root.map Prod.fst)
    (rest : List Statement) : ∀ (ms done : List (String × Toml)), ((done ++ ms).map Prod.fst).Nodup →
      assemble [name] (root ++ [(name, Node.opened done)]) (assigns ms ++ rest)
        = assemble [name] (root ++ [(name, Node.opened (done ++ ms))]) rest := by
  intro ms
  induction ms with
  | nil =>
    intro done _
    rw [List.append_nil]
    rfl
  | cons m ms ih =>
    intro done hnodup
    obtain ⟨key, v⟩ := m
    have hkey : key ∉ done.map Prod.fst := by
      intro hmem
      rw [List.map_append] at hnodup
      exact List.disjoint_of_nodup_append hnodup hmem List.mem_cons_self
    have hnext := ih (done ++ [(key, v)]) (by rwa [List.append_assoc, List.singleton_append])
    rw [List.append_assoc, List.singleton_append] at hnext
    rw [assigns, List.map_cons, List.cons_append, assemble, Term.toToml?_ofToml]
    simp only [Option.bind_eq_bind, Option.bind_some, Node.change_assignIn hname hkey]
    exact hnext

theorem assemble_tableLines : ∀ (ts : List (String × List (String × Toml))) (here : Path)
    (root : List (String × Node)), (root.map Prod.fst ++ ts.map Prod.fst).Nodup →
    (∀ t ∈ ts, (t.2.map Prod.fst).Nodup) →
    assemble here root (tableLines ts) = some (root ++ ts.map fun t => (t.1, Node.opened t.2)) := by
  intro ts
  induction ts with
  | nil =>
    intro here root _ _
    rw [List.map_nil, List.append_nil]
    rfl
  | cons t ts ih =>
    intro here root hnodup hkeys
    obtain ⟨name, ms⟩ := t
    -- a table is opened once, and its lines come before the next one
    have hname : name ∉ root.map Prod.fst := fun hmem =>
      List.disjoint_of_nodup_append hnodup hmem List.mem_cons_self
    have hnext := ih [name] (root ++ [(name, Node.opened ms)])
      (by simpa [List.append_assoc] using hnodup) fun t ht => hkeys t (List.mem_cons_of_mem _ ht)
    have hlines := assemble_assigns hname (tableLines ts) ms [] (hkeys (name, ms) List.mem_cons_self)
    rw [tableLines, List.flatMap_cons, List.cons_append, assemble, Node.change_openTable hname]
    simp only [Option.bind_eq_bind, Option.bind_some]
    rw [List.append_assoc] at hnext
    exact hlines.trans hnext

/-! ## Whole texts -/

theorem length_le_of_writeMembers {ms : List (String × Toml)} : ∀ {cs : List Char},
    writeMembers? ms = some cs → ms.length ≤ cs.length := by
  induction ms with
  | nil =>
    intro cs _
    exact Nat.zero_le _
  | cons m ms ih =>
    intro cs hcs
    obtain ⟨value, -, hcs⟩ := Option.bind_eq_some_iff.mp hcs
    obtain ⟨more, hmore, hcs⟩ := Option.bind_eq_some_iff.mp hcs
    cases hcs
    have hlength := ih hmore
    simp only [List.length_append, List.length_cons]
    omega

theorem lineCount_le_of_document : ∀ {ts : List (String × List (String × Toml))} {cs : List Char},
    document? ts = some cs → lineCount ts ≤ cs.length := by
  intro ts
  induction ts with
  | nil =>
    intro cs _
    exact Nat.zero_le _
  | cons t ts ih =>
    intro cs hcs
    obtain ⟨name, ms⟩ := t
    have hcons : lineCount ((name, ms) :: ts) = ms.length + 1 + lineCount ts := by simp [lineCount]
    have htable : ∀ {cs}, writeTable? name ms = some cs → ms.length + 1 ≤ cs.length := by
      intro cs hcs
      obtain ⟨lines, hlines, rfl⟩ := Option.map_eq_some_iff.mp hcs
      have hlength := length_le_of_writeMembers hlines
      simp only [List.length_append, List.length_cons]
      omega
    rw [hcons]
    cases ts with
    | nil => exact htable hcs
    | cons t' ts =>
      obtain ⟨first, hfirst, hcs⟩ := Option.bind_eq_some_iff.mp hcs
      obtain ⟨more, hmore, hcs⟩ := Option.bind_eq_some_iff.mp hcs
      cases hcs
      have hlength := ih hmore
      have hfirst' := htable hfirst
      rw [List.length_append, List.length_cons]
      omega

/-- A document begins with a bracket. -/
theorem dropMark_document {ts : List (String × List (String × Toml))} {cs : List Char}
    (hcs : document? ts = some cs) : dropMark cs = cs := by
  match ts, hcs with
  | [], hcs =>
    cases hcs
    rfl
  | [_], hcs =>
    obtain ⟨_, -, rfl⟩ := Option.map_eq_some_iff.mp hcs
    rfl
  | _ :: _ :: _, hcs =>
    obtain ⟨_, hfirst, hcs⟩ := Option.bind_eq_some_iff.mp hcs
    obtain ⟨_, -, hcs⟩ := Option.bind_eq_some_iff.mp hcs
    obtain ⟨_, -, rfl⟩ := Option.map_eq_some_iff.mp hfirst
    cases hcs
    rfl

/-- **A document that is written as tables is read as these tables.** -/
theorem read?_document {ts : List (String × List (String × Toml))}
    (hts : ∀ t ∈ ts, IsName t.1 ∧ Writable t.2 ∧ (t.2.map Prod.fst).Nodup) (hnodup : (ts.map Prod.fst).Nodup)
    {cs : List Char} (hcs : document? ts = some cs) :
    read? (String.ofList cs) = some (ts.map fun t => (t.1, .table t.2)) := by
  have hstatements := statements?_document (fun t ht => ⟨(hts t ht).1, (hts t ht).2.1⟩) hcs
    (cs.length - lineCount ts)
  have hfuel : cs.length - lineCount ts + 1 + lineCount ts = cs.length + 1 := by
    have hle := lineCount_le_of_document hcs
    omega
  rw [hfuel] at hstatements
  have hassemble := assemble_tableLines ts [] [] hnodup fun t ht => (hts t ht).2.2
  rw [read?, String.toList_ofList, dropMark_document hcs]
  simp only [hstatements, hassemble, Option.bind_eq_bind, Option.bind_some, List.nil_append,
    Node.plainMembers_opened]

end BlockPlayer.Toml
