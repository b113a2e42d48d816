import BlockPlayer.Proofs.Settings.Checked
import BlockPlayer.Proofs.Settings.Sources
import BlockPlayer.Proofs.Toml.Documents
import BlockPlayer.Settings.Text

/-!
# Settings that are written and loaded

Settings are written as a TOML document, which says all of them. The period and the limit are whole numbers of
64 bits, of which TOML has only those with a bit to spare for the sign; settings with larger ones are not
written. All others that pass the check are loaded from their text as they were.

Main statement: `text_loads_back`.
-/

namespace BlockPlayer

/-! ## What can be written -/

namespace Toml

theorem isSome_writeItems?_iff {vs : List Toml} :
    (writeItems? vs).isSome = true ↔ ∀ v ∈ vs, (scalar? v).isSome = true := by
  induction vs with
  | nil => simp [writeItems?]
  | cons v vs ih =>
    rw [List.forall_mem_cons, ← ih, writeItems?]
    cases scalar? v <;> cases writeItems? vs <;> simp

theorem isSome_writeMembers?_iff {ms : List (String × Toml)} :
    (writeMembers? ms).isSome = true ↔ ∀ m ∈ ms, (write? m.2).isSome = true := by
  induction ms with
  | nil => simp [writeMembers?]
  | cons m ms ih =>
    obtain ⟨name, v⟩ := m
    rw [List.forall_mem_cons, ← ih, writeMembers?]
    cases write? v <;> cases writeMembers? ms <;> simp

theorem isSome_document?_iff {ts : List (String × List (String × Toml))} :
    (document? ts).isSome = true ↔ ∀ t ∈ ts, ∀ m ∈ t.2, (write? m.2).isSome = true := by
  induction ts with
  | nil => simp [document?]
  | cons t ts ih =>
    obtain ⟨name, ms⟩ := t
    rw [List.forall_mem_cons, ← ih, ← isSome_writeMembers?_iff]
    cases ts with
    | nil => simp [document?, writeTable?]
    | cons t ts =>
      rw [document?, writeTable?]
      · cases writeMembers? ms <;> cases document? (t :: ts) <;> simp
      · simp

theorem isSome_write?_doubles (xs : List Float) : (write? (.array (xs.map .double))).isSome = true := by
  have hscalar : ∀ v ∈ xs.map Toml.double, (scalar? v).isSome = true := by
    intro v hv
    obtain ⟨x, -, rfl⟩ := List.mem_map.mp hv
    rfl
  match xs, hscalar with
  | [], _ => rfl
  | [_], _ => rfl
  | x :: y :: xs, hscalar =>
    show (Option.map _ (writeItems? _)).isSome = true
    rw [Option.isSome_map]
    exact isSome_writeItems?_iff.mpr hscalar

end Toml

namespace Settings

variable {s : Settings}

/-- Settings are written if the whole numbers in them have a bit to spare. -/
theorem isSome_text?_iff : s.text?.isSome = true ↔
    s.playback.period.toNat < 2 ^ 63 ∧ s.compiler.limit.toNat < 2 ^ 63 := by
  have hwhole (n : ℕ) : (Toml.whole n).write?.isSome = true ↔ n < 2 ^ 63 := by
    show (if Numeral.lowest ≤ (n : ℤ) ∧ (n : ℤ) ≤ Numeral.highest then some (toString (n : ℤ)).toList
      else none).isSome = true ↔ _
    rw [Numeral.lowest, Numeral.highest]
    split <;> simp <;> omega
  rw [text?, Option.isSome_map, Toml.isSome_document?_iff]
  simp only [tables, List.forall_mem_cons, hwhole, Toml.isSome_write?_doubles]
  simp [Toml.write?, Toml.scalar?]

/-! ## What is read back -/

theorem isPlain_policy (p : Policy) : ∀ c ∈ p.name.toList, Toml.isPlain c = true ∧ c ≠ '"' ∧ c ≠ '\\' := by
  have hall : (p.name.toList.all fun c => Toml.isPlain c && c != '"' && c != '\\') = true := by
    cases p <;> rfl
  intro c hc
  simpa [and_assoc] using List.all_eq_true.mp hall c hc

/-- The names and values of checked settings can all be written and read back. -/
theorem writable_tables (h : s.validate = .ok ()) :
    ∀ t ∈ s.tables, Toml.IsName t.1 ∧ Toml.Writable t.2 ∧ (t.2.map Prod.fst).Nodup := by
  obtain ⟨-, hadmitted, hspeed, -, -⟩ := validate_eq_ok_iff.mp h
  have hoffered : ∀ v ∈ s.playback.offered.map Toml.double, Toml.Scalar v := by
    intro v hv
    obtain ⟨x, hx, rfl⟩ := List.mem_map.mp hv
    exact .double (hadmitted x hx)
  simp only [tables, List.forall_mem_cons, Toml.Writable, Toml.isName_iff]
  exact ⟨⟨rfl, ⟨⟨rfl, .scalar (.whole _)⟩, ⟨rfl, .scalar (.double hspeed)⟩, ⟨rfl, .array hoffered⟩,
    ⟨rfl, .scalar (.bool _)⟩, by simp⟩, by simp⟩,
    ⟨rfl, ⟨⟨rfl, .scalar (.text (isPlain_policy _))⟩, ⟨rfl, .scalar (.whole _)⟩, by simp⟩, by simp⟩, by simp⟩

/-- The settings as data. -/
def members (s : Settings) : Members :=
  [("playback", .table
    [("base_period_ms", .whole s.playback.period.toNat),
     ("default_speed", .double s.playback.speed),
     ("speed_options", .array (s.playback.offered.map .double)),
     ("reschedule_on_speed_change", .bool s.playback.reschedule)]),
   ("compiler", .table
    [("unrecognized_blocks", .text s.compiler.policy.name),
     ("max_instructions", .whole s.compiler.limit.toNat)])]

theorem documented_members (s : Settings) : s.members.Documented := by
  refine ⟨by simp [members], ?_⟩
  simp only [members, List.forall_mem_cons]
  refine ⟨⟨.period, rfl, _, rfl, by simp, ?_⟩, ⟨.policy, rfl, _, rfl, by simp, ?_⟩, by simp⟩
  · simp only [List.forall_mem_cons]
    exact ⟨⟨.period, rfl, rfl⟩, ⟨.speed, rfl, rfl⟩, ⟨.offered, rfl, rfl⟩, ⟨.reschedule, rfl, rfl⟩, by simp⟩
  · simp only [List.forall_mem_cons]
    exact ⟨⟨.policy, rfl, rfl⟩, ⟨.limit, rfl, rfl⟩, by simp⟩

theorem data?_doubles (xs : List Float) : Toml.data? (xs.map .double) = some (xs.map .double) := by
  induction xs with
  | nil => rfl
  | cons x xs ih =>
    rw [List.map_cons, Toml.data?, ih]
    rfl

/-- The text of checked settings says what they are. -/
theorem readMembers_text (h : s.validate = .ok ()) {text : String} (htext : s.text? = some text) :
    readMembers .toml text = .ok s.members := by
  obtain ⟨cs, hcs, rfl⟩ := Option.map_eq_some_iff.mp htext
  have hread := Toml.read?_document (writable_tables h) (by simp [tables]) hcs
  have hdatum : Toml.datum? (.table (s.tables.map fun t => (t.1, .table t.2))) = some (.table s.members) := by
    simp only [tables, List.map_cons, List.map_nil, Toml.datum?, Toml.memberData?, data?_doubles]
    rfl
  have hdata : Toml.readDatum? (String.ofList cs) = some (.table s.members) := by
    rw [Toml.readDatum?, hread, Option.bind_some, hdatum]
  rw [readMembers, Dialect.read, Dialect.datum, hdata]
  rfl

/-! ## What is loaded -/

theorem toWord?_whole (n : UInt64) : (Datum.whole n.toNat).toWord? = some n := by
  have hlt : n.toNat < Double.wordEnd := n.toNat_lt
  rw [Datum.toWord?, if_pos ⟨by omega, by rwa [Int.toNat_natCast]⟩, Int.toNat_natCast, UInt64.ofNat_toNat]

theorem toDoubles?_doubles (xs : List Float) : (Datum.array (xs.map .double)).toDoubles? = some xs := by
  rw [Datum.toDoubles?]
  induction xs with
  | nil => rfl
  | cons x xs ih =>
    rw [List.map_cons, List.mapM_cons, ih]
    rfl

theorem toPolicy?_name (p : Policy) : (Datum.text p.name).toPolicy? = some p := by
  cases p <;> decide +kernel

/-- All values are said, and they are those of the settings. -/
theorem ofValues?_members (s : Settings) (path : Option String) :
    ofValues? (said s.members [] ⟨path, none, none, none⟩) = some s := by
  -- what is said is kept closed: opened all at once, it is computed over and over
  generalize hv : said s.members [] ⟨path, none, none, none⟩ = v
  have hperiod : v .period = some (.whole s.playback.period.toNat) := by rw [← hv]; rfl
  have hspeed : v .speed = some (.double s.playback.speed) := by rw [← hv]; rfl
  have hoffered : v .offered = some (.array (s.playback.offered.map .double)) := by rw [← hv]; rfl
  have hreschedule : v .reschedule = some (.bool s.playback.reschedule) := by rw [← hv]; rfl
  have hpolicy : v .policy = some (.text s.compiler.policy.name) := by rw [← hv]; rfl
  have hlimit : v .limit = some (.whole s.compiler.limit.toNat) := by rw [← hv]; rfl
  simp only [ofValues?, PlaybackSettings.ofValues?, CompileSettings.ofValues?, hperiod, hspeed, hoffered,
    hreschedule, hpolicy, hlimit, chosen, toWord?_whole, toDoubles?_doubles, toPolicy?_name]
  rfl

/-- Checked settings are what comes of a file that says them, if nothing else says anything. -/
theorem ofSources_members (h : s.validate = .ok ()) (path : Option String) :
    ofSources s.members [] ⟨path, none, none, none⟩ = .ok s := by
  have hnone : Environment.Documented [] := ⟨List.nodup_nil, fun _ hv => absurd hv List.not_mem_nil⟩
  rw [ofSources_eq s.documented_members hnone, settle, ofValues?_members, checked]
  simp only [h]

theorem fileSource_of_file {files : Files} {path text : String} (hfile : files path = .file text)
    {d : Dialect} (hd : dialect? path = some d) : fileSource files (some path) = readMembers d text := by
  have hexists : (files path).exists? = true := by
    rw [hfile]
    rfl
  rw [fileSource, if_pos hexists, findFile?_of_file hfile, hd]
  rfl

theorem fileSource_of_usualFile {files : Files} {text : String} (hfile : files usualPath = .file text) :
    fileSource files none = readMembers .toml text := by
  rw [fileSource, findFile?_of_file hfile, dialect?_usualPath]
  rfl

/--
**Settings are loaded from their text as they were.** Checked settings have a text exactly if their whole
numbers have a bit to spare; whatever else there is, a file with this text gives the settings, be it named
by its path or the usual one.
-/
theorem text_loads_back (s : Settings) (h : s.validate = .ok ()) :
    (s.text?.isSome = true ↔ s.playback.period.toNat < 2 ^ 63 ∧ s.compiler.limit.toNat < 2 ^ 63) ∧
      ∀ text, s.text? = some text → ∀ files : Files,
        (∀ path, files path = .file text → dialect? path = some .toml →
          load files [] ⟨some path, none, none, none⟩ = .ok s) ∧
        (files usualPath = .file text → load files [] ⟨none, none, none, none⟩ = .ok s) := by
  refine ⟨isSome_text?_iff, fun text htext files => ?_⟩
  have hread := readMembers_text h htext
  constructor
  · intro path hfile hd
    show Except.bind (fileSource files (some path)) _ = _
    rw [fileSource_of_file hfile hd, hread]
    exact ofSources_members h (some path)
  · intro hfile
    show Except.bind (fileSource files none) _ = _
    rw [fileSource_of_usualFile hfile, hread]
    exact ofSources_members h none

theorem text_loads_back_default : ∃ text, Settings.default.text? = some text ∧
    load (usualFile text) [] ⟨none, none, none, none⟩ = .ok .default := by
  have hback := text_loads_back .default (by decide +kernel)
  obtain ⟨text, htext⟩ := Option.isSome_iff_exists.mp (hback.1.mpr (by decide))
  exact ⟨text, htext, (hback.2 text htext (usualFile text)).2 (if_pos rfl)⟩

/-- **A period with the sixty-fourth bit passes the check and cannot be written.** -/
theorem long_period_has_no_text :
    let s : Settings := ⟨⟨9223372036854775808, 1, Speed.offered, false⟩, .default⟩
    s.validate = .ok () ∧ s.text? = none := by
  decide +kernel

end Settings

end BlockPlayer
