import BlockPlayer.Proofs.Json.Record
import BlockPlayer.Proofs.Settings.Layers

/-!
# Where settings come from

Settings are loaded from a file, variables and wishes. Which file is read does not depend on what the sources
say, and what comes of a setting does not depend on anything but the first source that says something about it.

A path stands for the file under it, or where there is none, for one with the ending of a dialect more. The
search for the usual file works in the same way: a file with a longer name is read in its place.

Main statement: the file that is read, and the settings that come of it (`load_layered`).
-/

namespace BlockPlayer

/-! ## From values to settings -/

/-- A setting with a value, or with its default where there is none. -/
def chosen {α : Type} (read : Datum → Option α) (default : α) : Option Datum → Option α
  | none => some default
  | some d => read d

/-- The settings of the group with the given values, if each of these suits its setting. -/
def PlaybackSettings.ofValues? (v : Setting → Option Datum) : Option PlaybackSettings := do
  let period ← chosen Datum.toWord? default.period (v .period)
  let speed ← chosen Datum.toDouble? default.speed (v .speed)
  let offered ← chosen Datum.toDoubles? default.offered (v .offered)
  let reschedule ← chosen Datum.toFlag? default.reschedule (v .reschedule)
  some ⟨period, speed, offered, reschedule⟩

@[inherit_doc PlaybackSettings.ofValues?]
def CompileSettings.ofValues? (v : Setting → Option Datum) : Option CompileSettings := do
  let policy ← chosen Datum.toPolicy? default.policy (v .policy)
  let limit ← chosen Datum.toWord? default.limit (v .limit)
  some ⟨policy, limit⟩

namespace Settings

/-- The settings with the given values, if each of these suits its setting. -/
def ofValues? (v : Setting → Option Datum) : Option Settings := do
  let playback ← PlaybackSettings.ofValues? v
  let compiler ← CompileSettings.ofValues? v
  some ⟨playback, compiler⟩

/-- Settings, if there are any, once they have passed the check. -/
def checked : Option Settings → Except SettingsError Settings
  | none => .error .unsuitable
  | some s =>
    match s.validate with
    | .error p => .error (.invalid p)
    | .ok () => .ok s

/-- The settings with the given values, checked. -/
def settle (v : Setting → Option Datum) : Except SettingsError Settings := checked (ofValues? v)

end Settings

theorem Datum.setting_table {α : Type} (inner : Members) (name : String) (place : Nat)
    (read : Datum → Option α) (default : α) :
    (Datum.table inner).setting name place read default = chosen read default (inner.lookup name) := by
  rw [Datum.setting, Datum.setting?]
  cases inner.lookup name <;> rfl

theorem PlaybackSettings.ofDatum?_table (inner : Members) : ofDatum? (.table inner)
    = ofValues? fun x => inner.lookup x.key := by
  rw [ofDatum?, ofValues?, Datum.setting_table, Datum.setting_table, Datum.setting_table,
    Datum.setting_table]
  rfl

theorem CompileSettings.ofDatum?_table (inner : Members) : ofDatum? (.table inner)
    = ofValues? fun x => inner.lookup x.key := by
  rw [ofDatum?, ofValues?, Datum.setting_table, Datum.setting_table]
  rfl

/-- What members say about the settings of a group is what the group says. -/
theorem Members.about_of_lookup {ms inner : Members} {name : String}
    (h : ms.lookup name = some (.table inner)) {x : Setting} (hx : x.group = name) :
    ms.about x = inner.lookup x.key := by
  rw [about, hx, h]
  rfl

theorem ofMembers?_eq {ms : Members} (h : ms.Grouped) :
    Settings.ofMembers? ms = Settings.ofValues? ms.about := by
  have hplayback : (Datum.table ms).setting "playback" 0 PlaybackSettings.ofDatum? .default
      = PlaybackSettings.ofValues? ms.about := by
    rw [Datum.setting_table, PlaybackSettings.ofValues?]
    cases hd : ms.lookup "playback" with
    | none =>
      simp only [Members.about, Setting.group, hd]
      rfl
    | some d =>
      obtain ⟨inner, rfl⟩ := h .period d hd
      rw [chosen, PlaybackSettings.ofDatum?_table, PlaybackSettings.ofValues?,
        Members.about_of_lookup hd rfl, Members.about_of_lookup hd rfl, Members.about_of_lookup hd rfl,
        Members.about_of_lookup hd rfl]
  have hcompiler : (Datum.table ms).setting "compiler" 1 CompileSettings.ofDatum? .default
      = CompileSettings.ofValues? ms.about := by
    rw [Datum.setting_table, CompileSettings.ofValues?]
    cases hd : ms.lookup "compiler" with
    | none =>
      simp only [Members.about, Setting.group, hd]
      rfl
    | some d =>
      obtain ⟨inner, rfl⟩ := h .policy d hd
      rw [chosen, CompileSettings.ofDatum?_table, CompileSettings.ofValues?,
        Members.about_of_lookup hd rfl, Members.about_of_lookup hd rfl]
  rw [Settings.ofMembers?, hplayback, hcompiler, Settings.ofValues?]

namespace Settings

/-- What is set is settled setting by setting. -/
theorem ofSources_eq {file : Members} {env : Environment} (hfile : file.Documented)
    (henv : env.Documented) (w : Wishes) : ofSources file env w = settle (said file env w) := by
  obtain ⟨hgrouped, habout⟩ := lay_sources hfile henv w
  show checked (ofMembers? _) = checked (ofValues? _)
  rw [ofMembers?_eq hgrouped, funext habout]

/-! ## The file -/

/-- The dialect that the name of a file tells. -/
def dialect? (path : String) : Option Dialect := (extension? path).bind fun ending => Dialect.endings.lookup ending

/-- A text that is read for a path: of the file under it, or if there is none, of one with a longer name. -/
inductive Found (files : Files) (path : String) : Dialect → String → Prop
  | exact {d : Dialect} {text : String} (hfile : files path = .file text) (hd : dialect? path = some d) :
      Found files path d text
  | longer {d : Dialect} {text longer : String} (hnone : (files path).text? = none)
      (hmem : (d, longer) ∈ candidates path) (hfile : files longer = .file text) : Found files path d text

variable {files : Files} {path : String}

theorem text?_eq_some_iff {e : Entry} {text : String} : e.text? = some text ↔ e = .file text := by
  cases e <;> simp [Entry.text?]

theorem findFile?_of_file {text : String} (h : files path = .file text) :
    findFile? files path = (dialect? path).map fun d => (d, text) := by
  rw [findFile?, text?_eq_some_iff.mpr h, dialect?]
  cases extension? path <;> rfl

theorem found_of_findFile? {d : Dialect} {text : String} (h : findFile? files path = some (d, text)) :
    Found files path d text := by
  cases htext : (files path).text? with
  | some t =>
    have hfile := text?_eq_some_iff.mp htext
    rw [findFile?_of_file hfile] at h
    obtain ⟨d', hd, heq⟩ := Option.map_eq_some_iff.mp h
    cases heq
    exact .exact hfile hd
  | none =>
    rw [findFile?, htext] at h
    obtain ⟨⟨d', longer⟩, hmem, hlonger⟩ := List.exists_of_findSome?_eq_some h
    obtain ⟨t, ht, heq⟩ := Option.map_eq_some_iff.mp hlonger
    cases heq
    exact .longer htext hmem (text?_eq_some_iff.mp ht)

theorem not_found_of_findFile? (h : findFile? files path = none) (d : Dialect) (text : String) :
    ¬ Found files path d text := by
  intro hfound
  cases hfound with
  | exact hfile hd =>
    rw [findFile?_of_file hfile, hd] at h
    cases h
  | longer hnone hmem hfile =>
    rw [findFile?, hnone] at h
    have hlonger := List.findSome?_eq_none_iff.mp h _ hmem
    simp only [hfile] at hlonger
    cases hlonger

/-- What comes of the file of settings, if there is one, for the path that is named, if there is one. -/
inductive Taken (files : Files) : Option String → Except SettingsError Members → Prop
  | missing {path : String} (h : (files path).exists? = false) :
      Taken files (some path) (.error (.missingFile path))
  | named {path : String} {d : Dialect} {text : String} (h : (files path).exists? = true)
      (hfound : Found files path d text) : Taken files (some path) (readMembers d text)
  | strange {path : String} (h : (files path).exists? = true)
      (hnone : ∀ d text, ¬ Found files path d text) : Taken files (some path) (.error .unknownDialect)
  | usual {d : Dialect} {text : String} (hfound : Found files usualPath d text) :
      Taken files none (readMembers d text)
  | nothing (hnone : ∀ d text, ¬ Found files usualPath d text) : Taken files none (.ok [])

theorem taken_fileSource (files : Files) (named : Option String) :
    Taken files named (fileSource files named) := by
  cases named with
  | some path =>
    rw [fileSource]
    split
    · next hexists =>
      split
      · next d text hfile => exact .named hexists (found_of_findFile? hfile)
      · next hnone => exact .strange hexists (not_found_of_findFile? hnone)
    · next hmissing => exact .missing (Bool.not_eq_true _ ▸ hmissing)
  | none =>
    rw [fileSource]
    split
    · next d text hfile => exact .usual (found_of_findFile? hfile)
    · next hnone => exact .nothing (not_found_of_findFile? hnone)

/-! ## Loading -/

/--
**Settings are loaded in layers.** The file is the one under the path that is named, and an error if nothing
is there; without a named path it is the usual one, or a file with a longer name in its place, or none. What
is wrong with the file is an error. Else, for sources in which everything stands under the keys of settings,
each setting has the value that is said first of wishes, variables, the file and the default, and what the
others say about it does not count.
-/
theorem load_layered (files : Files) (env : Environment) (w : Wishes) :
    ∃ file, Taken files (namedPath? w env) file ∧
      (∀ e, file = .error e → load files env w = .error e) ∧
      ∀ ms, file = .ok ms → ms.Documented → env.Documented → load files env w = settle (said ms env w) := by
  refine ⟨fileSource files (namedPath? w env), taken_fileSource _ _, fun e he => ?_,
    fun ms hms hdocumented henv => ?_⟩
  · rw [load, he]
    rfl
  · rw [load, hms]
    exact ofSources_eq hdocumented henv w

/-- Only the usual file is there, with the given text. -/
def usualFile (text : String) : Files := fun path => if path = usualPath then .file text else .missing

theorem dialect?_usualPath : dialect? usualPath = some .toml := by decide +kernel

/-- A period that is no number in the file and in a variable does not keep a wished one from being used. -/
theorem load_layered_amid_faulty_values :
    let file : Members := [("playback", .table [("base_period_ms", .text "soon")])]
    let env : Environment := [("HOME", "/"), ("BLOCKDRIVE_PLAYBACK__BASE_PERIOD_MS", "fast"),
      ("BLOCKDRIVE_COMPILER__MAX_INSTRUCTIONS", "20")]
    file.Documented ∧ env.Documented ∧
      load (usualFile "[playback]\nbase_period_ms = 'soon'") env
        ⟨none, some 350, none, none⟩ = .ok ⟨⟨350, 1, Speed.offered, false⟩, ⟨.skip, 20⟩⟩ := by
  intro file env
  have hfile : file.Documented := by decide
  have henv : env.Documented := by decide +kernel
  have hfound : ∃ ms ∈ (readMembers .toml "[playback]\nbase_period_ms = 'soon'").toOption, ms.Documented ∧
      settle (said ms env ⟨none, some 350, none, none⟩)
        = .ok ⟨⟨350, 1, Speed.offered, false⟩, ⟨.skip, 20⟩⟩ := by
    decide +kernel
  obtain ⟨ms, hms, hdocumented, hsettle⟩ := hfound
  refine ⟨hfile, henv, ?_⟩
  obtain ⟨taken, htaken, -, hok⟩ := load_layered
    (usualFile "[playback]\nbase_period_ms = 'soon'") env
    ⟨none, some 350, none, none⟩
  have hnamed : namedPath? ⟨none, some 350, none, none⟩ env = none := by decide
  rw [hnamed] at htaken
  cases htaken with
  | nothing hnone => exact absurd (.exact rfl dialect?_usualPath) (hnone _ _)
  | usual hfound =>
    cases hfound with
    | longer hnone => cases hnone
    | exact htext hd =>
      cases htext
      cases dialect?_usualPath.symm.trans hd
      rw [hok ms (Json.toOption_eq_some_iff.mp hms) hdocumented henv, hsettle]

/-- **A file with a longer name in place of the usual one is read**, and so there is more than the defaults. -/
theorem longer_file_is_read :
    let files : Files := fun path =>
      if path = "blockdrive.toml.ini" then .file "[playback]\nbase_period_ms = 500" else .missing
    (files usualPath).exists? = false ∧
      load files [] ⟨none, none, none, none⟩ = .ok ⟨⟨500, 1, Speed.offered, false⟩, .default⟩ ∧
      load files [] ⟨none, none, none, none⟩ ≠ .ok .default := by
  decide +kernel

end Settings

end BlockPlayer
