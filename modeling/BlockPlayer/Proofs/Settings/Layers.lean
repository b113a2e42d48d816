import Mathlib.Data.List.Basic
import BlockPlayer.Settings.Load

/-!
# Settings in layers

There are six settings. A source says something about some of them, each under its own key, and sources are
laid over each other member by member. So what the layers say about a setting together is what the upper one
says about it, and what the lower one says if the upper one is silent; nothing else in them has a part in it.

Sources are *documented* here: what they hold stands under the keys of settings, and at most once under each.

Main statements: what a file says (`lay_file`), what variables laid over it do to that (`lay_variables`), and
wishes laid over both (`lay_wishes`); all together, a wish comes before a variable, and a variable before the
file (`lay_sources`).
-/

namespace BlockPlayer

/-- One of the settings. -/
inductive Setting
  | period
  | speed
  | offered
  | reschedule
  | policy
  | limit
  deriving DecidableEq

namespace Setting

/-- The name of the group that a setting belongs to. -/
def group : Setting → String
  | period | speed | offered | reschedule => "playback"
  | policy | limit => "compiler"

/-- The name of a setting in its group. -/
def key : Setting → String
  | period => "base_period_ms"
  | speed => "default_speed"
  | offered => "speed_options"
  | reschedule => "reschedule_on_speed_change"
  | policy => "unrecognized_blocks"
  | limit => "max_instructions"

/-- The name of the variable for a setting. -/
def variableName : Setting → String
  | period => "BLOCKDRIVE_PLAYBACK__BASE_PERIOD_MS"
  | speed => "BLOCKDRIVE_PLAYBACK__DEFAULT_SPEED"
  | offered => "BLOCKDRIVE_PLAYBACK__SPEED_OPTIONS"
  | reschedule => "BLOCKDRIVE_PLAYBACK__RESCHEDULE_ON_SPEED_CHANGE"
  | policy => "BLOCKDRIVE_COMPILER__UNRECOGNIZED_BLOCKS"
  | limit => "BLOCKDRIVE_COMPILER__MAX_INSTRUCTIONS"

/-- The way to a setting in a source whose keys are paths. -/
def path (x : Setting) : String := x.group ++ "." ++ x.key

theorem eq_of_key_eq {x y : Setting} (h : x.key = y.key) : x = y := by
  cases x <;> cases y <;> first | rfl | exact absurd h (by decide)

theorem eq_of_variableName_eq {x y : Setting} (h : x.variableName = y.variableName) : x = y := by
  cases x <;> cases y <;> first | rfl | exact absurd h (by decide)

theorem folded_group (x : Setting) : Folded.text x.group = x.group := by
  cases x <;> decide +kernel

theorem folded_key (x : Setting) : Folded.text x.key = x.key := by
  cases x <;> decide +kernel

theorem steps_group (x : Setting) : KeyStep.path x.group = (x.group, []) := by
  cases x <;> decide +kernel

theorem steps_path (x : Setting) : KeyStep.path x.path = (x.group, [.name x.key]) := by
  cases x <;> decide +kernel

theorem key?_variableName (x : Setting) :
    Environment.key? x.variableName = some x.path := by
  cases x <;> decide +kernel

end Setting

/-! ## What sources say -/

/-- What members say about a setting. -/
def Members.about (ms : Members) (x : Setting) : Option Datum :=
  (ms.lookup x.group).bind fun d => d.members.lookup x.key

/-- What variables say about a setting. -/
def Environment.about (env : Environment) (x : Setting) : Option Datum :=
  (env.lookup x.variableName).map Environment.value

/-- What wishes say about a setting. -/
def Wishes.about (w : Wishes) : Setting → Option Datum
  | .period => w.period.map fun n => .whole n.toNat
  | .speed => w.speed.map .double
  | .policy => w.policy.map fun p => .text p.name
  | .offered | .reschedule | .limit => none

theorem Members.about_cons_self (d : Datum) (rest : Members) (y : Setting) :
    Members.about ((y.group, d) :: rest) y = d.members.lookup y.key := by
  rw [Members.about, List.lookup_cons, beq_self_eq_true]
  rfl

theorem Members.about_cons_of_ne {name : String} {y : Setting} (h : y.group ≠ name) (d : Datum)
    (rest : Members) : Members.about ((name, d) :: rest) y = Members.about rest y := by
  rw [Members.about, List.lookup_cons, beq_eq_false_iff_ne.mpr h, Members.about]

theorem Members.about_of_lookup_eq_none {ms : Members} {y : Setting} (h : ms.lookup y.group = none) :
    ms.about y = none := by
  rw [Members.about, h, Option.bind_none]

theorem Environment.about_cons_self (text : String) (rest : Environment) (y : Setting) :
    Environment.about ((y.variableName, text) :: rest) y = some (Environment.value text) := by
  rw [Environment.about, List.lookup_cons, beq_self_eq_true]
  rfl

theorem Environment.about_cons_of_ne {name : String} {y : Setting} (h : y.variableName ≠ name)
    (text : String) (rest : Environment) :
    Environment.about ((name, text) :: rest) y = Environment.about rest y := by
  rw [Environment.about, List.lookup_cons, beq_eq_false_iff_ne.mpr h, Environment.about]

theorem Environment.source_cons_of_none {name : String} (h : Environment.key? name = none) (text : String)
    (rest : Environment) : Environment.source ((name, text) :: rest) = Environment.source rest := by
  simp [Environment.source, h]

theorem Environment.source_cons_of_some {name key : String} (h : Environment.key? name = some key)
    (text : String) (rest : Environment) : Environment.source ((name, text) :: rest)
      = (key, Environment.value text) :: Environment.source rest := by
  simp [Environment.source, h]

/-- All members are groups of settings, and nothing is in them twice. -/
structure Members.Documented (ms : Members) : Prop where
  nodup : (ms.map Prod.fst).Nodup
  group : ∀ m ∈ ms, ∃ x : Setting, m.1 = x.group ∧ ∃ inner, m.2 = .table inner ∧
    (inner.map Prod.fst).Nodup ∧ ∀ v ∈ inner, ∃ y : Setting, y.group = x.group ∧ v.1 = y.key

/-- Each variable of the program is for a setting or names the file. No variable is there twice. -/
structure Environment.Documented (env : Environment) : Prop where
  nodup : (env.map Prod.fst).Nodup
  setting : ∀ v ∈ env, Environment.key? v.1 ≠ none →
    v.1 = Environment.pathVariable ∨ ∃ x : Setting, v.1 = x.variableName

theorem Datum.table?_eq_some_iff {d : Datum} {ms : Members} : d.table? = some ms ↔ d = .table ms := by
  cases d <;> simp [Datum.table?]

/-- Whether there is a setting of some kind can be found out, since there are only six. -/
instance (p : Setting → Prop) [DecidablePred p] : Decidable (∃ x, p x) :=
  decidable_of_iff (∃ x ∈ [Setting.period, .speed, .offered, .reschedule, .policy, .limit], p x)
    ⟨fun ⟨x, _, hx⟩ => ⟨x, hx⟩, fun ⟨x, hx⟩ => ⟨x, by cases x <;> simp, hx⟩⟩

theorem Members.documented_iff {ms : Members} : ms.Documented ↔ (ms.map Prod.fst).Nodup ∧
    ∀ m ∈ ms, ∃ x : Setting, m.1 = x.group ∧ ∃ inner ∈ m.2.table?, (inner.map Prod.fst).Nodup ∧
      ∀ v ∈ inner, ∃ y : Setting, y.group = x.group ∧ v.1 = y.key := by
  simp only [Option.mem_def, Datum.table?_eq_some_iff]
  exact ⟨fun h => ⟨h.nodup, h.group⟩, fun ⟨hnodup, hgroup⟩ => ⟨hnodup, hgroup⟩⟩

instance (ms : Members) : Decidable ms.Documented := decidable_of_iff _ Members.documented_iff.symm

instance (env : Environment) : Decidable env.Documented :=
  decidable_of_iff ((env.map Prod.fst).Nodup ∧ ∀ v ∈ env, Environment.key? v.1 ≠ none →
      v.1 = Environment.pathVariable ∨ ∃ x : Setting, v.1 = x.variableName)
    ⟨fun ⟨hnodup, hsetting⟩ => ⟨hnodup, hsetting⟩, fun h => ⟨h.nodup, h.setting⟩⟩

/-! ## One datum over another -/

/-- Groups of settings are tables, where there are any. -/
def Members.Grouped (ms : Members) : Prop :=
  ∀ (x : Setting) d, ms.lookup x.group = some d → ∃ inner, d = .table inner

theorem Datum.over_of_table? {d : Datum} (h : d.table? = none) (old : Option Datum) : d.over old = d := by
  cases d with
  | table ms => cases h
  | _ => rfl

theorem Datum.over_none_table (ms : Members) :
    (Datum.table ms).over none = .table (overMembers [] ms) := by
  cases ms <;> rfl

/-- What stands under a name when members are laid over others. -/
theorem lookup_overMembers {ms : Members} (name : String) (hnodup : (ms.map Prod.fst).Nodup)
    (hfolded : ∀ m ∈ ms, Folded.text m.1 = m.1) : ∀ old : Members,
    (overMembers old ms).lookup name
      = ((ms.lookup name).map fun d => d.over (old.lookup name)).or (old.lookup name) := by
  induction ms with
  | nil =>
    intro old
    rfl
  | cons m rest ih =>
    intro old
    obtain ⟨n, d⟩ := m
    rw [List.map_cons, List.nodup_cons] at hnodup
    rw [overMembers, hfolded (n, d) List.mem_cons_self,
      ih hnodup.2 fun m hm => hfolded m (List.mem_cons_of_mem _ hm), List.lookup_cons]
    by_cases hn : name = n
    · -- the name is not met again in the rest
      subst hn
      rw [Entries.lookup_put, Entries.lookup_eq_none_of_notMem hnodup.1]
      simp
    · rw [Entries.lookup_put_of_ne _ _ hn, beq_eq_false_iff_ne.mpr hn]

/-! ## A file -/

section File

variable {ms : Members} {x : Setting} {inner : Members}

theorem set_group (ms : Members) (x : Setting) (inner : Members) :
    ms.set x.group (.table inner)
      = Entries.put x.group ((Datum.table inner).over (ms.lookup x.group)) ms := by
  rw [Members.set, x.steps_group]
  show overMembers ms [(x.group, .table inner)] = _
  rw [overMembers, overMembers, x.folded_group]

theorem about_set_group (hin : (inner.map Prod.fst).Nodup)
    (hkeys : ∀ v ∈ inner, ∃ y : Setting, v.1 = y.key) (hnone : ms.lookup x.group = none) (y : Setting) :
    (ms.set x.group (.table inner)).about y
      = if y.group = x.group then (inner.lookup y.key).map (Datum.over none) else ms.about y := by
  have hfolded : ∀ v ∈ inner, Folded.text v.1 = v.1 := by
    intro v hv
    obtain ⟨y, hy⟩ := hkeys v hv
    rw [hy, y.folded_key]
  rw [set_group, hnone, Datum.over_none_table, Members.about]
  split
  · next h =>
    rw [h, Entries.lookup_put, Option.bind_some, Datum.members, lookup_overMembers _ hin hfolded]
    simp
  · next h => rw [Entries.lookup_put_of_ne _ _ h, Members.about]

theorem grouped_set_group (h : ms.Grouped) (hnone : ms.lookup x.group = none) :
    (ms.set x.group (.table inner)).Grouped := by
  intro y d hd
  rw [set_group, hnone, Datum.over_none_table] at hd
  by_cases hy : y.group = x.group
  · rw [hy, Entries.lookup_put, Option.some.injEq] at hd
    exact ⟨_, hd.symm⟩
  · rw [Entries.lookup_put_of_ne _ _ hy] at hd
    exact h y d hd

theorem lookup_set_group_of_ne {name : String} (h : name ≠ x.group) :
    (ms.set x.group (.table inner)).lookup name = ms.lookup name := by
  rw [set_group, Entries.lookup_put_of_ne _ _ h]

/-- A file is laid over what has none of its groups yet. -/
theorem lay_file {file : Members} (hfile : file.Documented) : ∀ {ms : Members}, ms.Grouped →
    (∀ m ∈ file, ms.lookup m.1 = none) → (ms.lay file).Grouped ∧ ∀ y,
      (ms.lay file).about y = ((file.about y).map (Datum.over none)).or (ms.about y) := by
  induction file with
  | nil => exact fun h _ => ⟨h, fun _ => rfl⟩
  | cons m rest ih =>
    intro ms hms hnone
    obtain ⟨hnodup, hgroup⟩ := hfile
    rw [List.map_cons, List.nodup_cons] at hnodup
    obtain ⟨x, hx, inner, hinner, hin, hkeys⟩ := hgroup m List.mem_cons_self
    obtain ⟨name, d⟩ := m
    subst hx hinner
    -- the first group is not met again, so the rest of the file is still laid over nothing
    have hfree := hnone _ List.mem_cons_self
    have hrest : ∀ m ∈ rest, (ms.set x.group (.table inner)).lookup m.1 = none := by
      intro m hm
      rw [lookup_set_group_of_ne]
      · exact hnone m (List.mem_cons_of_mem _ hm)
      · intro heq
        have hmem : m.1 ∈ rest.map Prod.fst := List.mem_map_of_mem hm
        rw [heq] at hmem
        exact hnodup.1 hmem
    obtain ⟨hgrouped, habout⟩ := ih ⟨hnodup.2, fun m hm => hgroup m (List.mem_cons_of_mem _ hm)⟩
      (grouped_set_group hms hfree) hrest
    have hkeys' : ∀ v ∈ inner, ∃ y : Setting, v.1 = y.key := fun v hv => (hkeys v hv).imp fun _ => And.right
    refine ⟨hgrouped, fun y => ?_⟩
    show ((ms.set x.group (.table inner)).lay rest).about y = _
    rw [habout y, about_set_group hin hkeys' hfree]
    by_cases hy : y.group = x.group
    · rw [if_pos hy, ← hy, Members.about_cons_self]
      rw [← hy] at hnodup hfree
      rw [Members.about_of_lookup_eq_none hfree,
        Members.about_of_lookup_eq_none (Entries.lookup_eq_none_of_notMem hnodup.1)]
      simp [Datum.members]
    · rw [if_neg hy, Members.about_cons_of_ne hy]

theorem grouped_nil : Members.Grouped [] := fun _ _ h => by cases h

end File

/-! ## Single values -/

section Values

variable {ms : Members} {x : Setting} {d : Datum}

theorem set_path (h : d.table? = none) : ms.set x.path d
    = Entries.put x.group
        (.table (Entries.put x.key d ((ms.lookup x.group).getD .nothing).members)) ms := by
  rw [Members.set, x.steps_path]
  show Entries.put x.group (.table (overMembers _ [(x.key, d)])) ms = _
  rw [overMembers, overMembers, x.folded_key, Datum.over_of_table? h]

/-- A value is set for its own setting and for no other. -/
theorem about_set_path (h : d.table? = none) (y : Setting) :
    (ms.set x.path d).about y = if y = x then some d else ms.about y := by
  rw [set_path h, Members.about, Members.about]
  by_cases hgroup : y.group = x.group
  · rw [hgroup, Entries.lookup_put, Option.bind_some, Datum.members]
    by_cases hy : y = x
    · rw [if_pos hy, hy, Entries.lookup_put]
    · rw [if_neg hy, Entries.lookup_put_of_ne _ _ fun hkey => hy (Setting.eq_of_key_eq hkey)]
      cases ms.lookup x.group <;> rfl
  · rw [Entries.lookup_put_of_ne _ _ hgroup, if_neg]
    rintro rfl
    exact hgroup rfl

theorem grouped_set_path (hms : ms.Grouped) (h : d.table? = none) :
    (ms.set x.path d).Grouped := by
  intro y e he
  rw [set_path h] at he
  by_cases hy : y.group = x.group
  · rw [hy, Entries.lookup_put, Option.some.injEq] at he
    exact ⟨_, he.symm⟩
  · rw [Entries.lookup_put_of_ne _ _ hy] at he
    exact hms y e he

end Values

/-! ## Variables -/

namespace Environment

theorem table?_value (text : String) : (value text).table? = none := by
  rw [value]
  split
  · rfl
  · split
    · rfl
    · split
      · rfl
      · split <;> rfl

theorem key?_pathVariable : key? pathVariable = some "config_path" := by decide +kernel

end Environment

section Variables

variable {ms : Members}

/-- The variable that names the file leaves a member that is no group. -/
theorem set_pathVariable (d : Datum) (h : d.table? = none) :
    ms.set "config_path" d = Entries.put "config_path" d ms := by
  have hpath : KeyStep.path "config_path" = ("config_path", []) := by decide +kernel
  have hfolded : Folded.text "config_path" = "config_path" := by decide +kernel
  rw [Members.set, hpath]
  show overMembers ms [("config_path", d)] = _
  rw [overMembers, overMembers, hfolded, Datum.over_of_table? h]

theorem lookup_set_pathVariable (d : Datum) (h : d.table? = none) (y : Setting) :
    (ms.set "config_path" d).lookup y.group = ms.lookup y.group := by
  rw [set_pathVariable d h, Entries.lookup_put_of_ne]
  cases y <;> decide

theorem grouped_set_pathVariable (d : Datum) (h : d.table? = none) (hms : ms.Grouped) :
    (ms.set "config_path" d).Grouped := by
  intro y e he
  rw [lookup_set_pathVariable d h] at he
  exact hms y e he

theorem about_set_pathVariable (d : Datum) (h : d.table? = none) (y : Setting) :
    (ms.set "config_path" d).about y = ms.about y := by
  rw [Members.about, lookup_set_pathVariable d h, Members.about]

theorem lay_variables {env : Environment} (henv : env.Documented) : ∀ {ms : Members}, ms.Grouped →
    (ms.lay env.source).Grouped ∧
      ∀ y, (ms.lay env.source).about y = (env.about y).or (ms.about y) := by
  induction env with
  | nil => exact fun h => ⟨h, fun _ => rfl⟩
  | cons v rest ih =>
    intro ms hms
    obtain ⟨hnodup, hsetting⟩ := henv
    rw [List.map_cons, List.nodup_cons] at hnodup
    have hrest : Environment.Documented rest :=
      ⟨hnodup.2, fun v hv => hsetting v (List.mem_cons_of_mem _ hv)⟩
    have hmissing := Entries.lookup_eq_none_of_notMem hnodup.1
    obtain ⟨name, text⟩ := v
    cases hkey : Environment.key? name with
    | none =>
      -- not a variable of the program
      rw [Environment.source_cons_of_none hkey]
      refine ⟨(ih hrest hms).1, fun y => ?_⟩
      rw [(ih hrest hms).2, Environment.about_cons_of_ne]
      rintro rfl
      rw [y.key?_variableName] at hkey
      cases hkey
    | some key =>
      rw [Environment.source_cons_of_some hkey]
      show ((ms.set key _).lay _).Grouped ∧ ∀ y, ((ms.set key _).lay _).about y = _
      obtain hname | ⟨x, hname⟩ := hsetting _ List.mem_cons_self (by rw [hkey]; nofun)
      · -- it names the file
        subst hname
        rw [Environment.key?_pathVariable, Option.some.injEq] at hkey
        subst hkey
        have hgrouped : (ms.set "config_path" (Environment.value text)).Grouped :=
          grouped_set_pathVariable _ (Environment.table?_value text) hms
        refine ⟨(ih hrest hgrouped).1, fun y => ?_⟩
        rw [(ih hrest hgrouped).2, Environment.about_cons_of_ne (by cases y <;> decide),
          about_set_pathVariable _ (Environment.table?_value text)]
      · -- it is for a setting
        subst hname
        rw [x.key?_variableName, Option.some.injEq] at hkey
        subst hkey
        have hgrouped : (ms.set x.path (Environment.value text)).Grouped :=
          grouped_set_path hms (Environment.table?_value text)
        refine ⟨(ih hrest hgrouped).1, fun y => ?_⟩
        rw [(ih hrest hgrouped).2, about_set_path (Environment.table?_value text)]
        by_cases hy : y = x
        · subst hy
          have hsilent : Environment.about rest y = none := by
            rw [Environment.about, hmissing, Option.map_none]
          rw [if_pos rfl, hsilent, Environment.about_cons_self]
          rfl
        · rw [if_neg hy,
            Environment.about_cons_of_ne fun h => hy (Setting.eq_of_variableName_eq h)]

end Variables

/-! ## Wishes -/

theorem Wishes.table?_of_about {w : Wishes} {x : Setting} {d : Datum} (h : w.about x = some d) :
    d.table? = none := by
  cases x with
  | period | speed | policy =>
    obtain ⟨a, -, rfl⟩ := Option.map_eq_some_iff.mp h
    rfl
  | offered | reschedule | limit => cases h

/-- Wishes are a source of values for three of the settings. -/
theorem Wishes.source_eq (w : Wishes) :
    w.source = [.period, .speed, .policy].flatMap fun x => (w.about x).toList.map fun d => (x.path, d) := by
  obtain ⟨path, period, speed, policy⟩ := w
  have hperiod : Setting.period.path = "playback.base_period_ms" := by decide +kernel
  have hspeed : Setting.speed.path = "playback.default_speed" := by decide +kernel
  have hpolicy : Setting.policy.path = "compiler.unrecognized_blocks" := by decide +kernel
  cases period <;> cases speed <;> cases policy <;>
    simp [Wishes.source, Wishes.about, hperiod, hspeed, hpolicy]

theorem lay_values {v : Setting → Option Datum} (hv : ∀ x d, v x = some d → d.table? = none)
    (xs : List Setting) : ∀ {ms : Members}, ms.Grouped →
      (ms.lay (xs.flatMap fun x => (v x).toList.map fun d => (x.path, d))).Grouped ∧
        ∀ y, (ms.lay (xs.flatMap fun x => (v x).toList.map fun d => (x.path, d))).about y
          = if y ∈ xs then (v y).or (ms.about y) else ms.about y := by
  induction xs with
  | nil => exact fun h => ⟨h, fun _ => rfl⟩
  | cons x rest ih =>
    intro ms hms
    rw [List.flatMap_cons]
    cases hx : v x with
    | none =>
      show (ms.lay (rest.flatMap _)).Grouped ∧ ∀ y, (ms.lay (rest.flatMap _)).about y = _
      refine ⟨(ih hms).1, fun y => ?_⟩
      rw [(ih hms).2]
      by_cases hy : y = x
      · subst hy
        simp [hx]
      · simp [hy]
    | some d =>
      have hd := hv x d hx
      have hset : (ms.set x.path d).Grouped := grouped_set_path hms hd
      show ((ms.set x.path d).lay (rest.flatMap _)).Grouped ∧
        ∀ y, ((ms.set x.path d).lay (rest.flatMap _)).about y = _
      refine ⟨(ih hset).1, fun y => ?_⟩
      rw [(ih hset).2, about_set_path hd]
      by_cases hy : y = x
      · subst hy
        simp [hx]
      · simp [hy]

theorem lay_wishes {ms : Members} (hms : ms.Grouped) (w : Wishes) :
    (ms.lay w.source).Grouped ∧ ∀ y, (ms.lay w.source).about y = (w.about y).or (ms.about y) := by
  obtain ⟨hgrouped, habout⟩ := lay_values (fun x d => Wishes.table?_of_about (w := w))
    [.period, .speed, .policy] hms
  rw [w.source_eq]
  refine ⟨hgrouped, fun y => ?_⟩
  rw [habout]
  cases y <;> rfl

/-! ## All sources -/

/-- What all sources say about a setting: wishes come before variables, and variables before the file. -/
def said (file : Members) (env : Environment) (w : Wishes) (x : Setting) : Option Datum :=
  (w.about x).or ((env.about x).or ((file.about x).map (Datum.over none)))

theorem lay_sources {file : Members} {env : Environment} (hfile : file.Documented)
    (henv : env.Documented) (w : Wishes) :
    (Members.lay (Members.lay (Members.lay [] file) env.source) w.source).Grouped ∧
      ∀ x, (Members.lay (Members.lay (Members.lay [] file) env.source) w.source).about x
        = said file env w x := by
  obtain ⟨hgrouped₁, habout₁⟩ := lay_file hfile grouped_nil fun _ _ => rfl
  obtain ⟨hgrouped₂, habout₂⟩ := lay_variables henv hgrouped₁
  obtain ⟨hgrouped₃, habout₃⟩ := lay_wishes hgrouped₂ w
  refine ⟨hgrouped₃, fun x => ?_⟩
  rw [habout₃, habout₂, habout₁]
  show (w.about x).or ((env.about x).or (Option.or _ none)) = _
  rw [Option.or_none, said]

end BlockPlayer
