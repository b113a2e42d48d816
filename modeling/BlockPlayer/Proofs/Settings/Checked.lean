import Mathlib.Data.List.Basic
import BlockPlayer.Proofs.Decimal.Bits
import BlockPlayer.Proofs.Json.Record
import BlockPlayer.Settings.Load

/-!
# Checked settings

Settings are checked before they are used, and everything that is made out of them checks its part again.
What the check accepts is said in one condition on the multipliers (`validate_eq_ok_iff`); what each of the
others needs follows from it.

Main statement: settings that were checked can be used for everything, and no others would do
(`checked_settings_serve`).
-/

namespace BlockPlayer

/-! ## Multipliers -/

namespace Speed

theorem ofMultiplier_eq_ok_iff {m : Float} {v : Speed} :
    ofMultiplier m = .ok v ↔ v.multiplier = m := by
  constructor
  · intro h
    rw [ofMultiplier] at h
    split at h
    · cases h
      rfl
    · cases h
  · rintro rfl
    exact ofMultiplier_multiplier v

end Speed

namespace Settings

variable {s : Settings}

theorem defaultSpeed_eq_ok_iff {v : Speed} :
    s.defaultSpeed = .ok v ↔ v.multiplier = s.playback.speed := by
  rw [defaultSpeed, Json.mapError_eq_ok_iff, Speed.ofMultiplier_eq_ok_iff]

theorem offeredSpeed_eq_ok_iff {m : Float} {v : Speed} :
    offeredSpeed m = .ok v ↔ v.multiplier = m := by
  rw [offeredSpeed, Json.mapError_eq_ok_iff, Speed.ofMultiplier_eq_ok_iff]

theorem mapM_offeredSpeed {offered : List Float} : ∀ {vs : List Speed},
    offered.mapM offeredSpeed = .ok vs ↔ vs.map Speed.multiplier = offered := by
  induction offered with
  | nil =>
    intro vs
    rw [List.map_eq_nil_iff]
    exact ⟨fun h => by cases h; rfl, by rintro rfl; rfl⟩
  | cons m rest ih =>
    intro vs
    rw [List.mapM_cons]
    constructor
    · intro h
      obtain ⟨v, hv, h⟩ := Json.bind_eq_ok h
      obtain ⟨ws, hws, h⟩ := Json.bind_eq_ok h
      cases h
      rw [List.map_cons, offeredSpeed_eq_ok_iff.mp hv, ih.mp hws]
    · intro h
      obtain ⟨v, ws, rfl, hv, hws⟩ := List.map_eq_cons_iff.mp h
      rw [offeredSpeed_eq_ok_iff.mpr hv, ih.mpr hws]
      rfl

/-- The speeds on offer are those of the multipliers, one for each, in their order. -/
theorem speeds_eq_ok_iff {vs : List Speed} :
    s.speeds = .ok vs ↔ vs.map Speed.multiplier = s.playback.offered :=
  mapM_offeredSpeed

theorem exists_speeds_iff :
    (∃ vs, s.speeds = .ok vs) ↔ ∀ m ∈ s.playback.offered, Speed.admits m = true := by
  simp only [speeds_eq_ok_iff]
  constructor
  · rintro ⟨vs, hvs⟩ m hm
    rw [← hvs] at hm
    obtain ⟨v, -, rfl⟩ := List.mem_map.mp hm
    exact v.admitted
  · intro h
    refine ⟨s.playback.offered.pmap (fun m hm => ⟨m, hm⟩) h, ?_⟩
    rw [List.map_pmap, List.pmap_eq_map, List.map_id']

/-! ## The check -/

theorem contains_speed_iff (h : Speed.admits s.playback.speed = true) :
    s.playback.offered.contains s.playback.speed = true ↔ s.playback.speed ∈ s.playback.offered := by
  rw [List.contains_iff_exists_mem_beq]
  constructor
  · rintro ⟨m, hm, heq⟩
    rwa [(Double.beq_iff_eq_of_admits h).mp heq]
  · intro hm
    exact ⟨_, hm, (Double.beq_iff_eq_of_admits h).mpr rfl⟩

/-- **What the check accepts.** -/
theorem validate_eq_ok_iff : s.validate = .ok () ↔
    s.playback.period ≠ 0 ∧ (∀ m ∈ s.playback.offered, Speed.admits m = true) ∧
      Speed.admits s.playback.speed = true ∧ s.playback.speed ∈ s.playback.offered ∧
      s.compiler.limit ≠ 0 := by
  simp only [validate, bind, Except.bind, throw, throwThe, MonadExceptOf.throw, pure, Except.pure]
  constructor
  · intro h
    split at h
    · cases h
    next hperiod =>
    split at h
    · cases h
    cases hspeeds : s.speeds with
    | error e => simp only [hspeeds] at h; cases h
    | ok vs =>
      cases hdefault : s.defaultSpeed with
      | error e => simp only [hspeeds, hdefault] at h; cases h
      | ok v =>
        simp only [hspeeds, hdefault] at h
        have hspeed : Speed.admits s.playback.speed = true := by
          rw [← defaultSpeed_eq_ok_iff.mp hdefault]
          exact v.admitted
        split at h
        · cases h
        next hoffered =>
        split at h
        · cases h
        next hlimit =>
        rw [Bool.not_eq_true', Bool.not_eq_false, contains_speed_iff hspeed] at hoffered
        exact ⟨hperiod, exists_speeds_iff.mp ⟨vs, hspeeds⟩, hspeed, hoffered, hlimit⟩
  · rintro ⟨hperiod, hadmitted, hspeed, hoffered, hlimit⟩
    obtain ⟨vs, hspeeds⟩ := exists_speeds_iff.mpr hadmitted
    have hdefault : s.defaultSpeed = .ok ⟨s.playback.speed, hspeed⟩ :=
      defaultSpeed_eq_ok_iff.mpr rfl
    have hsome : s.playback.offered.isEmpty = false := by
      rw [List.isEmpty_eq_false_iff]
      exact List.ne_nil_of_mem hoffered
    rw [if_neg hperiod, hsome, if_neg (by decide), hspeeds, hdefault]
    simp only [(contains_speed_iff hspeed).mpr hoffered]
    rw [if_neg (by decide), if_neg hlimit]

theorem validate_of_load {files : Files} {env : Environment} {w : Wishes}
    (h : load files env w = .ok s) : s.validate = .ok () := by
  obtain ⟨file, -, h⟩ := Json.bind_eq_ok h
  rw [ofSources] at h
  split at h
  · cases h
  · next s' _ =>
    cases hv : s'.validate with
    | error p => simp only [hv] at h; cases h
    | ok u =>
      simp only [hv] at h
      cases h
      exact hv

/-! ## What checked settings are good for -/

/-- The line for a multiplier on offer. -/
def line (s : Settings) (m : Float) : String :=
  (if m == s.playback.speed then "* " else "  ") ++ (Layout.message.write m ++ "x")

theorem speedLines_eq {v : Speed} {vs : List Speed} (hdefault : s.defaultSpeed = .ok v)
    (hspeeds : s.speeds = .ok vs) : s.speedLines = .ok (s.playback.offered.map s.line) := by
  rw [speedLines, hdefault, hspeeds, ← speeds_eq_ok_iff.mp hspeeds, List.map_map]
  show Except.ok _ = _
  congr 1
  refine List.map_congr_left fun w _ => ?_
  have hmark : (w.multiplier == s.playback.speed) = decide (w = v) := by
    rw [← defaultSpeed_eq_ok_iff.mp hdefault, Bool.eq_iff_iff, decide_eq_true_iff,
      Double.beq_iff_eq_of_admits w.admitted, Speed.mk.injEq]
  show _ = s.line w.multiplier
  rw [line, hmark]
  simp [Speed.text]

/-- A speed is selected exactly if its multiplier is on offer. -/
theorem selectSpeed_eq_ok_iff {vs : List Speed} (hspeeds : s.speeds = .ok vs) {m : Float}
    {v : Speed} : s.selectSpeed m = .ok v ↔ v.multiplier = m ∧ v ∈ vs := by
  rw [selectSpeed, hspeeds]
  cases hm : Speed.ofMultiplier m with
  | error e =>
    constructor
    · intro h
      cases h
    · rintro ⟨hv, -⟩
      rw [Speed.ofMultiplier_eq_ok_iff.mpr hv] at hm
      cases hm
  | ok u =>
    have hu := Speed.ofMultiplier_eq_ok_iff.mp hm
    have hv : u = v ↔ v.multiplier = m := by
      rw [← Speed.ofMultiplier_eq_ok_iff, hm, Except.ok.injEq]
    show (if u ∈ vs then Except.ok u else .error (SelectError.unavailable u vs)) = .ok v ↔ _
    split
    · next hmem =>
      rw [Except.ok.injEq, hv]
      refine ⟨fun h => ⟨h, ?_⟩, And.left⟩
      rwa [← hv.mpr h]
    · next hmem =>
      refine ⟨fun h => (by cases h), fun ⟨h, hin⟩ => absurd ?_ hmem⟩
      rwa [hv.mpr h]

theorem exists_selectSpeed_iff {vs : List Speed} (hspeeds : s.speeds = .ok vs) {m : Float} :
    (∃ v, s.selectSpeed m = .ok v) ↔ ∃ o ∈ s.playback.offered, (o == m) = true := by
  simp only [selectSpeed_eq_ok_iff hspeeds, ← speeds_eq_ok_iff.mp hspeeds, List.mem_map,
    exists_exists_and_eq_and]
  constructor
  · rintro ⟨v, rfl, hv⟩
    exact ⟨v, hv, (Double.beq_iff_eq_of_admits v.admitted).mpr rfl⟩
  · rintro ⟨v, hv, heq⟩
    exact ⟨v, (Double.beq_iff_eq_of_admits v.admitted).mp heq, hv⟩

theorem validate_eq_error_of (h : s.validate ≠ .ok ()) : ∃ p, s.validate = .error p := by
  cases hv : s.validate with
  | error p => exact ⟨p, rfl⟩
  | ok u => exact absurd hv h

/-- What all uses of settings give, if the default and the offer can be used at all. -/
structure Serves (s : Settings) : Prop where
  /-- The default is a speed, which is played and can be asked for. -/
  default : ∃ v, s.defaultSpeed = .ok v ∧ v.multiplier = s.playback.speed ∧
    s.playbackOptions = .ok ⟨s.base, v, s.playback.reschedule⟩ ∧
    s.selectSpeed s.playback.speed = .ok v
  /-- All multipliers on offer are speeds. -/
  speeds : ∃ vs, s.speeds = .ok vs ∧ vs.map Speed.multiplier = s.playback.offered
  /-- One line for each of them, in their order, and a mark at those that equal the default. -/
  lines : s.speedLines = .ok (s.playback.offered.map s.line)
  /-- There is a mark. -/
  marked : ∃ m ∈ s.playback.offered, (m == s.playback.speed) = true
  /-- What can be asked for is what is on offer. -/
  select : ∀ m, (∃ v, s.selectSpeed m = .ok v) ↔ ∃ o ∈ s.playback.offered, (o == m) = true

theorem serves_of_validate (h : s.validate = .ok ()) : s.Serves := by
  obtain ⟨-, hadmitted, hspeed, hoffered, -⟩ := validate_eq_ok_iff.mp h
  obtain ⟨vs, hspeeds⟩ := exists_speeds_iff.mpr hadmitted
  have hdefault : s.defaultSpeed = .ok ⟨s.playback.speed, hspeed⟩ := defaultSpeed_eq_ok_iff.mpr rfl
  have hmem : (⟨s.playback.speed, hspeed⟩ : Speed) ∈ vs := by
    rw [← speeds_eq_ok_iff.mp hspeeds] at hoffered
    obtain ⟨v, hv, heq⟩ := List.mem_map.mp hoffered
    rwa [show v = ⟨s.playback.speed, hspeed⟩ from Speed.mk.injEq .. ▸ heq] at hv
  exact
    { default := ⟨_, hdefault, rfl, by rw [playbackOptions, hdefault]; rfl,
        (selectSpeed_eq_ok_iff hspeeds).mpr ⟨rfl, hmem⟩⟩
      speeds := ⟨vs, hspeeds, speeds_eq_ok_iff.mp hspeeds⟩
      lines := speedLines_eq hdefault hspeeds
      marked := ⟨_, hoffered, (Double.beq_iff_eq_of_admits hspeed).mpr rfl⟩
      select := fun _ => exists_selectSpeed_iff hspeeds }

/-- Some multiplier cannot be a speed, or the default is not on offer. -/
def Unusable (s : Settings) : Prop :=
  (∃ m ∈ s.playback.offered, Speed.admits m = false) ∨ Speed.admits s.playback.speed = false ∨
    ∀ m ∈ s.playback.offered, (m == s.playback.speed) = false

theorem not_validate_of_unusable (h : s.Unusable) : s.validate ≠ .ok () := by
  intro hv
  obtain ⟨-, hadmitted, hspeed, -, -⟩ := validate_eq_ok_iff.mp hv
  obtain ⟨m, hm, heq⟩ := (serves_of_validate hv).marked
  obtain ⟨o, ho, hbad⟩ | hbad | hnone := h
  · exact absurd (hadmitted o ho) (by rw [hbad]; decide)
  · exact absurd hspeed (by rw [hbad]; decide)
  · exact absurd heq (by rw [hnone m hm]; decide)

/--
**Checked settings serve.** Settings that pass the check can be used for everything that is made out of
them, and so can all settings that are loaded. Settings with multipliers that are no speeds or with a default
that is not on offer do not pass.
-/
theorem checked_settings_serve (s : Settings) :
    (s.validate = .ok () → s.Serves) ∧
      (∀ files env w, load files env w = .ok s → s.Serves) ∧
      (s.Unusable → ∃ p, s.validate = .error p) :=
  ⟨serves_of_validate, fun _ _ _ h => serves_of_validate (validate_of_load h),
    fun h => validate_eq_error_of (not_validate_of_unusable h)⟩

end Settings

end BlockPlayer
