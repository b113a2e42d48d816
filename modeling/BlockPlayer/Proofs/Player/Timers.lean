import BlockPlayer.Proofs.Player.Change

/-!
# The timers of a player

`Sound` says how the cursor, the mode, the timers and the epoch of a player belong together. Its core
is that the timer that drives the player is the one live timer, and the one whose epoch is the present
one; every other timer is older. So the epoch alone tells a tick that counts from one that came late.

`Later` says what becomes of the timers of a player in time: they stay where they are, with their
epochs, and one that is not live never is again.

* `Sound.change`, `Later.change` — every small change keeps both
* `sound_run`, `later_run` — and so does every run
-/

namespace BlockPlayer

namespace Player

/-! ## Live timers -/

/-- The timer at place `i` is neither cancelled nor let go. -/
def IsLive (p : Player) (i : Nat) : Prop := ∃ t, p.timers[i]? = some t ∧ t.live = true

theorem getElem?_silenced (p : Player) (i : Nat) :
    p.silenced[i]? = (p.timers[i]?).map fun t =>
      if p.held = some i then ⟨t.period, t.epoch, false⟩ else t := by
  unfold silenced
  split
  · next h => simp [h]
  · next k h =>
    rw [h, List.getElem?_modify]
    by_cases hk : k = i
    · simp [hk]
    · simp [hk]

/-- A timer that was silenced was there before, and is live only if it did not drive the player. -/
theorem of_getElem?_silenced {p : Player} {i : Nat} {u : Timer} (h : p.silenced[i]? = some u) :
    ∃ t : Timer, p.timers[i]? = some t ∧ u.epoch = t.epoch ∧ u.period = t.period ∧
      (p.held = some i → u.live = false) ∧ (p.held ≠ some i → u.live = t.live) := by
  rw [getElem?_silenced] at h
  obtain ⟨t, ht, rfl⟩ := Option.map_eq_some_iff.mp h
  refine ⟨t, ht, ?_⟩
  by_cases hh : p.held = some i
  · simp [hh]
  · simp [hh]

theorem getElem?_timers_start (p : Player) (i : Nat) :
    p.start.timers[i]? = if i = p.timers.length then some ⟨p.period, p.epoch + 1, true⟩
      else p.silenced[i]? := by
  have hlen : p.silenced.length = p.timers.length := p.length_silenced
  show (p.silenced ++ [_])[i]? = _
  by_cases hi : i < p.silenced.length
  · rw [List.getElem?_append_left hi, if_neg (by omega)]
  · rw [List.getElem?_append_right (by omega)]
    by_cases he : i = p.timers.length
    · simp [he, hlen]
    · rw [if_neg he, List.getElem?_eq_none (by simp; omega), List.getElem?_eq_none (by omega)]

/-! ## How the parts of a player belong together -/

/-- What holds between the parts of a player whenever somebody else has the word. -/
structure Sound (p : Player) : Prop where
  cursor_le : p.cursor ≤ p.program.length
  running_iff : p.mode = .running ↔ ∃ i, p.held = some i
  /-- The timer that drives the player is live, and of the present epoch. -/
  driver : ∀ i, p.held = some i → ∃ t, p.timers[i]? = some t ∧ t.live = true ∧ t.epoch = p.epoch
  /-- Every other timer is neither. -/
  others : ∀ i t, p.timers[i]? = some t → p.held ≠ some i → t.live = false ∧ t.epoch < p.epoch

theorem sound_new (program : Program) (o : PlaybackOptions) : (new program o).Sound where
  cursor_le := Nat.zero_le _
  running_iff := by simp [new]
  driver := by simp [new]
  others := by simp [new]

namespace Sound

variable {p : Player}

theorem epoch_le (h : p.Sound) {i : Nat} {t : Timer} (ht : p.timers[i]? = some t) :
    t.epoch ≤ p.epoch := by
  by_cases hh : p.held = some i
  · obtain ⟨u, hu, -, he⟩ := h.driver i hh
    rw [ht] at hu
    cases hu
    exact Nat.le_of_eq he
  · exact Nat.le_of_lt (h.others i t ht hh).2

/-- Once the timer that drives a player is silenced, no timer is live, and none of the next epoch. -/
theorem silenced (h : p.Sound) {i : Nat} {u : Timer} (hu : p.silenced[i]? = some u) :
    u.live = false ∧ u.epoch < p.epoch + 1 := by
  obtain ⟨t, ht, he, -, hdriver, hother⟩ := of_getElem?_silenced hu
  have hle : t.epoch ≤ p.epoch := h.epoch_le ht
  refine ⟨?_, by omega⟩
  by_cases hh : p.held = some i
  · exact hdriver hh
  · rw [hother hh]
    exact (h.others i t ht hh).1

theorem start (h : p.Sound) : p.start.Sound where
  cursor_le := h.cursor_le
  running_iff := ⟨fun _ => ⟨_, rfl⟩, fun _ => rfl⟩
  driver := by
    intro i hi
    cases hi
    exact ⟨_, by rw [getElem?_timers_start, if_pos rfl], rfl, rfl⟩
  others := by
    intro i t ht hi
    -- the timer that drove the player before is silenced, like all that came before it
    have hne : i ≠ p.timers.length := by
      intro he
      exact hi (congrArg some he.symm)
    rw [getElem?_timers_start, if_neg hne] at ht
    exact h.silenced ht

theorem cancel (h : p.Sound) : p.cancel.Sound where
  cursor_le := h.cursor_le
  running_iff := ⟨nofun, nofun⟩
  driver := nofun
  others := fun _ _ ht _ => h.silenced ht

theorem rewind (h : p.Sound) : p.rewind.Sound where
  cursor_le := Nat.zero_le _
  running_iff := h.cancel.running_iff
  driver := h.cancel.driver
  others := h.cancel.others

/-- Every small change keeps a player sound. -/
theorem change {q : Player} (hc : Change p q) (h : p.Sound) : q.Sound := by
  cases hc with
  | start => exact h.start
  | cancel => exact h.cancel
  | rewind => exact h.rewind
  | forward hi => exact ⟨cursor_lt_of_current? hi, h.running_iff, h.driver, h.others⟩
  | withSpeed s => exact ⟨h.cursor_le, h.running_iff, h.driver, h.others⟩
  | replace program => exact ⟨Nat.min_le_right .., h.running_iff, h.driver, h.others⟩

/-- The live timers of a sound player are the one that drives it. -/
theorem isLive_iff (h : p.Sound) {i : Nat} : p.IsLive i ↔ p.held = some i := by
  constructor
  · rintro ⟨t, ht, hl⟩
    by_cases hh : p.held = some i
    · exact hh
    · rw [(h.others i t ht hh).1] at hl
      cases hl
  · intro hh
    obtain ⟨t, ht, hl, -⟩ := h.driver i hh
    exact ⟨t, ht, hl⟩

/-- Only the timer that drives a sound player is of the present epoch. -/
theorem epoch_eq_iff (h : p.Sound) {i : Nat} {t : Timer} (ht : p.timers[i]? = some t) :
    t.epoch = p.epoch ↔ p.held = some i := by
  constructor
  · intro he
    by_cases hh : p.held = some i
    · exact hh
    · have hlt := (h.others i t ht hh).2
      omega
  · intro hh
    obtain ⟨u, hu, -, he⟩ := h.driver i hh
    rw [ht] at hu
    cases hu
    exact he

/-- A timer that does not drive a sound player fires for nothing. -/
theorem fire_other (h : p.Sound) {i : Nat} (hi : p.held ≠ some i) :
    p.fire i = (p, .answer (.ticked false)) := by
  unfold fire
  split
  · rfl
  · next t ht =>
    rw [if_neg]
    intro he
    exact hi ((h.epoch_eq_iff ht).mp he)

end Sound

/-! ## What becomes of timers in time -/

/-- The player `q` may be what became of `p`, as far as epochs and timers tell. -/
structure Later (p q : Player) : Prop where
  epoch_le : p.epoch ≤ q.epoch
  /-- Timers stay in place, and none comes to life again. -/
  timers : ∀ (i : Nat) (t : Timer), p.timers[i]? = some t →
    ∃ u : Timer, q.timers[i]? = some u ∧ u.epoch = t.epoch ∧ u.period = t.period ∧
      (t.live = false → u.live = false)

namespace Later

variable {p q r : Player}

theorem refl (p : Player) : Later p p := ⟨Nat.le_refl _, fun _ t ht => ⟨t, ht, rfl, rfl, id⟩⟩

theorem trans (h : Later p q) (h' : Later q r) : Later p r where
  epoch_le := Nat.le_trans h.epoch_le h'.epoch_le
  timers := by
    intro i t ht
    obtain ⟨u, hu, he, hp, hl⟩ := h.timers i t ht
    obtain ⟨v, hv, he', hp', hl'⟩ := h'.timers i u hu
    exact ⟨v, hv, he'.trans he, hp'.trans hp, hl' ∘ hl⟩

theorem silenced {i : Nat} {t : Timer} (ht : p.timers[i]? = some t) :
    ∃ u : Timer, p.silenced[i]? = some u ∧ u.epoch = t.epoch ∧ u.period = t.period ∧
      (t.live = false → u.live = false) := by
  rw [getElem?_silenced, ht]
  by_cases hh : p.held = some i
  · exact ⟨⟨t.period, t.epoch, false⟩, by simp [hh], rfl, rfl, fun _ => rfl⟩
  · exact ⟨t, by simp [hh], rfl, rfl, id⟩

theorem start (p : Player) : Later p p.start where
  epoch_le := Nat.le_succ _
  timers := by
    intro i t ht
    have hlt : i < p.timers.length := (List.getElem?_eq_some_iff.mp ht).1
    rw [getElem?_timers_start, if_neg (Nat.ne_of_lt hlt)]
    exact silenced ht

theorem cancel (p : Player) : Later p p.cancel := ⟨Nat.le_succ _, fun _ _ ht => silenced ht⟩

/-- A small change makes a later player. -/
theorem change (hc : Change p q) : Later p q := by
  cases hc with
  | start => exact start p
  | cancel => exact cancel p
  | rewind => exact ⟨Nat.le_succ _, (cancel p).timers⟩
  | forward => exact ⟨Nat.le_refl _, (refl p).timers⟩
  | withSpeed s => exact ⟨Nat.le_refl _, (refl p).timers⟩
  | replace program => exact ⟨Nat.le_refl _, (refl p).timers⟩

theorem changes (h : Changes p q) : Later p q :=
  h.keeps (I := Later p) (fun hc hp => hp.trans (change hc)) (refl p)

theorem length_le (h : Later p q) : p.timers.length ≤ q.timers.length := by
  by_cases hp : p.timers.length = 0
  · omega
  · have hlt : p.timers.length - 1 < p.timers.length := by omega
    obtain ⟨u, hu, -⟩ := h.timers _ _ (List.getElem?_eq_getElem hlt)
    have := (List.getElem?_eq_some_iff.mp hu).1
    omega

/-- A timer that is there and not live never is live again. -/
theorem not_isLive (h : Later p q) {i : Nat} (hi : i < p.timers.length) (hl : ¬ p.IsLive i) :
    ¬ q.IsLive i := by
  obtain ⟨u, hu, -, -, hdead⟩ := h.timers i _ (List.getElem?_eq_getElem hi)
  rintro ⟨v, hv, hlive⟩
  rw [hu] at hv
  cases hv
  cases hpl : p.timers[i].live with
  | true => exact hl ⟨_, List.getElem?_eq_getElem hi, hpl⟩
  | false =>
    rw [hdead hpl] at hlive
    cases hlive

end Later

end Player

/-! ## Moves and runs -/

namespace Performance

open Player

theorem sound_move {s : Performance} (h : s.player.Sound) (m : Move) :
    (s.move m).1.player.Sound :=
  (s.changes_move m).keeps Sound.change h

theorem sound_run {s : Performance} (h : s.player.Sound) (ms : List Move) :
    (s.run ms).2.player.Sound :=
  (s.changes_run ms).keeps Sound.change h

theorem later_move (s : Performance) (m : Move) : s.player.Later (s.move m).1.player :=
  .changes (s.changes_move m)

theorem later_run (s : Performance) (ms : List Move) : s.player.Later (s.run ms).2.player :=
  .changes (s.changes_run ms)

end Performance

end BlockPlayer
