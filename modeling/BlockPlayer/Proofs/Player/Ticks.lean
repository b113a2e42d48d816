import BlockPlayer.Proofs.Player.Ledger

/-!
# The timer that drives a player

Requests, late ticks and callbacks within callbacks may come in any order. Whenever somebody else than
the player has the word, the player runs if and only if exactly one timer is live, and that is the one
which it holds. The tick of another timer comes to nothing. And a timer that was told not to go on is
not the one that drives the player, so no player is left waiting for ticks that never come.

* `running_iff_one_live` — all of it, for every run from a new player
-/

namespace BlockPlayer

/-- Why the player does what it does when a callback returns, if it is on its way through its program. -/
def Frame.cause? : Frame → Option Cause
  | emitted _ _ cause => some cause
  | marked _ cause => some cause
  | cleared cause => some cause
  | rewound _ => none

namespace Player

theorem cause_of_advance {p q : Player} {cause : Cause} {e : Event} {f : Frame}
    (h : p.advance cause = (q, .tell e f)) : f.cause? = some cause := by
  unfold advance at h
  split at h
  · cases h
    rfl
  · cases h
    rfl

/-- A tick tells something only on behalf of the timer that fired. -/
theorem cause_of_fire {p q : Player} {i : Nat} {e : Event} {f : Frame}
    (h : p.fire i = (q, .tell e f)) :
    ∃ t, p.timers[i]? = some t ∧ f.cause? = some (.tick t.epoch) := by
  unfold fire at h
  split at h
  · cases h
  · next t ht =>
    split at h
    · exact ⟨t, ht, cause_of_advance h⟩
    · cases h

/-- A frame that comes after another has the same cause. -/
theorem cause_of_resume {p q : Player} {f g : Frame} {e : Event}
    (h : p.resume f = (q, .tell e g)) : g.cause? = f.cause? := by
  obtain ⟨i, cause, rfl, -, -, rfl⟩ := resume_tell h
  rfl

/-- When the tick of a timer ends with the word that it shall not go on, the timer is not live. -/
theorem Sound.not_isLive_of_resume {p q : Player} {f : Frame} {i : Nat} {t : Timer} (h : p.Sound)
    (ht : p.timers[i]? = some t) (hf : f.cause? = some (.tick t.epoch))
    (hq : p.resume f = (q, .answer (.ticked false))) : ¬ q.IsLive i := by
  cases f with
  | emitted j epoch cause =>
    cases hf
    rw [resume] at hq
    split at hq
    · cases hq
    · cases hq
  | marked j cause =>
    cases hf
    cases hq
  | cleared cause =>
    cases hf
    rw [resume, conclude] at hq
    · split at hq
      · -- the timer has nothing more to do, and is taken away
        cases hq
        rw [h.cancel.isLive_iff]
        intro hi
        cases hi
      · -- another has taken its place before
        next hne =>
        cases hq
        rw [h.isLive_iff, ← h.epoch_eq_iff ht]
        exact fun he => hne he.symm
    · rintro i ⟨⟩
  | rewound next => cases hf

/-- The same for a tick that came late. -/
theorem Sound.not_isLive_of_fire {p q : Player} {i : Nat} (h : p.Sound) (hi : i < p.timers.length)
    (hq : p.fire i = (q, .answer (.ticked false))) : ¬ q.IsLive i := by
  have ht := List.getElem?_eq_getElem hi
  unfold fire at hq
  rw [ht] at hq
  dsimp only at hq
  split at hq
  · unfold advance at hq
    split at hq <;> cases hq
  · next hne =>
    cases hq
    rw [h.isLive_iff, ← h.epoch_eq_iff ht]
    exact hne

end Player

namespace Ledger

open Player

/-- If the call is the tick of a timer, that timer is the frame's cause. -/
def TickOf (p : Player) (c : Call) (f : Frame) : Prop :=
  ∀ i, c.move = .fire i → i < c.player.timers.length →
    ∃ t, p.timers[i]? = some t ∧ f.cause? = some (.tick t.epoch)

theorem kept_tickOf : Kept 0 TickOf where
  later := by
    intro p q c f hpq h i hm hi
    obtain ⟨t, ht, hf⟩ := h i hm hi
    obtain ⟨u, hu, he, -, -⟩ := hpq.timers i t ht
    exact ⟨u, hu, by rw [he]; exact hf⟩
  opened := by
    intro p q m e f k ho _ i hm hi
    cases hm
    generalize hqt : (q, Turn.tell e f) = t at ho
    cases ho
    obtain ⟨t, ht, hf⟩ := cause_of_fire hqt.symm
    have hl : p.Later (p.fire i).1 := .changes (p.changes_fire i)
    rw [← hqt] at hl
    obtain ⟨u, hu, he, -, -⟩ := hl.timers i t ht
    exact ⟨u, hu, by rw [he]; exact hf⟩
  resumed := by
    intro p q c f g e h hr i hm hi
    obtain ⟨t, ht, hf⟩ := h i hm hi
    have hl : p.Later (p.resume f).1 := .changes (p.changes_resume f)
    rw [hr] at hl
    obtain ⟨u, hu, he, -, -⟩ := hl.timers i t ht
    exact ⟨u, hu, by rw [he, cause_of_resume hr]; exact hf⟩

/-- The entry says that the timer at place `i`, which had been started by then, shall not go on. -/
structure Ends (e : Entry) (i : Nat) : Prop where
  move : e.call.move = .fire i
  started : i < e.call.player.timers.length
  report : e.report = .answered (.ticked false)

theorem not_isLive_of_ends {l : Ledger} (hs : l.player.Sound) (h : l.Holds TickOf) {m : Move}
    {i : Nat} (he : Ends (l.move m).2 i) :
    i < (l.move m).1.player.timers.length ∧ ¬ (l.move m).1.player.IsLive i := by
  obtain ⟨hm, hi, hr⟩ := he
  rcases l.move_cases m with ⟨t, ho, hl⟩ | ⟨c, f, waiting, hw, hl⟩ | ⟨-, hl⟩
  · -- the tick was over as soon as it had begun
    have hlen := ho.later.length_le
    rw [hl, call_book] at hm hi
    rw [hl] at hr ⊢
    rw [report_book, Turn.report_eq_answered] at hr
    rw [player_book]
    cases ho with
    | ask r => cases hm
    | fire j =>
      cases hm
      exact ⟨Nat.lt_of_lt_of_le hi hlen, hs.not_isLive_of_fire hi (Prod.ext rfl hr)⟩
  · -- a callback has returned that was told something on behalf of the timer
    rw [hl, call_book] at hm hi
    rw [hl, report_book, Turn.report_eq_answered] at hr
    obtain ⟨t, ht, hf⟩ := h (c, f) (by simp [hw]) i hm hi
    have hlen := (Later.changes (l.player.changes_resume f)).length_le
    rw [hl, player_book]
    have hlt : i < l.player.timers.length := (List.getElem?_eq_some_iff.mp ht).1
    exact ⟨Nat.lt_of_lt_of_le hlt hlen, hs.not_isLive_of_resume ht hf (Prod.ext rfl hr)⟩
  · rw [hl] at hm
    cases hm

/-- A timer that has ended never is live again. -/
theorem not_isLive_of_mem_run {l : Ledger} (hs : l.player.Sound) (h : l.Holds TickOf)
    (ms : List Move) : ∀ e ∈ (l.run ms).1, ∀ i, Ends e i → ¬ (l.run ms).2.player.IsLive i := by
  induction ms generalizing l with
  | nil => exact fun e he => absurd he List.not_mem_nil
  | cons m ms ih =>
    intro e he i hi
    rw [run_cons] at he ⊢
    rcases List.mem_cons.mp he with rfl | he
    · obtain ⟨hlt, hdead⟩ := not_isLive_of_ends hs h hi
      exact ((l.move m).1.later_run ms).not_isLive hlt hdead
    · exact ih (sound_move hs m) (kept_tickOf.move (Nat.zero_le _) h m) e he i hi

end Ledger

/--
**A player runs if and only if exactly one timer is live, the one that it holds.** This is so after any
moves, also amid callbacks. Its cursor stays within the program; when another timer fires, nothing
happens; and a timer that was told to end is not live any more, so it is not the one that is held.
-/
theorem Performance.running_iff_one_live (program : Program) (o : PlaybackOptions)
    (ms : List Move) :
    let s := ((ofPlayer (.new program o)).run ms).2
    s.player.cursor ≤ s.player.program.length ∧
      (s.player.mode = .running ↔
        ∃ i, s.player.held = some i ∧ ∀ j, s.player.IsLive j ↔ j = i) ∧
      (s.player.mode = .idle → ∀ j, ¬ s.player.IsLive j) ∧
      (∀ i, s.player.held ≠ some i → s.move (.fire i) = (s, .answered (.ticked false))) ∧
      ∀ e ∈ ((Ledger.ofPlayer (.new program o)).run ms).1, ∀ i, Ledger.Ends e i →
        ¬ s.player.IsLive i ∧ s.player.held ≠ some i := by
  intro s
  have hnew : (Player.new program o).Sound := Player.sound_new program o
  have hs : s.player.Sound := sound_run (s := ofPlayer (.new program o)) hnew ms
  refine ⟨hs.cursor_le, ⟨?_, ?_⟩, ?_, ?_, ?_⟩
  · intro hr
    obtain ⟨i, hi⟩ := hs.running_iff.mp hr
    refine ⟨i, hi, fun j => ?_⟩
    rw [hs.isLive_iff, hi, Option.some.injEq]
    exact eq_comm
  · rintro ⟨i, hi, -⟩
    exact hs.running_iff.mpr ⟨i, hi⟩
  · intro hm j hj
    have hr : s.player.mode = .running := hs.running_iff.mpr ⟨j, hs.isLive_iff.mp hj⟩
    rw [hm] at hr
    cases hr
  · intro i hi
    rw [move_fire, hs.fire_other hi]
    rfl
  · intro e he i hi
    have hdead := Ledger.not_isLive_of_mem_run (l := .ofPlayer (.new program o)) hnew
      (fun x hx => absurd hx List.not_mem_nil) ms e he i hi
    rw [Ledger.player_run] at hdead
    exact ⟨hdead, fun hh => hdead (hs.isLive_iff.mpr hh)⟩

end BlockPlayer
