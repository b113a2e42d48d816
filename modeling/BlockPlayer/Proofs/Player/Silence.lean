import BlockPlayer.Proofs.Player.Ledger

/-!
# After a stop

Going back to the beginning silences the player: whatever it was doing, for whichever calls, nothing
more of that is told. What callbacks still hear belongs to calls that began after the stop.

The reason is the epoch. A frame in which a command was told keeps the epoch of that time, and no frame
keeps one that is yet to come (`kept_fromPast`). A stop begins a new epoch, so all frames that wait are
mute from then on (`kept_mute`): the epoch only grows.

* `stop_silences` — from a stop on, the calls up to it tell the reset and nothing else
-/

namespace BlockPlayer

namespace Ledger

/-! ## What is told, and for which call -/

/-- What the callbacks were told, with the numbers of the calls that it belongs to. -/
def told (entries : List Entry) : List (Nat × Event) :=
  entries.filterMap fun e => match e.report with
    | .told event => some (e.call.number, event)
    | .answered _ => none

/-- What the callbacks were told is what they were told in the performance. -/
theorem events_told (entries : List Entry) :
    (told entries).map Prod.snd = Performance.events (entries.map Entry.report) := by
  induction entries with
  | nil => rfl
  | cons e entries ih =>
    obtain ⟨c, r⟩ := e
    cases r with
    | told event => simpa [told, Performance.events] using ih
    | answered a => simpa [told, Performance.events] using ih

theorem told_append (xs ys : List Entry) : told (xs ++ ys) = told xs ++ told ys :=
  List.filterMap_append

theorem mem_told {entries : List Entry} {x : Nat × Event} (h : x ∈ told entries) :
    ∃ e ∈ entries, x.1 = e.call.number ∧ e.report = .told x.2 := by
  obtain ⟨e, he, hx⟩ := List.mem_filterMap.mp h
  split at hx
  · next event hr =>
    cases hx
    exact ⟨e, he, rfl, hr⟩
  · cases hx

/-! ## Mute frames -/

/-- The frame keeps no epoch that is yet to come. -/
def FromPast (p : Player) (_ : Call) (f : Frame) : Prop :=
  ∀ i epoch cause, f = .emitted i epoch cause → epoch ≤ p.epoch

/-- When the callback returns, it is no more the time at which the frame's command was told. -/
def IsMute (p : Player) (f : Frame) : Prop :=
  ∀ i epoch cause, f = .emitted i epoch cause → epoch < p.epoch

/-- The frames of all calls up to number `n` are mute. -/
def MuteTo (n : Nat) (p : Player) (c : Call) (f : Frame) : Prop := c.number ≤ n → IsMute p f

theorem epoch_of_advance {p q : Player} {cause cause' : Cause} {i : Instruction} {epoch : Nat}
    {e : Event} (h : p.advance cause = (q, .tell e (.emitted i epoch cause'))) :
    epoch = q.epoch := by
  unfold Player.advance at h
  split at h <;> cases h
  rfl

/-- A call that tells a command at once does so in the present epoch. -/
theorem epoch_of_opens {p q : Player} {m : Move} {cause : Cause} {i : Instruction} {epoch : Nat}
    {e : Event} (h : Opens p m (q, .tell e (.emitted i epoch cause))) : epoch = q.epoch := by
  generalize ht : (q, Turn.tell e (.emitted i epoch cause)) = t at h
  cases h with
  | ask r =>
    cases r with
    | play =>
      rw [Player.ask] at ht
      split at ht
      · cases ht
      · split at ht <;> cases ht
    | step =>
      rw [Player.ask] at ht
      split at ht
      · cases ht
      · exact epoch_of_advance ht.symm
    | stop => cases ht
    | setSpeed s =>
      rw [Player.ask] at ht
      split at ht <;> cases ht
    | load program =>
      rw [Player.ask] at ht
      split at ht <;> cases ht
  | fire j =>
    unfold Player.fire at ht
    split at ht
    · cases ht
    · split at ht
      · exact epoch_of_advance ht.symm
      · cases ht

theorem kept_fromPast : Kept 0 FromPast where
  later := by
    intro p q c f hpq h i epoch cause hf
    exact Nat.le_trans (h i epoch cause hf) hpq.epoch_le
  opened := by
    rintro p q m e f k ho - i epoch cause rfl
    exact Nat.le_of_eq (epoch_of_opens ho)
  resumed := by
    intro p q c f g e _ hr i epoch cause hg
    obtain ⟨j, cause', -, -, -, rfl⟩ := Player.resume_tell hr
    cases hg

/-- A frame that is mute makes nothing be told. -/
theorem not_tell_of_isMute {p q : Player} {f g : Frame} {e : Event} (h : IsMute p f) :
    p.resume f ≠ (q, .tell e g) := by
  intro hr
  obtain ⟨i, cause, rfl, -⟩ := Player.resume_tell hr
  exact Nat.lt_irrefl _ (h i p.epoch cause rfl)

theorem kept_mute (n : Nat) : Kept (n + 1) (MuteTo n) where
  later := by
    intro p q c f hpq h hc i epoch cause hf
    exact Nat.lt_of_lt_of_le (h hc i epoch cause hf) hpq.epoch_le
  opened := by
    intro p q m e f k _ hk hc
    have hc' : k ≤ n := hc
    omega
  resumed := by
    intro p q c f g e h hr hc
    exact absurd hr (not_tell_of_isMute (h hc))

/-! ## Stops -/

/-- A stop begins a new epoch, so it makes all frames mute. -/
theorem holds_stop {l : Ledger} (h : l.Holds FromPast) (c : Call) (next : Option Program) :
    (l.book c l.waiting (l.player.stop next)).1.Holds (MuteTo l.count) := by
  intro x hx _ i epoch cause hf
  rcases List.mem_cons.mp hx with rfl | hx
  · cases hf
  · have hle : epoch ≤ l.player.epoch := h x hx i epoch cause hf
    exact Nat.lt_succ_of_le hle

/-- A mute call only answers. -/
theorem answered_of_mute {l : Ledger} {n : Nat} (hn : n < l.count) (h : l.Holds (MuteTo n))
    {m : Move} (hm : (l.move m).2.call.number ≤ n) : ∃ a, (l.move m).2.report = .answered a := by
  rcases l.move_cases m with ⟨t, ho, hl⟩ | ⟨c, f, waiting, hw, hl⟩ | ⟨-, hl⟩
  · -- a call that begins now has a number of its own
    rw [hl, call_book] at hm
    exact absurd hn (Nat.not_lt_of_le hm)
  · rw [hl, call_book] at hm
    -- a frame of an old call is mute, so the callback returns to an answer
    have hf : IsMute l.player f := h (c, f) (by simp [hw]) hm
    rw [hl, report_book]
    cases hr : (l.player.resume f).2 with
    | tell e g =>
      have heq : l.player.resume f = ((l.player.resume f).1, .tell e g) := Prod.ext rfl hr
      exact absurd heq (not_tell_of_isMute hf)
    | answer a => exact ⟨a, rfl⟩
  · rw [hl]
    exact ⟨.done, rfl⟩

/-- Mute calls only answer, whatever is done. -/
theorem answered_of_mem_run_of_mute {l : Ledger} {n : Nat} (hn : n < l.count)
    (h : l.Holds (MuteTo n)) (ms : List Move) :
    ∀ e ∈ (l.run ms).1, e.call.number ≤ n → ∃ a, e.report = .answered a := by
  induction ms generalizing l with
  | nil => exact fun e he => absurd he List.not_mem_nil
  | cons m ms ih =>
    intro e he hle
    rw [run_cons] at he
    rcases List.mem_cons.mp he with rfl | he
    · exact answered_of_mute hn h hle
    · exact ih (by rw [count_move]; omega) ((kept_mute n).move hn h m) e he hle

theorem told_run_of_mute {l : Ledger} {n : Nat} (hn : n < l.count) (h : l.Holds (MuteTo n))
    (ms : List Move) : (told (l.run ms).1).filter (fun x => x.1 ≤ n) = [] := by
  refine List.filter_eq_nil_iff.mpr fun x hx hle => ?_
  obtain ⟨e, he, hnum, hr⟩ := mem_told hx
  have hle' : e.call.number ≤ n := by
    rw [← hnum]
    exact of_decide_eq_true hle
  obtain ⟨a, ha⟩ := answered_of_mem_run_of_mute hn h ms e he hle'
  rw [hr] at ha
  cases ha

/-- A request to stop, or to load a program while the player runs, makes it stop. -/
theorem ask_eq_stop {p : Player} {r : Request}
    (h : r = .stop ∨ (∃ program, r = .load program) ∧ p.isRunning = true) :
    ∃ next, p.ask r = p.stop next := by
  rcases h with rfl | ⟨⟨program, rfl⟩, hr⟩
  · exact ⟨none, rfl⟩
  · exact ⟨some program, by rw [Player.ask, if_pos hr]⟩

/--
**From a stop on, the calls that had begun tell nothing more, and the stop itself tells the reset.**
The stop may be asked for at any time, be it from outside or by a callback, and be part of loading a
program while the player runs. It does not matter what is done afterwards.
-/
theorem stop_silences (program : Program) (o : PlaybackOptions) (before after : List Move)
    (r : Request)
    (hr : r = .stop ∨ (∃ next, r = .load next) ∧
      ((Performance.ofPlayer (.new program o)).run before).2.player.isRunning = true) :
    let entries := ((ofPlayer (.new program o)).run (before ++ .ask r :: after)).1
    (told entries).map Prod.snd = Performance.events
        ((Performance.ofPlayer (.new program o)).run (before ++ .ask r :: after)).1 ∧
      (told (entries.drop before.length)).filter (fun x => x.1 ≤ before.length)
        = [(before.length, .emit .reset)] := by
  intro entries
  refine ⟨(events_told entries).trans (congrArg _ ((ofPlayer _).reports_run _)), ?_⟩
  have hpast := kept_fromPast.run (l := ofPlayer (.new program o)) (Nat.zero_le _)
    (fun x hx => absurd hx List.not_mem_nil) before
  have hcount : ((ofPlayer (.new program o)).run before).2.count = before.length := by
    rw [count_run]
    exact Nat.zero_add _
  rw [← player_run] at hr
  -- the ledger when the stop is asked for
  generalize hl : ((ofPlayer (.new program o)).run before).2 = l at hpast hcount hr
  obtain ⟨next, hstop⟩ := ask_eq_stop hr
  have hmove : l.move (.ask r)
      = l.book ⟨l.count, l.player, .ask r⟩ l.waiting (l.player.stop next) := by
    rw [← hstop]
    rfl
  have hdrop : entries.drop before.length = (l.run (.ask r :: after)).1 := by
    show List.drop _ ((ofPlayer (.new program o)).run (before ++ .ask r :: after)).1 = _
    rw [run_append, hl]
    exact List.drop_left' ((ofPlayer (.new program o)).length_run before)
  have hmute := holds_stop hpast ⟨l.count, l.player, .ask r⟩ next
  have hrest := told_run_of_mute (n := l.count) (by rw [count_book]; omega) hmute after
  rw [hdrop, run_cons, hmove, ← List.singleton_append, told_append, List.filter_append, ← hcount,
    hrest, List.append_nil]
  simp [told, book, Player.stop]

/-- A program is loaded by the callback of a tick, which returns later; the old timer fires once more. -/
theorem load_amid_tick_silences :
    let program : Program := [⟨"a", .perform .turnLeft⟩, ⟨"b", .perform .deliver⟩]
    let before : List Move := [.ask .play, .fire 0]
    let after : List Move := [.back, .back, .fire 0, .ask .play]
    let entries := ((ofPlayer (.new program .default)).run (before ++ .ask (.load []) :: after)).1
    (told entries).map Prod.snd = Performance.events
        ((Performance.ofPlayer (.new program .default)).run
          (before ++ .ask (.load []) :: after)).1 ∧
      (told (entries.drop before.length)).filter (fun x => x.1 ≤ before.length)
        = [(before.length, .emit .reset)] :=
  stop_silences [⟨"a", .perform .turnLeft⟩, ⟨"b", .perform .deliver⟩] .default
    [.ask .play, .fire 0] [.back, .back, .fire 0, .ask .play] (.load [])
    (.inr ⟨⟨[], rfl⟩, by decide⟩)

end Ledger

end BlockPlayer
