import BlockPlayer.Proofs.Player.Pace

/-!
# The period of the timer that drives a player

The player reports a period, and its timer has one. They come from the same speed when the timer is
started; later the speed may become another, amid callbacks too. A player that is to feel changes of
speed at once puts a new timer in the place of the old one, unless the speed is what it was; any other
goes on with the timer that it has.

* `Player.Coasts` — what becomes of a player when no timer is started
* `Performance.coasts_or_starts` — only requests to play and changes of speed start timers
* `Performance.period_of_running` — **the period of the timer that drives a player is the present one, or
  the one of the moment when the player was asked to play**
-/

namespace BlockPlayer

namespace Player

/--
No timer was started on the way from `p` to `q`, and if a change of speed was to be felt at once, there was
none.
-/
structure Coasts (p q : Player) : Prop where
  /-- If a timer still drives the player, it is the old one. -/
  held : ∀ i, q.held = some i → p.held = some i ∧ q.timers = p.timers
  period_eq : q.mode = .running → q.reschedule = true → q.period = p.period

namespace Coasts

theorem refl (p : Player) : Coasts p p := ⟨fun _ hi => ⟨hi, rfl⟩, fun _ _ => rfl⟩

theorem cancel (p : Player) : Coasts p p.cancel := ⟨nofun, nofun⟩

theorem rewind (p : Player) : Coasts p p.rewind := ⟨nofun, nofun⟩

theorem forward (p : Player) : Coasts p p.forward := ⟨fun _ hi => ⟨hi, rfl⟩, fun _ _ => rfl⟩

theorem replace (p : Player) (program : Program) : Coasts p (p.replace program) :=
  ⟨fun _ hi => ⟨hi, rfl⟩, fun _ _ => rfl⟩

/-- A new speed that does not replace the timer is the old one, or it is not to be felt yet. -/
theorem withSpeed {p : Player} {sp : Speed} (h : ¬ p.Restarts sp) : Coasts p (p.withSpeed sp) where
  held := fun _ hi => ⟨hi, rfl⟩
  period_eq := by
    intro hmode hreschedule
    have hrunning : p.isRunning = true := decide_eq_true hmode
    have hspeed : p.speed = sp := by
      by_contra hne
      exact h ⟨hne, hreschedule, hrunning⟩
    rw [← hspeed]
    rfl

end Coasts

/-! ## Turns -/

theorem coasts_conclude (p : Player) (cause : Cause) (o : StepOutcome) :
    Coasts p (p.conclude cause o).1 := by
  unfold conclude
  split
  · exact .refl p
  · exact .refl p
  · exact .refl p
  · split
    · exact .cancel p
    · exact .refl p

theorem coasts_advance (p : Player) (cause : Cause) : Coasts p (p.advance cause).1 := by
  unfold advance
  split
  · exact .forward p
  · exact .refl p

theorem coasts_fire (p : Player) (i : Nat) : Coasts p (p.fire i).1 := by
  unfold fire
  split
  · exact .refl p
  · split
    · exact p.coasts_advance _
    · exact .refl p

theorem coasts_resume (p : Player) (f : Frame) : Coasts p (p.resume f).1 := by
  cases f with
  | emitted i epoch cause =>
    rw [resume]
    split
    · exact .refl p
    · exact p.coasts_conclude cause (.emitted i)
  | marked i cause => exact p.coasts_conclude cause (.emitted i)
  | cleared cause => exact p.coasts_conclude cause .exhausted
  | rewound next =>
    cases next with
    | none => exact .refl p
    | some program => exact .replace p program

/-- The two requests that may start a timer. -/
inductive Starts (p : Player) : Request → Player → Prop
  | play : p.ask .play = (p.start, .answer .done) → Starts p .play p.start
  | setSpeed {sp : Speed} : p.Restarts sp → Starts p (.setSpeed sp) (p.withSpeed sp).cancel.start

theorem coasts_or_starts_ask (p : Player) (r : Request) :
    Coasts p (p.ask r).1 ∨ Starts p r (p.ask r).1 := by
  cases r with
  | play =>
    by_cases hrunning : p.isRunning = true
    · rw [ask, if_pos hrunning]
      exact .inl (.refl p)
    · by_cases hexhausted : p.exhausted = true
      · rw [ask, if_neg hrunning, if_pos hexhausted]
        exact .inl (.refl p)
      · have hstart : p.ask .play = (p.start, .answer .done) := by
          rw [ask, if_neg hrunning, if_neg hexhausted]
        rw [hstart]
        exact .inr (.play hstart)
  | step =>
    rw [ask]
    split
    · exact .inl (.refl p)
    · exact .inl (p.coasts_advance .step)
  | stop => exact .inl (.rewind p)
  | setSpeed sp =>
    rw [ask]
    split
    · next h => exact .inr (.setSpeed h)
    · next h => exact .inl (.withSpeed h)
  | load program =>
    rw [ask]
    split
    · exact .inl (.rewind p)
    · exact .inl (.replace p program)

/-! ## The timer that drives the player -/

/-- The timer that drives the player was started with the period `d`. -/
def Paced (p : Player) (d : Nat) : Prop :=
  ∀ i, p.held = some i → ∃ t, p.timers[i]? = some t ∧ t.period = d

theorem paced_start (p : Player) : p.start.Paced p.period := by
  intro i hi
  cases hi
  exact ⟨_, by rw [getElem?_timers_start, if_pos rfl], rfl⟩

theorem Starts.paced {p q : Player} {r : Request} (h : Starts p r q) : q.Paced q.period := by
  cases h with
  | play => exact paced_start _
  | setSpeed => exact paced_start _

theorem Paced.coasts {p q : Player} {d : Nat} (h : p.Paced d) (hc : Coasts p q) : q.Paced d := by
  intro i hi
  obtain ⟨hp, htimers⟩ := hc.held i hi
  rw [htimers]
  exact h i hp

end Player

/-! ## Moves and runs -/

namespace Performance

open Player

/-- **Only a request to play or a change of speed starts a timer.** -/
theorem coasts_or_starts (s : Performance) (m : Move) :
    Coasts s.player (s.move m).1.player ∨
      ∃ r, m = .ask r ∧ Starts s.player r (s.move m).1.player := by
  cases m with
  | ask r =>
    rw [move_ask, player_after]
    exact (s.player.coasts_or_starts_ask r).imp id fun h => ⟨r, rfl, h⟩
  | fire i =>
    rw [move_fire, player_after]
    exact .inl (s.player.coasts_fire i)
  | back =>
    cases hw : s.waiting with
    | nil =>
      rw [move_back_of_nil hw]
      exact .inl (.refl _)
    | cons f waiting =>
      rw [move_back_of_cons hw, player_after]
      exact .inl (s.player.coasts_resume f)

variable {s : Performance}

/-- With the wish to be rescheduled, the timer keeps to the period that the player reports. -/
theorem paced_move (hs : s.player.Sound) (hreschedule : s.player.reschedule = true)
    (h : s.player.Paced s.player.period) (m : Move) :
    (s.move m).1.player.Paced (s.move m).1.player.period := by
  rcases s.coasts_or_starts m with hc | ⟨r, -, hstarts⟩
  · intro i hi
    have hrunning := (sound_move hs m).running_iff.mpr ⟨i, hi⟩
    rw [hc.period_eq hrunning ((s.reschedule_move m).trans hreschedule)]
    exact h.coasts hc i hi
  · exact hstarts.paced

theorem paced_run (hs : s.player.Sound) (hreschedule : s.player.reschedule = true)
    (h : s.player.Paced s.player.period) (ms : List Move) :
    (s.run ms).2.player.Paced (s.run ms).2.player.period := by
  induction ms generalizing s with
  | nil => exact h
  | cons m ms ih =>
    exact ih (sound_move hs m) ((s.reschedule_move m).trans hreschedule) (paced_move hs hreschedule h m)

/--
The timer that drives the player at the end of a run was started by a request to play, amid the run, and
has the period that the player reported then.
-/
def PlayedSince (s : Performance) (ms : List Move) : Prop :=
  ∃ before after, ms = before ++ .ask .play :: after ∧
    let p := (s.run before).2.player
    p.ask .play = (p.start, .answer .done) ∧
      (s.run ms).2.player.held = p.start.held ∧ (s.run ms).2.player.Paced p.period

/-- Without the wish to be rescheduled, the timer that drives the player stays until the next request. -/
theorem playedSince_run (hheld : s.player.held = none) (hreschedule : s.player.reschedule = false)
    (ms : List Move) : (s.run ms).2.player.held = none ∨ s.PlayedSince ms := by
  induction ms using List.reverseRecOn with
  | nil => exact .inl hheld
  | append_singleton ms m ih =>
    have hlast : (s.run (ms ++ [m])).2.player = ((s.run ms).2.move m).1.player := by
      rw [run_append]
      rfl
    rcases (s.run ms).2.coasts_or_starts m with hc | ⟨r, rfl, hstarts⟩
    · cases hi : (s.run (ms ++ [m])).2.player.held with
      | none => exact .inl rfl
      | some i =>
        rw [← hlast] at hc
        have hbefore := (hc.held i hi).1
        rcases ih with hnone | ⟨before, after, rfl, hask, hstart, hpaced⟩
        · rw [hbefore] at hnone
          cases hnone
        · refine .inr ⟨before, after ++ [m], by simp, hask, ?_, hpaced.coasts hc⟩
          rw [hi, ← hbefore, hstart]
    · rw [← hlast] at hstarts
      generalize hq : (s.run (ms ++ [.ask r])).2.player = q at hstarts
      cases hstarts with
      | play hask =>
        refine .inr ⟨ms, [], rfl, hask, ?_, ?_⟩
        · rw [hq]
        · rw [hq]
          exact paced_start _
      | setSpeed hr =>
        -- changes of speed are not to be felt at once
        have htrue : (s.run ms).2.player.reschedule = true := hr.2.1
        rw [reschedule_run, hreschedule] at htrue
        cases htrue

/--
**While a player runs, its only live timer has the right period.** If changes of speed are to be felt at
once, that is the period which the player reports now. If not, it is the one that the player reported when
it was asked to play and started this timer, whatever became of the speed since.
-/
theorem period_of_running (program : Program) (o : PlaybackOptions) (ms : List Move)
    (h : ((ofPlayer (.new program o)).run ms).2.player.mode = .running) :
    let s := ofPlayer (.new program o)
    let p := (s.run ms).2.player
    ∃ i t, p.timers[i]? = some t ∧ (∀ j, p.IsLive j ↔ j = i) ∧
      (o.reschedule = true → t.period = p.period) ∧
      (o.reschedule = false → ∃ before after, ms = before ++ .ask .play :: after ∧
        let q := (s.run before).2.player
        q.ask .play = (q.start, .answer .done) ∧ q.timers.length = i ∧ t.period = q.period) := by
  intro s p
  have hnew : s.player.Sound := sound_new program o
  have hsound : p.Sound := sound_run hnew ms
  obtain ⟨i, hi⟩ := hsound.running_iff.mp h
  obtain ⟨t, ht, -⟩ := hsound.driver i hi
  have hperiod : ∀ d, p.Paced d → t.period = d := by
    intro d hd
    obtain ⟨u, hu, rfl⟩ := hd i hi
    rw [ht] at hu
    cases hu
    rfl
  refine ⟨i, t, ht, fun j => ?_, fun ho => ?_, fun ho => ?_⟩
  · rw [hsound.isLive_iff, hi, Option.some.injEq, eq_comm]
  · exact hperiod _ (paced_run hnew ho nofun ms)
  · rcases playedSince_run (s := s) rfl ho ms with hnone | ⟨before, after, hms, hask, hheld, hpaced⟩
    · rw [show p.held = none from hnone] at hi
      cases hi
    · have hlength : some (s.run before).2.player.timers.length = some i := hheld.symm.trans hi
      exact ⟨before, after, hms, hask, Option.some.inj hlength, hperiod _ hpaced⟩

/-- The speed is changed before the player is asked to play, after a stop, and amid a command. -/
theorem period_of_running_amid_changes :
    let program : Program := [⟨"a", .perform .turnLeft⟩, ⟨"b", .perform .deliver⟩]
    let o : PlaybackOptions := ⟨700000000, .normal, false⟩
    let ms : List Move := [.ask (.setSpeed ⟨4, by decide⟩), .ask .play, .ask .stop, .back,
      .ask (.setSpeed ⟨2, by decide⟩), .ask .play, .fire 1, .ask (.setSpeed .normal), .back]
    ((ofPlayer (.new program o)).run ms).2.player.mode = .running ∧
      ((ofPlayer (.new program o)).run ms).2.player.period = 700000000 ∧
      ((ofPlayer (.new program o)).run ms).2.player.timers.map Timer.period = [175000000, 350000000] ∧
      ∃ i t before after, ((ofPlayer (.new program o)).run ms).2.player.timers[i]? = some t ∧
        ms = before ++ .ask .play :: after ∧
        ((ofPlayer (.new program o)).run before).2.player.timers.length = i ∧
        t.period = ((ofPlayer (.new program o)).run before).2.player.period := by
  intro program o ms
  have hrunning : ((ofPlayer (.new program o)).run ms).2.player.mode = .running := by
    decide +kernel
  obtain ⟨i, t, ht, -, -, hplayed⟩ := period_of_running program o ms hrunning
  obtain ⟨before, after, hms, -, hlength, hperiod⟩ := hplayed rfl
  exact ⟨hrunning, by decide +kernel, by decide +kernel, i, t, before, after, ht, hms, hlength, hperiod⟩

end Performance

end BlockPlayer
