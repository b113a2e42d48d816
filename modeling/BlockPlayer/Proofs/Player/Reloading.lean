import BlockPlayer.Proofs.Player.Ledger
import BlockPlayer.Proofs.Player.Loading
import Mathlib.Data.List.Induction

/-!
# Another program

A player that runs stops before it loads a program, and its callbacks are told of the stop before the
program is there. So whoever is told may have set a timer going by then, and that timer goes on with
the new program. This is the only way in which a program changes under a timer.

* `Waits.step`, `loadsWait_run_new` — all timers that were started before a request to load are silenced
  until the program is loaded, and the player is idle unless somebody asked it to play
* `inStock_move`, `inStock_run` — while a timer drives the player, no program comes that was not about
  to be loaded
* `reload_silences_earlier` — **what holds when a program is replaced, and where the instructions of
  ticks come from**
-/

namespace BlockPlayer

namespace Player

/-! ## Idle players -/

theorem mode_conclude_of_idle {p : Player} (h : p.mode = .idle) (cause : Cause) (o : StepOutcome) :
    (p.conclude cause o).1.mode = .idle := by
  unfold conclude
  split
  · exact h
  · exact h
  · exact h
  · split
    · rfl
    · exact h

theorem mode_advance (p : Player) (cause : Cause) : (p.advance cause).1.mode = p.mode := by
  unfold advance
  split <;> rfl

/-- Only a request to play makes an idle player run. -/
theorem mode_ask_of_idle {p : Player} (h : p.mode = .idle) {r : Request} (hr : r ≠ .play) :
    (p.ask r).1.mode = .idle := by
  have hidle := not_isRunning h
  cases r with
  | play => exact absurd rfl hr
  | step =>
    rw [ask, if_neg hidle, mode_advance]
    exact h
  | stop => rfl
  | setSpeed s =>
    rw [ask, if_neg fun hs => hidle hs.2.2]
    exact h
  | load q =>
    rw [ask, if_neg hidle]
    exact h

theorem mode_fire_of_idle {p : Player} (h : p.mode = .idle) (i : Nat) :
    (p.fire i).1.mode = .idle := by
  unfold fire
  split
  · exact h
  · split
    · rw [mode_advance]
      exact h
    · exact h

theorem mode_resume_of_idle {p : Player} (h : p.mode = .idle) (f : Frame) :
    (p.resume f).1.mode = .idle := by
  cases f with
  | emitted i epoch cause =>
    rw [resume]
    split
    · exact h
    · exact mode_conclude_of_idle h cause _
  | marked i cause => exact mode_conclude_of_idle h cause _
  | cleared cause => exact mode_conclude_of_idle h cause _
  | rewound next => cases next <;> exact h

/-- A player that is asked to load while it runs stops first; else it loads at once. -/
theorem ask_load_cases (p : Player) (q : Program) :
    (p.mode = .running ∧ p.ask (.load q) = p.stop (some q)) ∨
    (p.mode = .idle ∧ p.ask (.load q) = (p.replace q, .answer .done)) := by
  cases hm : p.mode with
  | running => exact .inl ⟨rfl, by rw [ask, isRunning, hm]; rfl⟩
  | idle => exact .inr ⟨rfl, by rw [ask, isRunning, hm]; rfl⟩

/-- No timer of an idle player is live. -/
theorem Sound.not_isLive_of_idle {p : Player} (h : p.Sound) (hm : p.mode = .idle) (i : Nat) :
    ¬ p.IsLive i := by
  rw [h.isLive_iff]
  intro hi
  have hr := h.running_iff.mpr ⟨i, hi⟩
  rw [hm] at hr
  cases hr

/-- A tick tells a command only if its timer drives the player, and then the next one. -/
theorem Sound.of_fire_emit {p : Player} (h : p.Sound) {i : Nat} {c : Command} {f : Frame}
    (hf : (p.fire i).2 = .tell (.emit c) f) :
    p.held = some i ∧ ∃ x, p.program[p.cursor]? = some x ∧ x.command = c := by
  have hi : p.held = some i := by
    by_cases hi : p.held = some i
    · exact hi
    · rw [h.fire_other hi] at hf
      cases hf
  refine ⟨hi, ?_⟩
  obtain ⟨t, ht, -, he⟩ := h.driver i hi
  rw [fire, ht] at hf
  dsimp only at hf
  rw [if_pos he, advance] at hf
  cases hx : p.current? with
  | none =>
    rw [hx] at hf
    cases hf
  | some x =>
    rw [hx] at hf
    cases hf
    exact ⟨x, hx, rfl⟩

end Player

namespace Performance

open Player

variable {s : Performance}

theorem mode_move_of_idle (h : s.player.mode = .idle) {m : Move} (hm : m ≠ .ask .play) :
    (s.move m).1.player.mode = .idle := by
  cases m with
  | ask r =>
    rw [move_ask, player_after]
    exact mode_ask_of_idle h fun hr => hm (hr ▸ rfl)
  | fire i =>
    rw [move_fire, player_after]
    exact mode_fire_of_idle h i
  | back =>
    cases hw : s.waiting with
    | nil =>
      rw [move_back_of_nil hw]
      exact h
    | cons f waiting =>
      rw [move_back_of_cons hw, player_after]
      exact mode_resume_of_idle h f

/-! ## Programs in stock -/

/-- The program is the player's, or about to be loaded. -/
def InStock (s : Performance) (q : Program) : Prop :=
  q = s.player.program ∨ .rewound (some q) ∈ s.waiting

theorem inStock_after {waiting : List Frame} {t : Player × Turn} {q : Program}
    (ht : s.player.Keeps t) (hsub : waiting ⊆ s.waiting) (h : (after waiting t).1.InStock q) :
    s.InStock q := by
  obtain ⟨p, turn⟩ := t
  rcases h with h | h
  · rw [player_after] at h
    exact .inl (h.trans ht.program_eq)
  · refine .inr (hsub ?_)
    cases turn with
    | answer a => exact h
    | tell e f =>
      rcases List.mem_cons.mp h with hf | h
      · exact absurd hf.symm (ht.quiet e f rfl q)
      · exact h

/-- A program comes into stock only if somebody asks for it. -/
theorem inStock_move {m : Move} (hm : ∀ q, m ≠ .ask (.load q)) {q : Program}
    (h : (s.move m).1.InStock q) : s.InStock q := by
  cases m with
  | ask r =>
    rw [move_ask] at h
    exact inStock_after (s.player.keeps_ask fun q' hr => hm q' (hr ▸ rfl)) (List.Subset.refl _) h
  | fire i =>
    rw [move_fire] at h
    exact inStock_after (s.player.keeps_fire i) (List.Subset.refl _) h
  | back =>
    cases hw : s.waiting with
    | nil =>
      rw [move_back_of_nil hw] at h
      exact h
    | cons f waiting =>
      have hsub : waiting ⊆ s.waiting := by simp [hw]
      rw [move_back_of_cons hw] at h
      by_cases hf : ∃ q', f = .rewound (some q')
      · -- the program that was about to be loaded is the player's now
        obtain ⟨q', rfl⟩ := hf
        rcases h with h | h
        · rw [player_after] at h
          obtain rfl : q = q' := h
          exact .inr (by simp [hw])
        · exact .inr (hsub h)
      · exact inStock_after (s.player.keeps_resume fun q' he => hf ⟨q', he⟩) hsub h

/-- A timer that still drives the player has seen no program come into stock. -/
theorem inStock_run {i : Nat} (hs : s.player.Sound) (hi : s.player.held = some i) {ms : List Move}
    (hend : (s.run ms).2.player.held = some i) {q : Program} (h : (s.run ms).2.InStock q) :
    s.InStock q := by
  induction ms generalizing s with
  | nil => exact h
  | cons m ms ih =>
    rw [run_cons] at hend h
    have hs' : (s.move m).1.player.Sound := sound_move hs m
    by_cases hi' : (s.move m).1.player.held = some i
    · refine inStock_move ?_ (ih hs' hi' hend h)
      rintro q' rfl
      -- to load, the player would have let the timer go
      rcases s.player.ask_load_cases q' with ⟨-, hask⟩ | ⟨hidle, -⟩
      · rw [move_ask, player_after, hask] at hi'
        cases hi'
      · exact hs.not_isLive_of_idle hidle i (hs.isLive_iff.mpr hi)
    · -- a timer that was let go does not come back
      have hlt : i < s.player.timers.length := by
        obtain ⟨t, ht, -⟩ := hs.driver i hi
        exact (List.getElem?_eq_some_iff.mp ht).1
      have hlt' := Nat.lt_of_lt_of_le hlt (s.later_move m).length_le
      have hdead := ((s.move m).1.later_run ms).not_isLive hlt' (mt hs'.isLive_iff.mp hi')
      exact absurd ((sound_run hs' ms).isLive_iff.mpr hend) hdead

end Performance

namespace Ledger

open Player

/-! ## Calls that load -/

/-- A frame that is to load a program belongs to the call that asked for it, and to no other. -/
def LoadsFor (_ : Player) (c : Call) (f : Frame) : Prop :=
  ∀ q, f = .rewound (some q) ↔ c.move = .ask (.load q)

theorem kept_loadsFor : Kept 0 LoadsFor where
  later := fun _ h => h
  opened := by
    intro p p' m e f k ho _ q
    generalize ht : (p', Turn.tell e f) = t at ho
    cases ho with
    | ask r =>
      by_cases hr : ∃ q', r = .load q'
      · obtain ⟨q', rfl⟩ := hr
        rcases p.ask_load_cases q' with ⟨-, hask⟩ | ⟨-, hask⟩
        · rw [hask] at ht
          cases ht
          simp
        · rw [hask] at ht
          cases ht
      · have hkeeps : p.Keeps (p.ask r) := p.keeps_ask fun q' he => hr ⟨q', he⟩
        constructor
        · intro hf
          exact absurd hf (hkeeps.quiet e f (congrArg Prod.snd ht).symm q)
        · rintro ⟨⟩
          exact absurd ⟨q, rfl⟩ hr
    | fire i =>
      constructor
      · intro hf
        exact absurd hf ((p.keeps_fire i).quiet e f (congrArg Prod.snd ht).symm q)
      · rintro ⟨⟩
  resumed := by
    intro p p' c f g e h hr q
    obtain ⟨i, cause, rfl, -, -, rfl⟩ := resume_tell hr
    rw [← h q]
    exact ⟨nofun, nofun⟩

/-- What holds of a player while a call to load waits. `done` are the moves that have been made. -/
structure Waits (done : List Move) (p : Player) (c : Call) : Prop where
  number_lt : c.number < done.length
  started : c.player.timers.length ≤ p.timers.length
  /-- No timer is live that had been started when the call began. -/
  silenced : ∀ i < c.player.timers.length, ¬ p.IsLive i
  idle_or_asked : p.mode = .idle ∨ .ask .play ∈ done.drop (c.number + 1)

theorem Waits.step {done : List Move} {p p' : Player} {c : Call} {m : Move} (h : Waits done p c)
    (hlater : p.Later p') (hmode : p.mode = .idle → m ≠ .ask .play → p'.mode = .idle) :
    Waits (done ++ [m]) p' c where
  number_lt := by
    have := h.number_lt
    rw [List.length_append]
    omega
  started := Nat.le_trans h.started hlater.length_le
  silenced := fun i hi => hlater.not_isLive (Nat.lt_of_lt_of_le hi h.started) (h.silenced i hi)
  idle_or_asked := by
    rw [List.drop_append_of_le_length h.number_lt, List.mem_append, List.mem_singleton]
    rcases h.idle_or_asked with hidle | hasked
    · by_cases hm : m = .ask .play
      · exact .inr (.inr hm.symm)
      · exact .inl (hmode hidle hm)
    · exact .inr (.inl hasked)

/-- A call to load that waits has begun with a stop. -/
theorem Waits.of_rewind {done : List Move} {p : Player} (h : p.Sound) (m : Move) :
    Waits (done ++ [m]) p.rewind ⟨done.length, p, m⟩ where
  number_lt := by simp
  started := Nat.le_of_eq p.length_silenced.symm
  silenced := fun i _ => h.rewind.not_isLive_of_idle rfl i
  idle_or_asked := .inl rfl

/-- What waits after a move has waited before, or has come with it, for a new call or an old one. -/
theorem mem_waiting_move {l : Ledger} {m : Move} {x : Call × Frame} (hx : x ∈ (l.move m).1.waiting) :
    x ∈ l.waiting ∨
    (∃ q e, Opens l.player m (q, .tell e x.2) ∧ x.1 = ⟨l.count, l.player, m⟩ ∧
      (l.move m).1.player = q) ∨
    ∃ f q e, (x.1, f) ∈ l.waiting ∧ l.player.resume f = (q, .tell e x.2) := by
  rcases l.move_cases m with ⟨⟨q, turn⟩, ho, hl⟩ | ⟨c, f, waiting, hw, hl⟩ | ⟨-, hl⟩
  · rw [hl] at hx ⊢
    cases turn with
    | answer a => exact .inl hx
    | tell e g =>
      rcases List.mem_cons.mp hx with rfl | hx
      · exact .inr (.inl ⟨q, e, ho, rfl, rfl⟩)
      · exact .inl hx
  · have hsub : waiting ⊆ l.waiting := by simp [hw]
    rw [hl] at hx
    generalize hr : l.player.resume f = t at hx
    obtain ⟨q, turn⟩ := t
    cases turn with
    | answer a => exact .inl (hsub hx)
    | tell e g =>
      rcases List.mem_cons.mp hx with rfl | hx
      · exact .inr (.inr ⟨f, q, e, by simp [hw], hr⟩)
      · exact .inl (hsub hx)
  · rw [hl] at hx
    cases hx

theorem mode_move_of_idle {l : Ledger} (h : l.player.mode = .idle) {m : Move}
    (hm : m ≠ .ask .play) : (l.move m).1.player.mode = .idle := by
  have hs := Performance.mode_move_of_idle (s := l.stage) h hm
  rw [← l.move_eq m] at hs
  exact hs

/-- All calls to load that wait are as `Waits` says. -/
def LoadsWait (done : List Move) (l : Ledger) : Prop :=
  ∀ x ∈ l.waiting, ∀ q, x.1.move = .ask (.load q) → Waits done l.player x.1

theorem LoadsWait.move {done : List Move} {l : Ledger} (h : LoadsWait done l)
    (hs : l.player.Sound) (hcount : l.count = done.length) (hfor : l.Holds LoadsFor) (m : Move) :
    LoadsWait (done ++ [m]) (l.move m).1 := by
  rintro ⟨c, g⟩ hx q hq
  rcases mem_waiting_move hx with hold | ⟨p', e, ho, rfl, hp⟩ | ⟨f, p', e, hf, hr⟩
  · exact (h _ hold q hq).step (l.later_move m) fun hidle hm => mode_move_of_idle hidle hm
  · -- the call has begun with this move
    obtain rfl : m = .ask (.load q) := hq
    generalize ht : (p', Turn.tell e g) = t at ho
    cases ho
    rcases l.player.ask_load_cases q with ⟨-, hask⟩ | ⟨-, hask⟩
    · rw [hask] at ht
      cases ht
      rw [hp, hcount]
      exact .of_rewind hs _
    · rw [hask] at ht
      cases ht
  · -- when the program is loaded, nothing more is told
    obtain rfl := (hfor (c, f) hf q).mpr hq
    cases hr

/-! ## Runs from a new player -/

section Runs

variable (program : Program) (o : PlaybackOptions) (done : List Move)

theorem sound_run_new : ((ofPlayer (.new program o)).run done).2.player.Sound :=
  sound_run (l := ofPlayer (.new program o)) (sound_new program o) done

theorem count_run_new : ((ofPlayer (.new program o)).run done).2.count = done.length := by
  rw [count_run]
  exact Nat.zero_add _

theorem loadsFor_run_new : ((ofPlayer (.new program o)).run done).2.Holds LoadsFor :=
  kept_loadsFor.run (Nat.zero_le _) (fun _ hx => absurd hx List.not_mem_nil) done

theorem loadsWait_run_new : LoadsWait done ((ofPlayer (.new program o)).run done).2 := by
  induction done using List.reverseRecOn with
  | nil => exact fun x hx => absurd hx List.not_mem_nil
  | append_singleton done m ih =>
    rw [run_append]
    exact ih.move (sound_run_new program o done) (count_run_new program o done)
      (loadsFor_run_new program o done) m

end Runs

/-! ## The moment at which a program is replaced -/

/-- The call that asked for a program is answered: the program is loaded. -/
structure Loads (e : Entry) (q : Program) : Prop where
  move : e.call.move = .ask (.load q)
  answered : ∃ a, e.report = .answered a

/-- A program is loaded at once, or when the callback returns that was told of the stop. -/
theorem Loads.cases {l : Ledger} (hfor : l.Holds LoadsFor) {m : Move} {q : Program}
    (h : Loads (l.move m).2 q) : (l.move m).1.player = l.player.replace q ∧
      (l.player.mode = .idle ∨ ((l.move m).2.call, .rewound (some q)) ∈ l.waiting) := by
  obtain ⟨hm, a, ha⟩ := h
  rcases l.move_cases m with ⟨t, ho, hl⟩ | ⟨c, f, waiting, hw, hl⟩ | ⟨-, hl⟩
  · rw [hl, call_book] at hm
    rw [hl, report_book, Turn.report_eq_answered] at ha
    rw [hl, player_book]
    obtain rfl : m = .ask (.load q) := hm
    cases ho
    rcases l.player.ask_load_cases q with ⟨-, hask⟩ | ⟨hidle, hask⟩
    · rw [hask] at ha
      cases ha
    · rw [hask]
      exact ⟨rfl, .inl hidle⟩
  · rw [hl, call_book] at hm
    have hmem : (c, f) ∈ l.waiting := by simp [hw]
    obtain rfl := (hfor (c, f) hmem q).mpr hm
    rw [hl, player_book, call_book]
    exact ⟨rfl, .inr hmem⟩
  · rw [hl] at hm
    cases hm

/-- Nothing else makes the program another one. -/
theorem exists_loads_of_program_ne {l : Ledger} (hfor : l.Holds LoadsFor) {m : Move}
    (h : (l.move m).1.player.program ≠ l.player.program) : ∃ q, Loads (l.move m).2 q := by
  rcases l.move_cases m with ⟨t, ho, hl⟩ | ⟨c, f, waiting, hw, hl⟩ | ⟨-, hl⟩
  · rw [hl, player_book] at h
    cases ho with
    | ask r =>
      by_cases hr : ∃ q, r = .load q
      · obtain ⟨q, rfl⟩ := hr
        rcases l.player.ask_load_cases q with ⟨-, hask⟩ | ⟨-, hask⟩
        · rw [hask] at h
          exact absurd rfl h
        · rw [hl, hask]
          exact ⟨q, rfl, .done, rfl⟩
      · exact absurd (l.player.keeps_ask fun q he => hr ⟨q, he⟩).program_eq h
    | fire i => exact absurd (l.player.keeps_fire i).program_eq h
  · rw [hl, player_book] at h
    by_cases hf : ∃ q, f = .rewound (some q)
    · obtain ⟨q, rfl⟩ := hf
      have hmove := (hfor (c, _) (by simp [hw]) q).mp rfl
      rw [hl]
      exact ⟨q, hmove, .done, rfl⟩
    · exact absurd (l.player.keeps_resume fun q he => hf ⟨q, he⟩).program_eq h
  · rw [hl] at h
    exact absurd rfl h

/--
**When a program is replaced, no timer is live that was started before the request to load.** Unless
somebody asked the player to play since then, it is idle and no timer is live at all. Only a request to
load makes the program another one. And a tick tells an instruction of the program that was there when
its timer was started, or of one that was about to be loaded then.
-/
theorem reload_silences_earlier (program : Program) (o : PlaybackOptions) (done : List Move) :
    let l := ((ofPlayer (.new program o)).run done).2
    (∀ m q, Loads (l.move m).2 q →
      (l.move m).1.player = l.player.replace q ∧
      (∀ i < (l.move m).2.call.player.timers.length, ¬ l.player.IsLive i) ∧
      (.ask .play ∉ done.drop ((l.move m).2.call.number + 1) →
        l.player.mode = .idle ∧ ∀ i, ¬ l.player.IsLive i)) ∧
    (∀ m, (l.move m).1.player.program ≠ l.player.program → ∃ q, Loads (l.move m).2 q) ∧
    ∀ i, l.player.held = some i → ∀ ms c f, ((l.run ms).2.player.fire i).2 = .tell (.emit c) f →
      ∃ q x, l.stage.InStock q ∧ q[(l.run ms).2.player.cursor]? = some x ∧ x.command = c := by
  intro l
  have hs : l.player.Sound := sound_run_new program o done
  have hfor : l.Holds LoadsFor := loadsFor_run_new program o done
  have hcount : l.count = done.length := count_run_new program o done
  refine ⟨?_, fun m => exists_loads_of_program_ne hfor, ?_⟩
  · intro m q h
    obtain ⟨hreplace, hidle | hmem⟩ := h.cases hfor
    · have hnone := hs.not_isLive_of_idle hidle
      exact ⟨hreplace, fun i _ => hnone i, fun _ => ⟨hidle, hnone⟩⟩
    · have hwaits := loadsWait_run_new program o done _ hmem q h.move
      refine ⟨hreplace, hwaits.silenced, fun hplay => ?_⟩
      have hidle := hwaits.idle_or_asked.resolve_right hplay
      exact ⟨hidle, hs.not_isLive_of_idle hidle⟩
  · intro i hi ms c f hf
    have hs' : (l.run ms).2.player.Sound := sound_run hs ms
    obtain ⟨hheld, x, hx, hc⟩ := hs'.of_fire_emit hf
    have hstage : (l.run ms).2.player = (l.stage.run ms).2.player :=
      congrArg Performance.player (l.stage_run ms)
    rw [hstage] at hheld
    exact ⟨_, x, Performance.inStock_run hs hi hheld (.inl rfl), hstage ▸ hx, hc⟩

/--
The callback that is told of the stop asks the player to play. The program is replaced under the timer
that was started then, and its tick tells an instruction of the new one.
-/
theorem play_amid_load_goes_on :
    let old : Program := [⟨"a", .perform .turnLeft⟩]
    let next : Program := [⟨"x", .perform .deliver⟩]
    let l := ((ofPlayer (.new old .default)).run [.ask .play, .ask (.load next), .ask .play]).2
    Loads (l.move .back).2 next ∧ l.player.program = old ∧ l.player.mode = .running ∧
      l.player.IsLive 1 ∧
      ((l.move .back).1.move (.fire 1)).2.report = .told (.emit (.perform .deliver)) :=
  ⟨⟨rfl, .done, rfl⟩, rfl, rfl, ⟨_, rfl, rfl⟩, rfl⟩

end Ledger

end BlockPlayer
