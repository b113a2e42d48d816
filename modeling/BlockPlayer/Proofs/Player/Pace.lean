import BlockPlayer.Proofs.Player.Course
import BlockPlayer.Proofs.Player.Timers
import Mathlib.Data.List.Infix

/-!
# Changes of speed

Of a program that a timer plays to the end, callbacks are told the *score*: each command and the block
that it came from, and at last that no block is marked any more. A change of speed may put another timer
in the place of the one that drives the player. The player takes that for a restart, so it matters when
it is asked for.

* Between two instructions, or when a block has been marked, nothing is lost.
* Amid the callback that is told a command, the block of that command is not marked any more; amid the
  callback that is told of the end, the new timer goes on, and the end is told once more.

* `OnScore.move` — how far a player is in its score, one move after another
* `speed_keeps_score` — **the commands are those of the program at any speed, and what is told is the
  score if the timer is not replaced amid those callbacks**
-/

namespace BlockPlayer

/-- What callbacks are told of an instruction that a timer plays. -/
def Instruction.score (i : Instruction) : List Event := [.emit i.command, .highlight (some i.id)]

/-- What callbacks are told of a program that a timer plays to the end. -/
def Program.score (p : Program) : List Event := p.flatMap Instruction.score ++ [.highlight none]

namespace Player

/-! ## What a change of speed does -/

/-- A change to the speed `sp` puts another timer in the place of the one that drives the player. -/
def Restarts (p : Player) (sp : Speed) : Prop :=
  p.speed ≠ sp ∧ p.reschedule = true ∧ p.isRunning = true

/-- The players have come equally far in the same program, and both are idle or both run. -/
structure Level (p q : Player) : Prop where
  program_eq : q.program = p.program
  cursor_eq : q.cursor = p.cursor
  mode_eq : q.mode = p.mode

/-- A change of speed is answered at once, and what it changes are the speed and the timers. -/
theorem ask_setSpeed (p : Player) (sp : Speed) :
    ∃ q, p.ask (.setSpeed sp) = (q, .answer .done) ∧ Level p q ∧
      (¬ p.Restarts sp → q.epoch = p.epoch) := by
  rw [ask]
  split
  · next h =>
    have hmode : p.mode = .running := by
      have hr : p.isRunning = true := h.2.2
      simpa [isRunning] using hr
    exact ⟨_, rfl, ⟨rfl, rfl, hmode.symm⟩, fun hn => absurd h hn⟩
  · exact ⟨_, rfl, ⟨rfl, rfl, rfl⟩, fun _ => rfl⟩

theorem reschedule_of_change {p q : Player} (h : Change p q) : q.reschedule = p.reschedule := by
  cases h <;> rfl

/-- What has been told of the instructions that the cursor has passed. -/
def scored (p : Player) : List Event := (p.program.take p.cursor).flatMap Instruction.score

theorem Level.scored_eq {p q : Player} (h : Level p q) : q.scored = p.scored := by
  rw [scored, scored, h.program_eq, h.cursor_eq]

theorem scored_forward {p : Player} {i : Instruction} (h : p.current? = some i) :
    p.forward.scored = p.scored ++ i.score := by
  have hlt := cursor_lt_of_current? h
  have hi : p.program[p.cursor] = i := Option.some.inj ((List.getElem?_eq_getElem hlt).symm.trans h)
  show (p.program.take (p.cursor + 1)).flatMap _ = _
  rw [List.take_add_one, List.getElem?_eq_getElem hlt, hi, List.flatMap_append, scored]
  simp

/-- At the end of the program all instructions were told. -/
theorem scored_of_exhausted {p : Player} (h : p.current? = none) :
    p.scored ++ [.highlight none] = p.program.score := by
  have hle : p.program.length ≤ p.cursor := by simpa [exhausted] using current?_eq_none_iff.mp h
  rw [scored, List.take_of_length_le hle, Program.score]

theorem scored_prefix (p : Player) : p.scored <+: p.program.score := by
  have hscored : p.scored <+: p.program.flatMap Instruction.score :=
    List.IsPrefix.flatMap (List.take_prefix p.cursor p.program) _
  exact hscored.trans (List.prefix_append _ _)

end Player

namespace Performance

open Player

/-! ## Moves that leave a player to its timers -/

/-- A change of speed, the return of a callback, or the firing of a timer while no callback runs. -/
inductive Paces (s : Performance) : Move → Prop
  | setSpeed (sp : Speed) : Paces s (.ask (.setSpeed sp))
  | tick (j : Nat) : s.waiting = [] → Paces s (.fire j)
  | back : Paces s .back

/--
If the move is a change of speed that replaces the timer, then no callback runs, or the last one was
told which block to mark.
-/
def RestartsBetween (s : Performance) (m : Move) : Prop :=
  ∀ sp, m = .ask (.setSpeed sp) → s.player.Restarts sp →
    s.waiting = [] ∨ ∃ i cause waiting, s.waiting = .marked i cause :: waiting

/-- Each move of a run is as `P` says when it is made. -/
def Throughout (P : Performance → Move → Prop) (s : Performance) : List Move → Prop
  | [] => True
  | m :: rest => P s m ∧ (s.move m).1.Throughout P rest

theorem Paces.goesOn {s : Performance} {m : Move} (h : s.Paces m) : GoesOn m := by
  cases h with
  | setSpeed sp => exact ⟨nofun, nofun⟩
  | tick j => exact ⟨nofun, nofun⟩
  | back => exact ⟨nofun, nofun⟩

theorem goesOn_of_throughout {s : Performance} {ms : List Move} (h : s.Throughout Paces ms) :
    ∀ m ∈ ms, GoesOn m := by
  induction ms generalizing s with
  | nil => exact fun m hm => absurd hm List.not_mem_nil
  | cons m ms ih =>
    intro n hn
    rcases List.mem_cons.mp hn with rfl | hn
    · exact h.1.goesOn
    · exact ih h.2 n hn

theorem move_setSpeed (s : Performance) (sp : Speed) :
    ∃ q, s.move (.ask (.setSpeed sp)) = (⟨q, s.waiting⟩, .answered .done) ∧ Level s.player q ∧
      (¬ s.player.Restarts sp → q.epoch = s.player.epoch) := by
  obtain ⟨q, hq, hlevel, hepoch⟩ := s.player.ask_setSpeed sp
  exact ⟨q, by rw [move_ask, hq]; rfl, hlevel, hepoch⟩

theorem reschedule_run (s : Performance) (ms : List Move) :
    (s.run ms).2.player.reschedule = s.player.reschedule :=
  (s.changes_run ms).keeps (I := fun q => q.reschedule = s.player.reschedule)
    (fun hc hp => (reschedule_of_change hc).trans hp) rfl

theorem reschedule_move (s : Performance) (m : Move) :
    (s.move m).1.player.reschedule = s.player.reschedule := s.reschedule_run [m]

/-- Without the wish to be rescheduled, no change of speed replaces the timer. -/
theorem restartsBetween_of_reschedule_eq_false {s : Performance} {ms : List Move}
    (h : s.player.reschedule = false) : s.Throughout RestartsBetween ms := by
  induction ms generalizing s with
  | nil => trivial
  | cons m ms ih =>
    refine ⟨?_, ih ?_⟩
    · intro sp _ hr
      have hreschedule : s.player.reschedule = true := hr.2.1
      rw [h] at hreschedule
      cases hreschedule
    · exact (s.reschedule_move m).trans h

theorem events_append (rs rs' : List Report) : events (rs ++ rs') = events rs ++ events rs' :=
  List.filterMap_append

/-! ## Before the beginning -/

/-- Nobody has asked the player to play yet, and no callback runs. -/
structure Fresh (s : Performance) : Prop where
  waiting : s.waiting = []
  mode : s.player.mode = .idle
  cursor : s.player.cursor = 0

namespace Fresh

variable {s : Performance} {m : Move}

theorem move (hs : s.player.Sound) (h : s.Fresh) (hm : s.Paces m) :
    (s.move m).1.Fresh ∧ events [(s.move m).2] = [] := by
  cases hm with
  | setSpeed sp =>
    obtain ⟨q, hq, hlevel, -⟩ := s.move_setSpeed sp
    rw [hq]
    exact ⟨⟨h.waiting, hlevel.mode_eq.trans h.mode, hlevel.cursor_eq.trans h.cursor⟩, rfl⟩
  | tick j =>
    -- there is no timer that counts
    have hheld : s.player.held ≠ some j := by
      intro hj
      have hr := hs.running_iff.mpr ⟨j, hj⟩
      rw [h.mode] at hr
      cases hr
    rw [move_fire, hs.fire_other hheld]
    exact ⟨⟨h.waiting, h.mode, h.cursor⟩, rfl⟩
  | back =>
    rw [move_back_of_nil h.waiting]
    exact ⟨h, rfl⟩

theorem run {ms : List Move} (hs : s.player.Sound) (h : s.Fresh) (hms : s.Throughout Paces ms) :
    (s.run ms).2.Fresh ∧ events (s.run ms).1 = [] := by
  induction ms generalizing s with
  | nil => exact ⟨h, rfl⟩
  | cons m ms ih =>
    obtain ⟨hmove, htold⟩ := h.move hs hms.1
    obtain ⟨hrun, hrest⟩ := ih (sound_move hs m) hmove hms.2
    rw [run_cons, events_cons, htold, hrest]
    exact ⟨hrun, rfl⟩

end Fresh

/-! ## The place in the score -/

/-- How what was told goes with what the player is about to do. -/
inductive OnScore : List Event → Performance → Prop
  | between {p : Player} : p.mode = .running → OnScore p.scored ⟨p, []⟩
  | command {told : List Event} {p : Player} {i : Instruction} {epoch : Nat} :
      p.mode = .running → told ++ [.highlight (some i.id)] = p.scored →
      OnScore told ⟨p, [.emitted i p.epoch (.tick epoch)]⟩
  | mark {p : Player} {i : Instruction} {epoch : Nat} : p.mode = .running →
      OnScore p.scored ⟨p, [.marked i (.tick epoch)]⟩
  | ending {p : Player} : OnScore p.program.score ⟨p, [.cleared (.tick p.epoch)]⟩
  /-- The program has no instructions, so no timer was started. -/
  | endingAtOnce {p : Player} : p.mode = .idle → OnScore p.program.score ⟨p, [.cleared .play]⟩
  | finished {p : Player} : p.mode = .idle → OnScore p.program.score ⟨p, []⟩

namespace OnScore

variable {s : Performance} {told : List Event} {m : Move}

theorem prefix_score (h : OnScore told s) : told <+: s.player.program.score := by
  cases h with
  | between => exact scored_prefix _
  | @command told p i epoch _ htold =>
    have hprefix := scored_prefix p
    rw [← htold] at hprefix
    exact (List.prefix_append _ _).trans hprefix
  | mark => exact scored_prefix _
  | ending => exact List.prefix_rfl
  | endingAtOnce => exact List.prefix_rfl
  | finished => exact List.prefix_rfl

/-- A change of speed leaves a player at its place, if it does not come amid a command or the end. -/
theorem move_setSpeed {sp : Speed} (h : OnScore told s)
    (hm : s.RestartsBetween (.ask (.setSpeed sp))) :
    OnScore (told ++ events [(s.move (.ask (.setSpeed sp))).2])
      (s.move (.ask (.setSpeed sp))).1 := by
  obtain ⟨q, hq, hlevel, hepoch⟩ := s.move_setSpeed sp
  have hrestart := hm sp rfl
  rw [hq, show events [.answered .done] = [] from rfl, List.append_nil]
  cases h with
  | between hmode =>
    rw [← hlevel.scored_eq]
    exact .between (hlevel.mode_eq.trans hmode)
  | command hmode htold =>
    have hsame : q.epoch = _ := hepoch fun hr => by simpa using hrestart hr
    rw [← hsame]
    exact .command (hlevel.mode_eq.trans hmode) (htold.trans hlevel.scored_eq.symm)
  | mark hmode =>
    rw [← hlevel.scored_eq]
    exact .mark (hlevel.mode_eq.trans hmode)
  | ending =>
    have hsame : q.epoch = _ := hepoch fun hr => by simpa using hrestart hr
    rw [← hsame, ← hlevel.program_eq]
    exact .ending
  | endingAtOnce hmode =>
    rw [← hlevel.program_eq]
    exact .endingAtOnce (hlevel.mode_eq.trans hmode)
  | finished hmode =>
    rw [← hlevel.program_eq]
    exact .finished (hlevel.mode_eq.trans hmode)

/-- The timer that drives the player has the next command told, or the end. -/
theorem move_fire_held {p : Player} {j : Nat} (hs : p.Sound) (hmode : p.mode = .running)
    (hj : p.held = some j) :
    OnScore (p.scored ++ events [(Performance.move ⟨p, []⟩ (.fire j)).2])
      (Performance.move ⟨p, []⟩ (.fire j)).1 := by
  obtain ⟨t, ht, -, he⟩ := hs.driver j hj
  have hfire : p.fire j = p.advance (.tick p.epoch) := by
    unfold fire
    rw [ht]
    show (if t.epoch = p.epoch then _ else _) = _
    rw [if_pos he, he]
  rw [move_fire, hfire]
  unfold advance
  cases hc : p.current? with
  | some i =>
    refine .command (p := p.forward) hmode ?_
    rw [scored_forward hc, List.append_assoc]
    rfl
  | none =>
    have hscore := scored_of_exhausted hc
    show OnScore (p.scored ++ [.highlight none]) _
    rw [hscore]
    exact .ending

theorem move_fire (hs : s.player.Sound) (h : OnScore told s) (hw : s.waiting = []) (j : Nat) :
    OnScore (told ++ events [(s.move (.fire j)).2]) (s.move (.fire j)).1 := by
  have hother : s.player.held ≠ some j →
      OnScore (told ++ events [(s.move (.fire j)).2]) (s.move (.fire j)).1 := by
    intro hj
    rw [Performance.move_fire, hs.fire_other hj]
    exact (List.append_nil told).symm ▸ h
  by_cases hj : s.player.held = some j
  · cases h with
    | between hmode => exact move_fire_held hs hmode hj
    | finished hmode =>
      have hr := hs.running_iff.mpr ⟨j, hj⟩
      rw [hmode] at hr
      cases hr
    | command => cases hw
    | mark => cases hw
    | ending => cases hw
    | endingAtOnce => cases hw
  · exact hother hj

/-- When a callback returns, the block of the command is marked, or nothing more is told. -/
theorem move_back (h : OnScore told s) :
    OnScore (told ++ events [(s.move .back).2]) (s.move .back).1 := by
  cases h with
  | between hmode =>
    rw [move_back_of_nil rfl]
    exact (List.append_nil (scored _)).symm ▸ .between hmode
  | @command told p i epoch hmode htold =>
    rw [move_back_of_cons rfl, resume, if_pos rfl]
    show OnScore (told ++ [.highlight (some i.id)]) _
    rw [htold]
    exact .mark hmode
  | mark hmode =>
    rw [move_back_of_cons rfl]
    exact (List.append_nil (scored _)).symm ▸ .between hmode
  | @ending p =>
    rw [move_back_of_cons rfl, resume]
    show OnScore (p.program.score ++ []) ⟨if p.epoch = p.epoch then p.cancel else p, []⟩
    rw [if_pos rfl, List.append_nil]
    exact .finished (p := p.cancel) rfl
  | @endingAtOnce p hmode =>
    rw [move_back_of_cons rfl]
    show OnScore (p.program.score ++ []) ⟨p, []⟩
    rw [List.append_nil]
    exact .finished hmode
  | @finished p hmode =>
    rw [move_back_of_nil rfl]
    show OnScore (p.program.score ++ []) ⟨p, []⟩
    rw [List.append_nil]
    exact .finished hmode

/-- **A player stays on its score, one move after another.** -/
theorem move (hs : s.player.Sound) (h : OnScore told s) (hm : s.Paces m)
    (hr : s.RestartsBetween m) : OnScore (told ++ events [(s.move m).2]) (s.move m).1 := by
  cases hm with
  | setSpeed sp => exact h.move_setSpeed hr
  | tick j hw => exact h.move_fire hs hw j
  | back => exact h.move_back

theorem run {ms : List Move} (hs : s.player.Sound) (h : OnScore told s)
    (hms : s.Throughout Paces ms) (hr : s.Throughout RestartsBetween ms) :
    OnScore (told ++ events (s.run ms).1) (s.run ms).2 := by
  induction ms generalizing s told with
  | nil => exact (List.append_nil told).symm ▸ h
  | cons m ms ih =>
    have hrest := ih (sound_move hs m) (h.move hs hms.1 hr.1) hms.2 hr.2
    rw [run_cons, events_cons, ← List.append_assoc]
    exact hrest

/-- To ask a fresh player to play brings it to the beginning of its score. -/
theorem of_play (h : s.Fresh) :
    OnScore (events [(s.move (.ask .play)).2]) (s.move (.ask .play)).1 := by
  obtain ⟨p, waiting⟩ := s
  obtain ⟨rfl, hmode, hcursor⟩ := h
  have hscored : p.scored = [] := by
    rw [scored, show p.cursor = 0 from hcursor, List.take_zero]
    rfl
  rw [move_ask, ask, if_neg (not_isRunning hmode)]
  split
  · next he =>
    have hscore := scored_of_exhausted (current?_eq_none_iff.mpr he)
    rw [hscored, List.nil_append] at hscore
    show OnScore [.highlight none] ⟨p, [.cleared .play]⟩
    rw [hscore]
    exact .endingAtOnce hmode
  · have hstart : p.start.scored = p.scored := rfl
    show OnScore [] ⟨p.start, []⟩
    rw [← hscored, ← hstart]
    exact .between rfl

/-- **A fresh player that is asked to play has the beginning of its score told.** -/
theorem events_play {ms : List Move} (hs : s.player.Sound) (h : s.Fresh)
    (hms : (s.move (.ask .play)).1.Throughout Paces ms)
    (hr : (s.move (.ask .play)).1.Throughout RestartsBetween ms) :
    events (s.run (.ask .play :: ms)).1
      <+: (s.run (.ask .play :: ms)).2.player.program.score := by
  rw [run_cons, events_cons]
  exact ((of_play h).run (sound_move hs _) hms hr).prefix_score

end OnScore

/--
**At whatever speeds a program is played, the commands that are told are the first ones of the program.**
And **what is told is the beginning of the score**, if changes of speed do not replace the timer at all,
or only between instructions and amid callbacks that are told which block to mark.
-/
theorem speed_keeps_score (program : Program) (o : PlaybackOptions) {before after : List Move}
    (hbefore : (ofPlayer (.new program o)).Throughout Paces before)
    (hafter : ((ofPlayer (.new program o)).run (before ++ [.ask .play])).2.Throughout Paces after) :
    let reports := ((ofPlayer (.new program o)).run (before ++ .ask .play :: after)).1
    commands reports <+: program.commands ∧
      (o.reschedule = false ∨ ((ofPlayer (.new program o)).run
          (before ++ [.ask .play])).2.Throughout RestartsBetween after →
        events reports <+: program.score) := by
  intro reports
  have hgoesOn : ∀ m ∈ before ++ .ask .play :: after, GoesOn m := by
    intro m hm
    rcases List.mem_append.mp hm with hm | hm
    · exact goesOn_of_throughout hbefore m hm
    · rcases List.mem_cons.mp hm with rfl | hm
      · exact ⟨nofun, nofun⟩
      · exact goesOn_of_throughout hafter m hm
  have hcovers := covers_run (s := ofPlayer (.new program o)) (plays_of_nil rfl) hgoesOn
  refine ⟨?_, ?_⟩
  · rw [hcovers.told_eq]
    exact (List.take_prefix _ program).map _
  · intro hr
    have hnew : (ofPlayer (.new program o)).player.Sound := sound_new program o
    obtain ⟨hfresh, hnone⟩ := Fresh.run hnew ⟨rfl, rfl, rfl⟩ hbefore
    have hreschedule := (ofPlayer (.new program o)).reschedule_run (before ++ [.ask .play])
    have hbetween := hr.elim
      (fun ho => restartsBetween_of_reschedule_eq_false (hreschedule.trans ho)) id
    rw [run_append] at hafter hbetween
    have hprefix := OnScore.events_play (sound_run hnew before) hfresh hafter hbetween
    have htold : events reports
        = events ((((ofPlayer (.new program o)).run before).2.run (.ask .play :: after)).1) := by
      show events ((ofPlayer (.new program o)).run (before ++ .ask .play :: after)).1 = _
      rw [run_append, events_append, hnone, List.nil_append]
    have hprogram : (((ofPlayer (.new program o)).run before).2.run
        (.ask .play :: after)).2.player.program = program := by
      have h := hcovers.program_eq
      rw [run_append] at h
      exact h
    rw [hprogram] at hprefix
    rw [htold]
    exact hprefix

/--
The timer is replaced before its first tick and again amid a callback that is told which block to mark;
the timers that were let go fire too.
-/
theorem speed_between_instructions :
    let program : Program := [⟨"a", .perform .turnLeft⟩, ⟨"b", .perform .deliver⟩]
    let o : PlaybackOptions := ⟨700000000, .normal, true⟩
    let before : List Move := [.ask (.setSpeed ⟨4, by decide⟩)]
    let after : List Move :=
      [.ask (.setSpeed ⟨2, by decide⟩), .fire 0, .fire 1, .back, .ask (.setSpeed ⟨1, by decide⟩), .back,
        .fire 1, .fire 2]
    let reports := ((ofPlayer (.new program o)).run (before ++ .ask .play :: after)).1
    (ofPlayer (.new program o)).Throughout Paces before ∧
    ((ofPlayer (.new program o)).run (before ++ [.ask .play])).2.Throughout Paces after ∧
    ((ofPlayer (.new program o)).run (before ++ [.ask .play])).2.Throughout RestartsBetween after ∧
    events reports = program.score.take 3 ∧
    commands reports <+: program.commands ∧ events reports <+: program.score := by
  intro program o before after reports
  have hbefore : (ofPlayer (.new program o)).Throughout Paces before := ⟨.setSpeed _, trivial⟩
  have hafter :
      ((ofPlayer (.new program o)).run (before ++ [.ask .play])).2.Throughout Paces after :=
    ⟨.setSpeed _, .tick 0 (by decide +kernel), .tick 1 (by decide +kernel), .back, .setSpeed _, .back,
      .tick 1 (by decide +kernel), .tick 2 (by decide +kernel), trivial⟩
  have hbetween : ((ofPlayer (.new program o)).run
      (before ++ [.ask .play])).2.Throughout RestartsBetween after :=
    ⟨fun _ _ _ => .inl (by decide +kernel), nofun, nofun, nofun,
      fun _ _ _ => .inr ⟨⟨"a", .perform .turnLeft⟩, .tick 3, [], by decide +kernel⟩,
      nofun, nofun, nofun, trivial⟩
  have hscore := speed_keeps_score program o hbefore hafter
  exact ⟨hbefore, hafter, hbetween, by decide, hscore.1, hscore.2 (.inr hbetween)⟩

/--
The callback that is told the first command changes the speed, and the timer is replaced: the first
block is never marked. The callback that is told of the end does so too: the end is told once more.
-/
theorem speed_amid_command_and_end :
    let program : Program := [⟨"a", .perform .turnLeft⟩, ⟨"b", .perform .deliver⟩]
    let s := ofPlayer (.new program ⟨700000000, .normal, true⟩)
    ¬ events (s.run [.ask .play, .fire 0, .ask (.setSpeed ⟨2, by decide⟩), .back, .fire 1]).1
        <+: program.score ∧
      ¬ events (s.run [.ask .play, .fire 0, .back, .back, .fire 0, .back, .back, .fire 0,
          .ask (.setSpeed ⟨2, by decide⟩), .back, .fire 1]).1 <+: program.score := by
  decide

end Performance

end BlockPlayer
