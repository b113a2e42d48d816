import BlockPlayer.Proofs.Studio.Following
import BlockPlayer.Proofs.Studio.Rest

/-!
# What a session is good for

While a session lasts the player has the program of the chain, and once it has ended, edits make no
difference to the player.

* `Unattended.run` — a player that nobody tells of edits does what it is asked for, and nothing else
* `run_filter_isEdit` — after the end of a session, a run could do without its edits
* `session_follows_edits` — **both, for all studios that can be reached**
-/

namespace BlockPlayer

namespace Studio

variable {s : Studio}

/-- What a move asks of the player. -/
def Move.performed? : Move → Option BlockPlayer.Move
  | perform m => some m
  | _ => none

/-- The player is told of no edit, neither of an earlier one nor of any that may still come. -/
structure Unattended (s : Studio) : Prop where
  session : s.session = none
  duty : ∀ d, s.duty = some d → ∃ rest, d = .guest rest ∧ ∀ o, .player o ∉ rest
  listeners : ∀ w, s.workspace = some w → ∀ o, .player o ∉ w.listeners

/-- When a session has ended and nobody is still to be told of an edit, the player is unattended. -/
theorem InStep.unattended (h : s.InStep) (hz : s.session = none) (hd : s.duty = none) :
    s.Unattended := by
  refine ⟨hz, fun d hd' => absurd (hd.symm.trans hd') nofun, ?_⟩
  intro w hw o ho
  obtain ⟨key, hkey⟩ := (h w hw).fits.session_of_mem ho
  rw [hz] at hkey
  cases hkey

/-- Guests are told of edits without the player. -/
theorem unattended_notify {l : List Listener} (hl : ∀ o, .player o ∉ l) (hz : s.session = none)
    (hlisteners : ∀ w, s.workspace = some w → ∀ o, .player o ∉ w.listeners) :
    (s.notify l).1.Unattended ∧ (s.notify l).1.stage = s.stage ∧ (s.notify l).2.heard = [] := by
  rcases l with _ | ⟨n | o, rest⟩
  · rw [notify_nil]
    exact ⟨⟨hz, nofun, hlisteners⟩, rfl, rfl⟩
  · rw [notify_guest]
    refine ⟨⟨hz, ?_, hlisteners⟩, rfl, rfl⟩
    rintro d ⟨⟩
    exact ⟨rest, rfl, fun o ho => hl o (List.mem_cons_of_mem _ ho)⟩
  · exact absurd List.mem_cons_self (hl o)

namespace Unattended

theorem perform (h : s.Unattended) (m : BlockPlayer.Move) :
    (s.perform m).1.Unattended ∧ (s.perform m).1.stage = (s.stage.move m).1 ∧
      (s.perform m).2.heard = Performance.events [(s.stage.move m).2] := by
  have hstage : (s.withStage (s.stage.move m).1).Unattended := ⟨h.session, h.duty, h.listeners⟩
  rcases s.perform_cases m with ⟨rest, rfl, hw, hd, hp⟩ | hp
  · rw [hp, Performance.move_back_of_nil hw]
    refine unattended_notify ?_ h.session h.listeners
    obtain ⟨rest', he, hrest⟩ := h.duty _ hd
    cases he
    exact hrest
  · rw [hp]
    rcases (s.withStage (s.stage.move m).1).settle_cases (s.stage.move m).2 with
      ⟨e, he, hs⟩ | ⟨a, ha, ⟨rest, -, hd, -⟩ | ⟨o, -, hd, -⟩ | ⟨-, hs⟩⟩
    · rw [hs, he]
      exact ⟨hstage, rfl, rfl⟩
    · obtain ⟨rest', he, -⟩ := hstage.duty _ hd
      cases he
    · obtain ⟨rest', he, -⟩ := hstage.duty _ hd
      cases he
    · rw [hs, ha]
      exact ⟨hstage, rfl, rfl⟩

theorem mapWorkspace (h : s.Unattended) {f : Workspace → Workspace}
    (hf : ∀ w, (∀ o, .player o ∉ w.listeners) → ∀ o, .player o ∉ (f w).listeners) :
    (s.mapWorkspace f).Unattended := by
  refine ⟨h.session, h.duty, ?_⟩
  intro w' hw'
  obtain ⟨w, hw, rfl⟩ := Option.map_eq_some_iff.mp hw'
  exact hf w (h.listeners w hw)

/-- What is done without the player does not concern it. -/
theorem act_of_performed?_eq_none (h : s.Unattended) {m : Move} (hm : m.performed? = none)
    (hattach : ∀ o, m ≠ .attach o) :
    (s.act m).1.Unattended ∧ (s.act m).1.stage = s.stage ∧ (s.act m).2 = [] := by
  have hedit : m.isEdit = true →
      (s.act m).1.Unattended ∧ (s.act m).1.stage = s.stage ∧ (s.act m).2 = [] := by
    intro he
    rcases s.act_of_isEdit he with ⟨w, g, hw, -, -, ha⟩ | ha
    · rw [ha]
      refine unattended_notify (h.listeners w hw) h.session ?_
      rintro w' ⟨⟩
      exact h.listeners w hw
    · rw [ha]
      exact ⟨h, rfl, rfl⟩
  cases m with
  | perform m => cases hm
  | edit e => exact hedit rfl
  | replace g => exact hedit rfl
  | subscribe n =>
    refine ⟨h.mapWorkspace ?_, rfl, rfl⟩
    intro w hw o ho
    rw [Workspace.listeners, Workspace.subscriptions_subscribe, List.map_append] at ho
    rcases List.mem_append.mp ho with ho | ho
    · exact hw o ho
    · rw [List.map_singleton, List.mem_singleton] at ho
      cases ho
  | unsubscribe key =>
    refine ⟨h.mapWorkspace ?_, rfl, rfl⟩
    intro w hw o ho
    obtain ⟨x, hx, hl⟩ := List.mem_map.mp ho
    exact hw o (List.mem_map.mpr ⟨x, (Workspace.mem_unsubscribe.mp hx).1, hl⟩)
  | attach o => exact absurd rfl (hattach o)
  | detach =>
    have hd : s.detach = s := by simp only [detach, h.session]
    show s.detach.Unattended ∧ s.detach.stage = s.stage ∧ ([] : List Event) = []
    rw [hd]
    exact ⟨h, rfl, rfl⟩
  | close => exact ⟨⟨h.session, h.duty, nofun⟩, rfl, rfl⟩

/-- **A player that nobody tells of edits does what it is asked for, and nothing else.** -/
theorem run (h : s.Unattended) {ms : List Move} (hms : ∀ o, .attach o ∉ ms) :
    (s.run ms).2.stage = (s.stage.run (ms.filterMap Move.performed?)).2 ∧
      (s.run ms).1 = Performance.events (s.stage.run (ms.filterMap Move.performed?)).1 := by
  induction ms generalizing s with
  | nil => exact ⟨rfl, rfl⟩
  | cons m ms ih =>
    have hrest : ∀ o, .attach o ∉ ms := fun o ho => hms o (List.mem_cons_of_mem _ ho)
    rw [run_cons]
    cases hm : m.performed? with
    | none =>
      obtain ⟨hact, hstage, hheard⟩ :=
        h.act_of_performed?_eq_none hm fun o ho => hms o (ho ▸ List.mem_cons_self)
      rw [List.filterMap_cons_none hm, ← hstage, hheard]
      exact ih hact hrest
    | some m' =>
      obtain rfl : m = .perform m' := by
        cases m <;> cases hm
        rfl
      obtain ⟨hact, hstage, hheard⟩ := h.perform m'
      obtain ⟨ihstage, ihheard⟩ := ih hact hrest
      rw [List.filterMap_cons_some hm, Performance.run_cons, Performance.events_cons]
      rw [hstage] at ihstage ihheard
      exact ⟨ihstage, congrArg₂ (· ++ ·) hheard ihheard⟩

end Unattended

/-! ## After the end of a session -/

/-- There is no session, and none is about to begin. -/
structure Ended (s : Studio) : Prop where
  session : s.session = none
  duty : ∀ o, s.duty ≠ some (.open o)

theorem session_detach (s : Studio) : s.detach.session = none := by
  unfold detach
  split
  · next h => exact h
  · rfl

theorem duty_detach (s : Studio) : s.detach.duty = s.duty := by
  unfold detach
  split <;> rfl

namespace Ended

theorem notify (h : s.session = none) (l : List Listener) : (s.notify l).1.Ended :=
  ⟨(s.notify_frame l).2.trans h, s.duty_notify_ne_open l⟩

theorem perform (h : s.Ended) (m : BlockPlayer.Move) : (s.perform m).1.Ended := by
  have hstage : (s.withStage (s.stage.move m).1).Ended := ⟨h.session, h.duty⟩
  rcases s.perform_cases m with ⟨rest, -, -, -, hp⟩ | hp
  · rw [hp]
    exact notify h.session rest
  · rw [hp]
    rcases (s.withStage (s.stage.move m).1).settle_cases (s.stage.move m).2 with
      ⟨e, -, hs⟩ | ⟨a, -, ⟨rest, -, -, hs⟩ | ⟨o, -, hd, -⟩ | ⟨-, hs⟩⟩
    · rw [hs]
      exact hstage
    · rw [hs]
      exact notify hstage.session rest
    · exact absurd hd (h.duty o)
    · rw [hs]
      exact hstage

/-- Only to attach the player begins a session. -/
theorem act (h : s.Ended) {m : Move} (hm : ∀ o, m ≠ .attach o) : (s.act m).1.Ended := by
  have hedit : m.isEdit = true → (s.act m).1.Ended := by
    intro he
    rcases s.act_of_isEdit he with ⟨w, g, -, -, -, ha⟩ | ha
    · rw [ha]
      exact notify (s := { s with workspace := some (w.withGraph g) }) h.session w.listeners
    · rw [ha]
      exact h
  cases m with
  | perform m => exact h.perform m
  | edit e => exact hedit rfl
  | replace g => exact hedit rfl
  | subscribe n => exact ⟨h.session, h.duty⟩
  | unsubscribe key => exact ⟨h.session, h.duty⟩
  | attach o => exact absurd rfl (hm o)
  | detach => exact ⟨s.session_detach, fun o => s.duty_detach ▸ h.duty o⟩
  | close => exact ⟨h.session, h.duty⟩

/-- Everything is allowed when no session lasts. -/
theorem allowed (h : s.Ended) (m : Move) : s.Allowed m := by
  unfold Allowed
  split
  · exact ⟨h.session, h.duty⟩
  · intro z hz
    exact absurd (h.session.symm.trans hz) nofun
  · trivial

end Ended

theorem Move.performed?_of_isEdit {m : Move} (h : m.isEdit = true) : m.performed? = none := by
  cases m <;> first | rfl | cases h

/-- To leave edits out leaves nothing out that the player is asked for. -/
theorem filterMap_performed?_filter (ms : List Move) :
    (ms.filter fun m => !m.isEdit).filterMap Move.performed? = ms.filterMap Move.performed? := by
  induction ms with
  | nil => rfl
  | cons m ms ih =>
    cases he : m.isEdit with
    | true =>
      rw [List.filter_cons_of_neg (by simp [he]), ih,
        List.filterMap_cons_none (Move.performed?_of_isEdit he)]
    | false =>
      rw [List.filter_cons_of_pos (by simp [he]), List.filterMap_cons, List.filterMap_cons, ih]

/--
**After the end of a session, a run could do without its edits.** A listener may still be told of an
edit that was made before; until that is done, there are no others.
-/
theorem run_filter_isEdit (h : s.InStep) (hend : s.Ended) {ms : List Move}
    (hms : ∀ o, .attach o ∉ ms) :
    (s.run ms).2.stage = (s.run (ms.filter fun m => !m.isEdit)).2.stage ∧
      (s.run ms).1 = (s.run (ms.filter fun m => !m.isEdit)).1 := by
  induction ms generalizing s with
  | nil => exact ⟨rfl, rfl⟩
  | cons m ms ih =>
    cases hd : s.duty with
    | none =>
      -- nobody is to be told any more, and both runs ask the same of the player
      have hun := h.unattended hend.session hd
      obtain ⟨hstage, hheard⟩ := hun.run hms
      have hfilter : ∀ o, Move.attach o ∉ (m :: ms).filter fun m => !m.isEdit :=
        fun o ho => hms o (List.mem_filter.mp ho).1
      obtain ⟨hstage', hheard'⟩ := hun.run hfilter
      rw [filterMap_performed?_filter] at hstage' hheard'
      exact ⟨hstage.trans hstage'.symm, hheard.trans hheard'.symm⟩
    | some d =>
      have hrest : ∀ o, .attach o ∉ ms := fun o ho => hms o (List.mem_cons_of_mem _ ho)
      have hm : ∀ o, m ≠ .attach o := fun o ho => hms o (ho ▸ List.mem_cons_self)
      cases he : m.isEdit with
      | true =>
        -- as long as somebody is being told of an edit, there is no other
        have hact : s.act m = (s, []) := by
          rcases s.act_of_isEdit he with ⟨w, g, -, -, hnone, -⟩ | ha
          · rw [hd] at hnone
            cases hnone
          · exact ha
        rw [List.filter_cons_of_neg (by simp [he]), run_cons, hact]
        exact ih h hend hrest
      | false =>
        obtain ⟨hstage, hheard⟩ := ih (h.act (hend.allowed m)) (hend.act hm) hrest
        rw [List.filter_cons_of_pos (by simp [he]), run_cons, run_cons]
        exact ⟨hstage, congrArg ((s.act m).2 ++ ·) hheard⟩

/-! ## Sessions -/

/--
**While a session lasts, the player has the program of the chain as it is**, and the empty program if the
chain has none. **Once it has ended, edits make no difference to the player, nor to what its callbacks
are told.** What has been begun is done when everybody has given the word back.
-/
theorem session_follows_edits (h : s.Reachable) :
    (∀ w z, s.workspace = some w → s.session = some z → s.duty = none →
      s.player.program = compileOrEmpty z.options w.graph.startNode ∧
      (∀ p, compile z.options w.graph.startNode = .ok p → s.player.program = p) ∧
      (∀ e, compile z.options w.graph.startNode = .error e → s.player.program = [])) ∧
    (∀ ms, (∀ o, s.duty ≠ some (.open o)) → (∀ o, .attach o ∉ ms) →
      (s.detach.run ms).2.stage = (s.detach.run (ms.filter fun m => !m.isEdit)).2.stage ∧
      (s.detach.run ms).1 = (s.detach.run (ms.filter fun m => !m.isEdit)).1) ∧
    ∃ n, (s.run (.replicate n (.perform .back))).2.isIdle = true := by
  refine ⟨?_, ?_, s.exists_isIdle_run⟩
  · intro w z hw hz hd
    have hserves := (h.inStep w hw).serves z hz
    rw [hd] at hserves
    have hprogram : s.player.program = compileOrEmpty z.options w.graph.startNode :=
      hserves.program_eq
    refine ⟨hprogram, ?_, ?_⟩
    · intro p hp
      rw [hprogram, compileOrEmpty, hp]
    · intro e he
      rw [hprogram, compileOrEmpty, he]
  · intro ms hd hms
    refine run_filter_isEdit h.inStep.detach ⟨s.session_detach, ?_⟩ hms
    rw [s.duty_detach]
    exact hd

/-- A guest is told of an edit before the player is, which stops; its callback starts it again. -/
theorem edit_amid_play_follows :
    let deliver (id : BlockId) : Block := ⟨id, .action .deliver, none⟩
    let s := ((new (some (.ofGraph (.new "s"))) (.new [] .default)).run
      [.subscribe 0, .attach .default, .edit (.insertAfter "s" (deliver "b")), .perform .back,
        .perform (.ask .play), .edit (.insertAfter "s" (deliver "a")), .perform .back,
        .perform (.ask .play), .perform .back]).2
    s.Reachable ∧ (∃ w z, s.workspace = some w ∧ s.session = some z ∧ s.duty = none ∧
      s.player.program = compileOrEmpty z.options w.graph.startNode) ∧
    s.player.program = [⟨"a", .perform .deliver⟩, ⟨"b", .perform .deliver⟩] ∧
    (s.detach.run [.edit .clear, .perform (.fire 1)]).1 = (s.detach.run [.perform (.fire 1)]).1 ∧
    ∃ n, (s.run (.replicate n (.perform .back))).2.isIdle = true := by
  intro deliver s
  have hreachable : s.Reachable := by
    refine (Reachable.new (some (.new "s")) (.new [] .default)).run ?_
    exact ⟨trivial, trivial, trivial, trivial, trivial, trivial, trivial, trivial, trivial, trivial⟩
  obtain ⟨hfollows, hended, hidle⟩ := session_follows_edits hreachable
  have hduty : s.duty = none := by decide
  obtain ⟨w, hw⟩ := Option.isSome_iff_exists.mp (show s.workspace.isSome = true by decide)
  obtain ⟨z, hz⟩ := Option.isSome_iff_exists.mp (show s.session.isSome = true by decide)
  refine ⟨hreachable, ⟨w, z, hw, hz, hduty, (hfollows w z hw hz hduty).1⟩, by decide, ?_, hidle⟩
  refine (hended [.edit .clear, .perform (.fire 1)] ?_ ?_).2
  · rw [hduty]
    exact nofun
  · intro o ho
    simp at ho

end Studio

end BlockPlayer
