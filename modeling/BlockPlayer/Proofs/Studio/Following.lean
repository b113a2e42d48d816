import BlockPlayer.Proofs.Studio.Moves

/-!
# Following a workspace

While a session lasts, the player has the program of the chain, or will have it before the studio comes
to rest. What exactly can be said depends on what the studio is about to do (`Serves`).

* `Workspace.Fits` — whose subscriptions there are
* `Studio.Follows` — the invariant of a studio with a workspace
* `Reachable.inStep` — **every studio that can be reached is in step with its workspace**
-/

namespace BlockPlayer

/-! ## Subscriptions -/

namespace Workspace

/-- The player listens for the session, if there is one, and for nothing else. -/
structure Fits (w : Workspace) (session : Option Session) : Prop where
  key_lt : ∀ x ∈ w.subscriptions, x.key < w.nextKey
  player : ∀ x ∈ w.subscriptions, ∀ o, x.listener = .player o → session = some ⟨x.key, o⟩
  subscribed : ∀ z, session = some z → ⟨z.key, .player z.options⟩ ∈ w.subscriptions

theorem fits_ofGraph (g : Graph) : (ofGraph g).Fits none where
  key_lt := fun _ hx => absurd hx List.not_mem_nil
  player := fun _ hx => absurd hx List.not_mem_nil
  subscribed := nofun

namespace Fits

variable {w : Workspace} {session : Option Session}

theorem withGraph (h : w.Fits session) (g : Graph) : (w.withGraph g).Fits session :=
  ⟨h.key_lt, h.player, h.subscribed⟩

theorem key_lt_subscribe (h : w.Fits session) (l : Listener) :
    ∀ x ∈ (w.subscribe l).subscriptions, x.key < (w.subscribe l).nextKey := by
  intro x hx
  show x.key < w.nextKey + 1
  rw [subscriptions_subscribe, List.mem_append, List.mem_singleton] at hx
  rcases hx with hx | rfl
  · exact Nat.lt_succ_of_lt (h.key_lt x hx)
  · exact Nat.lt_succ_self _

theorem subscribe_guest (h : w.Fits session) (n : Nat) :
    (w.subscribe (.guest n)).Fits session where
  key_lt := h.key_lt_subscribe _
  player := by
    intro x hx o ho
    rw [subscriptions_subscribe, List.mem_append, List.mem_singleton] at hx
    rcases hx with hx | rfl
    · exact h.player x hx o ho
    · cases ho
  subscribed := by
    intro z hz
    rw [subscriptions_subscribe]
    exact List.mem_append_left _ (h.subscribed z hz)

theorem unsubscribe (h : w.Fits session) {key : Nat} (hk : ∀ z, session = some z → key ≠ z.key) :
    (w.unsubscribe key).Fits session where
  key_lt := fun x hx => h.key_lt x (mem_unsubscribe.mp hx).1
  player := fun x hx => h.player x (mem_unsubscribe.mp hx).1
  subscribed := fun z hz => mem_unsubscribe.mpr ⟨h.subscribed z hz, (hk z hz).symm⟩

/-- When a session ends, the player no longer listens. -/
theorem leave {z : Session} (h : w.Fits (some z)) : (w.unsubscribe z.key).Fits none where
  key_lt := fun x hx => h.key_lt x (mem_unsubscribe.mp hx).1
  player := by
    intro x hx o ho
    obtain ⟨hmem, hne⟩ := mem_unsubscribe.mp hx
    cases h.player x hmem o ho
    exact absurd rfl hne
  subscribed := nofun

/-- When a session begins and there was none, the player listens for it. -/
theorem enter (h : w.Fits none) (o : CompileOptions) :
    (w.subscribe (.player o)).Fits (some ⟨w.nextKey, o⟩) where
  key_lt := h.key_lt_subscribe _
  player := by
    intro x hx o' ho
    rw [subscriptions_subscribe, List.mem_append, List.mem_singleton] at hx
    rcases hx with hx | rfl
    · cases h.player x hx o' ho
    · cases ho
      rfl
  subscribed := by
    rintro z ⟨⟩
    rw [subscriptions_subscribe]
    exact List.mem_append_right _ (List.mem_singleton.mpr rfl)

/-- A session that takes the place of another has a key of its own. -/
theorem succeed {old : Session} (h : w.Fits (some old)) (o : CompileOptions) :
    ((w.subscribe (.player o)).unsubscribe old.key).Fits (some ⟨w.nextKey, o⟩) where
  key_lt := fun x hx => h.key_lt_subscribe _ x (mem_unsubscribe.mp hx).1
  player := by
    intro x hx o' ho
    obtain ⟨hmem, hne⟩ := mem_unsubscribe.mp hx
    rw [subscriptions_subscribe, List.mem_append, List.mem_singleton] at hmem
    rcases hmem with hmem | rfl
    · cases h.player x hmem o' ho
      exact absurd rfl hne
    · cases ho
      rfl
  subscribed := by
    rintro z ⟨⟩
    -- the old session has subscribed before, so its key is not the new one
    have hlt : old.key < w.nextKey := h.key_lt _ (h.subscribed old rfl)
    refine mem_unsubscribe.mpr ⟨?_, Nat.ne_of_gt hlt⟩
    rw [subscriptions_subscribe]
    exact List.mem_append_right _ (List.mem_singleton.mpr rfl)

theorem session_of_mem {o : CompileOptions} (h : w.Fits session) (ho : .player o ∈ w.listeners) :
    ∃ key, session = some ⟨key, o⟩ := by
  obtain ⟨x, hx, hl⟩ := List.mem_map.mp ho
  exact ⟨x.key, h.player x hx o hl⟩

theorem mem_listeners {z : Session} (h : w.Fits (some z)) :
    .player z.options ∈ w.listeners :=
  List.mem_map.mpr ⟨_, h.subscribed z rfl, rfl⟩

end Fits

end Workspace

/-! ## The invariant -/

namespace Studio

/-- The player is told of edits for these options only. -/
def OnlyFor (o : CompileOptions) (l : List Listener) : Prop := ∀ o', .player o' ∈ l → o' = o

/--
How near the player is to the program `q` of a session with options `o`, going by the duty. When an
edit has been made, the player may have the old program as long as it is still to be told.
-/
def Serves (stage : Performance) (q : Program) (o : CompileOptions) : Option Duty → Prop
  | none => stage.Plays q
  | some (.guest rest) =>
    OnlyFor o rest ∧ ∃ q', stage.Plays q' ∧ (q' = q ∨ .player o ∈ rest)
  | some (.reload rest) => OnlyFor o rest ∧ stage.TurnsTo q
  | some (.open _) => True

/-- The invariant of a studio with the workspace `w`. -/
structure Follows (s : Studio) (w : Workspace) : Prop where
  fits : w.Fits s.session
  serves : ∀ z, s.session = some z → Serves s.stage (w.program z.options) z.options s.duty
  opens : ∀ o, s.duty = some (.open o) → s.stage.TurnsTo (w.program o)

/-- The invariant. Nothing is said of a studio whose workspace was closed. -/
def InStep (s : Studio) : Prop := ∀ w, s.workspace = some w → s.Follows w

variable {s : Studio} {w : Workspace}

theorem program_of_workspace (h : s.workspace = some w) (o : CompileOptions) :
    s.program o = w.program o := by
  simp only [program, h]

theorem Serves.move {stage : Performance} {q : Program} {o : CompileOptions} {duty : Option Duty}
    (h : Serves stage q o duty) {m : BlockPlayer.Move} (hm : ∀ q', m ≠ .ask (.load q')) :
    Serves (stage.move m).1 q o duty := by
  rcases duty with _ | rest | rest | o'
  · exact Performance.Plays.move h hm
  · obtain ⟨honly, q', hplays, hq⟩ := h
    exact ⟨honly, q', hplays.move hm, hq⟩
  · exact ⟨h.1, h.2.move hm⟩
  · trivial

/-- The listeners that are told of an edit bring the player to the program of the chain. -/
theorem serves_notify {q : Program} {o : CompileOptions} {l : List Listener}
    (hprogram : s.program o = q) (hw : s.stage.waiting = []) (honly : OnlyFor o l)
    (h : s.player.program = q ∨ .player o ∈ l) :
    Serves (s.notify l).1.stage q o (s.notify l).1.duty := by
  induction l generalizing s with
  | nil =>
    rw [notify_nil]
    rcases h with rfl | h
    · exact Performance.plays_of_nil hw
    · exact absurd h List.not_mem_nil
  | cons x rest ih =>
    have hrest : OnlyFor o rest := fun o' ho => honly o' (List.mem_cons_of_mem _ ho)
    cases x with
    | guest n =>
      rw [notify_guest]
      refine ⟨hrest, _, Performance.plays_of_nil hw, h.imp_right ?_⟩
      intro hmem
      rcases List.mem_cons.mp hmem with he | hmem
      · cases he
      · exact hmem
    | player o' =>
      obtain rfl := honly o' List.mem_cons_self
      subst hprogram
      rcases Performance.move_load hw (s.program o') with ⟨e, he, hnew⟩ | ⟨a, ha, hnew, hplays⟩
      · -- the callbacks are told of a stop, and the program waits until they return
        rw [notify_player_of_told s (Prod.ext rfl he)]
        exact ⟨hrest, .inr ⟨[], hnew⟩⟩
      · rw [notify_player_of_answered s (Prod.ext rfl ha)]
        exact ih rfl hnew hrest (.inl hplays.program_eq)

/-- Telling of an edit ends in step if all that it takes is the listeners that are told. -/
theorem inStep_notify {l : List Listener} (hw : s.stage.waiting = [])
    (hfits : ∀ w, s.workspace = some w → w.Fits s.session)
    (h : ∀ w z, s.workspace = some w → s.session = some z → OnlyFor z.options l ∧
      (s.player.program = w.program z.options ∨ .player z.options ∈ l)) :
    (s.notify l).1.InStep := by
  obtain ⟨hworkspace, hsession⟩ := s.notify_frame l
  intro w hwork
  rw [hworkspace] at hwork
  refine ⟨hsession ▸ hfits w hwork, ?_, fun o ho => absurd ho (s.duty_notify_ne_open l o)⟩
  intro z hz
  rw [hsession] at hz
  obtain ⟨honly, hl⟩ := h w z hwork hz
  exact serves_notify (program_of_workspace hwork _) hw honly hl

/-! ## One move -/

/-- A performance that goes on without other programs keeps the invariant. -/
theorem Follows.withStage_move (h : s.Follows w) {m : BlockPlayer.Move}
    (hm : s.Allowed (.perform m)) : (s.withStage (s.stage.move m).1).Follows w where
  fits := h.fits
  serves := by
    intro z hz
    refine (h.serves z hz).move ?_
    rintro q rfl
    exact absurd (hm.1.symm.trans hz) nofun
  opens := by
    intro o ho
    refine (h.opens o ho).move ?_
    rintro q rfl
    exact hm.2 o ho

namespace InStep

/-- Subscriptions come and go. -/
theorem mapWorkspace (h : s.InStep) {f : Workspace → Workspace}
    (hgraph : ∀ w, (f w).graph = w.graph)
    (hfits : ∀ w, w.Fits s.session → (f w).Fits s.session) : (s.mapWorkspace f).InStep := by
  intro w' hw'
  obtain ⟨w, hw, rfl⟩ := Option.map_eq_some_iff.mp hw'
  have hfollows := h w hw
  have hprogram : ∀ o, (f w).program o = w.program o := fun o => by
    rw [Workspace.program, Workspace.program, hgraph]
  refine ⟨hfits w hfollows.fits, ?_, ?_⟩
  · intro z hz
    rw [hprogram]
    exact hfollows.serves z hz
  · intro o ho
    rw [hprogram]
    exact hfollows.opens o ho

theorem subscribe (h : s.InStep) (n : Nat) : (s.subscribe n).InStep :=
  h.mapWorkspace (fun _ => rfl) fun _ hfits => hfits.subscribe_guest n

theorem unsubscribe (h : s.InStep) {key : Nat} (hk : ∀ z, s.session = some z → key ≠ z.key) :
    (s.unsubscribe key).InStep :=
  h.mapWorkspace (fun _ => rfl) fun _ hfits => hfits.unsubscribe hk

theorem detach (h : s.InStep) : s.detach.InStep := by
  unfold Studio.detach
  split
  · exact h
  · next z hz =>
    intro w' hw'
    obtain ⟨w, hw, rfl⟩ := Option.map_eq_some_iff.mp hw'
    have hfollows := h w hw
    exact ⟨(hz ▸ hfollows.fits).leave, nofun, hfollows.opens⟩

/-- A session begins when the player has its program. -/
theorem enter (h : s.InStep) {o : CompileOptions} (hw : s.stage.waiting = [])
    (hd : s.duty = some (.open o)) : ((s.enter o).withDuty none).InStep := by
  cases hwork : s.workspace with
  | none =>
    intro w' hw'
    simp only [Studio.enter, hwork, withDuty] at hw'
    cases hw'
  | some w =>
    have hfollows := h w hwork
    have hplays : s.stage.Plays (w.program o) := (hfollows.opens o hd).plays hw
    intro w' hw'
    cases hz : s.session with
    | none =>
      simp only [Studio.enter, hwork, hz, withDuty] at hw' ⊢
      cases hw'
      refine ⟨(hz ▸ hfollows.fits).enter o, ?_, nofun⟩
      rintro z ⟨⟩
      exact hplays
    | some old =>
      simp only [Studio.enter, hwork, hz, withDuty] at hw' ⊢
      cases hw'
      refine ⟨(hz ▸ hfollows.fits).succeed o, ?_, nofun⟩
      rintro z ⟨⟩
      exact hplays

/-- When the player has done its part, the rest of the duty is done. -/
theorem settle (h : s.InStep) (r : BlockPlayer.Report) : (s.settle r).1.InStep := by
  rcases s.settle_cases r with ⟨e, -, hs⟩ | ⟨a, -, ⟨rest, hw, hd, hs⟩ | ⟨o, hw, hd, hs⟩ | ⟨-, hs⟩⟩
  · rw [hs]
    exact h
  · rw [hs]
    refine inStep_notify hw (fun w hwork => (h w hwork).fits) ?_
    intro w z hwork hz
    -- the player was to turn to the program, and no callback keeps it from that any more
    have hserves := (h w hwork).serves z hz
    rw [hd] at hserves
    obtain ⟨honly, hturns⟩ := hserves
    exact ⟨honly, .inl (hturns.plays hw).program_eq⟩
  · rw [hs]
    exact h.enter hw hd
  · rw [hs]
    exact h

theorem perform (h : s.InStep) {m : BlockPlayer.Move} (hm : s.Allowed (.perform m)) :
    (s.perform m).1.InStep := by
  rcases s.perform_cases m with ⟨rest, -, hw, hd, hp⟩ | hp
  · rw [hp]
    refine inStep_notify hw (fun w hwork => (h w hwork).fits) ?_
    intro w z hwork hz
    have hserves := (h w hwork).serves z hz
    rw [hd] at hserves
    obtain ⟨honly, q, hplays, hq⟩ := hserves
    exact ⟨honly, hq.imp_left fun he => hplays.program_eq.trans he⟩
  · rw [hp]
    refine settle ?_ _
    exact fun w hwork => (h w hwork).withStage_move hm

/-- All listeners are told of an edit, and the player is among them if there is a session. -/
theorem announce (h : s.InStep) (hwork : s.workspace = some w) (hw : s.stage.waiting = [])
    (g : Graph) : (s.announce w g).1.InStep := by
  have hfits := (h w hwork).fits
  refine inStep_notify hw ?_ ?_
  · rintro w' ⟨⟩
    exact hfits.withGraph g
  · rintro w' z ⟨⟩ hz
    change s.session = some z at hz
    rw [hz] at hfits
    refine ⟨?_, .inr hfits.mem_listeners⟩
    intro o ho
    obtain ⟨key, hkey⟩ := hfits.session_of_mem ho
    cases hkey
    rfl

theorem attach (h : s.InStep) (o : CompileOptions) : (s.attach o).1.InStep := by
  rcases s.attach_cases o with ⟨w, hwork, hw, hd, ha⟩ | ha
  · rw [ha]
    refine settle ?_ _
    intro w' hw'
    obtain rfl : w = w' := Option.some.inj (hwork.symm.trans hw')
    refine ⟨(h w hwork).fits, fun z hz => trivial, ?_⟩
    rintro o' ⟨⟩
    rcases Performance.move_load hw (w.program o) with ⟨e, -, hnew⟩ | ⟨a, -, -, hplays⟩
    · exact .inr ⟨[], hnew⟩
    · exact .inl hplays
  · rw [ha]
    exact h

theorem act (h : s.InStep) {m : Move} (hm : s.Allowed m) : (s.act m).1.InStep := by
  have hedit : m.isEdit = true → (s.act m).1.InStep := by
    intro he
    rcases s.act_of_isEdit he with ⟨w, g, hwork, hw, -, ha⟩ | ha
    · rw [ha]
      exact h.announce hwork hw g
    · rw [ha]
      exact h
  cases m with
  | perform m => exact h.perform hm
  | edit e => exact hedit rfl
  | replace g => exact hedit rfl
  | subscribe n => exact h.subscribe n
  | unsubscribe key => exact h.unsubscribe hm
  | attach o => exact h.attach o
  | detach => exact h.detach
  | close => exact nofun

end InStep

/-- **Every studio that can be reached is in step with its workspace.** -/
theorem Reachable.inStep (h : s.Reachable) : s.InStep := by
  induction h with
  | new g p =>
    intro w hw
    obtain ⟨g, -, rfl⟩ := Option.map_eq_some_iff.mp hw
    exact ⟨Workspace.fits_ofGraph g, nofun, nofun⟩
  | act _ hm ih => exact ih.act hm

end Studio

end BlockPlayer
