import BlockPlayer.Studio
import BlockPlayer.Proofs.Player.Loading

/-!
# Runs of studios

Whoever has the word in a studio can make a `Move`: let the player move, edit, listen or no longer
listen, begin or end a session, or close the workspace. The run of a studio is made of such moves.

* `perform_cases`, `settle_cases`, `act_of_isEdit`, `attach_cases` — all that can come of a move

Studios are looked at from the beginning (`Reachable`). From the beginning of a session to its end,
nobody else loads programs into the player, and nobody else ends its subscription (`Allowed`).
-/

namespace BlockPlayer.Studio

/-- What can be done in a studio. -/
inductive Move
  | perform (m : BlockPlayer.Move)
  | edit (e : Graph.Edit)
  | replace (g : Graph)
  | subscribe (guest : Nat)
  | unsubscribe (key : Nat)
  | attach (o : CompileOptions)
  | detach
  | close

/-- Whether a move is a change of the graph. -/
def Move.isEdit : Move → Bool
  | edit _ | replace _ => true
  | _ => false

/-- What the callbacks of the player are told, according to a report. -/
def Report.heard : Report → List Event
  | told e => [e]
  | _ => []

/-- Leaves of a report what concerns the callbacks of the player. -/
def heed (t : Studio × Report) : Studio × List Event := (t.1, t.2.heard)

/-- The studio after a move, and what the callbacks of the player are told. -/
def act (s : Studio) : Move → Studio × List Event
  | .perform m => heed (s.perform m)
  | .edit e => heed (s.edit e)
  | .replace g => heed (s.replace g)
  | .subscribe guest => (s.subscribe guest, [])
  | .unsubscribe key => (s.unsubscribe key, [])
  | .attach o => heed (s.attach o)
  | .detach => (s.detach, [])
  | .close => (s.close, [])

/-- What the callbacks are told in the course of some moves, and the studio after them. -/
def run (s : Studio) : List Move → List Event × Studio
  | [] => ([], s)
  | m :: rest =>
    let (t, es) := s.act m
    let (fs, u) := t.run rest
    (es ++ fs, u)

/-- A session, once it is to begin, is alone in loading programs, and keeps its subscription. -/
def Allowed (s : Studio) : Move → Prop
  | .perform (.ask (.load _)) => s.session = none ∧ ∀ o, s.duty ≠ some (.open o)
  | .unsubscribe key => ∀ z, s.session = some z → key ≠ z.key
  | _ => True

/-- Each move of a run is allowed when it is made. -/
def AllowedRun (s : Studio) : List Move → Prop
  | [] => True
  | m :: rest => s.Allowed m ∧ (s.act m).1.AllowedRun rest

/-- What can become of a new studio. -/
inductive Reachable : Studio → Prop
  | new (g : Option Graph) (p : Player) : Reachable (new (g.map .ofGraph) p)
  | act {s : Studio} {m : Move} : Reachable s → s.Allowed m → Reachable (s.act m).1

@[simp] theorem run_nil (s : Studio) : s.run [] = ([], s) := rfl

theorem run_cons (s : Studio) (m : Move) (ms : List Move) :
    s.run (m :: ms) = ((s.act m).2 ++ ((s.act m).1.run ms).1, ((s.act m).1.run ms).2) := rfl

theorem Reachable.run {s : Studio} (h : s.Reachable) {ms : List Move} (hms : s.AllowedRun ms) :
    (s.run ms).2.Reachable := by
  induction ms generalizing s with
  | nil => exact h
  | cons m ms ih =>
    obtain ⟨hm, hrest⟩ := hms
    exact ih (h.act hm) hrest

/-! ## What can come of a move -/

section Notify

variable (s : Studio)

theorem notify_nil : s.notify [] = (s.withDuty none, .edited) := by
  rw [notify]

theorem notify_guest (n : Nat) (rest : List Listener) :
    s.notify (.guest n :: rest) = (s.withDuty (some (.guest rest)), .notified n) := by
  rw [notify]

theorem notify_player_of_told {o : CompileOptions} {rest : List Listener} {stage : Performance}
    {e : Event} (h : s.stage.move (.ask (.load (s.program o))) = (stage, .told e)) :
    s.notify (.player o :: rest)
      = ((s.withStage stage).withDuty (some (.reload rest)), .told e) := by
  rw [notify, h]

theorem notify_player_of_answered {o : CompileOptions} {rest : List Listener}
    {stage : Performance} {a : Answer}
    (h : s.stage.move (.ask (.load (s.program o))) = (stage, .answered a)) :
    s.notify (.player o :: rest) = (s.withStage stage).notify rest := by
  rw [notify, h]

end Notify

/-- Telling listeners changes nothing but the stage and the duty. -/
theorem notify_frame (s : Studio) (l : List Listener) :
    (s.notify l).1.workspace = s.workspace ∧ (s.notify l).1.session = s.session := by
  induction l generalizing s with
  | nil => rw [notify_nil]; exact ⟨rfl, rfl⟩
  | cons x rest ih =>
    cases x with
    | guest n => rw [notify_guest]; exact ⟨rfl, rfl⟩
    | player o =>
      rcases h : s.stage.move (.ask (.load (s.program o))) with ⟨stage, e | a⟩
      · rw [notify_player_of_told s h]; exact ⟨rfl, rfl⟩
      · rw [notify_player_of_answered s h]; exact ih _

/-- No session begins when listeners are told of an edit. -/
theorem duty_notify_ne_open (s : Studio) (l : List Listener) (o : CompileOptions) :
    (s.notify l).1.duty ≠ some (.open o) := by
  induction l generalizing s with
  | nil => rw [notify_nil]; exact nofun
  | cons x rest ih =>
    cases x with
    | guest n => rw [notify_guest]; exact nofun
    | player o' =>
      rcases h : s.stage.move (.ask (.load (s.program o'))) with ⟨stage, e | a⟩
      · rw [notify_player_of_told s h]; exact nofun
      · rw [notify_player_of_answered s h]; exact ih _

section Settle

variable {s : Studio} {a : Answer}

theorem settle_of_reload {rest : List Listener} (hw : s.stage.waiting = [])
    (hd : s.duty = some (.reload rest)) : s.settle (.answered a) = s.notify rest := by
  simp only [settle, hw, hd]

theorem settle_of_open {o : CompileOptions} (hw : s.stage.waiting = [])
    (hd : s.duty = some (.open o)) :
    s.settle (.answered a) = ((s.enter o).withDuty none, .attached) := by
  simp only [settle, hw, hd]

theorem perform_back_of_guest {rest : List Listener} (hw : s.stage.waiting = [])
    (hd : s.duty = some (.guest rest)) : s.perform .back = s.notify rest := by
  simp only [perform, hw, hd]

theorem perform_back_of_nil (hw : s.stage.waiting = [])
    (hd : ∀ rest, s.duty ≠ some (.guest rest)) : s.perform .back = s.settle (.answered .done) := by
  unfold perform
  split
  · next rest _ _ hg => exact absurd hg (hd rest)
  · rw [Performance.move_back_of_nil hw]
    rfl

end Settle

theorem settle_cases (s : Studio) (r : BlockPlayer.Report) :
    (∃ e, r = .told e ∧ s.settle r = (s, .told e)) ∨
    ∃ a, r = .answered a ∧
      ((∃ rest, s.stage.waiting = [] ∧ s.duty = some (.reload rest) ∧ s.settle r = s.notify rest) ∨
      (∃ o, s.stage.waiting = [] ∧ s.duty = some (.open o) ∧
        s.settle r = ((s.enter o).withDuty none, .attached)) ∨
      ((s.stage.waiting ≠ [] ∨ s.duty = none ∨ ∃ rest, s.duty = some (.guest rest)) ∧
        s.settle r = (s, .answered a))) := by
  cases r with
  | told e => exact .inl ⟨e, rfl, rfl⟩
  | answered a =>
    refine .inr ⟨a, rfl, ?_⟩
    cases hw : s.stage.waiting with
    | cons f waiting => exact .inr (.inr ⟨.inl nofun, by simp only [settle, hw]⟩)
    | nil =>
      rcases hd : s.duty with _ | rest | rest | o
      · exact .inr (.inr ⟨.inr (.inl rfl), by simp only [settle, hw, hd]⟩)
      · exact .inr (.inr ⟨.inr (.inr ⟨rest, rfl⟩), by simp only [settle, hw, hd]⟩)
      · exact .inl ⟨rest, rfl, rfl, settle_of_reload hw hd⟩
      · exact .inr (.inl ⟨o, rfl, rfl, settle_of_open hw hd⟩)

/-- Either a guest gives the word back, or the player moves. -/
theorem perform_cases (s : Studio) (m : BlockPlayer.Move) :
    (∃ rest, m = .back ∧ s.stage.waiting = [] ∧ s.duty = some (.guest rest) ∧
      s.perform m = s.notify rest) ∨
    s.perform m = (s.withStage (s.stage.move m).1).settle (s.stage.move m).2 := by
  unfold perform
  split
  · next rest hw hd => exact .inl ⟨rest, rfl, hw, hd, rfl⟩
  · exact .inr rfl

theorem isIdle_iff {s : Studio} : s.isIdle = true ↔ s.stage.waiting = [] ∧ s.duty = none := by
  simp [isIdle]

/-- Tells all listeners that the workspace has another graph. -/
def announce (s : Studio) (w : Workspace) (g : Graph) : Studio × Report :=
  { s with workspace := some (w.withGraph g) }.notify w.listeners

theorem replace_cases (s : Studio) (g : Graph) :
    (∃ w, s.workspace = some w ∧ s.stage.waiting = [] ∧ s.duty = none ∧
      s.replace g = s.announce w g) ∨
    s.replace g = (s, .unavailable) := by
  unfold replace
  split
  · next w hidle hw =>
    obtain ⟨hwaiting, hduty⟩ := isIdle_iff.mp hidle
    exact .inl ⟨w, hw, hwaiting, hduty, rfl⟩
  · exact .inr rfl

/-- An edit puts another graph in the place of the old one, or it is refused. -/
theorem edit_cases (s : Studio) (e : Graph.Edit) :
    (∃ g, s.edit e = s.replace g) ∨ ∃ r, s.edit e = (s, r) ∧ r.heard = [] := by
  unfold edit
  split
  · exact .inr ⟨.unavailable, rfl, rfl⟩
  · split
    · next g _ => exact .inl ⟨g, rfl⟩
    · refine .inr ⟨_, rfl, ?_⟩
      split <;> rfl

/-- An edit comes to another graph that all listeners are told of, or to nothing. -/
theorem act_of_isEdit (s : Studio) {m : Move} (hm : m.isEdit = true) :
    (∃ w g, s.workspace = some w ∧ s.stage.waiting = [] ∧ s.duty = none ∧
      s.act m = heed (s.announce w g)) ∨ s.act m = (s, []) := by
  have hreplace : ∀ g, (∃ w g', s.workspace = some w ∧ s.stage.waiting = [] ∧ s.duty = none ∧
      heed (s.replace g) = heed (s.announce w g')) ∨ heed (s.replace g) = (s, []) := by
    intro g
    rcases s.replace_cases g with ⟨w, hw, hwaiting, hduty, h⟩ | h
    · exact .inl ⟨w, g, hw, hwaiting, hduty, by rw [h]⟩
    · exact .inr (by rw [h]; rfl)
  cases m with
  | replace g => exact hreplace g
  | edit e =>
    rw [show s.act (.edit e) = heed (s.edit e) from rfl]
    rcases s.edit_cases e with ⟨g, h⟩ | ⟨r, h, hr⟩
    · rw [h]
      exact hreplace g
    · rw [h]
      exact .inr (Prod.ext rfl hr)
  | _ => cases hm

theorem attach_cases (s : Studio) (o : CompileOptions) :
    (∃ w, s.workspace = some w ∧ s.stage.waiting = [] ∧ s.duty = none ∧
      s.attach o = ((s.withDuty (some (.open o))).withStage
        (s.stage.move (.ask (.load (w.program o)))).1).settle
          (s.stage.move (.ask (.load (w.program o)))).2) ∨
    s.attach o = (s, .unavailable) := by
  unfold attach
  split
  · next w hidle hw =>
    obtain ⟨hwaiting, hduty⟩ := isIdle_iff.mp hidle
    exact .inl ⟨w, hw, hwaiting, hduty, rfl⟩
  · exact .inr rfl

theorem stage_enter (s : Studio) (o : CompileOptions) : (s.enter o).stage = s.stage := by
  unfold enter
  split
  · rfl
  · cases s.session <;> rfl

end BlockPlayer.Studio
