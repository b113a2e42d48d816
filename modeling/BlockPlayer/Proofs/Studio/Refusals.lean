import BlockPlayer.Proofs.Graph.Refusals
import BlockPlayer.Proofs.Studio.Calls

/-!
# Edits that a studio refuses

An edit that cannot be made is found out before anything is touched: the graph stays as it is, no
listener is called, and the player goes on as if nobody had asked, whatever it is doing.

* `edit_eq_refused_iff` — an edit is refused if its graph refuses it, and for that reason
* `run_accepted` — a run could do without the edits that are refused in it
* `refused_edit_changes_nothing` — **both, and what the reasons are**
-/

namespace BlockPlayer.Studio

variable {s : Studio} {w : Workspace} {e : Graph.Edit} {r : GraphError}

/-- Who has told listeners does not say that the edit was refused. -/
theorem notify_ne_refused (s : Studio) (l : List Listener) : (s.notify l).2 ≠ .refused r := by
  induction l generalizing s with
  | nil => rw [notify_nil]; exact nofun
  | cons x rest ih =>
    cases x with
    | guest n => rw [notify_guest]; exact nofun
    | player o =>
      rcases h : s.stage.move (.ask (.load (s.program o))) with ⟨stage, e | a⟩
      · rw [notify_player_of_told s h]; exact nofun
      · rw [notify_player_of_answered s h]; exact ih _

/-- **An edit is refused if its graph refuses it, and for that reason.** -/
theorem edit_eq_refused_iff (hw : s.workspace = some w) (hidle : s.isIdle = true) :
    (s.edit e).2 = .refused r ↔ w.graph.refusal? e = some r := by
  rw [← Graph.apply_eq_error_iff]
  cases he : w.graph.apply e with
  | ok g =>
    rw [edit_of_ok hw hidle he]
    exact iff_of_false (notify_ne_refused _ _) nofun
  | error r' => rw [edit_of_error hw he, if_pos hidle, Report.refused.injEq, Except.error.injEq]

/-- An edit that cannot be made changes nothing and calls nobody. -/
theorem act_of_error (hw : s.workspace = some w) (he : w.graph.apply e = .error r) :
    s.act (.edit e) = (s, []) ∧ s.calls (.edit e) = [] := by
  have hg : s.edited? (.edit e) = none := by
    cases hidle : s.isIdle with
    | false => exact if_neg (ne_true_of_eq_false hidle)
    | true =>
      rw [edited?_of_isIdle hw hidle, he]
      rfl
  have hperform : ∀ n, Move.edit e ≠ .perform n := by
    intro n h
    cases h
  refine ⟨?_, by rw [calls, round?_eq_none hg hperform]⟩
  rw [act, edit_of_error hw he]
  split <;> rfl

/-! ## Runs -/

/-- Whether the move is an edit that is refused. -/
def refuses (s : Studio) : Move → Bool
  | .edit e =>
    match s.workspace with
    | some w => (w.graph.refusal? e).isSome
    | none => false
  | _ => false

/-- The moves of a run without the edits that are refused in it. -/
def accepted (s : Studio) : List Move → List Move
  | [] => []
  | m :: ms => if s.refuses m then s.accepted ms else m :: (s.act m).1.accepted ms

theorem act_of_refuses {m : Move} (h : s.refuses m = true) : s.act m = (s, []) ∧ s.calls m = [] := by
  cases m with
  | edit e =>
    cases hw : s.workspace with
    | none =>
      simp only [refuses, hw] at h
      cases h
    | some w =>
      simp only [refuses, hw] at h
      obtain ⟨r, hr⟩ := Option.isSome_iff_exists.mp h
      exact act_of_error hw (Graph.apply_eq_error_iff.mpr hr)
  | _ => cases h

/-- **A run could do without the edits that are refused in it.** -/
theorem run_accepted (s : Studio) (ms : List Move) :
    s.run (s.accepted ms) = s.run ms ∧ s.callsIn (s.accepted ms) = s.callsIn ms := by
  induction ms generalizing s with
  | nil => exact ⟨rfl, rfl⟩
  | cons m ms ih =>
    rw [accepted]
    split
    · next h =>
      obtain ⟨hact, hcalls⟩ := act_of_refuses h
      rw [run_cons, callsIn, hact, hcalls]
      exact ih s
    · obtain ⟨hrun, hcalls⟩ := ih (s.act m).1
      rw [run_cons, run_cons, callsIn, callsIn, hrun, hcalls]
      exact ⟨rfl, rfl⟩

/-! ## What comes of an edit -/

/--
**An edit that cannot be made changes nothing anywhere**: the studio stays the same, its player among it,
no callback is told anything, no listener is called, and so the run goes on as without the edit. **It is
refused because its block has an id that is taken, or because the start block is to be removed, or else
because a block is not there that it needs, the first of them; and every other edit is made.**
-/
theorem refused_edit_changes_nothing (hw : s.workspace = some w) :
    (∀ e r, w.graph.apply e = .error r →
      s.edit e = (s, if s.isIdle then .refused r else .unavailable) ∧
      s.act (.edit e) = (s, []) ∧ s.calls (.edit e) = []) ∧
    (∀ ms, s.run (s.accepted ms) = s.run ms ∧ s.callsIn (s.accepted ms) = s.callsIn ms) ∧
    (s.isIdle = true → ∀ e,
      (∀ id, (s.edit e).2 = .refused (.duplicate id) ↔
        ∃ b, e.block? = some b ∧ b.id = id ∧ w.graph.contains id = true) ∧
      (∀ id, (s.edit e).2 = .refused (.undeletable id) ↔ e = .remove id ∧ id = w.graph.start) ∧
      (∀ id, (s.edit e).2 = .refused (.unknown id) ↔
        w.graph.Fresh e ∧ e ≠ .remove w.graph.start ∧
          (e.needs.find? fun x => !w.graph.contains x) = some id) ∧
      (w.graph.Fresh e ∧ e ≠ .remove w.graph.start ∧ (∀ id ∈ e.needs, w.graph.contains id = true) ↔
        ∃ g, w.graph.apply e = .ok g ∧ s.edit e = s.announce w g)) := by
  refine ⟨fun e r he => ⟨edit_of_error hw he, act_of_error hw he⟩, s.run_accepted, ?_⟩
  intro hidle e
  refine ⟨fun id => ?_, fun id => ?_, fun id => ?_, ?_⟩
  · exact (edit_eq_refused_iff hw hidle).trans Graph.refusal?_eq_duplicate_iff
  · exact (edit_eq_refused_iff hw hidle).trans Graph.refusal?_eq_undeletable_iff
  · exact (edit_eq_refused_iff hw hidle).trans Graph.refusal?_eq_unknown_iff
  · rw [← Graph.refusal?_eq_none_iff, ← Graph.exists_apply_eq_ok_iff]
    constructor
    · rintro ⟨g, hg⟩
      exact ⟨g, hg, edit_of_ok hw hidle hg⟩
    · rintro ⟨g, hg, -⟩
      exact ⟨g, hg⟩

/-- A guest listens and a timer drives the player when the start block is to be removed. -/
theorem refused_amid_play :
    let s := ((new (some (.ofGraph (.new "s"))) (.new [] .default)).run
      [.subscribe 0, .attach .default, .edit (.insertAfter "s" ⟨"a", .action .deliver, none⟩),
        .perform .back, .perform (.ask .play)]).2
    ∃ w, s.workspace = some w ∧ w.listeners = [.guest 0, .player .default] ∧
      s.player.mode = .running ∧ s.player.program = [⟨"a", .perform .deliver⟩] ∧
      s.edit (.remove "s") = (s, .refused (.undeletable "s")) ∧ s.calls (.edit (.remove "s")) = [] := by
  intro s
  obtain ⟨w, hw⟩ := Option.isSome_iff_exists.mp (show s.workspace.isSome = true by decide)
  have hidle : s.isIdle = true := by decide
  have hlisteners : s.workspace.map Workspace.listeners = some [.guest 0, .player .default] := by decide
  have hstart : s.workspace.map (fun w => w.graph.start) = some "s" := by decide
  rw [hw, Option.map_some, Option.some.injEq] at hlisteners hstart
  have he : w.graph.apply (.remove "s") = .error (.undeletable "s") :=
    Graph.apply_eq_error_iff.mpr (Graph.refusal?_eq_undeletable_iff.mpr ⟨rfl, hstart.symm⟩)
  obtain ⟨hedit, -, hcalls⟩ := (refused_edit_changes_nothing hw).1 _ _ he
  rw [if_pos hidle] at hedit
  exact ⟨w, hw, hlisteners, by decide, by decide, hedit, hcalls⟩

end BlockPlayer.Studio
