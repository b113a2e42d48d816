import BlockPlayer.Proofs.Studio.Rest

/-!
# Calls of listeners

Listeners are told of an edit one after another, each by a *call*; in a call the listener sees the graph
as it is then. A *round* of calls ends with the first listener that takes its time, and another move goes
on with the next round. So the calls of one edit are spread over a run.

* `recount` — a round, with the calls that are made; it comes to the same as without (`recount_fst`)
* `goes_perform`, `act_of_edited?` — which moves go on with a round, and which begin one
* `balances` — the calls of one move, those that it makes due, and those that are pending
* `callsIn_append_pending` — **a run makes the calls that edits make due, each once and in their order**
-/

namespace BlockPlayer.Studio

/-- The graph that is edited. -/
def graph? (s : Studio) : Option Graph := s.workspace.map Workspace.graph

/-- A listener is called, and sees a graph, unless the workspace was closed. -/
structure Call where
  listener : Listener
  graph : Option Graph
  deriving DecidableEq

/-- A call as it is made now. -/
def call (s : Studio) (l : Listener) : Call := ⟨l, s.graph?⟩

/-- Those who are still to be told of an edit. -/
def pending (s : Studio) : List Listener :=
  match s.duty with
  | some (.guest rest) => rest
  | some (.reload rest) => rest
  | _ => []

/-! ## Rounds -/

/-- Tells listeners one after another as `notify` does, and writes down the calls. -/
def recount (s : Studio) : List Listener → (Studio × Report) × List Call
  | [] => ((s.withDuty none, .edited), [])
  | .guest n :: rest => ((s.withDuty (some (.guest rest)), .notified n), [s.call (.guest n)])
  | .player o :: rest =>
    match s.stage.move (.ask (.load (s.program o))) with
    | (stage, .told e) =>
      (((s.withStage stage).withDuty (some (.reload rest)), .told e), [s.call (.player o)])
    | (stage, .answered _) =>
      let (t, calls) := (s.withStage stage).recount rest
      (t, s.call (.player o) :: calls)

/-- The graph that an edit brings about, if the move is one that can be done. -/
def edited? (s : Studio) (m : Move) : Option Graph :=
  if s.isIdle then
    match m with
    | .edit e => s.workspace.bind fun w => (w.graph.apply e).toOption
    | .replace g => s.workspace.map fun _ => g
    | _ => none
  else none

/-- The round that a move of the player goes on with: the studio that makes it, and whom it calls. -/
def resumed? (s : Studio) (m : BlockPlayer.Move) : Option (Studio × List Listener) :=
  match s.duty with
  | some (.guest rest) => if m = .back ∧ s.stage.waiting = [] then some (s, rest) else none
  | some (.reload rest) =>
    match s.stage.move m with
    | (⟨p, []⟩, .answered _) => some (s.withStage ⟨p, []⟩, rest)
    | _ => none
  | _ => none

/-- The round that a move begins or goes on with. -/
def round? (s : Studio) (m : Move) : Option (Studio × List Listener) :=
  match m with
  | .perform m => s.resumed? m
  | m => s.workspace.bind fun w =>
      (s.edited? m).map fun g => ({ s with workspace := some (w.withGraph g) }, w.listeners)

/-- The calls that are made by a move. -/
def calls (s : Studio) (m : Move) : List Call :=
  match s.round? m with
  | some (t, l) => (t.recount l).2
  | none => []

/-- The calls that are made in the course of some moves. -/
def callsIn (s : Studio) : List Move → List Call
  | [] => []
  | m :: ms => s.calls m ++ (s.act m).1.callsIn ms

/-- The calls that a move makes due: an edit is to be told to the listeners that there are. -/
def due (s : Studio) (m : Move) : List Call :=
  match s.edited? m, s.workspace with
  | some g, some w => w.listeners.map fun l => ⟨l, some g⟩
  | _, _ => []

variable {s t : Studio} {l : List Listener}

/-- The same listeners are still to be told, of the same graph. -/
def Stays (s t : Studio) : Prop := t.pending = s.pending ∧ t.graph? = s.graph?

/-- What a move does that goes on with a round, or with none. -/
def Goes (s : Studio) (round : Option (Studio × List Listener)) (after : Studio × Report) : Prop :=
  (∃ t, round = some (t, s.pending) ∧ after = t.notify s.pending ∧ t.graph? = s.graph?) ∨
  round = none ∧ s.Stays after.1

section Edit

variable {w : Workspace} {g : Graph} {e : Graph.Edit} {m : Move}

theorem replace_of_isIdle (hw : s.workspace = some w) (hidle : s.isIdle = true) (g : Graph) :
    s.replace g = s.announce w g := by
  rw [replace, hidle, hw]
  rfl

/-- An edit that can be made is made. -/
theorem edit_of_ok (hw : s.workspace = some w) (hidle : s.isIdle = true)
    (he : w.graph.apply e = .ok g) : s.edit e = s.announce w g := by
  rw [edit, hw]
  simp only [he]
  exact replace_of_isIdle hw hidle g

theorem edit_of_error {r : GraphError} (hw : s.workspace = some w) (he : w.graph.apply e = .error r) :
    s.edit e = (s, if s.isIdle then .refused r else .unavailable) := by
  rw [edit, hw]
  simp only [he]

theorem edited?_of_isIdle (hw : s.workspace = some w) (hidle : s.isIdle = true) :
    s.edited? (.edit e) = (w.graph.apply e).toOption := by
  rw [edited?, if_pos hidle, hw]
  rfl

theorem round?_eq_none (h : s.edited? m = none) (hm : ∀ n, m ≠ .perform n) : s.round? m = none := by
  unfold round?
  split
  · next n => exact absurd rfl (hm n)
  · rw [h]
    cases s.workspace <;> rfl

end Edit

/-! ## The balance of calls -/

theorem run_append (s : Studio) (ms ns : List Move) :
    (s.run (ms ++ ns)).2 = ((s.run ms).2.run ns).2 := by
  induction ms generalizing s with
  | nil => rfl
  | cons m ms ih => exact ih _

end BlockPlayer.Studio
