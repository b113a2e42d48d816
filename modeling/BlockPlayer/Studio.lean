import BlockPlayer.Player.Performance
import BlockPlayer.Workspace

/-!
# Studios

In a studio a workspace and a player come together. While a *session* lasts, every edit of the
workspace lets the player load the program of the new chain.

Listeners are told of an edit one after another, and each of them may take its time: a guest has the
word until it returns, and the player may first have to tell its callbacks that it stops. What is left
to be done in the meantime is the *duty* of the studio. An edit that is refused tells nobody anything.

Those who are told of an edit are those who were subscribed when it was made. That a listener begins or
ends subscriptions makes no difference before the next edit.

* `Studio.perform` — the player moves
* `Studio.edit`, `Studio.replace` — the graph changes, and all listeners are told
* `Studio.attach`, `Studio.detach` — a session begins, or ends
-/

namespace BlockPlayer

/-- What a studio has to do when whoever has the word gives it back. -/
inductive Duty
  /-- A guest was told of an edit; the rest are to be told. -/
  | guest (rest : List Listener)
  /-- The player loads what was edited; the rest are to be told. -/
  | reload (rest : List Listener)
  /-- The player loads its first program; then a session begins. -/
  | open (options : CompileOptions)
  deriving DecidableEq, Repr

/-- The subscription that keeps the player up to date, and how chains are compiled for it. -/
structure Session where
  key : Nat
  options : CompileOptions
  deriving DecidableEq, Repr

structure Studio where
  /-- What is edited, unless it was closed. -/
  workspace : Option Workspace
  stage : Performance
  session : Option Session
  duty : Option Duty

namespace Studio

/-- What comes of a move. -/
inductive Report
  /-- A callback of the player is told something and has the word. -/
  | told (e : Event)
  /-- The player has answered. -/
  | answered (a : Answer)
  /-- A guest is told of an edit and has the word. -/
  | notified (guest : Nat)
  /-- All listeners have been told of an edit. -/
  | edited
  | refused (e : GraphError)
  /-- A session has begun. -/
  | attached
  /-- There is no workspace, or somebody else has the word. -/
  | unavailable
  deriving DecidableEq

/-- A studio in which nothing goes on yet. -/
def new (w : Option Workspace) (p : Player) : Studio := ⟨w, .ofPlayer p, none, none⟩

def player (s : Studio) : Player := s.stage.player

def withStage (s : Studio) (stage : Performance) : Studio := { s with stage := stage }

def withDuty (s : Studio) (duty : Option Duty) : Studio := { s with duty := duty }

/-- Changes the workspace, if there is one. -/
def mapWorkspace (s : Studio) (f : Workspace → Workspace) : Studio :=
  { s with workspace := s.workspace.map f }

/-- The program of the chain that is being edited. -/
def program (s : Studio) (o : CompileOptions) : Program :=
  match s.workspace with
  | some w => w.program o
  | none => []

/-- Whether nobody has the word but the outside world. -/
def isIdle (s : Studio) : Bool := s.stage.waiting.isEmpty && s.duty.isNone

/-! ## Subscriptions -/

/-- Begins the subscription of a guest. -/
def subscribe (s : Studio) (guest : Nat) : Studio := s.mapWorkspace (·.subscribe (.guest guest))

def unsubscribe (s : Studio) (key : Nat) : Studio := s.mapWorkspace (·.unsubscribe key)

/-- Ends the session, if there is one. The player stays as it is. -/
def detach (s : Studio) : Studio :=
  match s.session with
  | none => s
  | some session => { s.unsubscribe session.key with session := none }

/-- Begins a session with a player that has loaded its first program. An earlier one ends after it. -/
def enter (s : Studio) (o : CompileOptions) : Studio :=
  match s.workspace with
  | none => s
  | some w =>
    let t := { s with workspace := some (w.subscribe (.player o)), session := some ⟨w.nextKey, o⟩ }
    match s.session with
    | none => t
    | some old => t.unsubscribe old.key

/-! ## Telling of an edit -/

/-- Tells listeners one after another, up to the first that takes its time. -/
def notify (s : Studio) : List Listener → Studio × Report
  | [] => (s.withDuty none, .edited)
  | .guest n :: rest => (s.withDuty (some (.guest rest)), .notified n)
  | .player o :: rest =>
    match s.stage.move (.ask (.load (s.program o))) with
    | (stage, .told e) => ((s.withStage stage).withDuty (some (.reload rest)), .told e)
    | (stage, .answered _) => (s.withStage stage).notify rest

/-- Goes on with the duty when the player has answered to the studio itself. -/
def settle (s : Studio) : BlockPlayer.Report → Studio × Report
  | .told e => (s, .told e)
  | .answered a =>
    match s.stage.waiting, s.duty with
    | [], some (.reload rest) => s.notify rest
    | [], some (.open o) => ((s.enter o).withDuty none, .attached)
    | _, _ => (s, .answered a)

/-! ## Moves -/

/-- The player moves. If no callback of it runs, the one that returns is a guest. -/
def perform (s : Studio) (m : BlockPlayer.Move) : Studio × Report :=
  match m, s.stage.waiting, s.duty with
  | .back, [], some (.guest rest) => s.notify rest
  | m, _, _ => (s.withStage (s.stage.move m).1).settle (s.stage.move m).2

/-- Puts another graph in the place of the one that is edited. -/
def replace (s : Studio) (g : Graph) : Studio × Report :=
  match s.isIdle, s.workspace with
  | true, some w => { s with workspace := some (w.withGraph g) }.notify w.listeners
  | _, _ => (s, .unavailable)

/-- Makes a change, and tells all listeners of it. -/
def edit (s : Studio) (e : Graph.Edit) : Studio × Report :=
  match s.workspace with
  | none => (s, .unavailable)
  | some w =>
    match w.graph.apply e with
    | .ok g => s.replace g
    | .error e => (s, if s.isIdle then .refused e else .unavailable)

/-- Lets the player load the program of the chain, and begins a session. -/
def attach (s : Studio) (o : CompileOptions) : Studio × Report :=
  match s.isIdle, s.workspace with
  | true, some w =>
    (((s.withDuty (some (.open o))).withStage (s.stage.move (.ask (.load (w.program o)))).1)).settle
      (s.stage.move (.ask (.load (w.program o)))).2
  | _, _ => (s, .unavailable)

/-- Closes the workspace. All subscriptions end with it. -/
def close (s : Studio) : Studio := { s with workspace := none }

end Studio

end BlockPlayer
