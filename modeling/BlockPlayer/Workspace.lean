import BlockPlayer.Compile
import BlockPlayer.Graph.Edit

/-!
# Workspaces

A workspace is a graph that is being edited, and the list of those who want to be told of every edit.
Each of them holds a subscription; it is told as long as the subscription lasts, and those who
subscribed earlier are told earlier.

Main statements: a new subscription comes last (`subscriptions_subscribe`), and ending one leaves all
others as they are (`mem_unsubscribe`).
-/

namespace BlockPlayer

/-- Who is told of edits. -/
inductive Listener
  /-- Somebody from outside, under a number. -/
  | guest (number : Nat)
  /-- The player, which loads the program of the chain, compiled with these options. -/
  | player (options : CompileOptions)
  deriving DecidableEq, Repr

structure Subscription where
  /-- No other subscription to the same workspace ever has the same key. -/
  key : Nat
  listener : Listener
  deriving DecidableEq, Repr

structure Workspace where
  graph : Graph
  /-- Those that last, oldest first. -/
  subscriptions : List Subscription
  /--
  Grows by one with each subscription, and never goes back. A word of 64 bits holds it as well: even with a
  subscription in each nanosecond, it would take more than 500 years to go round.
  -/
  nextKey : Nat

namespace Workspace

/-- A workspace that nobody listens to. -/
def ofGraph (g : Graph) : Workspace := ⟨g, [], 0⟩

def withGraph (w : Workspace) (g : Graph) : Workspace := { w with graph := g }

/-- Begins a subscription under the key `w.nextKey`. -/
def subscribe (w : Workspace) (l : Listener) : Workspace :=
  { w with subscriptions := w.subscriptions ++ [⟨w.nextKey, l⟩], nextKey := w.nextKey + 1 }

/-- Ends a subscription, if it lasts. -/
def unsubscribe (w : Workspace) (key : Nat) : Workspace :=
  { w with subscriptions := w.subscriptions.filter fun s => s.key != key }

/-- Those who are told of an edit, in their order. -/
def listeners (w : Workspace) : List Listener := w.subscriptions.map Subscription.listener

/-- The program of the chain as it is now. -/
def program (w : Workspace) (o : CompileOptions) : Program := compileOrEmpty o w.graph.startNode

theorem subscriptions_subscribe (w : Workspace) (l : Listener) :
    (w.subscribe l).subscriptions = w.subscriptions ++ [⟨w.nextKey, l⟩] := rfl

theorem mem_unsubscribe {w : Workspace} {key : Nat} {s : Subscription} :
    s ∈ (w.unsubscribe key).subscriptions ↔ s ∈ w.subscriptions ∧ s.key ≠ key := by
  simp [unsubscribe]

end Workspace

end BlockPlayer
