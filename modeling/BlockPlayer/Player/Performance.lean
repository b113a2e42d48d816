import BlockPlayer.Player.Turn

/-!
# Performances

A performance is a player together with the callbacks that have not returned yet, the one that was told
last on top. While it goes on, whoever has the word makes a *move*: the outside world if no callback is
running, else the last callback. So the behaviour of all callbacks, whatever they are, is in the choice
of moves, and what can come of it is what can come of some list of moves (`Performance.run`).
-/

namespace BlockPlayer

/-- What can be done while a player performs. -/
inductive Move
  | ask (r : Request)
  /-- The timer at a place of the player's list fires. -/
  | fire (timer : Nat)
  /-- The callback that was told last returns. -/
  | back
  deriving DecidableEq

/-- What comes of a move. -/
inductive Report
  /-- A callback is told something and has the word. -/
  | told (e : Event)
  /-- The word goes back to whoever asked. -/
  | answered (a : Answer)
  deriving DecidableEq, Repr

/-- A player amid its callbacks. -/
structure Performance where
  player : Player
  /-- What the player has to do when its callbacks return, the last one first. -/
  waiting : List Frame

namespace Performance

/-- A player with nothing to wait for. -/
def ofPlayer (p : Player) : Performance := ⟨p, []⟩

/-- The performance after a turn of the player. -/
def after (waiting : List Frame) (t : Player × Turn) : Performance × Report :=
  match t.2 with
  | .tell e rest => (⟨t.1, rest :: waiting⟩, .told e)
  | .answer a => (⟨t.1, waiting⟩, .answered a)

/-- The performance after a move. To return while no callback runs does nothing. -/
def move (s : Performance) : Move → Performance × Report
  | .ask r => after s.waiting (s.player.ask r)
  | .fire i => after s.waiting (s.player.fire i)
  | .back =>
    match s.waiting with
    | [] => (s, .answered .done)
    | f :: waiting => after waiting (s.player.resume f)

/-- The reports of some moves in a row, and the performance after them. -/
def run (s : Performance) : List Move → List Report × Performance
  | [] => ([], s)
  | m :: rest =>
    let (t, r) := s.move m
    let (rs, u) := t.run rest
    (r :: rs, u)

/-- What the callbacks were told, according to reports. -/
def events (reports : List Report) : List Event :=
  reports.filterMap fun r => match r with
    | .told e => some e
    | .answered _ => none

end Performance

end BlockPlayer
