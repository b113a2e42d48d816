import BlockPlayer.Proofs.Player.Timers

/-!
# Which call a report belongs to

Whoever asks the player for something, or lets a timer fire, begins a *call*. The call goes on for as
long as callbacks run that were told something on its account, and these may begin calls of their own.
A `Ledger` is a performance in which every frame that waits has the call written beside it that it
works for. So each report can be entered under its call, whatever was done between the beginning of
the call and the report.

* `stage_run`, `reports_run` — a ledger only takes notes: it moves as its performance does
* `Kept`, `Kept.run` — what holds of every frame and its call is kept by runs if it stays true in time,
  is true of every frame that begins a call, and goes over from frame to frame
-/

namespace BlockPlayer

/-- What is reported of a turn. -/
def Turn.report : Turn → Report
  | tell e _ => .told e
  | answer a => .answered a

theorem Turn.report_eq_answered {t : Turn} {a : Answer} :
    t.report = .answered a ↔ t = .answer a := by
  cases t <;> simp [report]

/-- Something that a player was asked for, or the firing of a timer. -/
structure Ledger.Call where
  /-- How many moves had been made when it began. -/
  number : Nat
  /-- The player when it began. -/
  player : Player
  move : Move

/-- A report, under the call that it belongs to. -/
structure Ledger.Entry where
  call : Ledger.Call
  report : Report

/-- A performance with its calls. -/
structure Ledger where
  player : Player
  /-- What the player has to do when its callbacks return, and for which call. -/
  waiting : List (Ledger.Call × Frame)
  /-- How many moves have been made. -/
  count : Nat

namespace Ledger

def ofPlayer (p : Player) : Ledger := ⟨p, [], 0⟩

/-- The performance without its calls. -/
def stage (l : Ledger) : Performance := ⟨l.player, l.waiting.map Prod.snd⟩

/-- Enters a turn of the player under a call. -/
def book (l : Ledger) (c : Call) (waiting : List (Call × Frame)) (t : Player × Turn) :
    Ledger × Entry :=
  match t.2 with
  | .tell e f => (⟨t.1, (c, f) :: waiting, l.count + 1⟩, ⟨c, .told e⟩)
  | .answer a => (⟨t.1, waiting, l.count + 1⟩, ⟨c, .answered a⟩)

/-- The ledger after a move. A callback that returns lets its call go on; any other move is a call. -/
def move (l : Ledger) : Move → Ledger × Entry
  | .ask r => l.book ⟨l.count, l.player, .ask r⟩ l.waiting (l.player.ask r)
  | .fire i => l.book ⟨l.count, l.player, .fire i⟩ l.waiting (l.player.fire i)
  | .back =>
    match l.waiting with
    | [] => (⟨l.player, [], l.count + 1⟩, ⟨⟨l.count, l.player, .back⟩, .answered .done⟩)
    | (c, f) :: waiting => l.book c waiting (l.player.resume f)

/-- The entries of some moves in a row, and the ledger after them. -/
def run (l : Ledger) : List Move → List Entry × Ledger
  | [] => ([], l)
  | m :: rest =>
    let (k, e) := l.move m
    let (es, u) := k.run rest
    (e :: es, u)

/-! ## A ledger only takes notes -/

theorem run_cons (l : Ledger) (m : Move) (ms : List Move) :
    l.run (m :: ms) = ((l.move m).2 :: ((l.move m).1.run ms).1, ((l.move m).1.run ms).2) := rfl

theorem run_append (l : Ledger) (ms ns : List Move) :
    l.run (ms ++ ns)
      = ((l.run ms).1 ++ ((l.run ms).2.run ns).1, ((l.run ms).2.run ns).2) := by
  induction ms generalizing l with
  | nil => rfl
  | cons m ms ih => rw [List.cons_append, run_cons, run_cons, ih]; rfl

theorem length_run (l : Ledger) (ms : List Move) : (l.run ms).1.length = ms.length := by
  induction ms generalizing l with
  | nil => rfl
  | cons m ms ih => rw [run_cons, List.length_cons, List.length_cons, ih]

theorem book_eq_after (l : Ledger) (c : Call) (waiting : List (Call × Frame)) (t : Player × Turn) :
    ((l.book c waiting t).1.stage, (l.book c waiting t).2.report)
      = Performance.after (waiting.map Prod.snd) t := by
  obtain ⟨q, turn⟩ := t
  cases turn <;> rfl

theorem move_back_of_nil {l : Ledger} (h : l.waiting = []) :
    l.move .back
      = (⟨l.player, [], l.count + 1⟩, ⟨⟨l.count, l.player, .back⟩, .answered .done⟩) := by
  simp only [move, h]

theorem move_back_of_cons {l : Ledger} {c : Call} {f : Frame} {waiting : List (Call × Frame)}
    (h : l.waiting = (c, f) :: waiting) : l.move .back = l.book c waiting (l.player.resume f) := by
  simp only [move, h]

theorem move_eq (l : Ledger) (m : Move) :
    ((l.move m).1.stage, (l.move m).2.report) = l.stage.move m := by
  cases m with
  | ask r => exact l.book_eq_after ..
  | fire i => exact l.book_eq_after ..
  | back =>
    cases hw : l.waiting with
    | nil =>
      have hs : l.stage.waiting = [] := by simp [stage, hw]
      rw [Performance.move_back_of_nil hs, move_back_of_nil hw]
      simp [stage, hw]
    | cons x waiting =>
      have hs : l.stage.waiting = x.2 :: waiting.map Prod.snd := by simp [stage, hw]
      rw [Performance.move_back_of_cons hs, move_back_of_cons hw]
      exact l.book_eq_after ..

/-- **A ledger moves as its performance does**, -/
theorem stage_run (l : Ledger) (ms : List Move) : (l.run ms).2.stage = (l.stage.run ms).2 := by
  induction ms generalizing l with
  | nil => rfl
  | cons m ms ih =>
    have hm := l.move_eq m
    rw [run_cons, Performance.run_cons, ih, ← hm]

/-- **and has the same reports.** -/
theorem reports_run (l : Ledger) (ms : List Move) :
    (l.run ms).1.map Entry.report = (l.stage.run ms).1 := by
  induction ms generalizing l with
  | nil => rfl
  | cons m ms ih =>
    have hm := l.move_eq m
    rw [run_cons, Performance.run_cons, List.map_cons, ih, ← hm]

theorem player_run (p : Player) (ms : List Move) :
    ((ofPlayer p).run ms).2.player = ((Performance.ofPlayer p).run ms).2.player :=
  congrArg Performance.player ((ofPlayer p).stage_run ms)

theorem later_move (l : Ledger) (m : Move) : l.player.Later (l.move m).1.player := by
  have h := l.stage.later_move m
  rw [← l.move_eq m] at h
  exact h

theorem later_run (l : Ledger) (ms : List Move) : l.player.Later (l.run ms).2.player := by
  have h := l.stage.later_run ms
  rw [← l.stage_run ms] at h
  exact h

theorem sound_move {l : Ledger} (h : l.player.Sound) (m : Move) : (l.move m).1.player.Sound := by
  have hs := Performance.sound_move (s := l.stage) h m
  rw [← l.move_eq m] at hs
  exact hs

theorem sound_run {l : Ledger} (h : l.player.Sound) (ms : List Move) :
    (l.run ms).2.player.Sound := by
  have hs := Performance.sound_run (s := l.stage) h ms
  rw [← l.stage_run ms] at hs
  exact hs

/-! ## Calls one move after another -/

/-- The turn with which a move begins a call. -/
inductive Opens (p : Player) : Move → Player × Turn → Prop
  | ask (r : Request) : Opens p (.ask r) (p.ask r)
  | fire (i : Nat) : Opens p (.fire i) (p.fire i)

theorem Opens.later {p : Player} {m : Move} {t : Player × Turn} (h : Opens p m t) :
    p.Later t.1 := by
  cases h with
  | ask r => exact .changes (p.changes_ask r)
  | fire i => exact .changes (p.changes_fire i)

/-- A move begins a call, or lets the last call that waits go on, or finds none that waits. -/
theorem move_cases (l : Ledger) (m : Move) :
    (∃ t, Opens l.player m t ∧ l.move m = l.book ⟨l.count, l.player, m⟩ l.waiting t) ∨
    (∃ c f waiting, l.waiting = (c, f) :: waiting ∧
      l.move m = l.book c waiting (l.player.resume f)) ∨
    (l.waiting = [] ∧ l.move m
      = (⟨l.player, [], l.count + 1⟩, ⟨⟨l.count, l.player, .back⟩, .answered .done⟩)) := by
  cases m with
  | ask r => exact .inl ⟨_, .ask r, rfl⟩
  | fire i => exact .inl ⟨_, .fire i, rfl⟩
  | back =>
    cases hw : l.waiting with
    | nil => exact .inr (.inr ⟨rfl, move_back_of_nil hw⟩)
    | cons x waiting => exact .inr (.inl ⟨x.1, x.2, waiting, rfl, move_back_of_cons hw⟩)

theorem player_book (l : Ledger) (c : Call) (waiting : List (Call × Frame)) (t : Player × Turn) :
    (l.book c waiting t).1.player = t.1 := by
  unfold book
  split <;> rfl

theorem call_book (l : Ledger) (c : Call) (waiting : List (Call × Frame)) (t : Player × Turn) :
    (l.book c waiting t).2.call = c := by
  unfold book
  split <;> rfl

theorem report_book (l : Ledger) (c : Call) (waiting : List (Call × Frame)) (t : Player × Turn) :
    (l.book c waiting t).2.report = t.2.report := by
  obtain ⟨q, turn⟩ := t
  cases turn <;> rfl

theorem count_book (l : Ledger) (c : Call) (waiting : List (Call × Frame)) (t : Player × Turn) :
    (l.book c waiting t).1.count = l.count + 1 := by
  unfold book
  split <;> rfl

theorem count_move (l : Ledger) (m : Move) : (l.move m).1.count = l.count + 1 := by
  rcases l.move_cases m with ⟨t, -, h⟩ | ⟨c, f, waiting, -, h⟩ | ⟨-, h⟩
  · rw [h, count_book]
  · rw [h, count_book]
  · rw [h]

theorem count_run (l : Ledger) (ms : List Move) : (l.run ms).2.count = l.count + ms.length := by
  induction ms generalizing l with
  | nil => rfl
  | cons m ms ih =>
    rw [run_cons, ih, count_move, List.length_cons]
    omega

/-! ## What holds of every frame and its call -/

/-- The player and every frame that waits are in the relation `P` with the frame's call. -/
def Holds (P : Player → Call → Frame → Prop) (l : Ledger) : Prop :=
  ∀ x ∈ l.waiting, P l.player x.1 x.2

/-- Moves keep `P`, and it holds of all calls that begin when `n` moves have been made, or more. -/
structure Kept (n : Nat) (P : Player → Call → Frame → Prop) : Prop where
  later : ∀ {p q : Player} {c : Call} {f : Frame}, p.Later q → P p c f → P q c f
  opened : ∀ {p q : Player} {m : Move} {e : Event} {f : Frame} {k : Nat},
    Opens p m (q, .tell e f) → n ≤ k → P q ⟨k, p, m⟩ f
  resumed : ∀ {p q : Player} {c : Call} {f g : Frame} {e : Event},
    P p c f → p.resume f = (q, .tell e g) → P q c g

namespace Kept

variable {n : Nat} {P : Player → Call → Frame → Prop} {l : Ledger}

theorem book (hP : Kept n P) {c : Call} {waiting : List (Call × Frame)} {t : Player × Turn}
    (hlater : l.player.Later t.1) (hsub : waiting ⊆ l.waiting) (h : l.Holds P)
    (hnew : ∀ e f, t.2 = .tell e f → P t.1 c f) : (l.book c waiting t).1.Holds P := by
  have hold : ∀ x ∈ waiting, P t.1 x.1 x.2 := fun x hx => hP.later hlater (h x (hsub hx))
  obtain ⟨q, turn⟩ := t
  cases turn with
  | tell e f =>
    intro x hx
    rcases List.mem_cons.mp hx with rfl | hx
    · exact hnew e f rfl
    · exact hold x hx
  | answer a => exact hold

theorem move (hP : Kept n P) (hn : n ≤ l.count) (h : l.Holds P) (m : Move) :
    (l.move m).1.Holds P := by
  rcases l.move_cases m with ⟨⟨q, turn⟩, ho, hm⟩ | ⟨c, f, waiting, hw, hm⟩ | ⟨-, hm⟩
  · -- a new call: what waits was there before, but for the frame with which the call begins
    rw [hm]
    refine hP.book ho.later (List.Subset.refl _) h ?_
    rintro e f rfl
    exact hP.opened ho hn
  · -- an old call: the frame that takes the place of the last one inherits from it
    have hf : P l.player c f := h (c, f) (by simp [hw])
    rw [hm]
    refine hP.book (.changes (l.player.changes_resume f)) (by simp [hw]) h ?_
    intro e g hg
    exact hP.resumed hf (Prod.ext rfl hg)
  · rw [hm]
    exact fun x hx => absurd hx List.not_mem_nil

theorem run (hP : Kept n P) (hn : n ≤ l.count) (h : l.Holds P) (ms : List Move) :
    (l.run ms).2.Holds P := by
  induction ms generalizing l with
  | nil => exact h
  | cons m ms ih =>
    rw [run_cons]
    exact ih (by rw [count_move]; omega) (hP.move hn h m)

end Kept

end Ledger

end BlockPlayer
