import BlockPlayer.Player.Basic

/-!
# Clocks

A clock runs tasks that repeat. The time is a whole number of milliseconds; periods and deadlines are
in nanoseconds. A task is due at the first millisecond that is not before its deadline.

When a task ticks, its next deadline is one period after the one that was met. If it ticks more than
five milliseconds late, the next deadline is one period after the tick instead, so that missed ticks
are not made up for. Nobody waits for longer than thirty years: a deadline beyond that is moved up, unless it
is the first one.

* `Clock.next?`, `Clock.tick` — the task that is due next, and its tick
* `Clock.pass` — time passes, and every task that becomes due ticks in its turn
* `Clock.jump` — time passes at once, and whatever is due then ticks late
* `Clock.wake` — until when somebody sleeps
* `Clock.follow` — the timers of a player become tasks

## Termination

A task ticks when its deadline has come (`deadline_le_meet`), and then has a later one. Only tasks with a
deadline before the end tick. So the distance of all deadlines to the end becomes smaller (`room_tick_lt`).
-/

namespace BlockPlayer

/-- What became of the handle through which a task can be cancelled. -/
inductive Handle
  | kept
  | cancelled
  | dropped
  deriving DecidableEq, Repr

/-- Something that is done again and again. -/
structure Task where
  /-- When it was set up, in milliseconds. -/
  since : Nat
  /-- In nanoseconds. -/
  period : Nat
  period_pos : 0 < period
  /-- In nanoseconds. -/
  deadline : Nat
  handle : Handle
  /-- Whether a tick was the last one. -/
  ended : Bool
  /-- When it has ticked so far, in milliseconds, the last tick first. -/
  ticks : List Nat
  deriving DecidableEq, Repr

/-- Nanoseconds in a millisecond. -/
def Clock.unit : Nat := 1000000

/-- A task that is later than this many nanoseconds does not make up for its delay. -/
def Clock.tolerance : Nat := 5000000

/-- The most milliseconds that anybody waits: thirty years without leap days. -/
def Clock.farthest : Nat := 30 * 365 * 86400000

/-- The first millisecond that is not before a time in nanoseconds. -/
def Clock.ceil (t : Nat) : Nat := (t + (unit - 1)) / unit

theorem Clock.le_ceil (t : Nat) : t ≤ ceil t * unit := by
  have := Nat.div_add_mod (t + (unit - 1)) unit
  have := Nat.mod_lt (t + (unit - 1)) (y := unit) (by decide)
  unfold ceil
  rw [Nat.mul_comm]
  have : 0 < unit := by decide
  omega

namespace Task

/-- A task that begins at `now`. No period is shorter than a nanosecond. -/
def new (now period : Nat) : Task :=
  ⟨now, max period 1, by omega, now * Clock.unit + max period 1, .kept, false, []⟩

/-- Whether the task will tick again. -/
def waits (t : Task) : Bool := decide (t.handle = .kept) && !t.ended

/-- The deadline after a tick at `now`. -/
def following (t : Task) (now : Nat) : Nat :=
  min ((now + Clock.farthest) * Clock.unit)
    ((if t.deadline + Clock.tolerance < now * Clock.unit then now * Clock.unit else t.deadline)
      + t.period)

/-- The task after a tick at `now`. -/
def tick (t : Task) (now : Nat) : Task :=
  { t with deadline := t.following now, ticks := now :: t.ticks }

theorem waits_tick (t : Task) (now : Nat) : (t.tick now).waits = t.waits := by
  unfold waits tick
  rfl

theorem deadline_lt_following {t : Task} {now : Nat} (h : t.deadline ≤ now * Clock.unit) :
    t.deadline < t.following now := by
  have := t.period_pos
  have : (now + Clock.farthest) * Clock.unit = now * Clock.unit + Clock.farthest * Clock.unit :=
    Nat.add_mul ..
  have : 0 < Clock.farthest * Clock.unit := by decide
  unfold following
  split <;> omega

def cancel (t : Task) : Task :=
  match t.handle with
  | .kept => { t with handle := .cancelled }
  | .cancelled | .dropped => t

theorem waits_cancel (t : Task) : t.cancel.waits = false := by
  unfold cancel waits
  split
  · rfl
  · next h => simp [h]
  · next h => simp [h]

def drop (t : Task) : Task := { t with handle := .dropped }

/-- The task will not tick again of its own accord. -/
def finish (t : Task) : Task := { t with ended := true }

theorem waits_finish (t : Task) : t.finish.waits = false := by simp [finish, waits]

/-- How far the deadline is from a time in milliseconds. -/
def room (t : Task) (stop : Nat) : Nat := stop * Clock.unit + 1 - t.deadline

theorem room_tick_lt {t : Task} {stop now : Nat} (h : t.deadline ≤ stop * Clock.unit)
    (hn : t.deadline ≤ now * Clock.unit) : (t.tick now).room stop < t.room stop := by
  have hlt : t.deadline < (t.tick now).deadline := deadline_lt_following hn
  unfold room
  omega

end Task

/-- A clock and its tasks, in the order in which they were set up. -/
structure Clock where
  /-- In milliseconds. -/
  now : Nat
  tasks : List Task
  deriving DecidableEq, Repr

namespace Clock

def new : Clock := ⟨0, []⟩

/-- Sets a task up. Its place in the list is its name. -/
def schedule (c : Clock) (period : Nat) : Clock := ⟨c.now, c.tasks ++ [.new c.now period]⟩

def cancel (c : Clock) (i : Nat) : Clock := ⟨c.now, c.tasks.modify i Task.cancel⟩

def drop (c : Clock) (i : Nat) : Clock := ⟨c.now, c.tasks.modify i Task.drop⟩

/-- The task at place `i` has ticked for the last time. -/
def finish (c : Clock) (i : Nat) : Clock := ⟨c.now, c.tasks.modify i Task.finish⟩

/-! ## Ticks -/

/-- Whether a task is due at some time up to `stop`. -/
def ready (stop : Nat) (t : Task) : Bool := t.waits && decide (t.deadline ≤ stop * unit)

/-- The earliest deadline of a list of tasks that are ready, if there are any. -/
def earliest? (stop : Nat) (tasks : List Task) : Option Nat :=
  ((tasks.filter (ready stop)).map Task.deadline).min?

/-- The place of the task that is due next, at `stop` at the latest. -/
def next? (c : Clock) (stop : Nat) : Option Nat :=
  (earliest? stop c.tasks).bind fun d => c.tasks.findIdx? fun t => ready stop t && t.deadline == d

/-- A millisecond in which all deadlines have come. -/
def latest (c : Clock) : Nat := ceil ((c.tasks.map Task.deadline).foldr max 0)

/-- The place of the task that ticks next, no matter when. -/
def upcoming? (c : Clock) : Option Nat := c.next? c.latest

/-- When a task with the given deadline ticks: when it is due, or now if that has passed. -/
def meet (c : Clock) (deadline : Nat) : Nat := max c.now (ceil deadline)

theorem deadline_le_meet (c : Clock) (deadline : Nat) : deadline ≤ c.meet deadline * unit :=
  Nat.le_trans (le_ceil deadline) (Nat.mul_le_mul_right unit (Nat.le_max_right ..))

/-- The clock after the next tick of the task at place `i`. -/
def tick (c : Clock) (i : Nat) : Clock :=
  match c.tasks[i]? with
  | none => c
  | some t => ⟨c.meet t.deadline, c.tasks.modify i fun t => t.tick (c.meet t.deadline)⟩

/-- How often the task at place `i` has ticked. -/
def count (c : Clock) (i : Nat) : Nat := (c.tasks[i]?.map fun t => t.ticks.length).getD 0

/-- The sum of the weights of all items. -/
def total {α : Type} (w : α → Nat) : List α → Nat
  | [] => 0
  | a :: l => w a + total w l

/-- How many tasks will tick again. -/
def waiting (c : Clock) : Nat := total (fun t => t.waits.toNat) c.tasks

/-- How far all deadlines together are from a time in milliseconds. -/
def room (c : Clock) (stop : Nat) : Nat := total (fun t => t.room stop) c.tasks

/-- The task that is due next is ready. -/
theorem ready_of_next? {c : Clock} {stop i : Nat} (h : c.next? stop = some i) :
    ∃ t, c.tasks[i]? = some t ∧ ready stop t = true := by
  obtain ⟨d, -, hd⟩ := Option.bind_eq_some_iff.mp h
  obtain ⟨hi, ht, -⟩ := List.findIdx?_eq_some_iff_getElem.mp hd
  exact ⟨c.tasks[i], by simp, (Bool.and_eq_true_iff.mp ht).1⟩

theorem total_modify_lt {α : Type} {f : α → α} {w : α → Nat} {a : α} (hw : w (f a) < w a) :
    ∀ {l : List α} {i : Nat}, l[i]? = some a → total w (l.modify i f) < total w l := by
  intro l
  induction l with
  | nil => intro i h; cases h
  | cons b l ih =>
    intro i h
    cases i with
    | zero =>
      cases h
      simp only [List.modify_zero_cons, total]
      omega
    | succ i =>
      have := ih (i := i) h
      simp only [List.modify_succ_cons, total]
      omega

theorem total_modify {α : Type} {f : α → α} {w : α → Nat} (hw : ∀ a, w (f a) = w a) :
    ∀ (l : List α) (i : Nat), total w (l.modify i f) = total w l := by
  intro l
  induction l with
  | nil => intro i; cases i <;> rfl
  | cons b l ih => intro i; cases i <;> simp [total, hw, ih]

theorem room_finish (c : Clock) (i stop : Nat) : (c.finish i).room stop = c.room stop :=
  total_modify (f := Task.finish) (w := fun t => t.room stop) (fun _ => rfl) c.tasks i

theorem room_tick_lt {c : Clock} {stop i : Nat} (h : c.next? stop = some i) :
    (c.tick i).room stop < c.room stop := by
  obtain ⟨t, ht, hr⟩ := ready_of_next? h
  have hd : t.deadline ≤ stop * unit := by
    simp only [ready, Bool.and_eq_true, decide_eq_true_eq] at hr
    exact hr.2
  rw [tick, ht]
  exact total_modify_lt (f := fun t => t.tick (c.meet t.deadline)) (w := fun t => t.room stop)
    (Task.room_tick_lt hd (c.deadline_le_meet t.deadline)) ht

theorem length_tasks_tick (c : Clock) (i : Nat) : (c.tick i).tasks.length = c.tasks.length := by
  rw [tick]
  split
  · rfl
  · exact List.length_modify ..

theorem length_tasks_finish (c : Clock) (i : Nat) : (c.finish i).tasks.length = c.tasks.length :=
  List.length_modify ..

theorem waiting_tick (c : Clock) (i : Nat) : (c.tick i).waiting = c.waiting := by
  rw [tick]
  split
  · rfl
  · exact total_modify (f := fun t => t.tick (c.meet t.deadline)) (w := fun t => t.waits.toNat)
      (fun t => congrArg Bool.toNat (t.waits_tick _)) c.tasks i

theorem waiting_finish_tick_lt {c : Clock} {stop i : Nat} (h : c.next? stop = some i) :
    ((c.tick i).finish i).waiting < c.waiting := by
  obtain ⟨t, ht, hready⟩ := ready_of_next? h
  have hwaits : t.waits = true := (Bool.and_eq_true_iff.mp hready).1
  have htick : (c.tick i).tasks[i]? = some (t.tick (c.meet t.deadline)) := by
    simp only [tick, ht, List.getElem?_modify_eq, Option.map_eq_map, Option.map_some]
  have hlt : (t.tick (c.meet t.deadline)).finish.waits.toNat
      < (t.tick (c.meet t.deadline)).waits.toNat := by
    rw [Task.waits_finish, Task.waits_tick, hwaits]
    decide
  rw [← waiting_tick c i]
  exact total_modify_lt (f := Task.finish) (w := fun t => t.waits.toNat) hlt htick

/-- The next tick of the task at place `i`, which is its last unless `again` holds of its number. -/
def tickWhile (again : Nat → Nat → Bool) (c : Clock) (i : Nat) : Clock :=
  if again i ((c.tick i).count i) then c.tick i else (c.tick i).finish i

theorem room_tickWhile_lt {again : Nat → Nat → Bool} {c : Clock} {stop i : Nat}
    (h : c.next? stop = some i) : (c.tickWhile again i).room stop < c.room stop := by
  unfold tickWhile
  split
  · exact room_tick_lt h
  · rw [room_finish]
    exact room_tick_lt h

/-! ## Time passes -/

/-- It is `stop`, if it is not later. -/
def reach (c : Clock) (stop : Nat) : Clock := ⟨max c.now stop, c.tasks⟩

/--
Time passes up to `stop`; each task ticks when it is due. `again i k` tells whether the task at place
`i` goes on after its tick number `k`.
-/
def pass (again : Nat → Nat → Bool) (c : Clock) (stop : Nat) : Clock :=
  match _h : c.next? stop with
  | none => c.reach stop
  | some i => pass again (c.tickWhile again i) stop
termination_by c.room stop
decreasing_by exact room_tickWhile_lt _h

/-- Until when somebody sleeps who is to sleep for some milliseconds. -/
def wake (c : Clock) (span : Nat) : Nat := c.now + min span farthest

/-- It is `stop` at once; what was due before ticks now. -/
def jump (again : Nat → Nat → Bool) (c : Clock) (stop : Nat) : Clock :=
  (c.reach stop).pass again stop

/-! ## Timers of players -/

/-- Cancels the tasks of timers that are not live. -/
def cancelDead : List Task → List Timer → List Task
  | t :: tasks, timer :: timers => (if timer.live then t else t.cancel) :: cancelDead tasks timers
  | tasks, [] => tasks
  | [], _ :: _ => []

/--
The clock whose tasks are the timers of a player: new timers are set up now, and those that are not
live any more are cancelled.
-/
def follow (c : Clock) (timers : List Timer) : Clock :=
  let tasks := c.tasks ++ (timers.drop c.tasks.length).map fun timer => .new c.now timer.period
  ⟨c.now, cancelDead tasks timers⟩

theorem length_cancelDead (tasks : List Task) (timers : List Timer) :
    (cancelDead tasks timers).length = tasks.length := by
  induction tasks, timers using cancelDead.induct with
  | case1 t tasks timer timers ih => rw [cancelDead, List.length_cons, ih, List.length_cons]
  | case2 => rw [cancelDead]
  | case3 => rw [cancelDead]

/-- Every timer has its task. -/
theorem length_le_follow (c : Clock) (timers : List Timer) :
    timers.length ≤ (c.follow timers).tasks.length := by
  rw [follow, length_cancelDead, List.length_append, List.length_map, List.length_drop]
  omega

theorem total_cancelDead_le (tasks : List Task) (timers : List Timer) :
    total (fun t => t.waits.toNat) (cancelDead tasks timers) ≤ total (fun t => t.waits.toNat) tasks := by
  induction tasks, timers using cancelDead.induct with
  | case1 t tasks timer timers ih =>
    rw [cancelDead, total, total]
    refine Nat.add_le_add ?_ ih
    split
    · exact Nat.le_refl _
    · rw [Task.waits_cancel]
      exact Nat.zero_le _
  | case2 => exact Nat.le_of_eq (by rw [cancelDead])
  | case3 => exact Nat.le_of_eq (by rw [cancelDead])

/-- No task waits that did not wait before, if all timers have their tasks. -/
theorem waiting_follow_le {c : Clock} {timers : List Timer} (h : timers.length ≤ c.tasks.length) :
    (c.follow timers).waiting ≤ c.waiting := by
  have hdrop : timers.drop c.tasks.length = [] := List.drop_eq_nil_of_le h
  rw [follow, hdrop, List.map_nil, List.append_nil]
  exact total_cancelDead_le c.tasks timers

end Clock

end BlockPlayer
