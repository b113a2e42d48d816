import BlockPlayer.Clock

/-!
# Tasks that tick in time

A task ticks at the first millisecond that is not before its deadline. If nothing keeps it from that, it
is never late by a whole millisecond, so no tick is ever put off, and the deadlines follow each other in
equal distances. A distance of more than thirty years is cut off there, except for the first one.

* `Clock.beat_le_iff`, `Clock.beat_le_iff_of_le` — a beat is the first millisecond that is not before
  its time
* `Task.due` — the time of the next tick, from the number of ticks so far
* `Task.onBeat_new`, `Task.OnBeat.tick` — a task that ticks in time is on the beat for ever
-/

namespace BlockPlayer

namespace Clock

theorem unit_pos : 0 < unit := by decide

/-- Of all milliseconds that are not before a time, it is the first one. -/
theorem ceil_le_iff {t n : Nat} : ceil t ≤ n ↔ t ≤ n * unit := by
  rw [ceil, Nat.div_le_iff_le_mul_add_pred unit_pos, Nat.mul_comm]
  have := unit_pos
  omega

theorem ceil_mono {t u : Nat} (h : t ≤ u) : ceil t ≤ ceil u :=
  ceil_le_iff.mpr (Nat.le_trans h (le_ceil u))

theorem ceil_add_mul (t n : Nat) : ceil (t + n * unit) = ceil t + n := by
  have hadd : t + n * unit + (unit - 1) = t + (unit - 1) + n * unit := by omega
  rw [ceil, ceil, hadd, Nat.add_mul_div_right _ _ unit_pos]

/-- A millisecond is not waited for longer than a millisecond. -/
theorem ceil_mul_lt (t : Nat) : ceil t * unit < t + unit := by
  have hdiv := Nat.div_mul_le_self (t + (unit - 1)) unit
  have := unit_pos
  unfold ceil
  omega

/-- The longest time that anybody waits, in nanoseconds. It is too large a number to be counted up to. -/
@[irreducible]
def longest : Nat := farthest * unit

theorem longest_eq : longest = farthest * unit := by rw [longest]

/--
How long it is until a tick that comes after `k` others, in nanoseconds. Only the first wait is never
cut off.
-/
def span (period k : Nat) : Nat := period + k * min period longest

theorem span_succ (period k : Nat) : span period (k + 1) = span period k + min period longest := by
  unfold span
  rw [Nat.succ_mul, ← Nat.add_assoc]

theorem span_le_span (period : Nat) {k l : Nat} (h : k ≤ l) : span period k ≤ span period l :=
  Nat.add_le_add_left (Nat.mul_le_mul_right _ h) period

theorem span_of_le {period : Nat} (h : period ≤ longest) (k : Nat) :
    span period k = (k + 1) * period := by
  unfold span
  rw [Nat.min_eq_left h, Nat.succ_mul, Nat.add_comm]

/-- The millisecond of a tick that comes after `k` others, counted from the start. -/
def beat (period k : Nat) : Nat := ceil (span period k)

theorem beat_le_iff {period k n : Nat} :
    beat period k ≤ n ↔ period + k * min period longest ≤ n * unit := ceil_le_iff

theorem beat_le_iff_of_le {period k n : Nat} (h : period ≤ longest) :
    beat period k ≤ n ↔ (k + 1) * period ≤ n * unit := by
  rw [beat, span_of_le h, ceil_le_iff]

end Clock

namespace Task

/-- A period is not changed when it becomes a task. -/
theorem period_new (now : Nat) {period : Nat} (h : 0 < period) : (new now period).period = period := by
  unfold new
  exact Nat.max_eq_left h

/-- When a task that has always ticked in time is due next, in nanoseconds. -/
def due (t : Task) : Nat := t.since * Clock.unit + Clock.span t.period t.ticks.length

theorem ceil_due (t : Task) : Clock.ceil t.due = t.since + Clock.beat t.period t.ticks.length := by
  unfold due
  rw [Nat.add_comm, Clock.ceil_add_mul, Nat.add_comm, Clock.beat]

/--
The deadline is as good as the time at which the task is due: both come in the same millisecond. If the
period is longer than anybody waits they need not be the same, for the wait is counted from a tick.
-/
structure OnBeat (t : Task) : Prop where
  due_le : t.due ≤ t.deadline
  ceil_eq : Clock.ceil t.deadline = Clock.ceil t.due
  eq_due : t.period ≤ Clock.longest → t.deadline = t.due

theorem onBeat_new (now period : Nat) : (new now period).OnBeat := by
  have hdue : (new now period).due = (new now period).deadline := by
    simp [due, Clock.span, new]
  exact ⟨Nat.le_of_eq hdue, by rw [hdue], fun _ => hdue.symm⟩

/-- A task that is not late has its next deadline one period later. -/
theorem following_ceil (t : Task) : t.following (Clock.ceil t.deadline)
    = min (Clock.ceil t.deadline * Clock.unit + Clock.longest) (t.deadline + t.period) := by
  have hlt := Clock.ceil_mul_lt t.deadline
  have htol : Clock.unit ≤ Clock.tolerance := by decide
  have hlate : ¬ t.deadline + Clock.tolerance < Clock.ceil t.deadline * Clock.unit := by omega
  rw [following, if_neg hlate, Nat.add_mul, Clock.longest_eq]

@[simp] theorem period_tick (t : Task) (now : Nat) : (t.tick now).period = t.period := by
  rw [tick]

@[simp] theorem since_tick (t : Task) (now : Nat) : (t.tick now).since = t.since := by
  rw [tick]

@[simp] theorem ended_tick (t : Task) (now : Nat) : (t.tick now).ended = t.ended := by
  rw [tick]

@[simp] theorem length_ticks_tick (t : Task) (now : Nat) :
    (t.tick now).ticks.length = t.ticks.length + 1 := by
  rw [tick, List.length_cons]

@[simp] theorem deadline_tick (t : Task) (now : Nat) : (t.tick now).deadline = t.following now := by
  rw [tick]

theorem due_tick (t : Task) (now : Nat) :
    (t.tick now).due = t.due + min t.period Clock.longest := by
  unfold due tick
  rw [List.length_cons, Clock.span_succ, Nat.add_assoc]

/-- **A task that ticks in time is on the beat again.** -/
theorem OnBeat.tick {t : Task} (h : t.OnBeat) : (t.tick (Clock.ceil t.deadline)).OnBeat := by
  have hdeadline := t.following_ceil
  rw [← deadline_tick] at hdeadline
  have hdue := t.due_tick (Clock.ceil t.deadline)
  have hceil := Clock.le_ceil t.deadline
  have hle := h.due_le
  by_cases hp : t.period ≤ Clock.longest
  · -- the wait is one period, and the deadline is exact
    have heq : (t.tick (Clock.ceil t.deadline)).deadline
        = (t.tick (Clock.ceil t.deadline)).due := by
      rw [hdeadline, hdue, ← h.eq_due hp]
      omega
    exact ⟨Nat.le_of_eq heq.symm, by rw [heq], fun _ => heq⟩
  · -- the wait is cut off, at the latest when it has lasted since the tick
    have hceil_due : Clock.ceil (t.tick (Clock.ceil t.deadline)).due
        = Clock.ceil t.due + Clock.farthest := by
      rw [hdue, Nat.min_eq_right (Nat.le_of_not_le hp), Clock.longest_eq, Clock.ceil_add_mul]
    have hlow : (t.tick (Clock.ceil t.deadline)).due
        ≤ (t.tick (Clock.ceil t.deadline)).deadline := by
      rw [hdeadline, hdue]
      omega
    refine ⟨hlow, Nat.le_antisymm ?_ (Clock.ceil_mono hlow), fun hp' => ?_⟩
    · rw [hceil_due, ← h.ceil_eq, Clock.ceil_le_iff, hdeadline, Nat.add_mul, ← Clock.longest_eq]
      exact Nat.min_le_left ..
    · rw [period_tick] at hp'
      exact absurd hp' hp

end Task

/-! ## Clocks with one task -/

namespace Clock

/-- A timer that is live has its task already. -/
theorem follow_single {c : Clock} {t : Task} {timer : Timer} (htasks : c.tasks = [t])
    (hlive : timer.live = true) : c.follow [timer] = c := by
  obtain ⟨now, tasks⟩ := c
  subst htasks
  simp only [follow, List.length_singleton, List.drop_one, List.tail_cons, List.map_nil,
    List.append_nil, cancelDead, hlive, if_true]

/-- The only task of a clock ticks when it is due, if that is not over. -/
theorem tick_single {c : Clock} {t : Task} (htasks : c.tasks = [t])
    (hnow : c.now ≤ ceil t.deadline) :
    c.tick 0 = ⟨ceil t.deadline, [t.tick (ceil t.deadline)]⟩ := by
  have hmeet : c.meet t.deadline = ceil t.deadline := Nat.max_eq_right hnow
  rw [tick, htasks, List.getElem?_cons_zero]
  simp only [hmeet, List.modify_zero_cons]

/-- The only task of a clock ticks next, as long as it waits. -/
theorem upcoming?_single {c : Clock} {t : Task} (htasks : c.tasks = [t]) (hwaits : t.waits = true) :
    c.upcoming? = some 0 := by
  have hlatest : c.latest = ceil t.deadline := by
    simp [latest, htasks]
  have hready : ready (ceil t.deadline) t = true := by
    simp [ready, hwaits, le_ceil]
  rw [upcoming?, next?, earliest?, hlatest, htasks]
  simp [hready]

end Clock

end BlockPlayer
