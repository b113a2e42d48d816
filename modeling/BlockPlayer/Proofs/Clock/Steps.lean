import BlockPlayer.Proofs.Clock.Beat
import Mathlib.Logic.Relation
import Mathlib.Tactic.ByContra

/-!
# What is done to a clock

Tasks are set up, cancelled and let go, and time moves in two ways: somebody sleeps, and each task ticks
when it is due, or time is advanced at once, and whatever is due ticks late. For a task alone all of this
comes down to a few changes (`Task.Change`), the same for any number of other tasks. What every change
keeps is kept by every run.

* `Clock.Next` — which task ticks next
* `Clock.exists_pass` — time passes by ticks, each of the task that ticks next
* `Clock.Settled.run` — whenever a step is over, the deadlines of all tasks that wait are still to come
* `Clock.handle_run` — a handle that is not used stays as it is
* `Clock.Settled.notEarly_run`, `Clock.Settled.prompt_run` — **each task changes as if it were alone; it
  never ticks before its deadline, and as soon as that has come if nobody advances the time**
-/

namespace BlockPlayer

namespace Task

/-- The task after a tick at `now`, which is its last unless `again` holds of its number. -/
def tickWhile (again : Nat → Bool) (t : Task) (now : Nat) : Task :=
  if again (t.tick now).ticks.length then t.tick now else (t.tick now).finish

/-- One change of a task. It may tick at a time that goes with its deadline as `due` says. -/
inductive Change (again : Nat → Bool) (due : Nat → Nat → Prop) : Task → Task → Prop
  | cancel (t : Task) : Change again due t t.cancel
  | drop (t : Task) : Change again due t t.drop
  | tick {t : Task} {now : Nat} : t.waits = true → due t.deadline now →
      Change again due t (t.tickWhile again now)

theorem Change.mono {again : Nat → Bool} {due due' : Nat → Nat → Prop}
    (hdue : ∀ deadline now, due deadline now → due' deadline now) {t u : Task}
    (h : Change again due t u) : Change again due' t u := by
  cases h with
  | cancel => exact .cancel t
  | drop => exact .drop t
  | tick hwaits hd => exact .tick hwaits (hdue _ _ hd)

/-- Some changes in a row. -/
abbrev Changes (again : Nat → Bool) (due : Nat → Nat → Prop) : Task → Task → Prop :=
  Relation.ReflTransGen (Change again due)

theorem waits_drop (t : Task) : t.drop.waits = false := rfl

@[simp] theorem deadline_cancel (t : Task) : t.cancel.deadline = t.deadline := by
  unfold cancel
  split <;> rfl

@[simp] theorem period_cancel (t : Task) : t.cancel.period = t.period := by
  unfold cancel
  split <;> rfl

@[simp] theorem ticks_cancel (t : Task) : t.cancel.ticks = t.ticks := by
  unfold cancel
  split <;> rfl

@[simp] theorem ended_cancel (t : Task) : t.cancel.ended = t.ended := by
  unfold cancel
  split <;> rfl

@[simp] theorem deadline_finish (t : Task) : t.finish.deadline = t.deadline := rfl

@[simp] theorem period_finish (t : Task) : t.finish.period = t.period := rfl

@[simp] theorem ticks_finish (t : Task) : t.finish.ticks = t.ticks := rfl

theorem ticks_tick (t : Task) (now : Nat) : (t.tick now).ticks = now :: t.ticks := rfl

variable {again : Nat → Bool}

theorem tickWhile_eq_or (again : Nat → Bool) (t : Task) (now : Nat) :
    t.tickWhile again now = t.tick now ∨ t.tickWhile again now = (t.tick now).finish := by
  unfold tickWhile
  split
  · exact .inl rfl
  · exact .inr rfl

@[simp] theorem deadline_tickWhile (t : Task) (now : Nat) :
    (t.tickWhile again now).deadline = t.following now := by
  rcases t.tickWhile_eq_or again now with h | h
  · rw [h, deadline_tick]
  · rw [h, deadline_finish, deadline_tick]

@[simp] theorem period_tickWhile (t : Task) (now : Nat) :
    (t.tickWhile again now).period = t.period := by
  rcases t.tickWhile_eq_or again now with h | h
  · rw [h, period_tick]
  · rw [h, period_finish, period_tick]

@[simp] theorem ticks_tickWhile (t : Task) (now : Nat) :
    (t.tickWhile again now).ticks = now :: t.ticks := by
  rcases t.tickWhile_eq_or again now with h | h
  · rw [h, ticks_tick]
  · rw [h, ticks_finish, ticks_tick]

theorem handle_tickWhile (t : Task) (now : Nat) : (t.tickWhile again now).handle = t.handle := by
  rcases t.tickWhile_eq_or again now with h | h
  · rw [h, tick]
  · rw [h, finish, tick]

/-- A task waits if its handle is kept and no tick was the last one. -/
theorem waits_iff {t : Task} : t.waits = true ↔ t.handle = .kept ∧ t.ended = false := by
  simp [waits]

/-- A task that has not ended before ends with a tick that is not to be repeated. -/
theorem ended_tickWhile {t : Task} (h : t.ended = false) (now : Nat) :
    (t.tickWhile again now).ended = !again (t.ticks.length + 1) := by
  rw [tickWhile, length_ticks_tick]
  cases again (t.ticks.length + 1) with
  | true => rw [if_pos rfl, ended_tick, h, Bool.not_true]
  | false => rfl

/-- A task that waits after a tick was to go on. -/
theorem again_of_waits_tickWhile {t : Task} {now : Nat} (h : (t.tickWhile again now).waits = true) :
    again (t.ticks.length + 1) = true := by
  by_contra hn
  rw [tickWhile, if_neg (by rwa [length_ticks_tick])] at h
  simp [waits, finish] at h

end Task

namespace Clock

/-! ## Steps -/

/-- What can be done with a clock. -/
inductive Step
  /-- A task with this period is set up. -/
  | schedule (period : Nat)
  | cancel (i : Nat)
  | drop (i : Nat)
  /-- Somebody sleeps for some milliseconds. -/
  | sleep (span : Nat)
  /-- It is some milliseconds later at once. -/
  | advance (span : Nat)
  deriving DecidableEq

/-- How long a step lasts, in milliseconds. -/
def Step.lasts : Step → Nat
  | .schedule _ | .cancel _ | .drop _ => 0
  | .sleep span => min span farthest
  | .advance span => span

/-- The clock after a step. The task at place `i` goes on after its tick number `k` if `again i k` holds. -/
def perform (again : Nat → Nat → Bool) (c : Clock) : Step → Clock
  | .schedule period => c.schedule period
  | .cancel i => c.cancel i
  | .drop i => c.drop i
  | .sleep span => c.pass again (c.wake span)
  | .advance span => c.jump again (c.now + span)

/-- The clock after some steps. -/
def run (again : Nat → Nat → Bool) (c : Clock) (steps : List Step) : Clock :=
  steps.foldl (perform again) c

variable {again : Nat → Nat → Bool} {c d e : Clock} {stop i : Nat} {t : Task}

theorem run_cons (again : Nat → Nat → Bool) (c : Clock) (s : Step) (steps : List Step) :
    c.run again (s :: steps) = (c.perform again s).run again steps := rfl

theorem run_append (again : Nat → Nat → Bool) (c : Clock) (steps steps' : List Step) :
    c.run again (steps ++ steps') = (c.run again steps).run again steps' := List.foldl_append

/-! ## The next tick -/

theorem ready_iff : ready stop t = true ↔ t.waits = true ∧ t.deadline ≤ stop * unit := by
  simp [ready]

/-- The task `t` at place `i` ticks next, at `stop` at the latest. -/
structure Next (c : Clock) (stop i : Nat) (t : Task) : Prop where
  place : c.tasks[i]? = some t
  waits : t.waits = true
  deadline_le : t.deadline ≤ stop * unit
  /-- No other task that waits has an earlier deadline. -/
  first : ∀ u ∈ c.tasks, u.waits = true → t.deadline ≤ u.deadline

theorem next_of_next? (h : c.next? stop = some i) : ∃ t, c.Next stop i t := by
  obtain ⟨d, hd, hplace⟩ := Option.bind_eq_some_iff.mp h
  obtain ⟨hi, ht, -⟩ := List.findIdx?_eq_some_iff_getElem.mp hplace
  obtain ⟨hready, hdeadline⟩ := Bool.and_eq_true_iff.mp ht
  obtain ⟨hwaits, hle⟩ := ready_iff.mp hready
  refine ⟨c.tasks[i], List.getElem?_eq_getElem hi, hwaits, hle, fun u hu huwaits => ?_⟩
  rw [beq_iff_eq.mp hdeadline]
  by_cases hule : u.deadline ≤ stop * unit
  · have hfilter : u ∈ c.tasks.filter (ready stop) :=
      List.mem_filter.mpr ⟨hu, ready_iff.mpr ⟨huwaits, hule⟩⟩
    exact (List.min?_eq_some_iff.mp hd).2 _ (List.mem_map_of_mem hfilter)
  · rw [← beq_iff_eq.mp hdeadline]
    omega

/-- If no task ticks next, all deadlines are later. -/
theorem lt_deadline_of_next? (h : c.next? stop = none) :
    ∀ t ∈ c.tasks, t.waits = true → stop * unit < t.deadline := by
  intro t ht hwaits
  by_contra hle
  have hready : ready stop t = true := ready_iff.mpr ⟨hwaits, Nat.le_of_not_lt hle⟩
  -- the task with the earliest deadline would tick
  cases hd : earliest? stop c.tasks with
  | none =>
    have hnil := List.map_eq_nil_iff.mp (List.min?_eq_none_iff.mp hd)
    exact List.filter_eq_nil_iff.mp hnil t ht hready
  | some d =>
    obtain ⟨u, hu, rfl⟩ := List.mem_map.mp (List.min?_eq_some_iff.mp hd).1
    obtain ⟨hmem, huready⟩ := List.mem_filter.mp hu
    rw [next?, hd, Option.bind_some, List.findIdx?_eq_none_iff] at h
    simpa [huready] using h u hmem

theorem tick_eq (h : c.tasks[i]? = some t) :
    c.tick i = ⟨c.meet t.deadline, c.tasks.modify i fun u => u.tick (c.meet u.deadline)⟩ := by
  simp only [tick, h]

theorem now_tickWhile (h : c.tasks[i]? = some t) :
    (c.tickWhile again i).now = c.meet t.deadline := by
  rw [tickWhile, tick_eq h]
  split <;> rfl

/-- A tick of one task leaves the others as they are. -/
theorem getElem?_tickWhile (h : c.tasks[i]? = some t) (j : Nat) :
    (c.tickWhile again i).tasks[j]?
      = if i = j then some (t.tickWhile (again i) (c.meet t.deadline)) else c.tasks[j]? := by
  have hcount : (c.tick i).count i = (t.tick (c.meet t.deadline)).ticks.length := by
    rw [count, tick_eq h, List.getElem?_modify_eq, h]
    rfl
  rw [tickWhile, hcount, Task.tickWhile]
  by_cases hij : i = j
  · subst hij
    rw [if_pos rfl]
    split
    · rw [tick_eq h, List.getElem?_modify_eq, h]
      rfl
    · rw [finish, tick_eq h, List.getElem?_modify_eq, List.getElem?_modify_eq, h]
      rfl
  · rw [if_neg hij]
    split
    · rw [tick_eq h]
      exact List.getElem?_modify_ne _ _ hij
    · rw [finish, tick_eq h]
      exact (List.getElem?_modify_ne _ _ hij).trans (List.getElem?_modify_ne _ _ hij)

theorem mem_tickWhile (h : c.tasks[i]? = some t) {u : Task}
    (hu : u ∈ (c.tickWhile again i).tasks) :
    u = t.tickWhile (again i) (c.meet t.deadline) ∨ u ∈ c.tasks := by
  obtain ⟨j, hj⟩ := List.mem_iff_getElem?.mp hu
  rw [getElem?_tickWhile h] at hj
  split at hj
  · cases hj
    exact .inl rfl
  · exact .inr (List.mem_of_getElem? hj)

theorem Next.mem (h : c.Next stop i t) : t ∈ c.tasks := List.mem_of_getElem? h.place

theorem Next.now_tickWhile_le (h : c.Next stop i t) (hc : c.now ≤ stop) :
    (c.tickWhile again i).now ≤ stop := by
  rw [now_tickWhile h.place]
  exact Nat.max_le.mpr ⟨hc, ceil_le_iff.mpr h.deadline_le⟩

/-! ## Time passes -/

theorem pass_of_none (h : c.next? stop = none) : c.pass again stop = c.reach stop := by
  rw [pass]
  split
  · rfl
  · next hi =>
    rw [h] at hi
    cases hi

theorem pass_of_some (h : c.next? stop = some i) :
    c.pass again stop = (c.tickWhile again i).pass again stop := by
  rw [pass]
  split
  · next hnone =>
    rw [h] at hnone
    cases hnone
  · next j hj =>
    rw [h] at hj
    cases hj
    rfl

/--
Time passes by ticks, each of the task that ticks next, until all deadlines are later. So what holds of
the clock before and after every tick holds of one that has the same tasks as the clock in the end.
-/
theorem exists_pass (again : Nat → Nat → Bool) (stop : Nat) {I : Clock → Prop}
    (hI : ∀ {c : Clock} {i : Nat} {t : Task}, c.Next stop i t → I c → I (c.tickWhile again i))
    (h : I c) : ∃ d, c.pass again stop = d.reach stop ∧ I d ∧
      ∀ t ∈ d.tasks, t.waits = true → stop * unit < t.deadline := by
  induction c using pass.induct again stop with
  | case1 c hnone => exact ⟨c, pass_of_none hnone, h, lt_deadline_of_next? hnone⟩
  | case2 c i hi ih =>
    obtain ⟨t, ht⟩ := next_of_next? hi
    obtain ⟨d, hd, hrest⟩ := ih (hI ht h)
    exact ⟨d, (pass_of_some hi).trans hd, hrest⟩

/-! ## Deadlines are still to come -/

/-- No task that waits is due. -/
def Settled (c : Clock) : Prop := ∀ t ∈ c.tasks, t.waits = true → c.now * unit < t.deadline

/-- No task that waits has missed the millisecond in which it is due. -/
def Timely (c : Clock) : Prop := ∀ t ∈ c.tasks, t.waits = true → c.now ≤ ceil t.deadline

theorem settled_new : new.Settled := nofun

theorem Settled.timely (h : c.Settled) : c.Timely := by
  intro t ht hwaits
  by_contra hlt
  have hlater := h t ht hwaits
  have hpassed : t.deadline ≤ c.now * unit := ceil_le_iff.mp (Nat.le_of_lt (Nat.lt_of_not_le hlt))
  omega

theorem Timely.meet_eq (h : c.Timely) (hn : c.Next stop i t) : c.meet t.deadline = ceil t.deadline :=
  Nat.max_eq_right (h t hn.mem hn.waits)

/-- The task with the earliest deadline ticks, so no other one misses its own. -/
theorem Timely.tickWhile (h : c.Timely) (hn : c.Next stop i t) : (c.tickWhile again i).Timely := by
  intro u hu hwaits
  rw [now_tickWhile hn.place, h.meet_eq hn]
  refine ceil_mono ?_
  rcases mem_tickWhile hn.place hu with rfl | hu
  · rw [Task.deadline_tickWhile]
    exact Nat.le_of_lt (Task.deadline_lt_following (c.deadline_le_meet t.deadline))
  · exact hn.first u hu hwaits

theorem now_pass (h : c.now ≤ stop) : (c.pass again stop).now = stop := by
  obtain ⟨d, hd, hnow, -⟩ := exists_pass again stop (I := fun d => d.now ≤ stop)
    Next.now_tickWhile_le h
  rw [hd]
  exact Nat.max_eq_right hnow

theorem now_perform (again : Nat → Nat → Bool) (c : Clock) (s : Step) :
    (c.perform again s).now = c.now + s.lasts := by
  cases s with
  | schedule | cancel | drop => rfl
  | sleep span => exact now_pass (Nat.le_add_right ..)
  | advance span => exact now_pass (Nat.max_le.mpr ⟨Nat.le_add_right .., Nat.le_refl _⟩)

/-- As much time has passed as all steps have lasted. -/
theorem now_run (again : Nat → Nat → Bool) (c : Clock) (steps : List Step) :
    (c.run again steps).now = c.now + total Step.lasts steps := by
  induction steps generalizing c with
  | nil => rfl
  | cons s steps ih => rw [run_cons, ih, now_perform, total, Nat.add_assoc]

theorem settled_pass (h : c.now ≤ stop) : (c.pass again stop).Settled := by
  obtain ⟨d, hd, -, hlater⟩ := exists_pass again stop (I := fun _ => True) (fun _ hI => hI)
    (trivial : True)
  intro t ht hwaits
  rw [hd] at ht
  rw [now_pass h]
  exact hlater t ht hwaits

theorem Settled.schedule (h : c.Settled) (period : Nat) : (c.schedule period).Settled := by
  intro t ht hwaits
  rcases List.mem_append.mp ht with ht | ht
  · exact h t ht hwaits
  · obtain rfl := List.mem_singleton.mp ht
    have hpos := (Task.new c.now period).period_pos
    show c.now * unit < c.now * unit + (Task.new c.now period).period
    omega

theorem Settled.modify {f : Task → Task} (hf : ∀ t, (f t).waits = false) (h : c.Settled) (i : Nat) :
    Settled ⟨c.now, c.tasks.modify i f⟩ := by
  intro t ht hwaits
  obtain ⟨j, hj⟩ := List.mem_iff_getElem?.mp ht
  rw [List.getElem?_modify] at hj
  obtain ⟨u, hu, rfl⟩ := Option.map_eq_some_iff.mp hj
  by_cases hij : i = j
  · rw [if_pos hij, hf] at hwaits
    cases hwaits
  · rw [if_neg hij] at hwaits ⊢
    exact h u (List.mem_of_getElem? hu) hwaits

/-- Whenever a step is over, nothing is left to be done. -/
theorem Settled.perform (h : c.Settled) (again : Nat → Nat → Bool) (s : Step) :
    (c.perform again s).Settled := by
  cases s with
  | schedule period => exact h.schedule period
  | cancel i => exact h.modify Task.waits_cancel i
  | drop i => exact h.modify Task.waits_drop i
  | sleep span => exact settled_pass (Nat.le_add_right ..)
  | advance span =>
    exact settled_pass (Nat.max_le.mpr ⟨Nat.le_add_right .., Nat.le_refl _⟩)

theorem Settled.run (h : c.Settled) (again : Nat → Nat → Bool) (steps : List Step) :
    (c.run again steps).Settled := by
  induction steps generalizing c with
  | nil => exact h
  | cons s steps ih => exact ih (h.perform again s)

/-! ## What becomes of the tasks -/

/-- The tasks of `c` are still in their places in `d`, after changes as `again` and `due` say. -/
def Follows (again : Nat → Nat → Bool) (due : Nat → Nat → Prop) (c d : Clock) : Prop :=
  ∀ i t, c.tasks[i]? = some t → ∃ u, d.tasks[i]? = some u ∧ Task.Changes (again i) due t u

namespace Follows

variable {due due' : Nat → Nat → Prop}

theorem refl (c : Clock) : Follows again due c c := fun _ t ht => ⟨t, ht, .refl⟩

theorem trans (h : Follows again due c d) (h' : Follows again due d e) :
    Follows again due c e := by
  intro i t ht
  obtain ⟨u, hu, hchanges⟩ := h i t ht
  obtain ⟨v, hv, hchanges'⟩ := h' i u hu
  exact ⟨v, hv, hchanges.trans hchanges'⟩

theorem mono (hdue : ∀ d n, due d n → due' d n) (h : Follows again due c d) :
    Follows again due' c d := by
  intro i t ht
  obtain ⟨u, hu, hchanges⟩ := h i t ht
  exact ⟨u, hu, Relation.ReflTransGen.mono (fun _ _ hc => hc.mono hdue) t u hchanges⟩

theorem schedule (c : Clock) (period : Nat) : Follows again due c (c.schedule period) := by
  intro i t ht
  have hi : i < c.tasks.length := (List.getElem?_eq_some_iff.mp ht).1
  exact ⟨t, (List.getElem?_append_left hi).trans ht, .refl⟩

theorem modify {f : Task → Task} (hf : ∀ t, Task.Change (again i) due t (f t)) (c : Clock) :
    Follows again due c ⟨c.now, c.tasks.modify i f⟩ := by
  intro j t ht
  by_cases hij : i = j
  · subst hij
    exact ⟨f t, by rw [List.getElem?_modify_eq, ht]; rfl, .single (hf t)⟩
  · exact ⟨t, (List.getElem?_modify_ne _ _ hij).trans ht, .refl⟩

/-- A tick of the task that ticks next is a change of this task. -/
theorem tickWhile (hn : c.Next stop i t) (hdue : due t.deadline (c.meet t.deadline)) :
    Follows again due c (c.tickWhile again i) := by
  intro j u hu
  rw [getElem?_tickWhile hn.place]
  by_cases hij : i = j
  · subst hij
    rw [hn.place] at hu
    cases hu
    exact ⟨_, if_pos rfl, .single (.tick hn.waits hdue)⟩
  · exact ⟨u, by rw [if_neg hij, hu], .refl⟩

end Follows

/-! ## Handles -/

/-- A task that is set up has a handle of its own. -/
theorem handle_schedule {h : Handle} (c : Clock) (period : Nat)
    (hc : c.tasks[i]?.map Task.handle = some h) :
    (c.schedule period).tasks[i]?.map Task.handle = some h := by
  obtain ⟨t, ht, hhandle⟩ := Option.map_eq_some_iff.mp hc
  have hi : i < c.tasks.length := (List.getElem?_eq_some_iff.mp ht).1
  rw [schedule, List.getElem?_append_left hi, hc]

/-- As time passes, all handles stay as they are. -/
theorem handle_pass (c : Clock) (stop : Nat) :
    (c.pass again stop).tasks[i]?.map Task.handle = c.tasks[i]?.map Task.handle := by
  obtain ⟨d, hd, hhandle, -⟩ := exists_pass again stop (c := c)
    (I := fun d => d.tasks[i]?.map Task.handle = c.tasks[i]?.map Task.handle)
    (fun {d j t} hn hI => by
      rw [getElem?_tickWhile hn.place, ← hI]
      by_cases hij : j = i
      · subst hij
        rw [if_pos rfl, hn.place, Option.map_some, Option.map_some, Task.handle_tickWhile]
      · rw [if_neg hij])
    rfl
  rw [hd]
  exact hhandle

/-- A handle changes only if it is used. -/
theorem handle_perform {h : Handle} {s : Step} (hcancel : s ≠ .cancel i) (hdrop : s ≠ .drop i)
    (hc : c.tasks[i]?.map Task.handle = some h) :
    (c.perform again s).tasks[i]?.map Task.handle = some h := by
  cases s with
  | schedule period => exact handle_schedule c period hc
  | cancel j =>
    have hji : j ≠ i := fun hji => hcancel (congrArg Step.cancel hji)
    exact (congrArg _ (List.getElem?_modify_ne _ _ hji)).trans hc
  | drop j =>
    have hji : j ≠ i := fun hji => hdrop (congrArg Step.drop hji)
    exact (congrArg _ (List.getElem?_modify_ne _ _ hji)).trans hc
  | sleep span => exact (handle_pass c _).trans hc
  | advance span => exact (handle_pass _ _).trans hc

/-- A handle that is not used stays as it is. -/
theorem handle_run {h : Handle} {steps : List Step} (hcancel : Step.cancel i ∉ steps)
    (hdrop : Step.drop i ∉ steps) (hc : c.tasks[i]?.map Task.handle = some h) :
    (c.run again steps).tasks[i]?.map Task.handle = some h := by
  induction steps generalizing c with
  | nil => exact hc
  | cons s steps ih =>
    rw [List.mem_cons, not_or] at hcancel hdrop
    exact ih hcancel.2 hdrop.2 (handle_perform (Ne.symm hcancel.1) (Ne.symm hdrop.1) hc)

/-- A tick at `now` is not too early for the deadline. -/
def NotEarly (deadline now : Nat) : Prop := deadline ≤ now * unit

/-- A tick at `now` comes in the first millisecond that is not before the deadline. -/
def Prompt (deadline now : Nat) : Prop := now = ceil deadline

theorem Prompt.notEarly {deadline now : Nat} (h : Prompt deadline now) : NotEarly deadline now :=
  ceil_le_iff.mp (Nat.le_of_eq h.symm)

/-- How the deadline of a tick goes with the time of the tick, if it comes in this step. -/
def Step.due : Step → Nat → Nat → Prop
  | .advance _ => NotEarly
  | _ => Prompt

theorem Step.notEarly_of_due {s : Step} {deadline now : Nat} (h : s.due deadline now) :
    NotEarly deadline now := by
  cases s with
  | advance => exact h
  | schedule | cancel | drop | sleep => exact h.notEarly

/-- While somebody sleeps, tasks tick when they are due. -/
theorem Timely.follows_pass (h : c.Timely) : Follows again Prompt c (c.pass again stop) := by
  obtain ⟨d, hd, ⟨-, hfollows⟩, -⟩ := exists_pass again stop
    (I := fun d => d.Timely ∧ Follows again Prompt c d)
    (fun hn hI => ⟨hI.1.tickWhile hn, hI.2.trans (.tickWhile hn (hI.1.meet_eq hn))⟩)
    ⟨h, .refl c⟩
  rw [hd]
  exact hfollows

/-- When the time is advanced, tasks tick late. -/
theorem follows_jump (c : Clock) (stop : Nat) :
    Follows again NotEarly c (c.jump again stop) := by
  obtain ⟨d, hd, hfollows, -⟩ := exists_pass again stop (c := c.reach stop)
    (I := Follows again NotEarly c)
    (fun hn hI => hI.trans (.tickWhile hn (deadline_le_meet _ _)))
    (Follows.refl c)
  rw [jump, hd]
  exact hfollows

theorem Settled.follows_perform (h : c.Settled) (again : Nat → Nat → Bool) (s : Step) :
    Follows again s.due c (c.perform again s) := by
  cases s with
  | schedule period => exact .schedule c period
  | cancel i => exact .modify (fun t => .cancel t) c
  | drop i => exact .modify (fun t => .drop t) c
  | sleep span => exact h.timely.follows_pass
  | advance span => exact follows_jump c _

/-- Tasks tick at times that go with their deadlines in the way in which they do in all steps. -/
theorem Settled.follows_run {due : Nat → Nat → Prop} (h : c.Settled) {steps : List Step}
    (hdue : ∀ s ∈ steps, ∀ deadline now, s.due deadline now → due deadline now) :
    Follows again due c (c.run again steps) := by
  induction steps generalizing c with
  | nil => exact .refl c
  | cons s steps ih =>
    have hperform := (h.follows_perform again s).mono (hdue s List.mem_cons_self)
    exact hperform.trans (ih (h.perform again s) fun s hs => hdue s (List.mem_cons_of_mem _ hs))

/-- **Whatever is done to a clock, no task ticks before its deadline.** -/
theorem Settled.notEarly_run (h : c.Settled) (again : Nat → Nat → Bool) (steps : List Step) :
    Follows again NotEarly c (c.run again steps) :=
  h.follows_run fun s _ _ _ => s.notEarly_of_due

/-- **While nobody advances the time, tasks tick as soon as their deadlines have come.** -/
theorem Settled.prompt_run (h : c.Settled) (again : Nat → Nat → Bool) {steps : List Step}
    (hsteps : ∀ span, Step.advance span ∉ steps) : Follows again Prompt c (c.run again steps) := by
  refine h.follows_run fun s hs deadline now hdue => ?_
  cases s with
  | advance span => exact absurd hs (hsteps span)
  | schedule | cancel | drop | sleep => exact hdue

end Clock

end BlockPlayer
