import BlockPlayer.Proofs.Clock.Steps
import Mathlib.Data.List.Infix

/-!
# When a task ticks

The times of the ticks so far fix the next deadline of a task (`Task.replay`), whatever is done to the
clock and to other tasks. So no tick is early, a late one puts off the next, and after the last one, or
when the handle is gone, there are no more.

* `Task.Regular` — what is kept by every change of a task
* `Task.le_deadline_replay`, `Task.onBeat_replay` — deadlines, from the times of the ticks before
* `Clock.ticks_of_schedule` — **when a task ticks, and when it does not, whatever is done to the clock**
-/

namespace BlockPlayer

namespace Task

open Clock

/--
A task that was set up at `since` and has ticked at some times, the last one first. Its deadline is the one
that the next tick meets.
-/
def replay (since period : Nat) (ticks : List Nat) : Task :=
  ticks.foldr (fun now t => t.tick now) (new since period)

variable {since period k n : Nat} {ticks older : List Nat} {t u : Task}
variable {again : Nat → Bool} {due : Nat → Nat → Prop}

@[simp] theorem replay_cons (since period n : Nat) (older : List Nat) :
    replay since period (n :: older) = (replay since period older).tick n := rfl

@[simp] theorem period_replay (since period : Nat) (ticks : List Nat) :
    (replay since period ticks).period = max period 1 := by
  induction ticks with
  | nil => rfl
  | cons n older ih => rw [replay_cons, period_tick, ih]

@[simp] theorem since_replay (since period : Nat) (ticks : List Nat) :
    (replay since period ticks).since = since := by
  induction ticks with
  | nil => rfl
  | cons n older ih => rw [replay_cons, since_tick, ih]

@[simp] theorem ticks_replay (since period : Nat) (ticks : List Nat) :
    (replay since period ticks).ticks = ticks := by
  induction ticks with
  | nil => rfl
  | cons n older ih => rw [replay_cons, ticks_tick, ih]

theorem due_replay (since period : Nat) (ticks : List Nat) :
    (replay since period ticks).due = since * unit + span (max period 1) ticks.length := by
  rw [Task.due, since_replay, period_replay, ticks_replay]

/-! ## Deadlines -/

theorem following_congr (hdeadline : t.deadline = u.deadline) (hperiod : t.period = u.period)
    (now : Nat) : t.following now = u.following now := by
  rw [following, following, hdeadline, hperiod]

/-- The next deadline is one period after the one that was met, or later. -/
theorem le_following (h : t.deadline ≤ n * unit) :
    t.deadline + min t.period longest ≤ t.following n := by
  have hsum : (n + farthest) * unit = n * unit + longest := by rw [longest_eq, Nat.add_mul]
  rw [following, hsum]
  split <;> omega

/-- After a late tick, the next deadline is one period after the tick. -/
theorem following_of_late (h : t.deadline + tolerance < n * unit) :
    t.following n = n * unit + min t.period longest := by
  have hsum : (n + farthest) * unit = n * unit + longest := by rw [longest_eq, Nat.add_mul]
  rw [following, hsum, if_pos h]
  omega

/-- If no tick was early, the next deadline is not either. -/
theorem le_deadline_replay
    (h : ∀ n older, (n :: older) <:+ ticks → NotEarly (replay since period older).deadline n) :
    since * unit + span (max period 1) ticks.length ≤ (replay since period ticks).deadline := by
  induction ticks with
  | nil =>
    show since * unit + span (max period 1) 0 ≤ since * unit + max period 1
    simp [span]
  | cons n older ih =>
    have hlast : (replay since period older).deadline ≤ n * unit := h n older List.suffix_rfl
    have hbefore := ih fun m rest hm => h m rest (hm.trans (List.suffix_cons n older))
    have hnext := le_following hlast
    rw [period_replay] at hnext
    rw [List.length_cons, span_succ, replay_cons, deadline_tick]
    omega

/-- If all ticks came in time, the next deadline is on the beat. -/
theorem onBeat_replay
    (h : ∀ n older, (n :: older) <:+ ticks → Prompt (replay since period older).deadline n) :
    (replay since period ticks).OnBeat := by
  induction ticks with
  | nil => exact onBeat_new since period
  | cons n older ih =>
    have hbefore := ih fun m rest hm => h m rest (hm.trans (List.suffix_cons n older))
    have hlast : n = ceil (replay since period older).deadline := h n older List.suffix_rfl
    rw [replay_cons, hlast]
    exact hbefore.tick

/-- A task that is on the beat has its next tick in the first millisecond that is not too early. -/
theorem OnBeat.ceil_deadline_replay (h : (replay since period ticks).OnBeat) :
    ceil (replay since period ticks).deadline
      = ceil (since * unit + span (max period 1) ticks.length) := by
  rw [h.ceil_eq, due_replay]

/-! ## What is kept by every change -/

/-- What holds of a task, and after every change, holds after all changes. -/
theorem Changes.keeps {I : Task → Prop} (hI : ∀ {t u : Task}, Change again due t u → I t → I u)
    (h : Changes again due t u) (ht : I t) : I u := by
  induction h with
  | refl => exact ht
  | tail _ hc ih => exact hI hc ih

/-- The deadline of a task is the one that its ticks fix, and so it was at each tick. -/
structure Regular (due : Nat → Nat → Prop) (since period : Nat) (t : Task) : Prop where
  period_eq : t.period = max period 1
  deadline_eq : t.deadline = (replay since period t.ticks).deadline
  due_of_suffix : ∀ n older, (n :: older) <:+ t.ticks → due (replay since period older).deadline n

theorem regular_new (since period : Nat) : (new since period).Regular due since period where
  period_eq := rfl
  deadline_eq := rfl
  due_of_suffix := fun _ _ h => by cases List.suffix_nil.mp h

namespace Regular

theorem congr (h : t.Regular due since period) (hperiod : u.period = t.period)
    (hdeadline : u.deadline = t.deadline) (hticks : u.ticks = t.ticks) :
    u.Regular due since period := by
  refine ⟨hperiod.trans h.period_eq, ?_, ?_⟩
  · rw [hdeadline, hticks, h.deadline_eq]
  · rw [hticks]
    exact h.due_of_suffix

theorem change (hc : Change again due t u) (h : t.Regular due since period) :
    u.Regular due since period := by
  cases hc with
  | cancel => exact h.congr (period_cancel t) (deadline_cancel t) (ticks_cancel t)
  | drop => exact h.congr rfl rfl rfl
  | @tick now _ hdue =>
    refine ⟨(period_tickWhile t now).trans h.period_eq, ?_, fun n older hsuffix => ?_⟩
    · rw [deadline_tickWhile, ticks_tickWhile, replay_cons, deadline_tick]
      exact following_congr h.deadline_eq (h.period_eq.trans (period_replay ..).symm) now
    · rw [ticks_tickWhile, List.suffix_cons_iff] at hsuffix
      rcases hsuffix with heq | hsuffix
      · cases heq
        rw [← h.deadline_eq]
        exact hdue
      · exact h.due_of_suffix n older hsuffix

/-- The ticks that a tick comes after were due when they came, too. -/
theorem due_of_suffix_older (h : t.Regular due since period) (hn : (n :: older) <:+ t.ticks)
    (m : Nat) (rest : List Nat) (hm : (m :: rest) <:+ older) :
    due (replay since period rest).deadline m :=
  h.due_of_suffix m rest (hm.trans ((List.suffix_cons n older).trans hn))

section Late

variable (h : t.Regular NotEarly since period)
include h

/-- No tick is early. -/
theorem span_le (hn : (n :: older) <:+ t.ticks) :
    since * unit + span (max period 1) older.length ≤ n * unit :=
  Nat.le_trans (le_deadline_replay (h.due_of_suffix_older hn)) (h.due_of_suffix n older hn)

/-- After a late tick, a whole period passes. -/
theorem put_off {n' : Nat} (hn : (n' :: n :: older) <:+ t.ticks)
    (hlate : (replay since period older).deadline + tolerance < n * unit) :
    n * unit + min (max period 1) longest ≤ n' * unit := by
  have hnext := h.due_of_suffix n' (n :: older) hn
  rw [replay_cons, deadline_tick, following_of_late hlate, period_replay] at hnext
  exact hnext

end Late

section Prompt

variable (h : t.Regular Prompt since period)
include h

/-- Each tick comes as soon as it is not early. -/
theorem eq_ceil (hn : (n :: older) <:+ t.ticks) :
    n = ceil (since * unit + span (max period 1) older.length) := by
  have hbeat := onBeat_replay (h.due_of_suffix_older hn)
  rw [h.due_of_suffix n older hn, hbeat.ceil_deadline_replay]

/-- No tick is left out before the deadline. -/
theorem lt_length_ticks (hnow : n * unit < t.deadline)
    (hk : since * unit + span (max period 1) k ≤ n * unit) : k < t.ticks.length := by
  by_contra hle
  have hspan := span_le_span (max period 1) (Nat.le_of_not_lt hle)
  have hbeat := (onBeat_replay h.due_of_suffix).ceil_deadline_replay
  have hdue : ceil t.deadline ≤ n := by
    rw [h.deadline_eq, hbeat]
    exact ceil_le_iff.mpr (by omega)
  exact Nat.not_le_of_lt hnow (ceil_le_iff.mp hdue)

end Prompt

end Regular

/-- A task that does not wait does not tick again. -/
theorem Changes.ticks_eq (h : Changes again due t u) (ht : t.waits = false) : u.ticks = t.ticks := by
  refine (h.keeps (I := fun u => u.waits = false ∧ u.ticks = t.ticks) ?_ ⟨ht, rfl⟩).2
  rintro u v hc ⟨hwaits, hticks⟩
  cases hc with
  | cancel => exact ⟨waits_cancel u, (ticks_cancel u).trans hticks⟩
  | drop => exact ⟨waits_drop u, hticks⟩
  | tick h => rw [hwaits] at h; cases h

/-- What has ticked once has ticked for ever. -/
theorem Changes.ticks_suffix (h : Changes again due t u) : t.ticks <:+ u.ticks := by
  refine h.keeps (I := fun u => t.ticks <:+ u.ticks) ?_ List.suffix_rfl
  intro u v hc hsuffix
  cases hc with
  | cancel => rwa [ticks_cancel]
  | drop => exact hsuffix
  | @tick now _ _ =>
    rw [ticks_tickWhile]
    exact hsuffix.trans (List.suffix_cons now u.ticks)

/-- A task does not end of its own accord before a tick that is to be the last one. -/
theorem Changes.ended_eq_false (h : Changes again due (new since period) t)
    (hagain : ∀ j, 0 < j → j ≤ t.ticks.length → again j = true) : t.ended = false := by
  have hlast : t.ended = true → 0 < t.ticks.length ∧ again t.ticks.length = false := by
    refine h.keeps (I := fun u => u.ended = true → 0 < u.ticks.length ∧ again u.ticks.length = false)
      ?_ nofun
    intro u v hc hu
    cases hc with
    | cancel =>
      rw [ended_cancel, ticks_cancel]
      exact hu
    | drop => exact hu
    | @tick now hwaits _ =>
      intro hended
      rw [ended_tickWhile (waits_iff.mp hwaits).2, Bool.not_eq_true'] at hended
      rw [ticks_tickWhile, List.length_cons]
      exact ⟨Nat.succ_pos _, hended⟩
  cases hended : t.ended with
  | false => rfl
  | true =>
    obtain ⟨hpos, hfalse⟩ := hlast hended
    rw [hagain _ hpos (Nat.le_refl _)] at hfalse
    cases hfalse

/-- After a tick that was to be the last one there are no more. -/
theorem Changes.length_ticks_le (h : Changes again due (new since period) t) (hk : 0 < k)
    (hagain : again k = false) : t.ticks.length ≤ k := by
  refine (h.keeps (I := fun u => u.ticks.length ≤ k ∧ (u.waits = true → u.ticks.length < k)) ?_
    ⟨Nat.zero_le k, fun _ => hk⟩).1
  rintro u v hc ⟨hle, hlt⟩
  cases hc with
  | cancel =>
    rw [ticks_cancel]
    exact ⟨hle, fun h => by rw [waits_cancel] at h; cases h⟩
  | drop => exact ⟨hle, nofun⟩
  | @tick now hwaits _ =>
    have hnext := hlt hwaits
    rw [ticks_tickWhile, List.length_cons]
    refine ⟨hnext, fun h => Nat.lt_of_le_of_ne hnext fun heq => ?_⟩
    rw [← heq, again_of_waits_tickWhile h] at hagain
    cases hagain

end Task

namespace Clock

variable {again : Nat → Nat → Bool} {c : Clock} {i : Nat} {t : Task}

theorem getElem?_schedule (c : Clock) (period : Nat) :
    (c.schedule period).tasks[c.tasks.length]? = some (.new c.now period) :=
  List.getElem?_concat_length

/-- A task whose handle is gone ticks no more. -/
theorem ticks_of_silenced {due : Nat → Nat → Prop} {s : Step} {d : Clock}
    (hs : s = .cancel i ∨ s = .drop i) (h : Follows again due (c.perform again s) d)
    (ht : c.tasks[i]? = some t) : d.tasks[i]?.map Task.ticks = some t.ticks := by
  have hmodify : ∀ f : Task → Task, (c.tasks.modify i f)[i]? = some (f t) := by
    intro f
    rw [List.getElem?_modify_eq, ht]
    rfl
  rcases hs with rfl | rfl
  · obtain ⟨u, hu, hchanges⟩ := h i _ (hmodify Task.cancel)
    rw [hu, Option.map_some, hchanges.ticks_eq (Task.waits_cancel t), Task.ticks_cancel]
  · obtain ⟨u, hu, hchanges⟩ := h i _ (hmodify Task.drop)
    rw [hu, Option.map_some, hchanges.ticks_eq (Task.waits_drop t)]
    rfl

section Scheduled

variable {since period : Nat} {steps : List Step}

/-- What a task has ticked after some steps, it has ticked after more of them. -/
theorem Settled.ticks_suffix_run (h : c.Settled) (ht : c.tasks[i]? = some t) {u : Task}
    (hu : (c.run again steps).tasks[i]? = some u) : t.ticks <:+ u.ticks := by
  obtain ⟨v, hv, hchanges⟩ := h.notEarly_run again steps i t ht
  obtain rfl : u = v := Option.some.inj (hu.symm.trans hv)
  exact hchanges.ticks_suffix

/-- A task waits as long as its handle is not used and none of its ticks was to be the last one. -/
theorem Settled.waits_run (h : c.Settled) (hnew : c.tasks[i]? = some (.new since period))
    (ht : (c.run again steps).tasks[i]? = some t) (hcancel : Step.cancel i ∉ steps)
    (hdrop : Step.drop i ∉ steps) (hagain : ∀ j, 0 < j → j ≤ t.ticks.length → again i j = true) :
    t.waits = true := by
  obtain ⟨u, hu, hchanges⟩ := h.notEarly_run again steps i _ hnew
  obtain rfl : t = u := Option.some.inj (ht.symm.trans hu)
  have hkept : (c.run again steps).tasks[i]?.map Task.handle = some .kept :=
    handle_run hcancel hdrop (by rw [hnew]; rfl)
  rw [ht] at hkept
  exact Task.waits_iff.mpr ⟨Option.some.inj hkept, hchanges.ended_eq_false hagain⟩

/-- Then its next deadline is still to come. -/
theorem Settled.lt_deadline_run (h : c.Settled) (hnew : c.tasks[i]? = some (.new since period))
    (ht : (c.run again steps).tasks[i]? = some t) (hcancel : Step.cancel i ∉ steps)
    (hdrop : Step.drop i ∉ steps) (hagain : ∀ j, 0 < j → j ≤ t.ticks.length → again i j = true) :
    (c.run again steps).now * unit < t.deadline :=
  h.run again steps t (List.mem_of_getElem? ht) (h.waits_run hnew ht hcancel hdrop hagain)

/-- So if nobody advances the time, the task has ticked whenever it was to do so. -/
theorem Settled.lt_length_ticks_run (h : c.Settled) (hnew : c.tasks[i]? = some (.new since period))
    (ht : (c.run again steps).tasks[i]? = some t) (hcancel : Step.cancel i ∉ steps)
    (hdrop : Step.drop i ∉ steps) (hregular : t.Regular Prompt since period) {k : Nat}
    (hagain : ∀ j, 0 < j → j ≤ k → again i j = true)
    (hk : since * unit + span (max period 1) k ≤ (c.run again steps).now * unit) :
    k < t.ticks.length := by
  by_contra hle
  -- with no more than `k` ticks so far, none of them was to be the last one
  have hnow := h.lt_deadline_run hnew ht hcancel hdrop fun j hpos hj =>
    hagain j hpos (hj.trans (Nat.le_of_not_lt hle))
  exact hle (hregular.lt_length_ticks hnow hk)

end Scheduled

/--
**When a task ticks.** Whatever has been done to a clock before a task is set up, and whatever is done after
that, to this task, to others and to the time, the following holds of the ticks of the task, of which the
last comes first.

* Time passes as the steps say, and the ticks fix the next deadline.
* No tick is forgotten.
* The tick that comes after `k` others is not early.
* There is none after the handle was cancelled or dropped, nor after one that was to be the last.
* Otherwise there are always more: the next deadline has not come yet.
* After one that came more than five milliseconds after its deadline, a whole period passes.
* If nobody advances the time, each tick comes in the first millisecond in which it is not early. The tick that
  comes after `k` others has come by then, unless the handle was used or one of the `k` was to be the last.

Only waits of more than thirty years are cut off, unless they are for the first tick.
-/
theorem ticks_of_schedule (again : Nat → Nat → Bool) (before after : List Step) (period : Nat) :
    let c := new.run again before
    let i := c.tasks.length
    let p := max period 1
    let d := c.run again (.schedule period :: after)
    d.now = c.now + total Step.lasts after ∧ ∃ t, d.tasks[i]? = some t ∧
      t.deadline = (Task.replay c.now period t.ticks).deadline ∧
      (∀ mid rest, after = mid ++ rest → ∃ older, older <:+ t.ticks ∧
        (c.run again (.schedule period :: mid)).tasks[i]?.map Task.ticks = some older) ∧
      (∀ n older, (n :: older) <:+ t.ticks → c.now * unit + span p older.length ≤ n * unit) ∧
      (∀ mid s rest, after = mid ++ s :: rest → s = .cancel i ∨ s = .drop i →
        (c.run again (.schedule period :: mid)).tasks[i]?.map Task.ticks = some t.ticks) ∧
      (∀ k, 0 < k → again i k = false → t.ticks.length ≤ k) ∧
      (Step.cancel i ∉ after → Step.drop i ∉ after →
        (∀ j, 0 < j → j ≤ t.ticks.length → again i j = true) → d.now * unit < t.deadline) ∧
      (∀ n' n older, (n' :: n :: older) <:+ t.ticks →
        (Task.replay c.now period older).deadline + tolerance < n * unit →
          n * unit + min p longest ≤ n' * unit) ∧
      ((∀ span, Step.advance span ∉ after) →
        (∀ n older, (n :: older) <:+ t.ticks → n = ceil (c.now * unit + span p older.length)) ∧
        (Step.cancel i ∉ after → Step.drop i ∉ after →
          ∀ k, (∀ j, 0 < j → j ≤ k → again i j = true) →
            c.now * unit + span p k ≤ d.now * unit → k < t.ticks.length)) := by
  intro c i p d
  have hsettled : (c.schedule period).Settled := (settled_new.run again before).schedule period
  have hnew := c.getElem?_schedule period
  obtain ⟨t, ht, hchanges⟩ := hsettled.notEarly_run again after i _ hnew
  have hregular := hchanges.keeps Task.Regular.change (Task.regular_new c.now period)
  refine ⟨now_run again (c.schedule period) after, t, ht, hregular.deadline_eq,
    fun mid rest hafter => ?_, fun n older => hregular.span_le,
    fun mid s rest hafter hs => ?_, fun k => hchanges.length_ticks_le,
    hsettled.lt_deadline_run hnew ht, fun n' n older => hregular.put_off, fun hsleep => ?_⟩
  · obtain ⟨u, hu, -⟩ := hsettled.notEarly_run again mid i _ hnew
    rw [hafter, run_append] at ht
    exact ⟨u.ticks, (hsettled.run again mid).ticks_suffix_run hu ht, congrArg _ hu⟩
  · obtain ⟨u, hu, -⟩ := hsettled.notEarly_run again mid i _ hnew
    have hrest := ((hsettled.run again mid).perform again s).notEarly_run again rest
    rw [← run_cons, ← run_append, ← hafter] at hrest
    have hticks := ticks_of_silenced hs hrest hu
    rw [ht] at hticks
    exact (congrArg _ hu).trans hticks.symm
  · obtain ⟨u, hu, hchanges⟩ := hsettled.prompt_run again hsleep i _ hnew
    obtain rfl : t = u := Option.some.inj (ht.symm.trans hu)
    have hregular := hchanges.keeps Task.Regular.change (Task.regular_new c.now period)
    exact ⟨fun n older => hregular.eq_ceil, fun hcancel hdrop k =>
      hsettled.lt_length_ticks_run hnew ht hcancel hdrop hregular⟩

/-- Nobody waits for a thousand billion milliseconds, so the second tick comes before its time. -/
theorem ticks_cut_off :
    let d := new.run (fun _ _ => true) [.schedule 1000000000000000000, .sleep 500000000000,
      .sleep 500000000000, .sleep 500000000000, .sleep 500000000000]
    d.tasks.map Task.ticks = [[1946080000000, 1000000000000]] ∧
      1946080000000 * unit < 2 * 1000000000000000000 := by
  cbv

/-- A late tick, one in time, and none after the handle is gone. -/
example : (new.run (fun _ _ => true)
    [.schedule 1500000, .advance 20, .sleep 2, .cancel 0, .sleep 50]).tasks.map Task.ticks
      = [[22, 20]] := by
  cbv

end Clock

end BlockPlayer
