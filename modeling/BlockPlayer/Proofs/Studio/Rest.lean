import BlockPlayer.Proofs.Studio.Moves

/-!
# Coming to rest

Whoever has the word in a studio may keep it for ever, and begin new things. But what has been begun is
limited: each callback that returns has the player tell at most one thing more, and each listener that
is told of an edit was there before. So if everybody gives the word back, there is less and less to do.

* `weight_perform_back_lt` — who gives the word back leaves less to be done
* `exists_isIdle_run` — **the studio comes to rest**
-/

namespace BlockPlayer

/-- How many callbacks may still be told something by a frame, at most, counting the one that runs. -/
def Frame.weight (f : Frame) : Nat := (Turn.tell (.highlight none) f).weight

theorem Turn.weight_tell (e : Event) (f : Frame) : (Turn.tell e f).weight = f.weight := by
  cases f <;> rfl

/-- The same for some frames. -/
def Frame.totalWeight : List Frame → Nat
  | [] => 0
  | f :: rest => f.weight + totalWeight rest

namespace Performance

/-- How many callbacks may still be told something, at most. -/
def weight (s : Performance) : Nat := Frame.totalWeight s.waiting

theorem weight_of_nil {s : Performance} (h : s.waiting = []) : s.weight = 0 := by
  rw [weight, h, Frame.totalWeight]

theorem weight_after (waiting : List Frame) (t : Player × Turn) :
    (after waiting t).1.weight = t.2.weight + Frame.totalWeight waiting := by
  obtain ⟨p, turn⟩ := t
  cases turn with
  | answer a => exact (Nat.zero_add _).symm
  | tell e f =>
    rw [Turn.weight_tell]
    rfl

theorem weight_move_back_lt {s : Performance} (h : s.waiting ≠ []) :
    (s.move .back).1.weight < s.weight := by
  obtain ⟨f, waiting, hw⟩ := List.exists_cons_of_ne_nil h
  have hf := s.player.weight_resume_lt (.highlight none) f
  rw [Turn.weight_tell] at hf
  rw [move_back_of_cons hw, weight_after, weight, hw, Frame.totalWeight]
  exact Nat.add_lt_add_right hf _

end Performance

namespace Studio

/-- How much is left to be done, at most, before everybody has given the word back. -/
def burden : Option Duty → Nat
  | none => 0
  | some (.guest rest) => 2 * rest.length + 1
  | some (.reload rest) => 2 * rest.length + 1
  | some (.open _) => 1

def weight (s : Studio) : Nat := s.stage.weight + burden s.duty

theorem weight_notify_le {s : Studio} (h : s.stage.waiting = []) (l : List Listener) :
    (s.notify l).1.weight ≤ 2 * l.length := by
  induction l generalizing s with
  | nil =>
    rw [notify_nil]
    exact Nat.le_of_eq (Performance.weight_of_nil h)
  | cons x rest ih =>
    cases x with
    | guest n =>
      rw [notify_guest]
      show s.stage.weight + (2 * rest.length + 1) ≤ 2 * (rest.length + 1)
      rw [Performance.weight_of_nil h]
      omega
    | player o =>
      rcases Performance.move_load h (s.program o) with ⟨e, he, hw⟩ | ⟨a, ha, hw, -⟩
      · rw [notify_player_of_told s (Prod.ext rfl he)]
        show Performance.weight (s.stage.move _).1 + (2 * rest.length + 1) ≤ 2 * (rest.length + 1)
        rw [Performance.weight, hw]
        show 1 + (2 * rest.length + 1) ≤ 2 * (rest.length + 1)
        omega
      · rw [notify_player_of_answered s (Prod.ext rfl ha)]
        exact Nat.le_trans (ih hw) (Nat.mul_le_mul_left 2 (Nat.le_succ _))

theorem weight_settle_le (s : Studio) (r : BlockPlayer.Report) :
    (s.settle r).1.weight ≤ s.weight := by
  rcases s.settle_cases r with ⟨e, -, h⟩ | ⟨a, -, ⟨rest, hw, hd, h⟩ | ⟨o, -, hd, h⟩ | ⟨-, h⟩⟩
  · exact Nat.le_of_eq (congrArg (fun t => t.1.weight) h)
  · rw [h]
    have hle := weight_notify_le hw rest
    show _ ≤ s.stage.weight + burden s.duty
    rw [hd, burden]
    omega
  · rw [h]
    show (s.enter o).stage.weight + 0 ≤ _
    rw [stage_enter]
    exact Nat.le_add_right _ _
  · exact Nat.le_of_eq (congrArg (fun t => t.1.weight) h)

/-- Whoever gives the word back leaves less to be done. -/
theorem weight_perform_back_lt {s : Studio} (h : s.isIdle = false) :
    (s.perform .back).1.weight < s.weight := by
  by_cases hw : s.stage.waiting = []
  · -- no callback runs, so the duty goes on
    have hlt : ∀ rest, burden s.duty = 2 * rest.length + 1 →
        (s.notify rest).1.weight < s.weight := by
      intro rest hb
      have hle := weight_notify_le hw rest
      show _ < s.stage.weight + burden s.duty
      omega
    rcases hd : s.duty with _ | rest | rest | o
    · rw [isIdle_iff.mpr ⟨hw, hd⟩] at h
      cases h
    · rw [perform_back_of_guest hw hd]
      exact hlt rest (by rw [hd, burden])
    · rw [perform_back_of_nil hw (by rw [hd]; exact nofun), settle_of_reload hw hd]
      exact hlt rest (by rw [hd, burden])
    · rw [perform_back_of_nil hw (by rw [hd]; exact nofun), settle_of_open hw hd]
      show (s.enter o).stage.weight + 0 < s.stage.weight + burden s.duty
      rw [stage_enter, hd]
      exact Nat.lt_succ_self _
  · -- a callback returns, and what is settled then weighs no more
    have hlt := Performance.weight_move_back_lt hw
    rcases s.perform_cases .back with ⟨rest, -, hnil, -⟩ | hp
    · exact absurd hnil hw
    · rw [hp]
      refine Nat.lt_of_le_of_lt (weight_settle_le _ _) ?_
      exact Nat.add_lt_add_right hlt (burden s.duty)

/-- **If everybody gives the word back, a studio comes to rest.** -/
theorem exists_isIdle_run (s : Studio) :
    ∃ n, (s.run (.replicate n (.perform .back))).2.isIdle = true := by
  induction hn : s.weight using Nat.strongRecOn generalizing s with
  | ind n ih =>
    cases hidle : s.isIdle with
    | true => exact ⟨0, hidle⟩
    | false =>
      obtain ⟨k, hk⟩ := ih _ (hn ▸ weight_perform_back_lt hidle) (s.perform .back).1 rfl
      exact ⟨k + 1, hk⟩

end Studio

end BlockPlayer
