import BlockPlayer.Compile
import BlockPlayer.Proofs.Chain.Places

/-!
# What a chain compiles to

Which chains have a program, which one it is, and why the others have none, said with the places of a
chain alone.

* `Compile.verdict_rest` — what the walk comes to when it has met the blocks up to some place
* `Compile.rest_congr` — it depends on no place that it may not visit any more
* `compile_iff` — **all results of `compile`, each with the chains that have it**

The walk has met a block before if and only if the chain returns there, as long as the ids that it has
seen are those of the places behind it (`Compile.Met`).
-/

namespace BlockPlayer

open Chain

variable {ν : Type} [ChainNode ν]

namespace Compile

/-- What a program takes over from a block. -/
def taken (policy : Policy) (v : BlockId × BlockKind) : Option Instruction :=
  match v.2, policy with
  | .action a, _ => some ⟨v.1, .perform a⟩
  | _, .wait => some ⟨v.1, .perform .wait⟩
  | _, .skip => none

/-- What a program takes over from the `n` blocks behind place `i`, in the order of the chain. -/
def takenBehind (policy : Policy) (start : ν) (i n : Nat) : Program :=
  (List.range' (i + 1) n).filterMap fun k => (viewAt start k).bind (taken policy)

theorem instructions_eq (policy : Policy) (n : ν) :
    instructions policy n = (taken policy (ChainNode.id n, ChainNode.kind n)).toList := by
  unfold instructions taken command?
  cases ChainNode.kind n <;> cases policy <;> rfl

/-- The first of the blocks is taken over first. -/
theorem takenBehind_succ {policy : Policy} {start n : ν} {i : Nat} (m : Nat)
    (h : nodeAt start (i + 1) = some n) :
    takenBehind policy start i (m + 1)
      = instructions policy n ++ takenBehind policy start (i + 1) m := by
  have hv : viewAt start (i + 1) = some (ChainNode.id n, ChainNode.kind n) := by
    rw [viewAt, h, Option.map_some]
  rw [takenBehind, List.range'_succ, List.filterMap_cons, hv, instructions_eq, Option.bind_some]
  cases taken policy (ChainNode.id n, ChainNode.kind n) <;> rfl

/-! ## The walk -/

/-- The blocks up to place `i` are distinct, and `seen` holds their ids. -/
structure Met (start : ν) (i : Nat) (seen : List BlockId) : Prop where
  last : (nodeAt start i).isSome = true
  distinct : Distinct start i
  mem_iff : ∀ id, id ∈ seen ↔ ∃ j ≤ i, idAt start j = some id

theorem Met.zero (start : ν) : Met start 0 [ChainNode.id start] where
  last := rfl
  distinct := fun j k hj hk => absurd hj (by omega)
  mem_iff := by
    intro id
    rw [List.mem_singleton]
    constructor
    · rintro rfl
      exact ⟨0, Nat.le_refl 0, rfl⟩
    · rintro ⟨j, hj, hid⟩
      obtain rfl := Nat.le_zero.mp hj
      exact (Option.some.inj hid).symm

namespace Met

variable {start n : ν} {i : Nat} {seen : List BlockId}

/-- A block was met before if and only if the chain returns to it. -/
theorem mem_iff_returns (h : Met start i seen) (hn : nodeAt start (i + 1) = some n) :
    ChainNode.id n ∈ seen ↔ Returns start (i + 1) := by
  have hid := idAt_of_nodeAt hn
  rw [h.mem_iff]
  constructor
  · rintro ⟨j, hj, hidj⟩
    exact ⟨j, Nat.lt_succ_of_le hj, _, hidj, hid⟩
  · rintro ⟨j, hj, id, hidj, hid'⟩
    rw [hid] at hid'
    cases hid'
    exact ⟨j, Nat.le_of_lt_succ hj, hidj⟩

theorem not_returns (h : Met start i seen) {j : Nat} (hj : j ≤ i) : ¬ Returns start j :=
  (distinct_iff h.last).mp h.distinct j hj

theorem succ (h : Met start i seen) (hn : nodeAt start (i + 1) = some n)
    (hnot : ChainNode.id n ∉ seen) : Met start (i + 1) (ChainNode.id n :: seen) where
  last := by rw [hn]; rfl
  distinct := by
    refine (distinct_iff (by rw [hn]; rfl)).mpr ?_
    intro k hk
    rcases Nat.le_succ_iff.mp hk with hk | rfl
    · exact h.not_returns hk
    · exact fun hr => hnot ((h.mem_iff_returns hn).mpr hr)
  mem_iff := by
    intro id
    rw [List.mem_cons, h.mem_iff]
    constructor
    · rintro (rfl | ⟨j, hj, hid⟩)
      · exact ⟨i + 1, Nat.le_refl _, idAt_of_nodeAt hn⟩
      · exact ⟨j, Nat.le_succ_of_le hj, hid⟩
    · rintro ⟨j, hj, hid⟩
      rcases Nat.le_succ_iff.mp hj with hj | rfl
      · exact .inr ⟨j, hj, hid⟩
      · rw [idAt_of_nodeAt hn] at hid
        exact .inl (Option.some.inj hid).symm

end Met

/-- What a walk comes to that has met the blocks up to place `i` and may visit `budget` more. -/
inductive Verdict (o : CompileOptions) (start : ν) (i budget : Nat) :
    Except CompileError Program → Prop
  | loop {k : Nat} {id : BlockId} : k ≤ i + budget + 1 → LoopsAt start k id →
    Verdict o start i budget (.error (.loop id))
  | tooLong : (nodeAt start (i + budget + 1)).isSome = true → Distinct start (i + budget + 1) →
    Verdict o start i budget (.error (.tooLong o.limit))
  | ok {n : Nat} : n ≤ budget → EndsAt start (i + n) → Distinct start (i + n) →
    Verdict o start i budget (.ok (takenBehind o.policy start i n))

/-- **The verdict on the rest of a chain, whatever was met before.** -/
theorem verdict_rest (o : CompileOptions) {start : ν} (budget : Nat) {i : Nat}
    {seen : List BlockId} (h : Met start i seen) :
    Verdict o start i budget (rest o budget seen (nodeAt start (i + 1))) := by
  -- with each block that is visited, the place moves on and the budget goes down
  induction budget generalizing i seen with
  | zero =>
    cases hn : nodeAt start (i + 1) with
    | none => exact .ok (Nat.le_refl 0) ⟨h.last, hn⟩ h.distinct
    | some n =>
      rw [rest]
      split
      · -- that the block comes back is noticed although the budget is used up
        next hmem =>
        exact .loop (Nat.le_refl _) ⟨idAt_of_nodeAt hn, (h.mem_iff_returns hn).mp hmem,
          fun j hj => h.not_returns (Nat.le_of_lt_succ hj)⟩
      · next hmem => exact .tooLong (h.succ hn hmem).last (h.succ hn hmem).distinct
  | succ budget ih =>
    cases hn : nodeAt start (i + 1) with
    | none => rw [rest]; exact .ok (Nat.zero_le _) ⟨h.last, hn⟩ h.distinct
    | some n =>
      rw [rest]
      split
      · next hmem =>
        exact .loop (by omega) ⟨idAt_of_nodeAt hn, (h.mem_iff_returns hn).mp hmem,
          fun j hj => h.not_returns (Nat.le_of_lt_succ hj)⟩
      · next hmem =>
        have hrest := ih (h.succ hn hmem)
        have hadd : i + 1 + budget + 1 = i + (budget + 1) + 1 := by omega
        rw [nodeAt_succ hn] at hrest
        generalize rest o budget (ChainNode.id n :: seen) (ChainNode.next n) = r at hrest
        cases hrest with
        | loop hk hl => exact .loop (hadd ▸ hk) hl
        | tooLong hs hd => exact .tooLong (hadd ▸ hs) (hadd ▸ hd)
        | @ok m hm he hd =>
          -- what is taken over from this block comes before all the rest
          have hplace : i + 1 + m = i + (m + 1) := by omega
          show Verdict o start i (budget + 1)
            (.ok (instructions o.policy n ++ takenBehind o.policy start (i + 1) m))
          rw [← takenBehind_succ m hn]
          exact .ok (Nat.succ_le_succ hm) (hplace ▸ he) (hplace ▸ hd)

/-! ## One verdict only -/

namespace Verdict

variable {o : CompileOptions} {start : ν} {i budget : Nat}

/-- There is no room for a loop among distinct blocks. -/
theorem not_loop {k n : Nat} {id : BlockId} (hl : LoopsAt start k id) (hk : k ≤ n) :
    ¬ Distinct start n := by
  intro hd
  obtain ⟨j, hj, x, hidj, hidk⟩ := hl.returns
  exact hd j k hj hk (hidj.trans hidk.symm)

/-- A chain has one verdict. -/
theorem unique {r r' : Except CompileError Program} (h : Verdict o start i budget r)
    (h' : Verdict o start i budget r') : r = r' := by
  cases h with
  | loop hk hl =>
    cases h' with
    | loop hk' hl' => rw [hl.unique hl']
    | tooLong hs hd => exact absurd hd (not_loop hl hk)
    | ok hn he hd => exact absurd hd (not_loop hl (he.le hl.returns.isSome))
  | tooLong hs hd =>
    cases h' with
    | loop hk hl => exact absurd hd (not_loop hl hk)
    | tooLong hs' hd' => rfl
    | ok hn he hd' => exact absurd (he.le hs) (by omega)
  | ok hn he hd =>
    cases h' with
    | loop hk hl => exact absurd hd (not_loop hl (he.le hl.returns.isSome))
    | tooLong hs hd' => exact absurd (he.le hs) (by omega)
    | ok hn' he' hd' => rw [Nat.add_left_cancel (he.unique he')]

end Verdict

/-! ## What is looked at -/

/-- Like `rest`, with the nodes that are looked at on the way. -/
def survey (o : CompileOptions) :
    Nat → List BlockId → Option ν → List ν × Except CompileError Program
  | _, _, none => ([], .ok [])
  | budget, seen, some n =>
    if ChainNode.id n ∈ seen then ([n], .error (.loop (ChainNode.id n)))
    else match budget with
      | 0 => ([n], .error (.tooLong o.limit))
      | budget + 1 =>
        match survey o budget (ChainNode.id n :: seen) (ChainNode.next n) with
        | (ns, .ok p) => (n :: ns, .ok (instructions o.policy n ++ p))
        | (ns, .error e) => (n :: ns, .error e)

/-- Nothing else is done on the way. -/
theorem survey_snd (o : CompileOptions) (budget : Nat) (seen : List BlockId) (c : Option ν) :
    (survey o budget seen c).2 = rest o budget seen c := by
  induction budget generalizing seen c with
  | zero =>
    cases c with
    | none => rw [survey, rest]
    | some n =>
      rw [survey, rest]
      split <;> rfl
  | succ budget ih =>
    cases c with
    | none => rw [survey, rest]
    | some n =>
      have hrest := ih (ChainNode.id n :: seen) (ChainNode.next n)
      rw [survey, rest, ← hrest]
      split
      · rfl
      · generalize survey o budget (ChainNode.id n :: seen) (ChainNode.next n) = t
        obtain ⟨ns, p | e⟩ := t <;> rfl

/-- At most one node more is looked at than may be visited. -/
theorem length_survey_le (o : CompileOptions) (budget : Nat) (seen : List BlockId)
    (c : Option ν) : (survey o budget seen c).1.length ≤ budget + 1 := by
  induction budget generalizing seen c with
  | zero =>
    cases c with
    | none => rw [survey]; exact Nat.zero_le _
    | some n =>
      rw [survey]
      split <;> exact Nat.le_refl _
  | succ budget ih =>
    cases c with
    | none => rw [survey]; exact Nat.zero_le _
    | some n =>
      have hrest := ih (ChainNode.id n :: seen) (ChainNode.next n)
      rw [survey]
      split
      · exact Nat.succ_le_succ (Nat.zero_le _)
      · generalize survey o budget (ChainNode.id n :: seen) (ChainNode.next n) = t at hrest ⊢
        obtain ⟨ns, p | e⟩ := t <;> exact Nat.succ_le_succ hrest

/-- A walk depends on the ids and kinds of the blocks that it may still look at, and on no others. -/
theorem rest_congr {μ : Type} [ChainNode μ] (o : CompileOptions) {start : ν} {other : μ}
    (budget : Nat) {i : Nat} (seen : List BlockId)
    (h : ∀ k ≤ i + budget + 1, viewAt other k = viewAt start k) :
    rest o budget seen (nodeAt other (i + 1)) = rest o budget seen (nodeAt start (i + 1)) := by
  induction budget generalizing i seen with
  | zero =>
    rcases viewAt_eq_cases (h (i + 1) (Nat.le_refl _)) with ⟨hm, hn⟩ | ⟨m, n, hm, hn, hid, -⟩
    · rw [hm, hn, rest, rest]
    · rw [hm, hn, rest, rest, hid]
  | succ budget ih =>
    rcases viewAt_eq_cases (h (i + 1) (by omega)) with ⟨hm, hn⟩ | ⟨m, n, hm, hn, hid, hkind⟩
    · rw [hm, hn, rest, rest]
    · have hrest := ih (ChainNode.id n :: seen) (i := i + 1) (fun k hk => h k (by omega))
      have hins : instructions o.policy m = instructions o.policy n := by
        rw [instructions_eq, instructions_eq, hid, hkind]
      rw [nodeAt_succ hm, nodeAt_succ hn] at hrest
      rw [hm, hn, rest, rest, hid, hrest, hins]

end Compile

/-! ## All results -/

theorem compile_of_start (o : CompileOptions) {start : ν} (h : ChainNode.kind start = .start) :
    compile o start = Compile.rest o o.limit [ChainNode.id start] (nodeAt start 1) := by
  rw [compile, if_pos h, nodeAt_succ rfl]

theorem compile_of_not_start (o : CompileOptions) {start : ν} (h : ChainNode.kind start ≠ .start) :
    compile o start = .error (.notAStart (ChainNode.id start) (ChainNode.kind start)) := by
  rw [compile, if_neg h]

/-- Behind a start block, the result is the verdict on all places that the limit allows. -/
theorem compile_eq_iff_verdict {o : CompileOptions} {start : ν} (h : ChainNode.kind start = .start)
    {r : Except CompileError Program} :
    compile o start = r ↔ Compile.Verdict o start 0 o.limit r := by
  have hv := Compile.verdict_rest o o.limit (Compile.Met.zero start)
  rw [compile_of_start o h]
  constructor
  · rintro rfl
    exact hv
  · exact hv.unique

/-- All results but one need a start block. -/
theorem compile_eq_iff {o : CompileOptions} {start : ν} {r : Except CompileError Program}
    (hr : ∀ id kind, r ≠ .error (.notAStart id kind)) :
    compile o start = r ↔
      ChainNode.kind start = .start ∧ Compile.Verdict o start 0 o.limit r := by
  by_cases hs : ChainNode.kind start = .start
  · rw [compile_eq_iff_verdict hs, and_iff_right hs]
  · rw [compile_of_not_start o hs]
    constructor
    · intro h
      exact absurd h.symm (hr _ _)
    · rintro ⟨h, -⟩
      exact absurd h hs

theorem compile_eq_notAStart_iff {o : CompileOptions} {start : ν} {id : BlockId}
    {kind : BlockKind} : compile o start = .error (.notAStart id kind) ↔
      ChainNode.kind start ≠ .start ∧ id = ChainNode.id start ∧ kind = ChainNode.kind start := by
  by_cases hs : ChainNode.kind start = .start
  · rw [compile_eq_iff_verdict hs]
    constructor
    · rintro ⟨⟩
    · rintro ⟨hns, -⟩
      exact absurd hs hns
  · rw [compile_of_not_start o hs]
    constructor
    · rintro ⟨⟩
      exact ⟨hs, rfl, rfl⟩
    · rintro ⟨-, rfl, rfl⟩
      rfl

theorem compile_eq_loop_iff {o : CompileOptions} {start : ν} {id : BlockId} :
    compile o start = .error (.loop id) ↔
      ChainNode.kind start = .start ∧ ∃ k ≤ o.limit + 1, LoopsAt start k id := by
  rw [compile_eq_iff (by rintro _ _ ⟨⟩)]
  refine and_congr_right fun _ => ?_
  constructor
  · rintro (⟨hk, hl⟩ | _ | _)
    exact ⟨_, by simpa using hk, hl⟩
  · rintro ⟨k, hk, hl⟩
    exact .loop (by simpa using hk) hl

theorem compile_eq_tooLong_iff {o : CompileOptions} {start : ν} {limit : Nat} :
    compile o start = .error (.tooLong limit) ↔
      ChainNode.kind start = .start ∧ limit = o.limit ∧
        (nodeAt start (o.limit + 1)).isSome = true ∧ Distinct start (o.limit + 1) := by
  have hadd : 0 + o.limit + 1 = o.limit + 1 := by omega
  rw [compile_eq_iff (by rintro _ _ ⟨⟩)]
  refine and_congr_right fun _ => ?_
  constructor
  · rintro (_ | ⟨hsome, hd⟩ | _)
    exact ⟨rfl, hadd ▸ hsome, hadd ▸ hd⟩
  · rintro ⟨rfl, hsome, hd⟩
    exact .tooLong (hadd.symm ▸ hsome) (hadd.symm ▸ hd)

theorem compile_eq_ok_iff {o : CompileOptions} {start : ν} {p : Program} :
    compile o start = .ok p ↔
      ChainNode.kind start = .start ∧ ∃ n ≤ o.limit, EndsAt start n ∧ Distinct start n ∧
        p = Compile.takenBehind o.policy start 0 n := by
  rw [compile_eq_iff (by rintro _ _ ⟨⟩)]
  refine and_congr_right fun _ => ?_
  constructor
  · rintro (_ | _ | ⟨hn, he, hd⟩)
    rw [Nat.zero_add] at he hd
    exact ⟨_, hn, he, hd, rfl⟩
  · rintro ⟨n, hn, he, hd, rfl⟩
    exact .ok hn ((Nat.zero_add n).symm ▸ he) ((Nat.zero_add n).symm ▸ hd)

/-! ## Looking no further -/

/-- Like `compile`, with the nodes behind the start block that are looked at. -/
def compileSurvey (o : CompileOptions) (start : ν) : List ν × Except CompileError Program :=
  if ChainNode.kind start = .start then
    Compile.survey o o.limit [ChainNode.id start] (ChainNode.next start)
  else ([], .error (.notAStart (ChainNode.id start) (ChainNode.kind start)))

theorem compileSurvey_snd (o : CompileOptions) (start : ν) :
    (compileSurvey o start).2 = compile o start := by
  unfold compileSurvey compile
  split
  · exact Compile.survey_snd ..
  · rfl

theorem length_compileSurvey_le (o : CompileOptions) (start : ν) :
    (compileSurvey o start).1.length ≤ o.limit + 1 := by
  unfold compileSurvey
  split
  · exact Compile.length_survey_le ..
  · exact Nat.zero_le _

/-- The result depends on the start block and on as many blocks more as the limit allows, and one. -/
theorem compile_congr {μ : Type} [ChainNode μ] {o : CompileOptions} {start : ν} {other : μ}
    (h : ∀ k ≤ o.limit + 1, viewAt other k = viewAt start k) :
    compile o other = compile o start := by
  have h0 : (ChainNode.id other, ChainNode.kind other)
      = (ChainNode.id start, ChainNode.kind start) := Option.some.inj (h 0 (Nat.zero_le _))
  obtain ⟨hid, hkind⟩ := Prod.mk.inj h0
  by_cases hs : ChainNode.kind start = .start
  · rw [compile_of_start o hs, compile_of_start o (hkind.trans hs), hid]
    exact Compile.rest_congr o o.limit _ (by simpa using h)
  · rw [compile_of_not_start o hs, compile_of_not_start o (hkind ▸ hs), hid, hkind]

/--
**All results of `compile`, each with the chains that have it.** Chains need not end. Repeated blocks
come before the limit, and one block more than the limit allows is looked at and none behind it.
-/
theorem compile_iff (o : CompileOptions) (start : ν) :
    (∀ id kind, compile o start = .error (.notAStart id kind) ↔
      ChainNode.kind start ≠ .start ∧ id = ChainNode.id start ∧ kind = ChainNode.kind start) ∧
    (∀ id, compile o start = .error (.loop id) ↔
      ChainNode.kind start = .start ∧ ∃ k ≤ o.limit + 1, LoopsAt start k id) ∧
    (∀ limit, compile o start = .error (.tooLong limit) ↔
      ChainNode.kind start = .start ∧ limit = o.limit ∧
        (nodeAt start (o.limit + 1)).isSome = true ∧ Distinct start (o.limit + 1)) ∧
    (∀ p, compile o start = .ok p ↔
      ChainNode.kind start = .start ∧ ∃ n ≤ o.limit, EndsAt start n ∧ Distinct start n ∧
        p = Compile.takenBehind o.policy start 0 n) ∧
    (∀ {μ : Type} [ChainNode μ] (other : μ),
      (∀ k ≤ o.limit + 1, viewAt other k = viewAt start k) → compile o other = compile o start) ∧
    (compileSurvey o start).2 = compile o start ∧
      (compileSurvey o start).1.length ≤ o.limit + 1 := by
  refine ⟨?_, ?_, ?_, ?_, ?_, ?_, ?_⟩
  · exact fun _ _ => compile_eq_notAStart_iff
  · exact fun _ => compile_eq_loop_iff
  · exact fun _ => compile_eq_tooLong_iff
  · exact fun _ => compile_eq_ok_iff
  · exact fun _ h => compile_congr h
  · exact compileSurvey_snd o start
  · exact length_compileSurvey_le o start

end BlockPlayer
