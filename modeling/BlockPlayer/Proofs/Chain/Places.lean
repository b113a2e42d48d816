import BlockPlayer.Chain

/-!
# The places of a chain

The nodes behind a start node are counted: the start is at place 0, and the chain may end at any place
or at none. Two things can be told of a place from the ids alone: whether the chain `Returns` there to
a block that it met before, and whether all blocks up to there are `Distinct`.
-/

namespace BlockPlayer.Chain

variable {ν : Type} [ChainNode ν]

/-- The node at a place, if the chain goes that far. -/
def nodeAt (start : ν) : Nat → Option ν
  | 0 => some start
  | k + 1 => (nodeAt start k).bind ChainNode.next

/-- The id of the node at a place. -/
def idAt (start : ν) (k : Nat) : Option BlockId := (nodeAt start k).map ChainNode.id

/-- What can be seen of the node at a place from outside: its id and its kind. -/
def viewAt (start : ν) (k : Nat) : Option (BlockId × BlockKind) :=
  (nodeAt start k).map fun n => (ChainNode.id n, ChainNode.kind n)

/-- The node at a place has the id of an earlier one. -/
def Returns (start : ν) (k : Nat) : Prop :=
  ∃ j < k, ∃ id, idAt start j = some id ∧ idAt start k = some id

/-- The chain comes back to the block `id` at place `k`, and to no block before. -/
structure LoopsAt (start : ν) (k : Nat) (id : BlockId) : Prop where
  id_eq : idAt start k = some id
  returns : Returns start k
  first : ∀ j < k, ¬ Returns start j

/-- No two nodes up to place `n` have the same id. -/
def Distinct (start : ν) (n : Nat) : Prop :=
  ∀ j k, j < k → k ≤ n → idAt start j ≠ idAt start k

/-- The last node of the chain is at place `n`. -/
structure EndsAt (start : ν) (n : Nat) : Prop where
  last : (nodeAt start n).isSome = true
  ending : nodeAt start (n + 1) = none

theorem nodeAt_succ {start n : ν} {k : Nat} (h : nodeAt start k = some n) :
    nodeAt start (k + 1) = ChainNode.next n := by
  rw [nodeAt, h, Option.bind_some]

/-- Behind the start, the places are those of the chain of the next node, moved on by one. -/
theorem nodeAt_succ_eq_bind (start : ν) (k : Nat) :
    nodeAt start (k + 1) = (ChainNode.next start).bind fun n => nodeAt n k := by
  induction k with
  | zero =>
    rw [nodeAt, nodeAt, Option.bind_some]
    cases ChainNode.next start <;> rfl
  | succ k ih =>
    rw [nodeAt, ih, Option.bind_assoc]
    rfl

theorem idAt_of_nodeAt {start n : ν} {k : Nat} (h : nodeAt start k = some n) :
    idAt start k = some (ChainNode.id n) := by
  rw [idAt, h, Option.map_some]

/-- Chains that look the same at a place both have a node there, or none. -/
theorem viewAt_eq_cases {μ : Type} [ChainNode μ] {start : ν} {other : μ} {k : Nat}
    (h : viewAt other k = viewAt start k) :
    (nodeAt other k = none ∧ nodeAt start k = none) ∨
    ∃ m n, nodeAt other k = some m ∧ nodeAt start k = some n ∧
      ChainNode.id m = ChainNode.id n ∧ ChainNode.kind m = ChainNode.kind n := by
  unfold viewAt at h
  cases hm : nodeAt other k with
  | none =>
    rw [hm, Option.map_none] at h
    exact .inl ⟨rfl, Option.map_eq_none_iff.mp h.symm⟩
  | some m =>
    rw [hm, Option.map_some] at h
    obtain ⟨n, hn, he⟩ := Option.map_eq_some_iff.mp h.symm
    obtain ⟨hid, hkind⟩ := Prod.mk.inj he
    exact .inr ⟨m, n, rfl, hn, hid.symm, hkind.symm⟩

/-- Before a node of a chain there are nodes. -/
theorem isSome_nodeAt_of_le {start : ν} {j k : Nat} (hjk : j ≤ k)
    (h : (nodeAt start k).isSome = true) : (nodeAt start j).isSome = true := by
  induction hjk with
  | refl => exact h
  | step _ ih =>
    refine ih ?_
    rw [nodeAt] at h
    exact Option.isSome_of_isSome_bind h

/-- Behind the end of a chain there are no nodes. -/
theorem EndsAt.le {start : ν} {n k : Nat} (h : EndsAt start n)
    (hk : (nodeAt start k).isSome = true) : k ≤ n := by
  by_cases hle : k ≤ n
  · exact hle
  · have hsome := isSome_nodeAt_of_le (Nat.lt_of_not_le hle) hk
    rw [h.ending] at hsome
    cases hsome

/-- A chain has one end. -/
theorem EndsAt.unique {start : ν} {m n : Nat} (hm : EndsAt start m) (hn : EndsAt start n) : m = n :=
  Nat.le_antisymm (hn.le hm.last) (hm.le hn.last)

theorem Returns.isSome {start : ν} {k : Nat} (h : Returns start k) :
    (nodeAt start k).isSome = true := by
  obtain ⟨j, -, id, -, hid⟩ := h
  rw [idAt, Option.map_eq_some_iff] at hid
  obtain ⟨n, hn, -⟩ := hid
  rw [hn]
  rfl

/-- Up to a node of a chain, all are distinct if and only if it does not return. -/
theorem distinct_iff {start : ν} {n : Nat} (h : (nodeAt start n).isSome = true) :
    Distinct start n ↔ ∀ k ≤ n, ¬ Returns start k := by
  constructor
  · rintro hd k hk ⟨j, hj, id, hidj, hidk⟩
    exact hd j k hj hk (hidj.trans hidk.symm)
  · intro hr j k hj hk he
    obtain ⟨m, hm⟩ := Option.isSome_iff_exists.mp (isSome_nodeAt_of_le hk h)
    have hid := idAt_of_nodeAt hm
    exact hr k hk ⟨j, hj, ChainNode.id m, he.trans hid, hid⟩

/-- A chain comes back for the first time at one place only. -/
theorem LoopsAt.unique {start : ν} {j k : Nat} {x y : BlockId} (hj : LoopsAt start j x)
    (hk : LoopsAt start k y) : x = y := by
  have hjk : j = k := by
    rcases Nat.lt_trichotomy j k with hlt | he | hlt
    · exact absurd hj.returns (hk.first j hlt)
    · exact he
    · exact absurd hk.returns (hj.first k hlt)
  subst hjk
  exact Option.some.inj (hj.id_eq.symm.trans hk.id_eq)

end BlockPlayer.Chain
