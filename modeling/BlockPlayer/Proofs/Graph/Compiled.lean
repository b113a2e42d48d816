import BlockPlayer.Proofs.Chain.Compile
import BlockPlayer.Proofs.Graph.Places
import Mathlib.Data.List.Basic

/-!
# What the chain of a graph compiles to

Two walks go along the links of a graph. One takes down the ids of the chain and stops without a word
where it cannot go on; the other one compiles, and fails if it comes back or has too far to go. They
agree: the ids behind the start, the link of the last block and the limit decide what is compiled.

* `compile_of_lt_length`, `compile_of_lastLink`, `compile_of_length_le` — the three results, each from
  what the chain looks like
* `compile_chain` — **which result a graph has, told from its chain**
-/

namespace BlockPlayer.Graph

open Chain

variable (g : Graph)

/-! ## The program of a chain -/

/-- The chain is the start block and the blocks behind it. -/
theorem length_chain : g.chain.length = g.chainIds.tail.length + 1 := by
  have hpos : 0 < g.chain.length := List.length_pos_iff.mpr g.chain_ne_nil
  have hlen : g.chainIds.length = g.chain.length := List.length_map _
  rw [List.length_tail]
  omega

/-- What a program takes over from blocks that stand one behind another. -/
theorem takenBehind_of_places {start : Node} {policy : Policy} {l : List Block} :
    ∀ {i : Nat}, (∀ k b, l[k]? = some b → nodeAt start (i + 1 + k) = some ⟨g, b⟩) →
      Compile.takenBehind policy start i l.length
        = l.filterMap fun b => Compile.taken policy (b.id, b.kind) := by
  induction l with
  | nil => exact fun _ => rfl
  | cons b l ih =>
    intro i h
    have hb : nodeAt start (i + 1) = some ⟨g, b⟩ := h 0 b rfl
    have hrest : ∀ k c, l[k]? = some c → nodeAt start (i + 1 + 1 + k) = some ⟨g, c⟩ := by
      intro k c hc
      rw [Nat.add_right_comm (i + 1) 1 k]
      exact h (k + 1) c hc
    rw [List.length_cons, Compile.takenBehind_succ l.length hb, Compile.instructions_eq, ih hrest,
      List.filterMap_cons]
    show (Compile.taken policy (b.id, b.kind)).toList ++ _ = _
    cases Compile.taken policy (b.id, b.kind) <;> rfl

/-- What a program takes over from the blocks that some ids name, in their order. -/
def takenFrom (policy : Policy) (ids : List BlockId) : Program :=
  ids.filterMap fun id => (g.find? id).bind fun b => Compile.taken policy (b.id, b.kind)

/-- The ids of the chain name its blocks. -/
theorem takenFrom_chainIds (policy : Policy) : g.takenFrom policy g.chainIds.tail
    = g.chain.tail.filterMap fun b => Compile.taken policy (b.id, b.kind) := by
  rw [takenFrom, chainIds, ← List.map_tail, List.filterMap_map]
  refine List.filterMap_congr fun b hb => ?_
  rw [Function.comp_apply, find?_of_mem_chain (List.mem_of_mem_tail hb), Option.bind_some]

theorem takenBehind_chain (policy : Policy) :
    Compile.takenBehind policy g.startNode 0 (g.chain.length - 1)
      = g.takenFrom policy g.chainIds.tail := by
  have hplaces : ∀ k b, g.chain.tail[k]? = some b →
      nodeAt g.startNode (0 + 1 + k) = some ⟨g, b⟩ := by
    intro k b hb
    rw [List.getElem?_tail] at hb
    rw [Nat.zero_add, Nat.add_comm]
    exact g.nodeAt_of_getElem? hb
  rw [takenFrom_chainIds, ← g.takenBehind_of_places hplaces, List.length_tail]

/-! ## The three results -/

variable {g} {o : CompileOptions}

/-- Up to the end of the chain, all nodes are distinct. -/
theorem distinct_of_lt {n : Nat} (hn : n < g.chain.length) : Distinct g.startNode n := by
  have hsome : (nodeAt g.startNode n).isSome = true := by
    rw [g.nodeAt_of_getElem? (List.getElem?_eq_getElem hn)]
    rfl
  exact (distinct_iff hsome).mpr fun k hk => g.not_returns_of_lt (Nat.lt_of_le_of_lt hk hn)

/-- The limit is noticed before the end of a chain that is longer. -/
theorem compile_of_lt_length (h : o.limit < g.chainIds.tail.length) :
    compile o g.startNode = .error (.tooLong o.limit) := by
  have hn : o.limit + 1 < g.chain.length := by
    rw [length_chain]
    omega
  refine compile_eq_tooLong_iff.mpr ⟨rfl, rfl, ?_, distinct_of_lt hn⟩
  rw [g.nodeAt_of_getElem? (List.getElem?_eq_getElem hn)]
  rfl

/-- A link back from the end of the chain is noticed even where the limit is just reached. -/
theorem compile_of_lastLink {id : BlockId} (h : g.chainIds.tail.length ≤ o.limit)
    (hlast : g.lastLink = some id) (hid : g.contains id = true) :
    compile o g.startNode = .error (.loop id) := by
  refine compile_eq_loop_iff.mpr ⟨rfl, g.chain.length, ?_, g.loopsAt_length_chain hlast hid⟩
  rw [length_chain]
  exact Nat.succ_le_succ h

theorem compile_of_length_le (h : g.chainIds.tail.length ≤ o.limit)
    (hlast : ¬ ∃ id, g.lastLink = some id ∧ g.contains id = true) :
    compile o g.startNode = .ok (g.takenFrom o.policy g.chainIds.tail) := by
  have hlen := g.length_chain
  refine compile_eq_ok_iff.mpr
    ⟨rfl, g.chain.length - 1, ?_, g.endsAt_of_lastLink hlast, distinct_of_lt ?_, ?_⟩
  · omega
  · omega
  · exact (g.takenBehind_chain o.policy).symm

/-- A chain has one of the three results. -/
theorem compile_cases (g : Graph) (o : CompileOptions) :
    (o.limit < g.chainIds.tail.length ∧ compile o g.startNode = .error (.tooLong o.limit)) ∨
    (g.chainIds.tail.length ≤ o.limit ∧ ∃ id, g.lastLink = some id ∧ g.contains id = true ∧
      compile o g.startNode = .error (.loop id)) ∨
    (g.chainIds.tail.length ≤ o.limit ∧
      (¬ ∃ id, g.lastLink = some id ∧ g.contains id = true) ∧
      compile o g.startNode = .ok (g.takenFrom o.policy g.chainIds.tail)) := by
  rcases Nat.lt_or_ge o.limit g.chainIds.tail.length with hlt | hle
  · exact .inl ⟨hlt, compile_of_lt_length hlt⟩
  · by_cases hlast : ∃ id, g.lastLink = some id ∧ g.contains id = true
    · obtain ⟨id, hid, hc⟩ := hlast
      exact .inr (.inl ⟨hle, id, hid, hc, compile_of_lastLink hle hid hc⟩)
    · exact .inr (.inr ⟨hle, hlast, compile_of_length_le hle hlast⟩)

/-! ## What has no influence -/

/--
The chain is the same in every graph that has its blocks, unless a block is there for which the last
link waits.
-/
theorem chain_eq_of_find? {h : Graph} (hstart : h.start = g.start)
    (hfind : ∀ id ∈ g.chainIds, h.find? id = g.find? id)
    (hlast : ∀ id, g.lastLink = some id → h.contains id = true → g.contains id = true) :
    h.chain = g.chain ∧ h.lastLink = g.lastLink := by
  have hblocks : ∀ b ∈ g.chain, h.find? b.id = some b := by
    intro b hb
    rw [hfind b.id (mem_chainIds.mpr ⟨b, hb, rfl⟩)]
    exact find?_of_mem_chain hb
  refine chain_eq_of_trail ⟨?_, g.nodup_chainIds, ?_⟩
  · rw [hstart]
    exact g.trail_chain.path.congr hblocks
  · intro b hb
    obtain ⟨id, hid, hbid⟩ := Option.bind_eq_some_iff.mp hb
    have hmem : id ∈ g.chainIds :=
      mem_chainIds_of_lastLink hid (hlast id hid (contains_iff.mpr ⟨b, hbid⟩))
    have hbg : g.find? id = some b := (hfind id hmem).symm.trans hbid
    obtain rfl := Table.find?_eq_some_id hbg
    exact mem_chain_iff.mpr ⟨hmem, hbg⟩

/-- The last link is that of the last block of the chain. -/
theorem lastLink_eq_of_chain_eq {h : Graph} (hc : h.chain = g.chain) : h.lastLink = g.lastLink := by
  obtain ⟨b, hb, -, hnext⟩ := h.getLast?_chain
  obtain ⟨c, hc', -, hnext'⟩ := g.getLast?_chain
  rw [hc, hc'] at hb
  cases hb
  exact hnext.symm.trans hnext'

/-- What is compiled depends on the blocks of the chain and on nothing else. -/
theorem compile_eq_of_chain_eq {h : Graph} (hc : h.chain = g.chain) :
    compile o h.startNode = compile o g.startNode := by
  have hids : h.chainIds = g.chainIds := congrArg (List.map Block.id) hc
  have hlast : h.lastLink = g.lastLink := lastLink_eq_of_chain_eq hc
  have htaken : h.takenFrom o.policy h.chainIds.tail = g.takenFrom o.policy g.chainIds.tail := by
    rw [takenFrom_chainIds, takenFrom_chainIds, hc]
  rcases g.compile_cases o with ⟨hlt, hr⟩ | ⟨hle, id, hid, hg, hr⟩ | ⟨hle, hnone, hr⟩
  · rw [hr, compile_of_lt_length (hids ▸ hlt)]
  · -- the last link comes back to a block of the chain, which both graphs have
    obtain ⟨b, hb, rfl⟩ := mem_chainIds.mp (hids ▸ mem_chainIds_of_lastLink hid hg)
    have hh : h.contains b.id = true := contains_iff.mpr ⟨b, find?_of_mem_chain hb⟩
    rw [hr, compile_of_lastLink (hids ▸ hle) (hlast ▸ hid) hh]
  · rw [hr, compile_of_length_le (hids ▸ hle), htaken]
    rintro ⟨id, hid, hh⟩
    obtain ⟨b, hb, rfl⟩ := mem_chainIds.mp (hids ▸ mem_chainIds_of_lastLink hid hh)
    exact hnone ⟨b.id, hlast ▸ hid, contains_iff.mpr ⟨b, find?_of_mem_chain hb⟩⟩

/--
**Which result a graph has, told from its chain.** A chain that has more blocks behind the start than
the limit allows is too long; else it loops if its last link names a block, which is then on the chain;
else its program is what is taken over from the blocks behind the start, in their order. A graph never
lacks a start block. Blocks off the chain may be others, or be missing, and new ones may be there, as
long as none is there for which the last link waits.
-/
theorem compile_chain (g : Graph) (o : CompileOptions) :
    (∀ limit, compile o g.startNode = .error (.tooLong limit) ↔
      limit = o.limit ∧ o.limit < g.chainIds.tail.length) ∧
    (∀ id, compile o g.startNode = .error (.loop id) ↔
      ¬ o.limit < g.chainIds.tail.length ∧ g.lastLink = some id ∧ g.contains id = true) ∧
    (∀ id, g.lastLink = some id → g.contains id = true → id ∈ g.chainIds) ∧
    (∀ p, compile o g.startNode = .ok p ↔
      ¬ o.limit < g.chainIds.tail.length ∧
        (¬ ∃ id, g.lastLink = some id ∧ g.contains id = true) ∧
        p = g.takenFrom o.policy g.chainIds.tail) ∧
    (∀ id kind, compile o g.startNode ≠ .error (.notAStart id kind)) ∧
    (∀ h : Graph, h.chain = g.chain → compile o h.startNode = compile o g.startNode) ∧
    ∀ h : Graph, h.start = g.start → (∀ id ∈ g.chainIds, h.find? id = g.find? id) →
      (∀ id, g.lastLink = some id → h.contains id = true → g.contains id = true) →
      h.chain = g.chain := by
  refine ⟨?_, ?_, ?_, ?_, ?_, ?_, ?_⟩
  · intro limit
    constructor
    · intro h
      rcases g.compile_cases o with ⟨hlt, hr⟩ | ⟨-, id, -, -, hr⟩ | ⟨-, -, hr⟩ <;>
        cases h.symm.trans hr
      exact ⟨rfl, hlt⟩
    · rintro ⟨rfl, hlt⟩
      exact compile_of_lt_length hlt
  · intro id
    constructor
    · intro h
      rcases g.compile_cases o with ⟨-, hr⟩ | ⟨hle, x, hx, hc, hr⟩ | ⟨-, -, hr⟩ <;>
        cases h.symm.trans hr
      exact ⟨Nat.not_lt_of_le hle, hx, hc⟩
    · rintro ⟨hle, hlast, hid⟩
      exact compile_of_lastLink (Nat.le_of_not_lt hle) hlast hid
  · exact fun id hlast hid => mem_chainIds_of_lastLink hlast hid
  · intro p
    constructor
    · intro h
      rcases g.compile_cases o with ⟨-, hr⟩ | ⟨-, id, -, -, hr⟩ | ⟨hle, hlast, hr⟩ <;>
        cases h.symm.trans hr
      exact ⟨Nat.not_lt_of_le hle, hlast, rfl⟩
    · rintro ⟨hle, hlast, rfl⟩
      exact compile_of_length_le (Nat.le_of_not_lt hle) hlast
  · intro id kind h
    exact (compile_eq_notAStart_iff.mp h).1 rfl
  · exact fun h hc => compile_eq_of_chain_eq hc
  · exact fun h hstart hfind hlast => (chain_eq_of_find? hstart hfind hlast).1

end BlockPlayer.Graph
