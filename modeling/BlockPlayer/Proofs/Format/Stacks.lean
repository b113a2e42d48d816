import BlockPlayer.Format.Stacks
import BlockPlayer.Proofs.Graph.Document

/-!
# What nested stacks say

Nested stacks are read by walking along each stack and handing out ids on the way. What that comes to is
said here of the list of all values that are met in place of blocks (`Stacks.met`): each of them stands for
a block by itself, known under its own id or under the next one that was made up (`Stacks.blockAt`).

* `Stacks.stacksOf_cases` — the walk meets these values, and stands still where one has no tag
* `Stacks.Outcome` — what is to come of nested stacks, one cause after the other
* `Graph.ofStacks_eq_iff` — **nested stacks are read as just that**
-/

namespace BlockPlayer

namespace Stacks

variable {s : Supply} {fresh : Nat → BlockId} {j k : Json} {heads values : List Json}

/-! ## Values in place of blocks -/

/-- A value and all that are met behind it. -/
def along (j : Json) : List Json :=
  j :: match _h : nextBlock? j with
    | none => []
    | some k => along k
termination_by sizeOf j
decreasing_by exact sizeOf_lt_of_nextBlock? _h

/-- All values that are met, stack by stack. -/
def met (heads : List Json) : List Json := heads.flatMap along

/-- The tag of a value, if it can stand for a block. -/
def tag? (j : Json) : Option String := (j.get? "type").bind Json.text?

/-- The id that a value brings along. -/
def id? (j : Json) : Option BlockId := (j.get? "id").bind Json.text?

/-- The kind of the block for which a value with a tag stands. -/
def kindOf (j : Json) : BlockKind := .ofTag ((tag? j).getD "")

/-- The supply when ids have been made up for all values that bring none along. -/
def Supply.after (s : Supply) (values : List Json) : Supply :=
  ⟨s.fresh, s.used + values.countP fun j => (id? j).isNone⟩

/-- The id of a value behind others: its own, or the next that is made up. -/
def idAt (s : Supply) (before : List Json) (j : Json) : BlockId :=
  (id? j).getD (s.fresh (s.after before).used)

/-- The block of a value behind others. -/
def blockAt (s : Supply) (before : List Json) (j : Json) : Block :=
  ⟨idAt s before j, kindOf j, (nextBlock? j).map (idAt s (before ++ [j]))⟩

/-- The blocks of values, each standing behind those before it. -/
def blocksOf (s : Supply) (values : List Json) : List Block :=
  values.mapIdx fun n j => blockAt s (values.take n) j

theorem along_of_none (h : nextBlock? j = none) : along j = [j] := by
  rw [along]
  split
  · rfl
  · next hk => rw [h] at hk; cases hk

theorem along_of_some (h : nextBlock? j = some k) : along j = j :: along k := by
  rw [along]
  split
  · next hn => rw [h] at hn; cases hn
  · next hk =>
    rw [h] at hk
    cases hk
    rfl

theorem exists_along_eq_cons (j : Json) : ∃ rest, along j = j :: rest := by
  cases h : nextBlock? j with
  | none => exact ⟨[], along_of_none h⟩
  | some k => exact ⟨along k, along_of_some h⟩

theorem met_cons (j : Json) (heads : List Json) : met (j :: heads) = along j ++ met heads :=
  List.flatMap_cons

/-! ## Blocks one after another -/

theorem after_append (s : Supply) (before values : List Json) :
    s.after (before ++ values) = (s.after before).after values := by
  simp [Supply.after, Nat.add_assoc]

theorem idAt_append (s : Supply) (before values : List Json) (j : Json) :
    idAt s (before ++ values) j = idAt (s.after before) values j := by
  rw [idAt, after_append]
  rfl

theorem blockAt_append (s : Supply) (before values : List Json) (j : Json) :
    blockAt s (before ++ values) j = blockAt (s.after before) values j := by
  rw [blockAt, idAt_append, List.append_assoc,
    show idAt s (before ++ (values ++ [j])) = idAt (s.after before) (values ++ [j]) from
      funext (idAt_append s before (values ++ [j]))]
  rfl

theorem blocksOf_cons (s : Supply) (j : Json) (values : List Json) :
    blocksOf s (j :: values) = blockAt s [] j :: blocksOf (s.after [j]) values := by
  rw [blocksOf, List.mapIdx_cons]
  simp only [List.take_zero, List.take_succ_cons]
  congr 1
  refine congrArg (values.mapIdx ·) (funext fun n => funext fun k => ?_)
  exact blockAt_append s [j] _ k

theorem blocksOf_append (s : Supply) (before values : List Json) :
    blocksOf s (before ++ values) = blocksOf s before ++ blocksOf (s.after before) values := by
  induction before generalizing s with
  | nil => rfl
  | cons j before ih =>
    rw [List.cons_append, blocksOf_cons, ih, blocksOf_cons, List.cons_append, ← after_append]
    rfl

/-- The blocks of a stack begin with that of its first value. -/
theorem head?_blocksOf_along (s : Supply) (j : Json) :
    (blocksOf s (along j)).head? = some (blockAt s [] j) := by
  obtain ⟨rest, hrest⟩ := exists_along_eq_cons j
  rw [hrest, blocksOf_cons, List.head?_cons]

/-! ## The walk -/

theorem blockOf_cases (s : Supply) (j : Json) :
    tag? j = none ∧ blockOf s j = .error .noTag ∨
    tag? j ≠ none ∧ blockOf s j = .ok (⟨idAt s [] j, kindOf j, none⟩, s.after [j]) := by
  cases htag : tag? j with
  | none =>
    refine .inl ⟨rfl, ?_⟩
    unfold blockOf
    rw [show (j.get? "type").bind Json.text? = none from htag]
  | some tag =>
    refine .inr ⟨nofun, ?_⟩
    have hkind : kindOf j = .ofTag tag := by rw [kindOf, htag, Option.getD_some]
    unfold blockOf
    rw [show (j.get? "type").bind Json.text? = some tag from htag, hkind]
    cases hid : id? j with
    | some id =>
      rw [show (j.get? "id").bind Json.text? = some id from hid]
      simp [idAt, Supply.after, hid]
    | none =>
      rw [show (j.get? "id").bind Json.text? = none from hid]
      simp [idAt, Supply.after, hid]

/-- **A stack is walked to its end, or to a value without a tag.** -/
theorem stackOf_cases (s : Supply) (j : Json) :
    (∃ k ∈ along j, tag? k = none) ∧ stackOf s j = .error .noTag ∨
    (∀ k ∈ along j, tag? k ≠ none) ∧
      stackOf s j = .ok (blocksOf s (along j), s.after (along j)) := by
  fun_induction stackOf s j with
  | case1 s j e hb =>
    rcases blockOf_cases s j with ⟨htag, he⟩ | ⟨-, hok⟩
    · rw [he] at hb
      cases hb
      obtain ⟨rest, hrest⟩ := exists_along_eq_cons j
      exact .inl ⟨⟨j, by simp [hrest], htag⟩, rfl⟩
    · rw [hok] at hb
      cases hb
  | case2 s j b s₁ hb hnext =>
    rcases blockOf_cases s j with ⟨-, he⟩ | ⟨htag, hok⟩
    · rw [he] at hb
      cases hb
    · rw [hok] at hb
      cases hb
      rw [along_of_none hnext, blocksOf_cons, blockAt, hnext]
      exact .inr ⟨by simpa using htag, rfl⟩
  | case3 s j b s₁ hb k hk e hrest ih =>
    rw [along_of_some hk]
    rcases ih with ⟨⟨i, hi, htag⟩, he⟩ | ⟨-, hok⟩
    · rw [he] at hrest
      cases hrest
      exact .inl ⟨⟨i, List.mem_cons_of_mem _ hi, htag⟩, rfl⟩
    · rw [hok] at hrest
      cases hrest
  | case4 s j b s₁ hb k hk rest s₂ hrest ih =>
    rw [along_of_some hk]
    rcases blockOf_cases s j with ⟨-, he⟩ | ⟨htag, hok⟩
    · rw [he] at hb
      cases hb
    · rw [hok] at hb
      cases hb
      rcases ih with ⟨-, he⟩ | ⟨htags, hok⟩
      · rw [he] at hrest
        cases hrest
      · rw [hok] at hrest
        cases hrest
        refine .inr ⟨List.forall_mem_cons.mpr ⟨htag, htags⟩, ?_⟩
        -- the link of the first block is the id of the next, whose place is right behind it
        have hblock : blockAt s [] j = ⟨idAt s [] j, kindOf j, some (idAt (s.after [j]) [] k)⟩ := by
          rw [blockAt, hk]
          rfl
        rw [head?_blocksOf_along, blocksOf_cons, hblock,
          show s.after (j :: along k) = _ from after_append s [j] (along k)]
        rfl

/-- **All stacks are walked, or one of them holds a value without a tag.** -/
theorem stacksOf_cases (s : Supply) (heads : List Json) :
    (∃ k ∈ met heads, tag? k = none) ∧ stacksOf s heads = .error .noTag ∨
    (∀ k ∈ met heads, tag? k ≠ none) ∧ ∃ piles, stacksOf s heads = .ok piles ∧
      piles.flatten = blocksOf s (met heads) ∧
      start? piles = (heads.find? fun k => (kindOf k).isStart).map
        (blockAt s (met (heads.takeWhile fun k => !(kindOf k).isStart))) := by
  induction heads generalizing s with
  | nil => exact .inr ⟨fun _ hk => absurd hk List.not_mem_nil, [], rfl, rfl, rfl⟩
  | cons j rest ih =>
    rw [met_cons, stacksOf]
    rcases stackOf_cases s j with ⟨⟨k, hk, htag⟩, he⟩ | ⟨htags, hok⟩
    · rw [he]
      exact .inl ⟨⟨k, List.mem_append_left _ hk, htag⟩, rfl⟩
    · rw [hok]
      rcases ih (s.after (along j)) with ⟨⟨k, hk, htag⟩, he⟩ | ⟨hrest, piles, hpiles, hflat, hstart⟩
      · simp only [he]
        exact .inl ⟨⟨k, List.mem_append_right _ hk, htag⟩, rfl⟩
      · simp only [hpiles]
        refine .inr ⟨List.forall_mem_append.mpr ⟨htags, hrest⟩, _, rfl, ?_, ?_⟩
        · rw [List.flatten_cons, hflat, blocksOf_append]
        · have hhead : start? (blocksOf s (along j) :: piles)
              = if (kindOf j).isStart then some (blockAt s [] j) else start? piles := by
            rw [start?, List.filterMap_cons, head?_blocksOf_along, List.find?_cons]
            cases h : (kindOf j).isStart <;> simp [blockAt, h, start?]
          rw [hhead]
          cases h : (kindOf j).isStart with
          | true => simp [h, met]
          | false =>
            rw [if_neg (by simp), hstart, List.find?_cons, h, List.takeWhile_cons_of_pos (by simp [h]),
              met_cons, show blockAt s (along j ++ _) = _ from funext (blockAt_append s _ _)]

/-! ## What comes of them -/

/--
What is to come of a value that should hold stacks. A value without a tag is told before a missing start
block, and both before a repeated id. The graph holds the blocks of all values that are met, and begins with
the first stack that begins with a start block.
-/
inductive Outcome (fresh : Nat → BlockId) (j : Json) : Except StacksError Graph → Prop
  | noStacks : (place? j).bind Json.items? = none → Outcome fresh j (.error (.document .noStacks))
  | noTag {heads : List Json} : (place? j).bind Json.items? = some heads →
    (∃ k ∈ met heads, tag? k = none) → Outcome fresh j (.error (.document .noTag))
  | noStart {heads : List Json} : (place? j).bind Json.items? = some heads →
    (∀ k ∈ met heads, tag? k ≠ none) → (∀ k ∈ heads, kindOf k ≠ .start) →
    Outcome fresh j (.error (.document .noStart))
  | duplicate {heads : List Json} {before after : List Block} {b : Block} :
    (place? j).bind Json.items? = some heads → (∀ k ∈ met heads, tag? k ≠ none) →
    (∃ k ∈ heads, kindOf k = .start) → blocksOf ⟨fresh, 0⟩ (met heads) = before ++ b :: after →
    (before.map Block.id).Nodup → b.id ∈ before.map Block.id →
    Outcome fresh j (.error (.graph (.duplicate b.id)))
  | graph {before after : List Json} {k : Json} {g : Graph} :
    (place? j).bind Json.items? = some (before ++ k :: after) →
    (∀ i ∈ met (before ++ k :: after), tag? i ≠ none) →
    (∀ i ∈ before, kindOf i ≠ .start) → kindOf k = .start →
    ((blocksOf ⟨fresh, 0⟩ (met (before ++ k :: after))).map Block.id).Nodup →
    g.start = idAt ⟨fresh, 0⟩ (met before) k →
    (∀ b, g.find? b.id = some b ↔ b ∈ blocksOf ⟨fresh, 0⟩ (met (before ++ k :: after))) →
    Outcome fresh j (.ok g)

end Stacks

namespace Graph

open Stacks

variable {fresh : Nat → BlockId} {j : Json} {heads : List Json} {r : Except StacksError Graph}

theorem ofStacks_of_noTag (hheads : (place? j).bind Json.items? = some heads)
    (h : ∃ k ∈ met heads, tag? k = none) : ofStacks fresh j = .error (.document .noTag) := by
  rcases stacksOf_cases ⟨fresh, 0⟩ heads with ⟨-, he⟩ | ⟨htags, -⟩
  · unfold ofStacks
    simp only [hheads, he]
  · obtain ⟨k, hk, htag⟩ := h
    exact absurd htag (htags k hk)

theorem ofStacks_of_noStart (hheads : (place? j).bind Json.items? = some heads)
    (htags : ∀ k ∈ met heads, tag? k ≠ none) (h : ∀ k ∈ heads, kindOf k ≠ .start) :
    ofStacks fresh j = .error (.document .noStart) := by
  rcases stacksOf_cases ⟨fresh, 0⟩ heads with ⟨⟨k, hk, htag⟩, -⟩ | ⟨-, piles, hpiles, -, hstart⟩
  · exact absurd htag (htags k hk)
  · have hnone : heads.find? (fun k => (kindOf k).isStart) = none := by simpa using h
    unfold ofStacks
    simp only [hheads, hpiles, hstart, hnone, Option.map_none]

/-- The first stack that begins with a start block decides about the start. -/
theorem ofStacks_of_start {before after : List Json} {k : Json}
    (hheads : (place? j).bind Json.items? = some (before ++ k :: after))
    (htags : ∀ i ∈ met (before ++ k :: after), tag? i ≠ none)
    (hbefore : ∀ i ∈ before, kindOf i ≠ .start) (hk : kindOf k = .start) :
    ofStacks fresh j = (ofBlocks (idAt ⟨fresh, 0⟩ (met before) k)
      (blocksOf ⟨fresh, 0⟩ (met (before ++ k :: after)))).mapError .graph := by
  rcases stacksOf_cases ⟨fresh, 0⟩ (before ++ k :: after)
    with ⟨⟨i, hi, htag⟩, -⟩ | ⟨-, piles, hpiles, hflat, hstart⟩
  · exact absurd htag (htags i hi)
  · have hnot : ∀ i ∈ before, (!(kindOf i).isStart) = true := by
      simpa [BlockKind.isStart_eq_false_iff] using hbefore
    have hfind : (before ++ k :: after).find? (fun i => (kindOf i).isStart) = some k := by
      rw [List.find?_append, List.find?_eq_none.mpr (by simpa using hbefore), Option.none_or,
        List.find?_cons_of_pos (by simp [hk])]
    have htake : (before ++ k :: after).takeWhile (fun i => !(kindOf i).isStart) = before := by
      rw [List.takeWhile_append_of_pos hnot, List.takeWhile_cons_of_neg (by simp [hk]),
        List.append_nil]
    unfold ofStacks
    simp only [hheads, hpiles, hstart, hflat, hfind, htake, Option.map_some]
    rfl

theorem blockAt_mem_blocksOf (s : Supply) (before after : List Json) (k : Json) :
    blockAt s (met before) k ∈ blocksOf s (met (before ++ k :: after)) := by
  have hmet : met (before ++ k :: after) = met before ++ (along k ++ met after) := by
    rw [met, List.flatMap_append, List.flatMap_cons]
    rfl
  rw [hmet, blocksOf_append, blocksOf_append,
    show blockAt s (met before) k = _ from List.append_nil (met before) ▸ blockAt_append s _ [] k]
  refine List.mem_append_right _ (List.mem_append_left _ (List.mem_of_head? ?_))
  exact head?_blocksOf_along _ k

theorem outcome_ofStacks (fresh : Nat → BlockId) (j : Json) :
    Outcome fresh j (ofStacks fresh j) := by
  cases hheads : (place? j).bind Json.items? with
  | none =>
    have hnone : ofStacks fresh j = .error (.document .noStacks) := by
      unfold ofStacks
      simp only [hheads]
    exact hnone ▸ .noStacks hheads
  | some heads =>
    by_cases htags : ∀ k ∈ met heads, tag? k ≠ none
    · cases hfind : heads.find? fun k => (kindOf k).isStart with
      | none =>
        have hnot : ∀ k ∈ heads, kindOf k ≠ .start := by simpa using hfind
        exact ofStacks_of_noStart hheads htags hnot ▸ .noStart hheads htags hnot
      | some k =>
        obtain ⟨hk, before, after, rfl, hbefore⟩ := List.find?_eq_some_iff_append.mp hfind
        have hnot : ∀ i ∈ before, kindOf i ≠ .start := by
          simpa [BlockKind.isStart_eq_false_iff] using hbefore
        have hstart : kindOf k = .start := by simpa using hk
        rw [ofStacks_of_start hheads htags hnot hstart]
        have hmem := blockAt_mem_blocksOf ⟨fresh, 0⟩ before after k
        by_cases hnodup : ((blocksOf ⟨fresh, 0⟩ (met (before ++ k :: after))).map Block.id).Nodup
        · obtain ⟨g, hg⟩ := exists_ofBlocks hnodup hmem hstart
          obtain ⟨-, hs, hfound⟩ := ofBlocks_eq_ok_iff_find?.mp hg
          rw [show idAt _ _ k = (blockAt ⟨fresh, 0⟩ (met before) k).id from rfl, hg]
          exact .graph hheads htags hnot hstart hnodup hs hfound
        · obtain ⟨id, hid⟩ := ofBlocks_of_not_nodup hnodup
          rw [hid]
          obtain ⟨l₁, b, l₂, hl, rfl, hnew, hold⟩ := ofBlocks_eq_duplicate_iff.mp hid
          exact .duplicate hheads htags ⟨k, by simp, hstart⟩ hl hnew hold
    · have hnone : ∃ k ∈ met heads, tag? k = none := by simpa using htags
      exact ofStacks_of_noTag hheads hnone ▸ .noTag hheads hnone

/--
**Nested stacks are read as what is to come of them.** There is no other outcome, whatever the value is and
whatever ids are made up.
-/
theorem ofStacks_eq_iff : ofStacks fresh j = r ↔ Outcome fresh j r := by
  refine ⟨fun h => h ▸ outcome_ofStacks fresh j, fun h => ?_⟩
  cases h with
  | noStacks hheads =>
    unfold ofStacks
    simp only [hheads]
  | noTag hheads htag => exact ofStacks_of_noTag hheads htag
  | noStart hheads htags hnot => exact ofStacks_of_noStart hheads htags hnot
  | @duplicate heads _ _ _ hheads htags hstart hl hnew hold =>
    obtain ⟨k, hk, hstart⟩ := hstart
    have hsome : (heads.find? fun k => (kindOf k).isStart).isSome :=
      List.find?_isSome.mpr ⟨k, hk, by simp [hstart]⟩
    obtain ⟨i, hfind⟩ := Option.isSome_iff_exists.mp hsome
    obtain ⟨hi, front, rest, rfl, hfront⟩ := List.find?_eq_some_iff_append.mp hfind
    rw [ofStacks_of_start hheads htags (by simpa [BlockKind.isStart_eq_false_iff] using hfront)
      (by simpa using hi), ofBlocks_eq_duplicate_iff.mpr ⟨_, _, _, hl, rfl, hnew, hold⟩]
    rfl
  | graph hheads htags hnot hk hnodup hs hfound =>
    have hg := ofBlocks_eq_ok_iff_find?.mpr ⟨hnodup, hs, hfound⟩
    rw [ofStacks_of_start hheads htags hnot hk, hg]
    rfl

end Graph

end BlockPlayer
