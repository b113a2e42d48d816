import BlockPlayer.Proofs.Format.Document
import BlockPlayer.Proofs.Format.Stacks

/-!
# One chain in either format

A chain of blocks can be saved as a flat document, in which each block names the next, and as a stack, in
which each block holds the next. Both are loaded as the same graph as long as the stack can be read at all:
with every block it is two containers deeper, and the reader of values takes only so many
(`tree_stackItem`).

* `Graph.load_flatJson`, `Graph.load_stackJson` — each format by itself
* `Graph.load_either_format` — **both formats, and where they part**
-/

namespace BlockPlayer

open Json (NumberFree toDraft)

theorem Json.tree_object (depth : Nat) (members : List (Json.Name × Json.Draft)) :
    (Json.Draft.object members .closed).tree depth = if Json.depthLimit ≤ depth then .error .malformed
      else (Json.treeMembers (depth + 1) [] members).map .object := by
  rw [Json.Draft.tree]
  cases Json.treeMembers (depth + 1) [] members <;> rfl

/-- A block as editors know it. -/
structure Tagged where
  id : BlockId
  tag : String

namespace Tagged

/-! ## Two ways to write a chain -/

/-- The blocks of a chain, each linked to the one behind it. -/
def chained : List Tagged → List Block
  | [] => []
  | t :: rest => ⟨t.id, .ofTag t.tag, rest.head?.map Tagged.id⟩ :: chained rest

/-- The blocks as items of a flat document. -/
def flatItems : List Tagged → List Json
  | [] => []
  | t :: rest =>
    .object ([("id", .text t.id), ("type", .text t.tag)]
      ++ rest.head?.toList.map fun next => ("next", .text next.id)) :: flatItems rest

/-- A chain as a flat document. -/
def flatJson (t : Tagged) (rest : List Tagged) : Json :=
  .object [("start", .text t.id), ("blocks", .array (flatItems (t :: rest)))]

/-- A block that holds the blocks behind it. -/
def stackItem (t : Tagged) : List Tagged → Json
  | [] => .object [("type", .text t.tag), ("id", .text t.id)]
  | next :: rest =>
    .object [("type", .text t.tag), ("id", .text t.id),
      ("next", .object [("block", stackItem next rest)])]

/-- A chain as the only stack of a workspace. -/
def stackJson (t : Tagged) (rest : List Tagged) : Json :=
  .object [("blocks", .object [("blocks", .array [stackItem t rest])])]

variable {t : Tagged} {rest : List Tagged}

theorem chained_map_id (chain : List Tagged) :
    (chained chain).map Block.id = chain.map Tagged.id := by
  induction chain with
  | nil => rfl
  | cons t rest ih => rw [chained, List.map_cons, ih, List.map_cons]

/-! ## The flat document -/

/-- The blocks of a chain with their tags as they stand. -/
def spelled : List Tagged → List Block
  | [] => []
  | t :: rest => ⟨t.id, .unrecognized t.tag, rest.head?.map Tagged.id⟩ :: spelled rest

theorem retagged_spelled (chain : List Tagged) :
    (spelled chain).map Block.retagged = chained chain := by
  induction chain with
  | nil => rfl
  | cons t rest ih => rw [spelled, List.map_cons, ih]; rfl

theorem flatItems_eq (chain : List Tagged) : flatItems chain = (spelled chain).map Block.toJson := by
  induction chain with
  | nil => rfl
  | cons t rest ih => cases rest <;> rw [flatItems, spelled, List.map_cons, ih] <;> rfl

theorem flatJson_eq (t : Tagged) (rest : List Tagged) :
    flatJson t rest = FlatDocument.toJson ⟨t.id, spelled (t :: rest)⟩ := by
  rw [flatJson, flatItems_eq]
  rfl

/-! ## The stack -/

/-- A block of a stack with its members in the order of their names. -/
def stackTree (t : Tagged) : List Tagged → Json
  | [] => .object [("id", .text t.id), ("type", .text t.tag)]
  | next :: rest =>
    .object [("id", .text t.id), ("next", .object [("block", stackTree next rest)]),
      ("type", .text t.tag)]

theorem numberFree_stackItem (t : Tagged) (rest : List Tagged) : NumberFree (stackItem t rest) := by
  induction rest generalizing t with
  | nil => exact ⟨trivial, trivial, trivial⟩
  | cons next rest ih => exact ⟨trivial, trivial, ⟨ih next, trivial⟩, trivial⟩

/-- **A block inside `depth` containers is read if there is room for all that it holds.** -/
theorem tree_stackItem (t : Tagged) (rest : List Tagged) (depth : Nat) :
    (toDraft (stackItem t rest)).tree depth
      = if depth + 2 * rest.length < Json.depthLimit then .ok (stackTree t rest)
        else .error .malformed := by
  induction rest generalizing t depth with
  | nil =>
    simp only [stackItem, toDraft, Json.tree_object, List.length_nil]
    split
    · rw [if_neg (by omega)]
    · rw [if_pos (by omega)]
      rfl
  | cons next rest ih =>
    simp only [stackItem, toDraft, Json.membersToDraft, Json.tree_object, List.length_cons]
    simp only [Json.treeMembers, Json.tree_object, ih]
    split
    · rw [if_neg (by omega)]
    · split
      · rw [if_neg (by omega)]
        rfl
      · by_cases hroom : depth + 1 + 1 + 2 * rest.length < Json.depthLimit
        · rw [if_pos hroom, if_pos (by omega)]
          rfl
        · rw [if_neg hroom, if_neg (by omega)]
          rfl

/-- A stack is read as its chain; all its blocks bring ids along. -/
theorem stackOf_stackTree (s : Stacks.Supply) (t : Tagged) (rest : List Tagged) :
    Stacks.stackOf s (stackTree t rest) = .ok (chained (t :: rest), s) := by
  have hblock : Stacks.blockOf s (stackTree t rest) = .ok (⟨t.id, .ofTag t.tag, none⟩, s) := by
    cases rest <;> rfl
  induction rest generalizing t with
  | nil =>
    rw [Stacks.stackOf, hblock]
    rfl
  | cons next rest ih =>
    have hnext : Stacks.nextBlock? (stackTree t (next :: rest)) = some (stackTree next rest) := rfl
    rw [Stacks.stackOf, hblock]
    simp only
    split
    · next hnone => rw [hnext] at hnone; cases hnone
    · next k hk =>
      rw [hnext] at hk
      cases hk
      rw [ih next (by cases rest <;> rfl)]
      rfl

/-! ## Loading -/

/-- A chain as a stack, with members in the order of their names. -/
def workspaceTree (t : Tagged) (rest : List Tagged) : Json :=
  .object [("blocks", .object [("blocks", .array [stackTree t rest])])]

theorem numberFree_stackJson (t : Tagged) (rest : List Tagged) : NumberFree (stackJson t rest) :=
  ⟨⟨⟨numberFree_stackItem t rest, trivial⟩, trivial⟩, trivial⟩

/-- Three containers are open around the first block, and two more are opened for each block behind it. -/
theorem tree_stackJson (t : Tagged) (rest : List Tagged) :
    (toDraft (stackJson t rest)).tree 0
      = if (t :: rest).length ≤ 62 then .ok (workspaceTree t rest) else .error .malformed := by
  have hitems : (Json.Draft.array [toDraft (stackItem t rest)] .closed).tree 2
      = if (t :: rest).length ≤ 62 then .ok (.array [stackTree t rest]) else .error .malformed := by
    rw [Json.Draft.tree, if_neg (by decide)]
    simp only [Json.treeItems, tree_stackItem]
    have hroom : 2 + 1 + 2 * rest.length < Json.depthLimit ↔ (t :: rest).length ≤ 62 := by
      simp only [Json.depthLimit, List.length_cons]
      omega
    by_cases h : (t :: rest).length ≤ 62
    · rw [if_pos (hroom.mpr h), if_pos h]
      rfl
    · rw [if_neg (mt hroom.mp h), if_neg h]
      rfl
  have hfirst : ¬ Json.depthLimit ≤ 0 := by decide
  have hsecond : ¬ Json.depthLimit ≤ 0 + 1 := by decide
  simp only [stackJson, toDraft, Json.membersToDraft, Json.itemsToDraft, Json.tree_object,
    Json.treeMembers, hitems, if_neg hfirst, if_neg hsecond]
  by_cases h : (t :: rest).length ≤ 62
  · rw [if_pos h, if_pos h]
    rfl
  · rw [if_neg h, if_neg h]
    rfl

end Tagged

namespace Graph

open Tagged

variable {t : Tagged} {rest : List Tagged} {g : Graph}

theorem load_flatJson (fresh : Nat → BlockId) (lines : Bool)
    (hg : ofBlocks t.id (chained (t :: rest)) = .ok g) :
    load fresh (String.ofList (Json.write lines 0 (flatJson t rest))) = .ok g := by
  rw [flatJson_eq]
  refine load_flat fresh lines ?_
  rw [FlatDocument.retagged, retagged_spelled]
  exact hg

/-- The only stack of a workspace begins with its start block. -/
theorem ofStacks_workspaceTree (fresh : Nat → BlockId) (htag : BlockKind.ofTag t.tag = .start)
    (hg : ofBlocks t.id (chained (t :: rest)) = .ok g) :
    ofStacks fresh (workspaceTree t rest) = .ok g := by
  have hplace : (Stacks.place? (workspaceTree t rest)).bind Json.items? = some [stackTree t rest] :=
    rfl
  have hpiles : Stacks.stacksOf ⟨fresh, 0⟩ [stackTree t rest] = .ok [chained (t :: rest)] := by
    rw [Stacks.stacksOf, stackOf_stackTree]
    rfl
  have hstart : Stacks.start? [chained (t :: rest)] = some ⟨t.id, .start, rest.head?.map Tagged.id⟩ := by
    simp [Stacks.start?, chained, htag, BlockKind.isStart]
  rw [ofStacks, hplace]
  simp only [hpiles, hstart, List.flatten_singleton, hg]
  rfl

theorem load_stackJson (fresh : Nat → BlockId) (lines : Bool) (htag : BlockKind.ofTag t.tag = .start)
    (hg : ofBlocks t.id (chained (t :: rest)) = .ok g) :
    load fresh (String.ofList (Json.write lines 0 (stackJson t rest)))
      = if (t :: rest).length ≤ 62 then .ok g else .error (.json (.fault .malformed)) := by
  have htree := tree_stackJson t rest
  split
  · next hlength =>
    rw [if_pos hlength] at htree
    have hstart : ((workspaceTree t rest).get? "start").isSome = false := rfl
    have hplace : (Stacks.place? (workspaceTree t rest)).isSome = true := rfl
    rw [load, Json.readTree_write (numberFree_stackJson t rest) htree lines]
    simp only [Json.mapError_ok, bind, Except.bind]
    rw [hstart, if_neg Bool.false_ne_true, if_pos hplace, ofStacks_workspaceTree fresh htag hg]
    rfl
  · next hlength =>
    rw [if_neg hlength] at htree
    rw [load, Json.readTree, Json.read_write _ (numberFree_stackJson t rest), htree]
    rfl

theorem exists_ofBlocks_chained (hnodup : ((t :: rest).map Tagged.id).Nodup)
    (htag : BlockKind.ofTag t.tag = .start) : ∃ g, ofBlocks t.id (chained (t :: rest)) = .ok g := by
  have hids : ((chained (t :: rest)).map Block.id).Nodup := by rwa [chained_map_id]
  exact exists_ofBlocks hids List.mem_cons_self htag

/--
**Both formats of a chain, and where they part.** The flat document of a chain is loaded however long the
chain is. Its stack is loaded as the same graph if it is made of at most 62 blocks; the text of a longer one
is taken for malformed.
-/
theorem load_either_format {t : Tagged} {rest : List Tagged}
    (hnodup : ((t :: rest).map Tagged.id).Nodup) (htag : BlockKind.ofTag t.tag = .start)
    (fresh : Nat → BlockId) (lines lines' : Bool) :
    ∃ g, ofBlocks t.id (chained (t :: rest)) = .ok g
      ∧ load fresh (String.ofList (Json.write lines 0 (flatJson t rest))) = .ok g
      ∧ load fresh (String.ofList (Json.write lines' 0 (stackJson t rest)))
        = if (t :: rest).length ≤ 62 then .ok g else .error (.json (.fault .malformed)) := by
  obtain ⟨g, hg⟩ := exists_ofBlocks_chained hnodup htag
  exact ⟨g, hg, load_flatJson fresh lines hg, load_stackJson fresh lines' htag hg⟩

/-! ## Chains of any length -/

/-- `n` waits; their ids are as long as they stand far behind. -/
def waits (n : Nat) : List Tagged :=
  (List.range n).map fun i => ⟨String.ofList (List.replicate i 'w'), "wait"⟩

theorem length_waits (n : Nat) : (waits n).length = n := by
  rw [waits, List.length_map, List.length_range]

theorem nodup_waits (n : Nat) : (((⟨"start", "start"⟩ : Tagged) :: waits n).map Tagged.id).Nodup := by
  rw [List.map_cons, List.nodup_cons, waits, List.map_map]
  constructor
  · intro h
    obtain ⟨i, -, hi⟩ := List.mem_map.mp h
    have hletters : List.replicate i 'w' = "start".toList := String.ofList_injective hi
    have hs : 's' ∈ List.replicate i 'w' := by
      rw [hletters]
      decide
    exact absurd (List.eq_of_mem_replicate hs) (by decide)
  · refine List.Pairwise.map _ (fun i k hik heq => hik ?_) List.nodup_range
    have hlength := congrArg List.length (String.ofList_injective heq)
    simpa only [List.length_replicate] using hlength

/-- The longest chain whose stack is loaded. -/
theorem load_either_format_62 :
    (((⟨"start", "start"⟩ : Tagged) :: waits 61).map Tagged.id).Nodup
      ∧ BlockKind.ofTag "start" = .start
      ∧ ∃ g,
        load (fun _ => "")
          (String.ofList (Json.write true 0 (flatJson ⟨"start", "start"⟩ (waits 61)))) = .ok g
        ∧ load (fun _ => "")
          (String.ofList (Json.write false 0 (stackJson ⟨"start", "start"⟩ (waits 61)))) = .ok g := by
  refine ⟨nodup_waits 61, by decide, ?_⟩
  obtain ⟨g, -, hflat, hstack⟩ :=
    load_either_format (nodup_waits 61) (by decide) (fun _ => "") true false
  have hshort : ((⟨"start", "start"⟩ : Tagged) :: waits 61).length = 62 := by
    rw [List.length_cons, length_waits]
  rw [if_pos (Nat.le_of_eq hshort)] at hstack
  exact ⟨g, hflat, hstack⟩

/-- With one block more, the flat document is loaded and the stack is not. -/
theorem not_load_either_format_63 :
    ¬ ∀ (t : Tagged) (rest : List Tagged), ((t :: rest).map Tagged.id).Nodup →
      BlockKind.ofTag t.tag = .start → ∀ (fresh : Nat → BlockId) (lines : Bool),
        ∃ g, load fresh (String.ofList (Json.write lines 0 (flatJson t rest))) = .ok g
          ∧ load fresh (String.ofList (Json.write lines 0 (stackJson t rest))) = .ok g := by
  intro h
  obtain ⟨g, -, hstack⟩ :=
    h ⟨"start", "start"⟩ (waits 62) (nodup_waits 62) (by decide) (fun _ => "") false
  obtain ⟨g', hg'⟩ := exists_ofBlocks_chained (nodup_waits 62) (by decide)
  have hlong : ¬ ((⟨"start", "start"⟩ : Tagged) :: waits 62).length ≤ 62 := by
    simp [length_waits]
  rw [load_stackJson _ false (by decide) hg', if_neg hlong] at hstack
  cases hstack

end Graph

end BlockPlayer
