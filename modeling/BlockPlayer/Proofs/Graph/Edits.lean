import BlockPlayer.Graph.Edit
import BlockPlayer.Proofs.Graph.Path

/-!
# Edits and the chain

What a successful edit makes of the table is said once for each edit (`insertAfter_eq_ok_iff`,
`remove_eq_ok_iff`, `link_eq_ok_iff`). From that comes the trail of the new table, given the trail of the
old one, and with it the new chain.

* `Graph.trail_splice` — a block put in behind a block of the chain comes right behind it
* `Graph.trail_bypass` — a block that is taken out is left out of the chain
* `Graph.chain_edits` — **edits act on the chain as on a list**

Both hold whatever the links are: a chain may be bent into a loop anywhere, or end with a link that
names no block, and a block that is taken out may link to itself.
-/

namespace BlockPlayer.Graph

open Table (Path Trail)

/-! ## What successful edits are -/

variable {g h : Graph} {after id source : BlockId} {b : Block}

theorem insertAfter_eq_ok_iff : g.insertAfter after b = .ok h ↔
    g.find? b.id = none ∧ g.contains after = true ∧
      h.start = g.start ∧ h.table = splice g.table after b := by
  have hnone : g.find? b.id = none ↔ ¬ g.contains b.id = true := by
    rw [contains_iff, Option.eq_none_iff_forall_ne_some, not_exists]
  rw [hnone, insertAfter]
  split
  · next hb => simp [hb]
  · next hb =>
    split
    · next ha =>
      rw [Except.ok.injEq]
      constructor
      · rintro rfl
        exact ⟨hb, ha, rfl, rfl⟩
      · rintro ⟨-, -, hs, ht⟩
        cases h
        simp_all
    · next ha => simp [ha]

theorem remove_eq_ok_iff : g.remove id = .ok (b, h) ↔
    id ≠ g.start ∧ g.find? id = some b ∧ h.start = g.start ∧ h.table = bypass g.table b := by
  rw [remove]
  split
  · next hs => simp [hs]
  · next hs =>
    split
    · next hn => simp [hn]
    · next c hc =>
      simp only [Except.ok.injEq, Prod.mk.injEq, hc, Option.some.injEq]
      constructor
      · rintro ⟨rfl, rfl⟩
        exact ⟨hs, rfl, rfl, rfl⟩
      · rintro ⟨-, rfl, hstart, ht⟩
        cases h
        simp_all

theorem link_eq_ok_iff {target : Option BlockId} : g.link source target = .ok h ↔
    (∀ x, target = some x → g.contains x = true) ∧ g.contains source = true ∧
      h.start = g.start ∧ h.table = redirect g.table source target := by
  have hnone : (target.filter fun x => !g.contains x) = none ↔
      ∀ x, target = some x → g.contains x = true := by
    cases target <;> simp
  rw [link, ← hnone]
  split
  · next hx => simp [hx]
  · next hx =>
    split
    · next hs =>
      simp only [Except.ok.injEq, hx, hs, true_and]
      constructor
      · rintro rfl
        exact ⟨rfl, rfl⟩
      · rintro ⟨hstart, ht⟩
        cases h
        simp_all
    · next hs => simp [hs]

/-- The block that an edit puts in. -/
def Edit.block? : Edit → Option Block
  | .append b | .insertAfter _ b => some b
  | .remove _ | .link _ _ | .clear => none

/-- The graph after an edit. One that cannot be done changes nothing. -/
def edited (g : Graph) (e : Edit) : Graph :=
  match g.apply e with
  | .ok h => h
  | .error _ => g

/-- The graph after edits, one after another. -/
def editedAll (g : Graph) (es : List Edit) : Graph := es.foldl edited g

theorem editedAll_concat (g : Graph) (es : List Edit) (e : Edit) :
    g.editedAll (es ++ [e]) = (g.editedAll es).edited e := by
  rw [editedAll, List.foldl_append]
  rfl

/-- A block can be put in behind every block, under every id that is free. -/
theorem exists_insertAfter (hb : g.contains b.id = false) (ha : g.contains after = true) :
    ∃ h, g.insertAfter after b = .ok h := by
  rw [insertAfter, dif_neg (by simp [hb]), if_pos ha]
  exact ⟨_, rfl⟩

/-- A block can be appended under every id that is free. -/
theorem exists_append (hb : g.contains b.id = false) : ∃ h, g.append b = .ok h :=
  exists_insertAfter hb g.contains_tail

/-- Every block but the start block can be taken out. -/
theorem exists_remove (hne : id ≠ g.start) (hb : g.find? id = some b) :
    ∃ h, g.remove id = .ok (b, h) := by
  obtain rfl := Table.find?_eq_some_id hb
  exact ⟨⟨g.start, bypass g.table b, g.start_kind_bypass hne⟩,
    remove_eq_ok_iff.mpr ⟨hne, hb, rfl, rfl⟩⟩

/-! ## Putting in -/

section Splice

variable {t : Table} {link last : Option BlockId} {l l₁ l₂ : List Block} {a c : Block}

theorem find?_splice_of_ne (hc : t.find? c.id = some c) (hb : t.find? b.id = none)
    (hne : c.id ≠ after) : (splice t after b).find? c.id = some c := by
  have hid : b.id ≠ c.id := fun he => by rw [he, hc] at hb; cases hb
  rw [find?_splice, if_neg hid, hc, Option.map_some, if_neg hne]

theorem find?_splice_anchor (ha : t.find? a.id = some a) (hb : t.find? b.id = none) :
    (splice t a.id b).find? a.id = some ⟨a.id, a.kind, some b.id⟩ := by
  have hid : b.id ≠ a.id := fun he => by rw [he, ha] at hb; cases hb
  rw [find?_splice, if_neg hid, ha, Option.map_some, if_pos rfl]

theorem find?_splice_new (ha : t.find? a.id = some a) :
    (splice t a.id b).find? b.id = some ⟨b.id, b.kind, a.next⟩ := by
  rw [find?_splice, if_pos rfl, ha, Option.bind_some]

/-- A block with a free id is put in right behind a block of the trail. -/
theorem trail_splice (h : Trail t link (l₁ ++ a :: l₂) last) (hb : t.find? b.id = none) :
    Trail (splice t a.id b) link
      (l₁ ++ ⟨a.id, a.kind, some b.id⟩ :: ⟨b.id, b.kind, a.next⟩ :: l₂) last where
  path := by
    obtain ⟨h1, ha, h2⟩ := h.path.split_cons
    obtain ⟨hl₁, hl₂⟩ := h.id_ne_of_split
    -- neither part of the trail holds the anchor, so both stay as they are
    have h1' : Path (splice t a.id b) link l₁ (some a.id) :=
      h1.congr fun c hc => find?_splice_of_ne (h1.find?_of_mem hc) hb (hl₁ c hc)
    have h2' : Path (splice t a.id b) a.next l₂ last :=
      h2.congr fun c hc => find?_splice_of_ne (h2.find?_of_mem hc) hb (hl₂ c hc)
    exact h1'.append (.cons (find?_splice_anchor ha hb) (.cons (find?_splice_new ha) h2'))
  nodup := by
    have hfree : b.id ∉ (l₁ ++ a :: l₂).map Block.id := by
      intro hmem
      obtain ⟨c, hc, he⟩ := List.mem_map.mp hmem
      rw [← he, h.path.find?_of_mem hc] at hb
      cases hb
    -- up to the order, the new id is added in front
    have hperm := (@List.perm_middle _ b.id (l₁.map Block.id ++ [a.id]) (l₂.map Block.id)).symm
    rw [List.append_assoc, List.append_assoc, List.singleton_append, List.singleton_append,
      ← List.map_cons, ← List.map_append] at hperm
    simpa using hperm.nodup (List.nodup_cons.mpr ⟨hfree, h.nodup⟩)
  stops := by
    intro c hc
    obtain ⟨x, rfl, hx⟩ := Option.bind_eq_some_iff.mp hc
    obtain rfl := Table.find?_eq_some_id hx
    obtain ⟨-, ha, -⟩ := h.path.split_cons
    by_cases hcb : c.id = b.id
    · rw [hcb, find?_splice_new ha] at hx
      cases hx
      simp
    · -- the block that the last link names was met in the old table
      rw [find?_splice, if_neg (Ne.symm hcb)] at hx
      obtain ⟨d, hd, rfl⟩ := Option.map_eq_some_iff.mp hx
      have hmem := h.stops d hd
      by_cases hda : d.id = a.id
      · obtain rfl := h.eq_of_id_eq hmem (by simp) hda
        simp
      · have hne : d ≠ a := fun he => hda (he ▸ rfl)
        simp only [List.mem_append, List.mem_cons, hne, false_or] at hmem
        rcases hmem with hmem | hmem <;> simp [hda, hmem]

/-- A block put in elsewhere does not matter, unless the last link of the trail was waiting for it. -/
theorem trail_splice_of_not_mem (h : Trail t link l last) (hb : t.find? b.id = none)
    (hafter : ∀ c ∈ l, c.id ≠ after) (hlast : last ≠ some b.id) :
    Trail (splice t after b) link l last where
  path := h.path.congr fun c hc =>
    find?_splice_of_ne (h.path.find?_of_mem hc) hb (hafter c hc)
  nodup := h.nodup
  stops := by
    intro c hc
    obtain ⟨x, rfl, hx⟩ := Option.bind_eq_some_iff.mp hc
    rw [find?_splice, if_neg fun he => hlast (congrArg some he.symm)] at hx
    obtain ⟨d, hd, rfl⟩ := Option.map_eq_some_iff.mp hx
    have hmem := h.stops d hd
    rw [if_neg (hafter d hmem)]
    exact hmem

end Splice

/-! ## Taking out -/

section Bypass

variable {t : Table} {link last : Option BlockId} {l l₁ l₂ : List Block} {r c : Block}

/-- Where a link leads when the block `r` is gone. -/
def skirt (r : Block) (link : Option BlockId) : Option BlockId :=
  if link = some r.id then r.next else link

/-- A block as it is when `r` is gone. -/
def skirted (r x : Block) : Block := ⟨x.id, x.kind, skirt r x.next⟩

theorem skirt_next (r : Block) : skirt r r.next = r.next := by
  rw [skirt, ite_self]

theorem skirt_of_ne {x : BlockId} (hx : x ≠ r.id) : skirt r (some x) = some x := by
  rw [skirt, if_neg fun he => hx (Option.some.inj he)]

theorem find?_bypass_of_ne {x : BlockId} (hx : x ≠ r.id) :
    (bypass t r).find? x = (t.find? x).map (skirted r) := by
  rw [find?_bypass, if_neg hx]
  rfl

/-- A path that does not meet the block is there without it, with its links led past it. -/
theorem path_bypass (h : Path t link l last) (hr : ∀ c ∈ l, c.id ≠ r.id) :
    Path (bypass t r) (skirt r link) (l.map (skirted r)) (skirt r last) := by
  induction h with
  | nil link => exact .nil _
  | @cons id b rest last hb _ ih =>
    have hne : id ≠ r.id := by
      rw [← Table.find?_eq_some_id hb]
      exact hr b List.mem_cons_self
    rw [skirt_of_ne hne]
    refine .cons (b := skirted r b) ?_ (ih fun c hc => hr c (List.mem_cons_of_mem _ hc))
    rw [find?_bypass_of_ne hne, hb, Option.map_some]

/--
A path that meets the block once is there without it. Its first part now leads to where the block led,
even if that is the block itself.
-/
theorem path_bypass_across {x : BlockId} (h : Path t (some x) (l₁ ++ r :: l₂) last)
    (hl₁ : ∀ c ∈ l₁, c.id ≠ r.id) (hl₂ : ∀ c ∈ l₂, c.id ≠ r.id) (hx : x ≠ r.id) :
    Path (bypass t r) (some x) ((l₁ ++ l₂).map (skirted r)) (skirt r last) := by
  obtain ⟨h1, -, h2⟩ := h.split_cons
  have h1' := path_bypass h1 hl₁
  have h2' := path_bypass h2 hl₂
  rw [skirt_of_ne hx, skirt, if_pos rfl] at h1'
  rw [skirt_next] at h2'
  rw [List.map_append]
  exact h1'.append h2'

/-- **What is left of a trail when a block is taken out.** -/
theorem trail_bypass {x : BlockId} (h : Trail t (some x) l last) (hr : t.find? r.id = some r)
    (hx : x ≠ r.id) : Trail (bypass t r) (some x)
      ((l.filter fun c => c.id != r.id).map (skirted r)) (skirt r last) where
  path := by
    by_cases hmem : r ∈ l
    · obtain ⟨l₁, l₂, rfl⟩ := List.append_of_mem hmem
      obtain ⟨hl₁, hl₂⟩ := h.id_ne_of_split
      have hfilter : ((l₁ ++ r :: l₂).filter fun c => c.id != r.id) = l₁ ++ l₂ := by
        rw [List.filter_append, List.filter_cons_of_neg (by simp),
          List.filter_eq_self.mpr (by simpa using hl₁),
          List.filter_eq_self.mpr (by simpa using hl₂)]
      rw [hfilter]
      exact path_bypass_across h.path hl₁ hl₂ hx
    · have hne : ∀ c ∈ l, c.id ≠ r.id := by
        intro c hc he
        exact hmem (h.path.mem_of_id_mem (List.mem_map.mpr ⟨c, hc, he⟩) hr)
      rw [List.filter_eq_self.mpr (by simpa using hne), ← skirt_of_ne hx]
      exact path_bypass h.path hne
  nodup := by
    have hids : ((l.filter fun c => c.id != r.id).map (skirted r)).map Block.id
        = (l.filter fun c => c.id != r.id).map Block.id := by
      rw [List.map_map]
      rfl
    rw [hids]
    exact h.nodup.sublist (List.filter_sublist.map _)
  stops := by
    intro c hc
    obtain ⟨y, hy, hfind⟩ := Option.bind_eq_some_iff.mp hc
    have hyr : y ≠ r.id := by
      rintro rfl
      rw [find?_bypass, if_pos rfl] at hfind
      cases hfind
    rw [find?_bypass_of_ne hyr] at hfind
    obtain ⟨d, hd, rfl⟩ := Option.map_eq_some_iff.mp hfind
    obtain rfl := Table.find?_eq_some_id hd
    refine List.mem_map_of_mem (List.mem_filter.mpr ⟨?_, by simpa using hyr⟩)
    by_cases hlast : last = some r.id
    · -- the trail came back to the block, so what the block links to comes behind it
      have hmem : r ∈ l := h.stops r (by rw [hlast]; exact hr)
      rw [skirt, if_pos hlast] at hy
      obtain ⟨l₁, l₂, rfl⟩ := List.append_of_mem hmem
      obtain ⟨-, -, h2⟩ := h.path.split_cons
      rw [hy] at h2
      cases h2 with
      | nil => exact absurd (Option.some.inj hlast) hyr
      | cons he _ =>
        rw [hd] at he
        cases he
        simp
    · rw [skirt, if_neg hlast] at hy
      exact h.stops d (by rw [hy]; exact hd)

end Bypass

/-! ## The chain after an edit -/

/-- A block that is put in behind a block of the chain leaves the last link as it was. -/
theorem chain_of_splice {a : Block} {l₁ l₂ : List Block} (hs : h.start = g.start)
    (ht : h.table = splice g.table a.id b) (hb : g.find? b.id = none)
    (hchain : g.chain = l₁ ++ a :: l₂) :
    h.chain = l₁ ++ ⟨a.id, a.kind, some b.id⟩ :: ⟨b.id, b.kind, a.next⟩ :: l₂ ∧
      h.lastLink = g.lastLink := by
  have htrail := g.trail_chain
  rw [hchain] at htrail
  refine chain_eq_of_trail ?_
  rw [hs, ht]
  exact trail_splice htrail hb

theorem chain_of_splice_of_not_mem (hs : h.start = g.start)
    (ht : h.table = splice g.table after b) (hb : g.find? b.id = none)
    (hafter : after ∉ g.chainIds) (hlast : g.lastLink ≠ some b.id) :
    h.chain = g.chain ∧ h.lastLink = g.lastLink := by
  refine chain_eq_of_trail ?_
  rw [hs, ht]
  exact trail_splice_of_not_mem g.trail_chain hb
    (fun c hc he => hafter (mem_chainIds.mpr ⟨c, hc, he⟩)) hlast

theorem chain_of_bypass (hs : h.start = g.start) (ht : h.table = bypass g.table b)
    (hb : g.find? b.id = some b) (hne : b.id ≠ g.start) :
    h.chain = (g.chain.filter fun c => c.id != b.id).map (skirted b) ∧
      h.lastLink = skirt b g.lastLink := by
  refine chain_eq_of_trail ?_
  rw [hs, ht]
  exact trail_bypass g.trail_chain hb (Ne.symm hne)

/-- The place behind an item of a list is the place of what comes behind it. -/
theorem insertIdx_idxOf_succ {a x : BlockId} {l₂ : List BlockId} :
    ∀ {l₁ : List BlockId}, (l₁ ++ a :: l₂).Nodup →
      (l₁ ++ a :: l₂).insertIdx ((l₁ ++ a :: l₂).idxOf a + 1) x = l₁ ++ a :: x :: l₂
  | [], _ => by
    rw [List.nil_append, List.idxOf_cons_self, List.insertIdx_succ_cons, List.insertIdx_zero]
    rfl
  | c :: l₁, h => by
    rw [List.cons_append, List.nodup_cons] at h
    have hne : c ≠ a := fun he => h.1 (he ▸ List.mem_append_right _ List.mem_cons_self)
    rw [List.cons_append, List.idxOf_cons, beq_false_of_ne hne, cond_false,
      List.insertIdx_succ_cons, insertIdx_idxOf_succ h.2]
    rfl

theorem chainIds_insertAfter (hok : g.insertAfter after b = .ok h) (hmem : after ∈ g.chainIds) :
    h.chainIds = g.chainIds.insertIdx (g.chainIds.idxOf after + 1) b.id := by
  obtain ⟨hb, -, hs, ht⟩ := insertAfter_eq_ok_iff.mp hok
  obtain ⟨a, ha, rfl⟩ := mem_chainIds.mp hmem
  obtain ⟨l₁, l₂, hl⟩ := List.append_of_mem ha
  have hids : g.chainIds = l₁.map Block.id ++ a.id :: l₂.map Block.id := by
    rw [chainIds, hl, List.map_append, List.map_cons]
  rw [hids, insertIdx_idxOf_succ (hids ▸ g.nodup_chainIds), chainIds,
    (chain_of_splice hs ht hb hl).1]
  simp

/-- The tail is the last id of the chain. -/
theorem getLast?_chainIds (g : Graph) : g.chainIds.getLast? = some g.tail := by
  obtain ⟨b, hb, hid, -⟩ := g.getLast?_chain
  rw [chainIds, List.getLast?_map, hb, Option.map_some, hid]

theorem tail_mem_chainIds (g : Graph) : g.tail ∈ g.chainIds :=
  List.mem_of_getLast? g.getLast?_chainIds

theorem chainIds_append (hok : g.append b = .ok h) : h.chainIds = g.chainIds ++ [b.id] := by
  obtain ⟨init, hinit⟩ := List.getLast?_eq_some_iff.mp g.getLast?_chainIds
  rw [chainIds_insertAfter hok g.tail_mem_chainIds, hinit,
    insertIdx_idxOf_succ (hinit ▸ g.nodup_chainIds), List.append_assoc]
  rfl

theorem chainIds_remove (hok : g.remove id = .ok (b, h)) : h.chainIds = g.chainIds.erase id := by
  obtain ⟨hne, hb, hs, ht⟩ := remove_eq_ok_iff.mp hok
  obtain rfl := Table.find?_eq_some_id hb
  rw [g.nodup_chainIds.erase_eq_filter, chainIds, chainIds, (chain_of_bypass hs ht hb hne).1,
    List.filter_map, List.map_map]
  rfl

/-! ## What stays as it is -/

theorem contains_insertAfter (hok : g.insertAfter after b = .ok h) (x : BlockId) :
    h.contains x = true ↔ x = b.id ∨ g.contains x = true := by
  obtain ⟨-, -, -, ht⟩ := insertAfter_eq_ok_iff.mp hok
  rw [contains, Table.contains, ht, find?_splice]
  split
  · next he => simp [he]
  · next he =>
    rw [Option.isSome_map]
    simp [Ne.symm he, contains, Table.contains]

theorem contains_remove (hok : g.remove id = .ok (b, h)) (x : BlockId) :
    h.contains x = true ↔ x ≠ id ∧ g.contains x = true := by
  obtain ⟨-, hb, -, ht⟩ := remove_eq_ok_iff.mp hok
  obtain rfl := Table.find?_eq_some_id hb
  rw [contains, Table.contains, ht, find?_bypass]
  split
  · next he => simp [he]
  · next he =>
    rw [Option.isSome_map]
    simp [he, contains, Table.contains]

/--
All blocks but `id` stay, with their kinds, and no others come. Those that are not `relinked` also keep
their links.
-/
structure OthersStay (g h : Graph) (id : BlockId) (relinked : Block → Prop) : Prop where
  kinds : ∀ x, x ≠ id → (h.find? x).map Block.kind = (g.find? x).map Block.kind
  links : ∀ c, g.find? c.id = some c → c.id ≠ id → ¬ relinked c → h.find? c.id = some c

theorem othersStay_insertAfter (hok : g.insertAfter after b = .ok h) :
    OthersStay g h b.id fun c => c.id = after := by
  obtain ⟨hb, -, -, ht⟩ := insertAfter_eq_ok_iff.mp hok
  constructor
  · intro x hx
    rw [find?, find?, ht, find?_splice, if_neg (Ne.symm hx), Option.map_map]
    rfl
  · intro c hc _ hne
    rw [find?, ht]
    exact find?_splice_of_ne hc hb hne

theorem othersStay_remove (hok : g.remove id = .ok (b, h)) :
    OthersStay g h id fun c => c.next = some id := by
  obtain ⟨-, hb, -, ht⟩ := remove_eq_ok_iff.mp hok
  obtain rfl := Table.find?_eq_some_id hb
  constructor
  · intro x hx
    rw [find?, find?, ht, find?_bypass_of_ne hx, Option.map_map]
    rfl
  · intro c hc hx hne
    rw [find?, ht, find?_bypass_of_ne hx, show g.table.find? c.id = some c from hc,
      Option.map_some, skirted, skirt, if_neg hne]

/--
**Edits act on the chain as on a list.** A block put in behind a block of the chain comes right behind
it, one that is appended comes last, one that is taken out is left out, and everything else stays as it
is. A block that is put in may carry any link along, and the links of the graph may be any.
-/
theorem chain_edits (g : Graph) :
    (∀ {after : BlockId} {b : Block} {h : Graph}, g.insertAfter after b = .ok h →
      (after ∈ g.chainIds → h.chainIds = g.chainIds.insertIdx (g.chainIds.idxOf after + 1) b.id) ∧
      OthersStay g h b.id fun c => c.id = after) ∧
    (∀ {b : Block}, (g.contains b.id = false → ∃ h, g.append b = .ok h) ∧
      ∀ {h : Graph}, g.append b = .ok h →
        h.chainIds = g.chainIds ++ [b.id] ∧ OthersStay g h b.id fun c => c.id = g.tail) ∧
    (∀ {id : BlockId} {b : Block} {h : Graph}, g.remove id = .ok (b, h) →
      h.chainIds = g.chainIds.erase id ∧ OthersStay g h id fun c => c.next = some id) := by
  refine ⟨?_, ?_, ?_⟩
  · exact fun hok => ⟨chainIds_insertAfter hok, othersStay_insertAfter hok⟩
  · exact ⟨exists_append, fun hok => ⟨chainIds_append hok, othersStay_insertAfter hok⟩⟩
  · exact fun hok => ⟨chainIds_remove hok, othersStay_remove hok⟩

end BlockPlayer.Graph
