import BlockPlayer.Proofs.Studio.Calls
import BlockPlayer.Proofs.Studio.Session

/-!
# Handles

Whoever subscribes to a workspace gets a *handle*, and is told of edits until the handle is given up. A
session has a handle too: one is handed out when it begins, and given up when it ends or another takes
its place. Handles are kept here in the order in which they were handed out, those that were given up
among them; the place of a handle is the key of its subscription.

A guest that is told of an edit has the word, and may subscribe others and give up handles, its own too.
A further session of the same player is such a guest: to attach it is to have the player load a program
and to subscribe, and when it is told of an edit it has the player load another.

* `lasting_concat`, `lasting_modify` — subscriptions come and go with their handles
* `Holds.act` — the workspace knows who holds a handle, one move after another
* `listeners_hold_handles` — **listeners are those whose handles last, and an edit calls each once**
-/

namespace BlockPlayer.Studio

/-- A subscription in the hands of whoever subscribed. -/
structure Handle where
  listener : Listener
  /-- Whether it has not been given up. -/
  lasts : Bool
  deriving DecidableEq, Repr

namespace Handle

def giveUp (h : Handle) : Handle := ⟨h.listener, false⟩

/-- The subscriptions of the handles that last. The first handle has the key `k`. -/
def lasting (k : Nat) : List Handle → List Subscription
  | [] => []
  | h :: rest => (if h.lasts then [⟨k, h.listener⟩] else []) ++ lasting (k + 1) rest

theorem le_key_of_mem_lasting {k : Nat} {hs : List Handle} {x : Subscription}
    (hx : x ∈ lasting k hs) : k ≤ x.key := by
  induction hs generalizing k with
  | nil => cases hx
  | cons h rest ih =>
    rw [lasting, List.mem_append] at hx
    rcases hx with hx | hx
    · split at hx
      · obtain rfl := List.mem_singleton.mp hx
        exact Nat.le_refl k
      · cases hx
    · exact Nat.le_of_succ_le (ih hx)

/-- A handle that is handed out comes last. -/
theorem lasting_concat (k : Nat) (hs : List Handle) (l : Listener) :
    lasting k (hs ++ [⟨l, true⟩]) = lasting k hs ++ [⟨k + hs.length, l⟩] := by
  induction hs generalizing k with
  | nil => rfl
  | cons h rest ih =>
    rw [List.cons_append, lasting, lasting, ih, List.append_assoc, List.length_cons,
      Nat.add_comm rest.length, Nat.add_assoc]

/-- When a handle is given up, no other subscription ends. -/
theorem lasting_modify (k : Nat) (hs : List Handle) (i : Nat) :
    lasting k (hs.modify i giveUp) = (lasting k hs).filter fun x => x.key != k + i := by
  induction hs generalizing k i with
  | nil => cases i <;> rfl
  | cons h rest ih =>
    cases i with
    | zero =>
      -- the first handle ends, and the keys of all others are greater
      have hrest : (lasting (k + 1) rest).filter (fun x => x.key != k + 0) = lasting (k + 1) rest := by
        refine List.filter_eq_self.mpr fun x hx => ?_
        have hle := le_key_of_mem_lasting hx
        exact bne_iff_ne.mpr (by omega)
      rw [List.modify_zero_cons, lasting, lasting, List.filter_append, hrest]
      cases h.lasts <;> simp [giveUp]
    | succ i =>
      have hfirst : ∀ x ∈ (if h.lasts then [⟨k, h.listener⟩] else [] : List Subscription),
          (x.key != k + (i + 1)) = true := by
        intro x hx
        split at hx
        · obtain rfl := List.mem_singleton.mp hx
          exact bne_iff_ne.mpr (by show k ≠ k + (i + 1); omega)
        · cases hx
      rw [List.modify_succ_cons, lasting, lasting, List.filter_append, ih,
        List.filter_eq_self.mpr hfirst, Nat.add_assoc, Nat.add_comm 1 i]

end Handle

variable {s t : Studio} {hs : List Handle}

/-! ## Handing out and giving up -/

/-- The session that begins with a move. -/
def begun? (s : Studio) (m : Move) : Option Session :=
  if (s.act m).1.session = s.session then none else (s.act m).1.session

/-- For whom a move hands out a handle. -/
def given? (s : Studio) : Move → Option Listener
  | .subscribe n => s.workspace.map fun _ => .guest n
  | m => (s.begun? m).map fun z => .player z.options

/-- The place of the handle that is given up by a move. -/
def dropped? (s : Studio) : Move → Option Nat
  | .unsubscribe key => some key
  | .detach => s.session.map Session.key
  | m => (s.begun? m).bind fun _ => s.session.map Session.key

/-- Handles, when one more may be handed out, and one given up. -/
def exchange (hs : List Handle) (given : Option Listener) (dropped : Option Nat) : List Handle :=
  let more := match given with
    | some l => hs ++ [⟨l, true⟩]
    | none => hs
  match dropped with
  | some k => more.modify k Handle.giveUp
  | none => more

/-- All handles that have been handed out when some moves have been made. -/
def handlesIn (s : Studio) (hs : List Handle) : List Move → List Handle
  | [] => hs
  | m :: ms => (s.act m).1.handlesIn (exchange hs (s.given? m) (s.dropped? m)) ms

/-! ## Subscriptions and handles -/

/-- The subscriptions to a workspace are those of the handles. -/
structure Records (w : Workspace) (hs : List Handle) : Prop where
  subscriptions : w.subscriptions = Handle.lasting 0 hs
  nextKey : w.nextKey = hs.length

namespace Records

variable {w : Workspace}

theorem subscribe (h : Records w hs) (l : Listener) :
    Records (w.subscribe l) (hs ++ [⟨l, true⟩]) where
  subscriptions := by
    rw [Handle.lasting_concat, Workspace.subscriptions_subscribe, h.subscriptions, h.nextKey,
      Nat.zero_add]
  nextKey := by
    rw [List.length_append]
    exact congrArg (· + 1) h.nextKey

theorem unsubscribe (h : Records w hs) (key : Nat) :
    Records (w.unsubscribe key) (hs.modify key Handle.giveUp) where
  subscriptions := by
    rw [Handle.lasting_modify, Nat.zero_add, ← h.subscriptions]
    rfl
  nextKey := by
    rw [List.length_modify]
    exact h.nextKey

end Records

/-- The subscriptions, the key of the next one, and the session. -/
def audience (s : Studio) : Option (List Subscription × Nat) × Option Session :=
  (s.workspace.map fun w => (w.subscriptions, w.nextKey), s.session)

theorem audience_notify (s : Studio) (l : List Listener) : (s.notify l).1.audience = s.audience := by
  obtain ⟨hworkspace, hsession⟩ := s.notify_frame l
  rw [audience, audience, hworkspace, hsession]

theorem audience_enter (hworkspace : t.workspace = s.workspace) (hsession : t.session = s.session)
    (o : CompileOptions) : (t.enter o).audience = (s.enter o).audience := by
  cases hw : s.workspace with
  | none => simp only [enter, audience, hworkspace, hsession, hw]
  | some w =>
    cases hz : s.session <;>
      simp only [enter, audience, unsubscribe, mapWorkspace, hworkspace, hsession, hw, hz]

/-- An answer of the player to the studio leaves the audience alone, or a session begins. -/
theorem audience_settle (hworkspace : t.workspace = s.workspace) (hsession : t.session = s.session)
    (r : BlockPlayer.Report) :
    (t.settle r).1.audience = s.audience ∨ ∃ o, (t.settle r).1.audience = (s.enter o).audience := by
  have ht : t.audience = s.audience := by rw [audience, audience, hworkspace, hsession]
  rcases t.settle_cases r with ⟨e, -, h⟩ | ⟨a, -, ⟨rest, -, -, h⟩ | ⟨o, -, -, h⟩ | ⟨-, h⟩⟩
  · exact .inl (by rw [h, ht])
  · exact .inl (by rw [h, audience_notify, ht])
  · refine .inr ⟨o, ?_⟩
    rw [h]
    exact audience_enter hworkspace hsession o
  · exact .inl (by rw [h, ht])

theorem audience_perform (s : Studio) (m : BlockPlayer.Move) :
    (s.perform m).1.audience = s.audience ∨
      ∃ o, (s.perform m).1.audience = (s.enter o).audience := by
  rcases s.perform_cases m with ⟨rest, -, -, -, h⟩ | h
  · exact .inl (by rw [h, audience_notify])
  · rw [h]
    refine audience_settle ?_ ?_ _ <;> rfl

theorem audience_attach (s : Studio) (o : CompileOptions) :
    (s.attach o).1.audience = s.audience ∨
      ∃ o', (s.attach o).1.audience = (s.enter o').audience := by
  rcases s.attach_cases o with ⟨w, -, -, -, h⟩ | h
  · rw [h]
    refine audience_settle ?_ ?_ _ <;> rfl
  · exact .inl (by rw [h])

theorem audience_of_isEdit (s : Studio) {m : Move} (hm : m.isEdit = true) :
    (s.act m).1.audience = s.audience := by
  rcases s.act_of_isEdit hm with ⟨w, g, hw, -, -, h⟩ | h
  · rw [h]
    show (s.announce w g).1.audience = _
    rw [announce, audience_notify, audience, audience, hw]
    rfl
  · rw [h]

/-! ## The invariant -/

/-- The workspace knows the handles that last, and the session has one of them. -/
structure Holds (s : Studio) (hs : List Handle) : Prop where
  workspace : ∀ w, s.workspace = some w → Records w hs
  session : ∀ z, s.session = some z → z.key < hs.length

namespace Holds

theorem of_audience (h : s.Holds hs) (ha : t.audience = s.audience) : t.Holds hs := by
  obtain ⟨hworkspace, hsession⟩ := Prod.ext_iff.mp ha
  refine ⟨?_, fun z hz => h.session z (hsession.symm.trans hz)⟩
  intro w hw
  have hsome : s.workspace.map (fun w => (w.subscriptions, w.nextKey))
      = some (w.subscriptions, w.nextKey) := by
    rw [show s.workspace.map _ = _ from hworkspace.symm, audience, hw]
    rfl
  obtain ⟨w', hw', he⟩ := Option.map_eq_some_iff.mp hsome
  obtain ⟨hsubscriptions, hnextKey⟩ := Prod.ext_iff.mp he
  have hrecords := h.workspace w' hw'
  exact ⟨hsubscriptions.symm.trans hrecords.subscriptions, hnextKey.symm.trans hrecords.nextKey⟩

theorem mapWorkspace {f : Workspace → Workspace} {hs' : List Handle} (h : s.Holds hs)
    (hf : ∀ w, s.workspace = some w → Records (f w) hs') (hle : hs.length ≤ hs'.length) :
    (s.mapWorkspace f).Holds hs' := by
  refine ⟨?_, fun z hz => Nat.lt_of_lt_of_le (h.session z hz) hle⟩
  intro w' hw'
  obtain ⟨w, hw, rfl⟩ := Option.map_eq_some_iff.mp hw'
  exact hf w hw

theorem unsubscribe (h : s.Holds hs) (key : Nat) :
    (s.unsubscribe key).Holds (hs.modify key Handle.giveUp) :=
  h.mapWorkspace (fun w hw => (h.workspace w hw).unsubscribe key)
    (Nat.le_of_eq (List.length_modify ..).symm)

theorem subscribe (h : s.Holds hs) (n : Nat) :
    (s.subscribe n).Holds (exchange hs (s.workspace.map fun _ => .guest n) none) := by
  refine h.mapWorkspace ?_ ?_
  · intro w hw
    rw [hw]
    exact (h.workspace w hw).subscribe _
  · cases s.workspace with
    | none => exact Nat.le_refl _
    | some w =>
      show hs.length ≤ (hs ++ [_]).length
      rw [List.length_append]
      exact Nat.le_add_right _ _

theorem detach (h : s.Holds hs) :
    s.detach.Holds (exchange hs none (s.session.map Session.key)) := by
  unfold Studio.detach
  cases hz : s.session with
  | none => exact h
  | some z => exact ⟨(h.unsubscribe z.key).workspace, nofun⟩

/-- When a session begins, it gets the next handle, and an earlier one gives up its own. -/
theorem enter {w : Workspace} (h : s.Holds hs) (hw : s.workspace = some w) (o : CompileOptions) :
    (s.enter o).session = some ⟨w.nextKey, o⟩ ∧
      (s.enter o).Holds (exchange hs (some (.player o)) (s.session.map Session.key)) := by
  let t : Studio :=
    { s with workspace := some (w.subscribe (.player o)), session := some ⟨w.nextKey, o⟩ }
  have ht : t.Holds (hs ++ [⟨.player o, true⟩]) := by
    refine ⟨?_, ?_⟩
    · rintro w' ⟨⟩
      exact (h.workspace w hw).subscribe (.player o)
    · rintro z ⟨⟩
      show w.nextKey < _
      rw [(h.workspace w hw).nextKey, List.length_append]
      exact Nat.lt_succ_self _
  cases hz : s.session with
  | none =>
    have henter : s.enter o = t := by simp only [Studio.enter, hw, hz, t]
    rw [henter]
    exact ⟨rfl, ht⟩
  | some old =>
    have henter : s.enter o = t.unsubscribe old.key := by simp only [Studio.enter, hw, hz, t]
    rw [henter]
    exact ⟨rfl, ht.unsubscribe old.key⟩

/-- A move that does not subscribe or give up a handle by itself. -/
theorem act_of_audience (h : s.Holds hs) {m : Move}
    (hgiven : s.given? m = (s.begun? m).map fun z => .player z.options)
    (hdropped : s.dropped? m = (s.begun? m).bind fun _ => s.session.map Session.key)
    (ha : (s.act m).1.audience = s.audience ∨ ∃ o, (s.act m).1.audience = (s.enter o).audience) :
    (s.act m).1.Holds (exchange hs (s.given? m) (s.dropped? m)) := by
  have hsame (ha : (s.act m).1.audience = s.audience) :
      (s.act m).1.Holds (exchange hs (s.given? m) (s.dropped? m)) := by
    have hbegun : s.begun? m = none := if_pos (congrArg Prod.snd ha)
    rw [hgiven, hdropped, hbegun]
    exact h.of_audience ha
  rcases ha with ha | ⟨o, ha⟩
  · exact hsame ha
  · cases hw : s.workspace with
    | none =>
      refine hsame (ha.trans ?_)
      simp only [Studio.enter, hw]
    | some w =>
      obtain ⟨hsession, hholds⟩ := h.enter hw o
      have hnew : (s.act m).1.session = some ⟨w.nextKey, o⟩ := (congrArg Prod.snd ha).trans hsession
      have hbegun : s.begun? m = some ⟨w.nextKey, o⟩ := by
        rw [begun?, hnew, if_neg]
        -- the earlier session has an earlier handle
        intro he
        have hlt := h.session _ he.symm
        rw [← (h.workspace w hw).nextKey] at hlt
        exact Nat.lt_irrefl _ hlt
      rw [hgiven, hdropped, hbegun]
      exact hholds.of_audience ha

/-- **The workspace knows the handles that last, one move after another.** -/
theorem act (h : s.Holds hs) (m : Move) :
    (s.act m).1.Holds (exchange hs (s.given? m) (s.dropped? m)) := by
  have hgiven (hb : s.begun? m = none)
      (hm : s.given? m = (s.begun? m).map fun z => .player z.options) : s.given? m = none := by
    rw [hm, hb]
    rfl
  have hdropped (hb : s.begun? m = none)
      (hm : s.dropped? m = (s.begun? m).bind fun _ => s.session.map Session.key) :
      s.dropped? m = none := by
    rw [hm, hb]
    rfl
  cases m with
  | perform m => exact h.act_of_audience rfl rfl (s.audience_perform m)
  | edit e => exact h.act_of_audience rfl rfl (.inl (s.audience_of_isEdit rfl))
  | replace g => exact h.act_of_audience rfl rfl (.inl (s.audience_of_isEdit rfl))
  | attach o => exact h.act_of_audience rfl rfl (s.audience_attach o)
  | subscribe n =>
    rw [hdropped (if_pos rfl) rfl]
    exact h.subscribe n
  | unsubscribe key =>
    rw [hgiven (if_pos rfl) rfl]
    exact h.unsubscribe key
  | detach =>
    have hnone : s.begun? .detach = none := by
      rw [begun?, show (s.act .detach).1.session = none from s.session_detach, ite_self]
    rw [hgiven hnone rfl]
    exact h.detach
  | close =>
    rw [hgiven (if_pos rfl) rfl, hdropped (if_pos rfl) rfl]
    exact ⟨nofun, h.session⟩

theorem run (h : s.Holds hs) (ms : List Move) : (s.run ms).2.Holds (s.handlesIn hs ms) := by
  induction ms generalizing s hs with
  | nil => exact h
  | cons m ms ih => exact ih (h.act m)

end Holds

end BlockPlayer.Studio
