import BlockPlayer.Json.Printer
import BlockPlayer.Json.Reader
import BlockPlayer.Proofs.Json.Quoted

/-!
# Written values read back

Two stages lie between a written value and its draft, and each is undone by itself.

* `tokens_write` — what is written for a value is split into the tokens of the value (`spelled`), with
  or without blanks
* `build_spelled` — the tokens of a value build its draft
* `draft_write` — **so the draft of a written value is the draft of the value**

Numbers are left out: a value is `NumberFree` if it holds none.
-/

namespace BlockPlayer.Json

/-! ## The tokens of a value -/

mutual

/-- The tokens of a value, in the order in which they are written. -/
def spelled : Json → List Token
  | .null => [.null]
  | .bool b => [.bool b]
  | .number n => [.number (some n)]
  | .text s => [.text (.ok s)]
  | .array [] => [.openArray, .closeArray]
  | .array (j :: rest) => .openArray :: (spelled j ++ spelledItems rest ++ [.closeArray])
  | .object [] => [.openObject, .closeObject]
  | .object ((name, j) :: rest) =>
    .openObject :: .text (.ok name) :: .colon
      :: (spelled j ++ spelledMembers rest ++ [.closeObject])
termination_by structural j => j

/-- The tokens of the items of an array after the first. -/
def spelledItems : List Json → List Token
  | [] => []
  | j :: rest => .comma :: (spelled j ++ spelledItems rest)
termination_by structural js => js

/-- The tokens of the members of an object after the first. -/
def spelledMembers : List (String × Json) → List Token
  | [] => []
  | (name, j) :: rest => .comma :: .text (.ok name) :: .colon :: (spelled j ++ spelledMembers rest)
termination_by structural ms => ms

end

mutual

/-- There is no number in a value. -/
def NumberFree : Json → Prop
  | .number _ => False
  | .array items => NumberFreeItems items
  | .object members => NumberFreeMembers members
  | .null | .bool _ | .text _ => True
termination_by structural j => j

def NumberFreeItems : List Json → Prop
  | [] => True
  | j :: rest => NumberFree j ∧ NumberFreeItems rest
termination_by structural js => js

def NumberFreeMembers : List (String × Json) → Prop
  | [] => True
  | (_, j) :: rest => NumberFree j ∧ NumberFreeMembers rest
termination_by structural ms => ms

end

theorem numberFreeItems_iff {items : List Json} :
    NumberFreeItems items ↔ ∀ j ∈ items, NumberFree j := by
  induction items with
  | nil => simp [NumberFreeItems]
  | cons j rest ih => simp [NumberFreeItems, ih]

/-! ## Splitting what was written -/

theorem tokens_blank {c : Char} (h : isBlank c = true) (s : List Char) :
    tokens (c :: s) = tokens s := by
  rw [tokens, if_pos h]

theorem tokens_of_tokenOf {c : Char} {s rest : List Char} {t : Token} (hb : isBlank c = false)
    (h : tokenOf c s = (t, some rest)) : tokens (c :: s) = t :: tokens rest := by
  rw [tokens, if_neg (by simp [hb])]
  split
  · next he => rw [h] at he; cases he
  · next he =>
    rw [h] at he
    cases he
    rfl

/-- Blanks between tokens are dropped. -/
theorem tokens_replicate_blank (n : Nat) (s : List Char) :
    tokens (List.replicate n ' ' ++ s) = tokens s := by
  induction n with
  | zero => rfl
  | succ n ih => rw [List.replicate_succ, List.cons_append, tokens_blank (by decide), ih]

theorem tokens_gap (lines : Bool) (depth : Nat) (s : List Char) :
    tokens (gap lines depth ++ s) = tokens s := by
  cases lines with
  | false => rfl
  | true =>
    rw [gap, if_pos rfl, List.cons_append, tokens_blank (by decide), tokens_replicate_blank]

theorem tokens_mark {c : Char} {t : Token} (h : mark? c = some t) (s : List Char) :
    tokens (c :: s) = t :: tokens s := by
  refine tokens_of_tokenOf ?_ (by rw [tokenOf, h])
  cases hb : isBlank c with
  | false => rfl
  | true =>
    -- no blank is a mark
    simp only [isBlank, Bool.or_eq_true, decide_eq_true_eq] at hb
    rcases hb with ((rfl | rfl) | rfl) | rfl <;> cases h

theorem tokens_quote (s : String) (rest : List Char) :
    tokens (quote s ++ rest) = .text (.ok s) :: tokens rest := by
  rw [quote, List.cons_append, List.append_assoc, List.singleton_append]
  refine tokens_of_tokenOf (by decide) ?_
  have hmark : mark? '"' = none := by decide
  rw [tokenOf, hmark]
  simp only [if_true]
  rw [textToken, scan_encode]
  simp only [join_pieceOf, Except.map, String.ofList_toList]

theorem tokens_writeName (lines : Bool) (name : String) (rest : List Char) :
    tokens (writeName lines name ++ rest) = .text (.ok name) :: .colon :: tokens rest := by
  rw [writeName, List.append_assoc, tokens_quote]
  cases lines with
  | false => rw [if_neg (by decide), List.singleton_append, tokens_mark (by rfl)]
  | true =>
    rw [if_pos rfl]
    show _ :: tokens (':' :: ' ' :: rest) = _
    rw [tokens_mark (by rfl), tokens_blank (by decide)]

/-- A word is a token. -/
theorem tokens_word {c : Char} {letters : List Char} {t : Token} (hb : isBlank c = false)
    (hm : mark? c = none) (hq : c ≠ '"') (hd : ¬ (c = '-' ∨ c.isDigit))
    (hw : word? c = some (letters, t)) (rest : List Char) :
    tokens (c :: (letters ++ rest)) = t :: tokens rest := by
  have hexpect : ∀ l : List Char, expect l (l ++ rest) = .ok rest := by
    intro l
    induction l with
    | nil => rfl
    | cons c l ih => rw [List.cons_append, expect, if_pos rfl, ih]
  refine tokens_of_tokenOf hb ?_
  rw [tokenOf, hm]
  simp only [hq, if_false, hd, hw, hexpect]

mutual

/-- **A written value is split into its tokens.** -/
theorem tokens_write (lines : Bool) : ∀ (depth : Nat) (j : Json) (rest : List Char), NumberFree j →
    tokens (write lines depth j ++ rest) = spelled j ++ tokens rest
  | _, .null, rest, _ =>
    tokens_word (by decide) (by decide) (by decide) (by decide) rfl rest
  | _, .bool true, rest, _ =>
    tokens_word (by decide) (by decide) (by decide) (by decide) rfl rest
  | _, .bool false, rest, _ =>
    tokens_word (by decide) (by decide) (by decide) (by decide) rfl rest
  | _, .text s, rest, _ => tokens_quote s rest
  | _, .array [], rest, _ => by
    show tokens ('[' :: ']' :: rest) = _
    rw [tokens_mark (by rfl), tokens_mark (by rfl)]
    rfl
  | depth, .array (j :: js), rest, h => by
    simp only [write, spelled, List.cons_append, List.append_assoc, List.nil_append]
    rw [tokens_mark (by rfl), tokens_gap, tokens_write lines _ j _ h.1,
      tokens_writeItems lines _ js _ h.2, tokens_gap, tokens_mark (by rfl)]
  | _, .object [], rest, _ => by
    show tokens ('\x7b' :: '\x7d' :: rest) = _
    rw [tokens_mark (by rfl), tokens_mark (by rfl)]
    rfl
  | depth, .object ((name, j) :: ms), rest, h => by
    simp only [write, spelled, List.cons_append, List.append_assoc, List.nil_append]
    rw [tokens_mark (by rfl), tokens_gap, tokens_writeName, tokens_write lines _ j _ h.1,
      tokens_writeMembers lines _ ms _ h.2, tokens_gap, tokens_mark (by rfl)]

theorem tokens_writeItems (lines : Bool) : ∀ (depth : Nat) (js : List Json) (rest : List Char),
    NumberFreeItems js → tokens (writeItems lines depth js ++ rest) = spelledItems js ++ tokens rest
  | _, [], _, _ => rfl
  | depth, j :: js, rest, h => by
    simp only [writeItems, spelledItems, List.cons_append, List.append_assoc]
    rw [tokens_mark (by rfl), tokens_gap, tokens_write lines _ j _ h.1,
      tokens_writeItems lines _ js _ h.2]

theorem tokens_writeMembers (lines : Bool) :
    ∀ (depth : Nat) (ms : List (String × Json)) (rest : List Char), NumberFreeMembers ms →
      tokens (writeMembers lines depth ms ++ rest) = spelledMembers ms ++ tokens rest
  | _, [], _, _ => rfl
  | depth, (name, j) :: ms, rest, h => by
    simp only [writeMembers, spelledMembers, List.cons_append, List.append_assoc]
    rw [tokens_mark (by rfl), tokens_gap, tokens_writeName, tokens_write lines _ j _ h.1,
      tokens_writeMembers lines _ ms _ h.2]

end

/-! ## Building the draft -/

/-- What comes of a step and of the tokens behind it. -/
def Step.run : Step → List Token → Draft × List Token
  | .continue s, rest => build rest s
  | .complete d, rest => (d, rest)
  | .halt d, _ => (d, [])

theorem build_cons (t : Token) (rest : List Token) (s : State) :
    build (t :: rest) s = (step s t).run rest := by
  rw [build]
  cases step s t <;> rfl

/-- Where a first item may come, values begin as they do elsewhere. -/
theorem build_firstItem (j : Json) (rest : List Token) (outer : List Open) :
    build (spelled j ++ rest) (.firstItem outer)
      = build (spelled j ++ rest) (.value (.array [] :: outer)) := by
  match j with
  | .null | .bool _ | .number _ | .text _ | .array [] | .array (_ :: _) | .object []
  | .object (_ :: _) =>
    simp only [spelled, List.cons_append]
    rw [build_cons, build_cons]
    rfl

theorem itemsToDraft_eq (js : List Json) : itemsToDraft js = js.map toDraft := by
  induction js with
  | nil => rfl
  | cons j rest ih => rw [itemsToDraft, ih, List.map_cons]

mutual

/-- **The tokens of a value build its draft.** -/
theorem build_spelled : ∀ (j : Json) (rest : List Token) (outer : List Open),
    build (spelled j ++ rest) (.value outer) = (finish (toDraft j) outer).run rest
  | .null, rest, outer => by rw [spelled, List.singleton_append, build_cons]; rfl
  | .bool b, rest, outer => by rw [spelled, List.singleton_append, build_cons]; rfl
  | .number n, rest, outer => by rw [spelled, List.singleton_append, build_cons]; rfl
  | .text s, rest, outer => by rw [spelled, List.singleton_append, build_cons]; rfl
  | .array [], rest, outer => by
    show build (.openArray :: .closeArray :: rest) _ = _
    rw [build_cons]
    show build (.closeArray :: rest) (.firstItem outer) = _
    rw [build_cons]
    rfl
  | .array (j :: js), rest, outer => by
    simp only [spelled, List.cons_append, List.append_assoc, List.nil_append]
    rw [build_cons]
    show build _ (.firstItem outer) = _
    rw [build_firstItem, build_spelled j]
    show build _ (.afterItem [toDraft j] outer) = _
    rw [build_spelledItems js]
    simp [toDraft, itemsToDraft]
  | .object [], rest, outer => by
    show build (.openObject :: .closeObject :: rest) _ = _
    rw [build_cons]
    show build (.closeObject :: rest) (.firstName outer) = _
    rw [build_cons]
    rfl
  | .object ((name, j) :: ms), rest, outer => by
    simp only [spelled, List.cons_append, List.append_assoc, List.nil_append]
    rw [build_cons]
    show build _ (.firstName outer) = _
    rw [build_cons]
    show build _ (.colon [] (.ok name) outer) = _
    rw [build_cons]
    show build _ (.value (.object [] (.ok name) :: outer)) = _
    rw [build_spelled j]
    show build _ (.afterMember [(.ok name, toDraft j)] outer) = _
    rw [build_spelledMembers ms]
    simp [toDraft, membersToDraft]

theorem build_spelledItems : ∀ (js : List Json) (items : List Draft) (rest : List Token)
    (outer : List Open),
    build (spelledItems js ++ .closeArray :: rest) (.afterItem items outer)
      = (finish (.array (items.reverse ++ itemsToDraft js) .closed) outer).run rest
  | [], items, rest, outer => by
    -- items are kept last first until their array is closed
    rw [spelledItems, List.nil_append, build_cons, itemsToDraft, List.append_nil]
    rfl
  | j :: js, items, rest, outer => by
    simp only [spelledItems, List.cons_append, List.append_assoc]
    rw [build_cons]
    show build _ (.value (.array items :: outer)) = _
    rw [build_spelled j]
    show build _ (.afterItem (toDraft j :: items) outer) = _
    rw [build_spelledItems js, itemsToDraft, List.reverse_cons, List.append_assoc,
      List.singleton_append]

theorem build_spelledMembers : ∀ (ms : List (String × Json)) (members : List (Name × Draft))
    (rest : List Token) (outer : List Open),
    build (spelledMembers ms ++ .closeObject :: rest) (.afterMember members outer)
      = (finish (.object (members.reverse ++ membersToDraft ms) .closed) outer).run rest
  | [], members, rest, outer => by
    rw [spelledMembers, List.nil_append, build_cons, membersToDraft, List.append_nil]
    rfl
  | (name, j) :: ms, members, rest, outer => by
    simp only [spelledMembers, List.cons_append, List.append_assoc]
    rw [build_cons]
    show build _ (.name members outer) = _
    rw [build_cons]
    show build _ (.colon members (.ok name) outer) = _
    rw [build_cons]
    show build _ (.value (.object members (.ok name) :: outer)) = _
    rw [build_spelled j]
    show build _ (.afterMember ((.ok name, toDraft j) :: members) outer) = _
    rw [build_spelledMembers ms, membersToDraft, List.reverse_cons, List.append_assoc,
      List.singleton_append]

end

/-! ## Reading what was written -/

/-- A written value with nothing but blanks behind it has the draft of the value. -/
theorem draft_write_append {j : Json} (h : NumberFree j) (lines : Bool) (depth : Nat)
    {rest : List Char} (hrest : tokens rest = []) :
    draft (write lines depth j ++ rest) = (toDraft j, false) := by
  rw [draft, tokens_write lines depth j rest h, hrest, build_spelled]
  rfl

/-- **The draft of a written value is the draft of the value, and nothing follows it.** -/
theorem draft_write {j : Json} (h : NumberFree j) (lines : Bool) (depth : Nat) :
    draft (write lines depth j) = (toDraft j, false) := by
  have hnil : tokens [] = [] := by rw [tokens]
  rw [← List.append_nil (write lines depth j), draft_write_append h lines depth hnil]

/-- A text that was written for a value is read as the value is. -/
theorem read_write {α : Type} (reader : Draft → Except Error α) {j : Json} (h : NumberFree j)
    (lines : Bool) : read reader (String.ofList (write lines 0 j)) = reader (toDraft j) := by
  rw [read, String.toList_ofList, draft_write h]
  cases hr : reader (toDraft j) <;> simp [hr]

/-- The line in which a written value ends may be over. -/
theorem read_write_newline {α : Type} (reader : Draft → Except Error α) {j : Json}
    (h : NumberFree j) (lines : Bool) :
    read reader (String.ofList (write lines 0 j) ++ "\n") = reader (toDraft j) := by
  have hbreak : tokens "\n".toList = [] := by
    show tokens ['\n'] = []
    rw [tokens_blank (by decide), tokens]
  rw [read, String.toList_append, String.toList_ofList, draft_write_append h lines 0 hbreak]
  cases hr : reader (toDraft j) <;> simp [hr]

theorem readTree_write {j k : Json} (h : NumberFree j) (htree : (toDraft j).tree 0 = .ok k)
    (lines : Bool) : readTree (String.ofList (write lines 0 j)) = .ok k := by
  rw [readTree, read_write _ h, htree]
  rfl

end BlockPlayer.Json
