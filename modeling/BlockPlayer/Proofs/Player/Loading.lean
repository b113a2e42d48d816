import BlockPlayer.Proofs.Player.Change

/-!
# Playing one program

A player that nobody asks to load keeps its program (`Plays.move`). To load amid a run takes more than
one turn, for the callbacks are told of the end of the run first, and whatever they do in the meantime,
the program is loaded in the end (`Loads.move`).
-/

namespace BlockPlayer

namespace Player

/-- A turn that does not have to do with another program. -/
structure Keeps (p : Player) (t : Player × Turn) : Prop where
  program_eq : t.1.program = p.program
  quiet : ∀ e f, t.2 = .tell e f → ∀ q, f ≠ .rewound (some q)

theorem keeps_conclude (p : Player) (cause : Cause) (o : StepOutcome) :
    p.Keeps (p.conclude cause o) where
  program_eq := by
    unfold conclude
    split
    · rfl
    · rfl
    · rfl
    · split <;> rfl
  quiet := by
    intro e f hf
    obtain ⟨a, ha⟩ := p.conclude_eq_answer cause o
    rw [ha] at hf
    cases hf

theorem keeps_advance (p : Player) (cause : Cause) : p.Keeps (p.advance cause) := by
  unfold advance
  split
  · exact ⟨rfl, by rintro e f ⟨⟩ q ⟨⟩⟩
  · exact ⟨rfl, by rintro e f ⟨⟩ q ⟨⟩⟩

theorem keeps_answer {p q : Player} (a : Answer) (h : q.program = p.program) :
    p.Keeps (q, .answer a) := ⟨h, by rintro e f ⟨⟩⟩

theorem keeps_ask (p : Player) {r : Request} (hr : ∀ q, r ≠ .load q) : p.Keeps (p.ask r) := by
  cases r with
  | play =>
    rw [ask]
    split
    · exact keeps_answer _ rfl
    · split
      · exact ⟨rfl, by rintro e f ⟨⟩ q ⟨⟩⟩
      · exact keeps_answer _ rfl
  | step =>
    rw [ask]
    split
    · exact keeps_answer _ rfl
    · exact p.keeps_advance .step
  | stop => exact ⟨rfl, by rintro e f ⟨⟩ q ⟨⟩⟩
  | setSpeed s =>
    rw [ask]
    split <;> exact keeps_answer _ rfl
  | load q => exact absurd rfl (hr q)

theorem keeps_fire (p : Player) (i : Nat) : p.Keeps (p.fire i) := by
  unfold fire
  split
  · exact keeps_answer _ rfl
  · split
    · exact p.keeps_advance _
    · exact keeps_answer _ rfl

theorem keeps_resume (p : Player) {f : Frame} (hf : ∀ q, f ≠ .rewound (some q)) :
    p.Keeps (p.resume f) := by
  cases f with
  | emitted i epoch cause =>
    rw [resume]
    split
    · exact ⟨rfl, by rintro e f ⟨⟩ q ⟨⟩⟩
    · exact p.keeps_conclude cause _
  | marked i cause => exact p.keeps_conclude cause _
  | cleared cause => exact p.keeps_conclude cause _
  | rewound next =>
    cases next with
    | none => exact keeps_answer _ rfl
    | some q => exact absurd rfl (hf q)

end Player

namespace Performance

variable {s : Performance} {q : Program}

/-- The program is `q`, and no other is about to be loaded. -/
structure Plays (s : Performance) (q : Program) : Prop where
  program_eq : s.player.program = q
  quiet : ∀ f ∈ s.waiting, ∀ q', f ≠ .rewound (some q')

/-- The program `q` is loaded when all callbacks have returned. -/
def Loads (s : Performance) (q : Program) : Prop :=
  ∃ above, s.waiting = above ++ [.rewound (some q)]

theorem Loads.ne_nil (h : s.Loads q) : s.waiting ≠ [] := by
  obtain ⟨above, hw⟩ := h
  rw [hw]
  exact List.append_ne_nil_of_right_ne_nil _ (List.cons_ne_nil _ _)

/-- If no callback runs, no other program is about to be loaded. -/
theorem plays_of_nil (h : s.waiting = []) : s.Plays s.player.program := by
  refine ⟨rfl, ?_⟩
  rw [h]
  exact fun f hf => absurd hf List.not_mem_nil

theorem Plays.after (h : s.Plays q) {waiting : List Frame} {t : Player × Turn}
    (hsub : waiting ⊆ s.waiting) (ht : s.player.Keeps t) : (after waiting t).1.Plays q := by
  have hold : ∀ f ∈ waiting, ∀ q', f ≠ .rewound (some q') := fun f hf => h.quiet f (hsub hf)
  have hprogram := ht.program_eq.trans h.program_eq
  obtain ⟨p, turn⟩ := t
  cases turn with
  | answer a => exact ⟨hprogram, hold⟩
  | tell e g =>
    refine ⟨hprogram, ?_⟩
    intro f hf
    rcases List.mem_cons.mp hf with rfl | hf
    · exact ht.quiet e f rfl
    · exact hold f hf

/-- **A program is played as long as nobody asks for another.** -/
theorem Plays.move (h : s.Plays q) {m : Move} (hm : ∀ q', m ≠ .ask (.load q')) :
    (s.move m).1.Plays q := by
  cases m with
  | ask r =>
    rw [move_ask]
    exact h.after (List.Subset.refl _) (s.player.keeps_ask fun q' hr => hm q' (hr ▸ rfl))
  | fire i =>
    rw [move_fire]
    exact h.after (List.Subset.refl _) (s.player.keeps_fire i)
  | back =>
    cases hw : s.waiting with
    | nil =>
      rw [move_back_of_nil hw]
      exact h
    | cons f waiting =>
      rw [move_back_of_cons hw]
      exact h.after (by simp [hw]) (s.player.keeps_resume (h.quiet f (by simp [hw])))

/-- If no callback runs, a program is loaded at once, or the callbacks are told of a stop first. -/
theorem move_load (h : s.waiting = []) (q : Program) :
    (∃ e, (s.move (.ask (.load q))).2 = .told e ∧
      (s.move (.ask (.load q))).1.waiting = [.rewound (some q)]) ∨
    (∃ a, (s.move (.ask (.load q))).2 = .answered a ∧
      (s.move (.ask (.load q))).1.waiting = [] ∧ (s.move (.ask (.load q))).1.Plays q) := by
  rw [move_ask, Player.ask, h]
  split
  · exact .inl ⟨_, rfl, rfl⟩
  · exact .inr ⟨_, rfl, rfl, plays_of_nil rfl⟩

theorem Loads.after {above : List Frame} (t : Player × Turn) :
    (after (above ++ [.rewound (some q)]) t).1.Loads q := by
  obtain ⟨p, turn⟩ := t
  cases turn with
  | answer a => exact ⟨above, rfl⟩
  | tell e g => exact ⟨g :: above, rfl⟩

/-- The program is `q`, or will be when all callbacks have returned. -/
def TurnsTo (s : Performance) (q : Program) : Prop := s.Plays q ∨ s.Loads q

/-- **Callbacks can put off loading a program, but they cannot prevent it.** -/
theorem Loads.move (h : s.Loads q) (m : Move) : (s.move m).1.TurnsTo q := by
  obtain ⟨above, hw⟩ := h
  cases m with
  | ask r =>
    rw [move_ask, hw]
    exact .inr (.after _)
  | fire i =>
    rw [move_fire, hw]
    exact .inr (.after _)
  | back =>
    cases above with
    | nil =>
      rw [move_back_of_cons hw]
      exact .inl (plays_of_nil rfl)
    | cons f above =>
      rw [move_back_of_cons hw]
      exact .inr (.after _)

theorem TurnsTo.move (h : s.TurnsTo q) {m : Move} (hm : ∀ q', m ≠ .ask (.load q')) :
    (s.move m).1.TurnsTo q := by
  rcases h with h | h
  · exact .inl (h.move hm)
  · exact h.move m

theorem TurnsTo.plays (h : s.TurnsTo q) (hw : s.waiting = []) : s.Plays q := by
  rcases h with h | h
  · exact h
  · exact absurd hw h.ne_nil

end Performance

end BlockPlayer
