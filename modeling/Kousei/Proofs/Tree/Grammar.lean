import Kousei.Tree.Grammar

/-! # Memory of grammars

    Once a grammar was asked for, what became of the request is remembered
    (`decided_load`): no later request for it changes anything
    (`load_of_decided`), and none for another grammar changes what is known of
    it (`Decided.load`).

    If the source does not change its mind, requests cannot be told by the
    answers: a grammar can be had after any request just when it could be had
    before (`answer_load`). -/

namespace Kousei

/-- The outcome of a request does not depend on how many went before it. -/
def GrammarSource.Steady {γ : Type} (source : GrammarSource γ) : Prop :=
  ∀ m n name, source m name = source n name

namespace Grammars

variable {γ : Type} {source : GrammarSource γ} {g : Grammars γ} {name other : String}
  {p : Option γ}

/-- The grammar of a name, if it can be had now. -/
def answer (source : GrammarSource γ) (g : Grammars γ) (name : String) : Option γ :=
  (g.load source name).1.toOption

/-- What became of the request for a grammar is known: the grammar itself, or
    that it could not be had. -/
def Decided (g : Grammars γ) (name : String) (p : Option γ) : Prop :=
  g.loaded.lookup name = p ∧ (p = none → name ∈ g.unavailable)

/-! ## One request -/

/-- The ways in which a request can go. -/
theorem load_cases (source : GrammarSource γ) (g : Grammars γ) (name : String) :
    (∃ grammar, g.loaded.lookup name = some grammar ∧ g.load source name = (.ok grammar, g)) ∨
    (g.loaded.lookup name = none ∧ name ∈ g.unavailable ∧
      g.load source name = (.error .failedBefore, g)) ∨
    (g.loaded.lookup name = none ∧ name ∉ g.unavailable ∧ grammarPackages.lookup name = none ∧
      g.load source name = (.error .unknown, { g with unavailable := name :: g.unavailable })) ∨
    (g.loaded.lookup name = none ∧ name ∉ g.unavailable ∧ grammarPackages.lookup name ≠ none ∧
      ((∃ grammar, source g.requests.length name = .ok grammar ∧
          g.load source name = (.ok grammar,
            { g with loaded := (name, grammar) :: g.loaded, requests := name :: g.requests })) ∨
        ∃ reason, source g.requests.length name = .error reason ∧
          g.load source name = (.error (.failed reason),
            { g with unavailable := name :: g.unavailable, requests := name :: g.requests }))) := by
  unfold load
  cases hlookup : g.loaded.lookup name with
  | some grammar => exact .inl ⟨grammar, rfl, rfl⟩
  | none =>
    right
    by_cases hfailed : name ∈ g.unavailable
    · left
      simp [hfailed]
    · right
      cases hknown : grammarPackages.lookup name with
      | none =>
        left
        simp [hfailed]
      | some package =>
        right
        cases hsource : source g.requests.length name with
        | ok grammar => simp [hfailed]
        | error reason => simp [hfailed]

/-- A request for what is known gives what is known and changes nothing. -/
theorem load_of_decided (h : g.Decided name p) (source : GrammarSource γ) :
    (g.load source name).2 = g ∧ g.answer source name = p := by
  obtain ⟨hlookup, hfailed⟩ := h
  unfold answer
  rcases load_cases source g name with ⟨grammar, hsome, hload⟩ | ⟨hnone, -, hload⟩ |
      ⟨hnone, hnot, -⟩ | ⟨hnone, hnot, -⟩
  · rw [hload, ← hlookup, hsome]
    exact ⟨rfl, rfl⟩
  · rw [hload, ← hlookup, hnone]
    exact ⟨rfl, rfl⟩
  · exact absurd (hfailed (by rw [← hlookup, hnone])) hnot
  · exact absurd (hfailed (by rw [← hlookup, hnone])) hnot

/-- After a request it is known what became of it. -/
theorem decided_load (source : GrammarSource γ) (g : Grammars γ) (name : String) :
    (g.load source name).2.Decided name (g.answer source name) := by
  unfold answer
  rcases load_cases source g name with ⟨grammar, hsome, hload⟩ | ⟨hnone, hfailed, hload⟩ |
      ⟨hnone, -, -, hload⟩ | ⟨hnone, -, -, ⟨grammar, -, hload⟩ | ⟨reason, -, hload⟩⟩
  · rw [hload]
    exact ⟨hsome, nofun⟩
  · rw [hload]
    exact ⟨hnone, fun _ => hfailed⟩
  · rw [hload]
    exact ⟨hnone, fun _ => List.mem_cons_self ..⟩
  · rw [hload]
    exact ⟨List.lookup_cons_self, nofun⟩
  · rw [hload]
    exact ⟨hnone, fun _ => List.mem_cons_self ..⟩

/-- A request for another grammar changes nothing that is known of this one. -/
theorem load_of_ne (h : name ≠ other) (source : GrammarSource γ) (g : Grammars γ) :
    (g.load source other).2.loaded.lookup name = g.loaded.lookup name ∧
      (name ∈ (g.load source other).2.unavailable ↔ name ∈ g.unavailable) := by
  have hmem : name ∈ other :: g.unavailable ↔ name ∈ g.unavailable := by
    rw [List.mem_cons]
    exact or_iff_right h
  rcases load_cases source g other with ⟨grammar, -, hload⟩ | ⟨-, -, hload⟩ |
      ⟨-, -, -, hload⟩ | ⟨-, -, -, ⟨grammar, -, hload⟩ | ⟨reason, -, hload⟩⟩
  · rw [hload]
    exact ⟨rfl, Iff.rfl⟩
  · rw [hload]
    exact ⟨rfl, Iff.rfl⟩
  · rw [hload]
    exact ⟨rfl, hmem⟩
  · rw [hload, List.lookup_cons, beq_eq_false_iff_ne.2 h]
    exact ⟨rfl, Iff.rfl⟩
  · rw [hload]
    exact ⟨rfl, hmem⟩

/-! ## Later requests -/

/-- What is known stays known. -/
theorem Decided.load (h : g.Decided name p) (source : GrammarSource γ) (other : String) :
    (g.load source other).2.Decided name p := by
  by_cases hother : name = other
  · rw [← hother, (load_of_decided h source).1]
    exact h
  · obtain ⟨hlookup, hmem⟩ := load_of_ne hother source g
    exact ⟨hlookup.trans h.1, fun hp => hmem.2 (h.2 hp)⟩

/-- Whether a grammar that was not asked for can be had is for the source to
    say. -/
theorem answer_of_undecided (hs : source.Steady) (n : Nat) (hlookup : g.loaded.lookup name = none)
    (hmem : name ∉ g.unavailable) :
    g.answer source name =
      if grammarPackages.lookup name = none then none else (source n name).toOption := by
  unfold answer
  rcases load_cases source g name with ⟨grammar, hsome, -⟩ | ⟨-, hfailed, -⟩ |
      ⟨-, -, hunknown, hload⟩ | ⟨-, -, hknown, ⟨grammar, hsource, hload⟩ | ⟨reason, hsource, hload⟩⟩
  · rw [hlookup] at hsome
    cases hsome
  · exact absurd hfailed hmem
  · rw [hload, if_pos hunknown]
    rfl
  · rw [hload, if_neg hknown, hs n g.requests.length, hsource]
    rfl
  · rw [hload, if_neg hknown, hs n g.requests.length, hsource]
    rfl

/-- A source that is steady gives after any request what it would have given
    before. -/
theorem answer_load (hs : source.Steady) (g : Grammars γ) (other name : String) :
    (g.load source other).2.answer source name = g.answer source name := by
  by_cases hother : name = other
  · rw [← hother]
    exact (load_of_decided (decided_load source g name) source).2
  · obtain ⟨hlookup, hmem⟩ := load_of_ne hother source g
    -- The name is known on both sides, and then the same of it, or on neither.
    cases hloaded : g.loaded.lookup name with
    | some grammar =>
      have hdecided : g.Decided name (some grammar) := ⟨hloaded, nofun⟩
      rw [(load_of_decided hdecided source).2,
        (load_of_decided (hdecided.load source other) source).2]
    | none =>
      by_cases hfailed : name ∈ g.unavailable
      · have hdecided : g.Decided name none := ⟨hloaded, fun _ => hfailed⟩
        rw [(load_of_decided hdecided source).2,
          (load_of_decided (hdecided.load source other) source).2]
      · rw [answer_of_undecided hs 0 hloaded hfailed,
          answer_of_undecided hs 0 (hlookup.trans hloaded) (fun h => hfailed (hmem.1 h))]

end Grammars

end Kousei
