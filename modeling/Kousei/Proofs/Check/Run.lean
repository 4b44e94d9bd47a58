import Kousei.Context

/-! # Operations on a context

    How the parts of an operation follow each other.  An operation that ends
    with an answer is one whose first part does, and whose rest does from the
    context that the first part leaves (`bind_eq_ok`).

    The grammar of a name is had once and for all: a second request gives the
    same grammar and changes nothing (`grammar?_again`). -/

namespace Kousei

namespace Run

variable {α β : Type}

/-! ## Parts of an operation -/

@[simp] theorem onContext_pure (a : α) (c : Context) :
    (pure a : Run α).onContext c = (.ok a, c) := rfl

@[simp] theorem onContext_ofExcept (outcome : Except Failure α) (c : Context) :
    (ofExcept outcome).onContext c = (outcome, c) := rfl

@[simp] theorem onContext_get (c : Context) : (get : Run Context).onContext c = (.ok c, c) := rfl

/-- An operation that is attempted always has an answer: its outcome. -/
theorem attempt_eq_ok {run : Run α} {c c' : Context} {outcome : Except Failure α} :
    (attempt run).onContext c = (.ok outcome, c') ↔ run.onContext c = (outcome, c') := by
  change (Except.ok (run.onContext c).1, (run.onContext c).2) = (Except.ok outcome, c') ↔ _
  rcases run.onContext c with ⟨outcome', c''⟩
  constructor
  · intro h; cases h; rfl
  · intro h; cases h; rfl

theorem onContext_bind (run : Run α) (rest : α → Run β) (c : Context) :
    (run >>= rest).onContext c =
      match run.onContext c with
      | (.ok a, c') => (rest a).onContext c'
      | (.error failure, c') => (.error failure, c') := by
  change (ExceptT.bind run rest) c = _
  unfold ExceptT.bind ExceptT.mk onContext
  change (ExceptT.bindCont rest (run c).1) (run c).2 = _
  rcases run c with ⟨outcome, c'⟩
  cases outcome with
  | ok a => rfl
  | error failure => rfl

/-- The outcome of what follows is its outcome on the context that the first part
    leaves. -/
theorem outcome_bind (run : Run α) (rest : α → Run β) (c : Context) :
    ((run >>= rest).onContext c).1 =
      (run.onContext c).1.bind fun a => ((rest a).onContext (run.onContext c).2).1 := by
  rw [onContext_bind]
  rcases run.onContext c with ⟨_ | a, c'⟩
  · rfl
  · rfl

/-- What follows an operation that has an answer. -/
theorem bind_of_ok {run : Run α} {rest : α → Run β} {c c' : Context} {a : α}
    (h : run.onContext c = (.ok a, c')) :
    (run >>= rest).onContext c = (rest a).onContext c' := by
  rw [onContext_bind, h]

/-- What follows an attempt starts with the outcome that was attempted. -/
theorem outcome_attempt_bind (run : Run α) (rest : Except Failure α → Run β) (c : Context) :
    ((attempt run >>= rest).onContext c).1 =
      ((rest (run.onContext c).1).onContext (run.onContext c).2).1 := by
  rcases hrun : run.onContext c with ⟨outcome, c'⟩
  rw [bind_of_ok (attempt_eq_ok.2 hrun)]

/-- After an operation whose first part has an answer the context is what the rest
    makes of what the first part left. -/
theorem context_bind_of_ok {run : Run α} {rest : α → Run β} {c : Context} {a : α}
    (h : (run.onContext c).1 = .ok a) :
    ((run >>= rest).onContext c).2 = ((rest a).onContext (run.onContext c).2).2 := by
  have hrun : run.onContext c = (.ok a, (run.onContext c).2) := Prod.ext h rfl
  rw [bind_of_ok hrun]

theorem context_bind_of_error {run : Run α} {rest : α → Run β} {c : Context} {failure : Failure}
    (h : (run.onContext c).1 = .error failure) :
    ((run >>= rest).onContext c).2 = (run.onContext c).2 := by
  have hrun : run.onContext c = (.error failure, (run.onContext c).2) := Prod.ext h rfl
  rw [onContext_bind, hrun]

/-- What follows may leave the context alone, whatever the first part answers. -/
theorem context_bind_of_still {run : Run α} {rest : α → Run β} {c : Context}
    (h : ∀ a c, ((rest a).onContext c).2 = c) :
    ((run >>= rest).onContext c).2 = (run.onContext c).2 := by
  rw [onContext_bind]
  rcases run.onContext c with ⟨_ | a, c'⟩
  · rfl
  · exact h a c'

theorem context_attempt_bind (run : Run α) (rest : Except Failure α → Run β) (c : Context) :
    ((attempt run >>= rest).onContext c).2 =
      ((rest (run.onContext c).1).onContext (run.onContext c).2).2 := by
  rcases hrun : run.onContext c with ⟨outcome, c'⟩
  rw [bind_of_ok (attempt_eq_ok.2 hrun)]

/-- An answer is the answer of the rest to the answer of the first part. -/
theorem bind_eq_ok {run : Run α} {rest : α → Run β} {c c'' : Context} {b : β} :
    (run >>= rest).onContext c = (.ok b, c'') ↔
      ∃ a c', run.onContext c = (.ok a, c') ∧ (rest a).onContext c' = (.ok b, c'') := by
  rw [onContext_bind]
  constructor
  · intro h
    rcases hrun : run.onContext c with ⟨outcome, c'⟩
    rw [hrun] at h
    cases outcome with
    | ok a => exact ⟨a, c', rfl, h⟩
    | error failure => cases h
  · rintro ⟨a, c', hrun, hrest⟩
    rw [hrun]
    exact hrest

end Run

/-! ## Grammars -/

namespace Grammars

variable {γ : Type} {source : GrammarSource γ} {g g' : Grammars γ} {name : String} {p : γ}

/-- A grammar that was had is remembered. -/
theorem lookup_of_load (h : g.load source name = (.ok p, g')) : g'.loaded.lookup name = some p := by
  unfold load at h
  split at h
  · next p' hp => cases h; exact hp
  · split at h
    · cases h
    · split at h
      · cases h
      · split at h
        · cases h
          exact List.lookup_cons_self
        · cases h

theorem load_of_lookup (h : g.loaded.lookup name = some p) : g.load source name = (.ok p, g) := by
  rw [load, h]

end Grammars

namespace Context

variable {e : Engines} {name language : String} {c c' : Context} {parse : Parser}

theorem grammar?_of_load {g : Grammars Parser}
    (h : c.grammars.load e.grammars name = (.ok parse, g)) :
    (grammar? e name).onContext c = (.ok (some parse), { c with grammars := g }) := by
  rw [grammar?, Run.bind_of_ok (Run.onContext_get c), h]
  rfl

/-- Asking for a grammar never fails; it may be that there is none. -/
theorem grammar?_cases (e : Engines) (name : String) (c : Context) :
    (∃ parse g, c.grammars.load e.grammars name = (.ok parse, g)) ∨
      ∃ c', (grammar? e name).onContext c = (.ok none, c') := by
  -- What is written to the log depends on the fault, that there is none does not.
  rcases h : c.grammars.load e.grammars name with ⟨outcome, g⟩
  cases outcome with
  | ok parse => exact .inl ⟨parse, g, rfl⟩
  | error fault =>
    right
    rw [grammar?, Run.bind_of_ok (Run.onContext_get c), h]
    cases fault <;> exact ⟨_, rfl⟩

/-- A second request for a grammar gives what the first one gave. -/
theorem grammar?_again (h : (grammar? e name).onContext c = (.ok (some parse), c')) :
    (grammar? e name).onContext c' = (.ok (some parse), c') := by
  rcases grammar?_cases e name c with ⟨parse', g, hload⟩ | ⟨c'', hnone⟩
  · rw [grammar?_of_load hload] at h
    cases h
    exact grammar?_of_load (Grammars.load_of_lookup (Grammars.lookup_of_load hload))
  · rw [hnone] at h
    cases h

/-- A language has a grammar that can be had, or none. -/
theorem parser?_cases (e : Engines) (language : String) (c : Context) :
    (∃ parse c', (parser? e language).onContext c = (.ok (some parse), c')) ∨
      ∃ c', (parser? e language).onContext c = (.ok none, c') := by
  unfold parser?
  split
  · exact .inr ⟨c, rfl⟩
  · next name _ =>
    rcases grammar?_cases e name c with ⟨parse, g, hload⟩ | hnone
    · exact .inl ⟨parse, _, grammar?_of_load hload⟩
    · exact .inr hnone

theorem grammar?_of_parser? (h : (parser? e language).onContext c = (.ok (some parse), c')) :
    ∃ name, grammarOf? language = some name ∧
      (grammar? e name).onContext c = (.ok (some parse), c') := by
  unfold parser? at h
  split at h
  · cases h
  · next name hname => exact ⟨name, hname, h⟩

end Context

end Kousei
