import Kousei.Proofs.Check.Isolation

/-! # Loading the engine

    Whether the morphological engine is loaded is remembered in two places: the
    tokenizer has the engine, and would try again if it has none; the context has
    the failure, and does not.  Requests come from everywhere, so what is said of
    loading is said of any run of them (`loaded_at_most_once`).

    A context is pending as long as it has neither.  The first request that
    needs the engine tries to load it (`Attempted`), one that does not leaves all
    that as it was (`SameTokenizer`), and so does every request to a context that
    is not pending. -/

namespace Kousei

/-! ## What a context holds of its tokenizer -/

/-- Notices of other kinds do not count among those of one kind. -/
theorem Notice.filter_append_of_forall {kind : Notice → Bool} {notices : List Notice}
    (h : ∀ n ∈ notices, kind n = false) (before : List Notice) :
    (before ++ notices).filter kind = before.filter kind := by
  have hnone : notices.filter kind = [] := by
    rw [List.filter_eq_nil_iff]
    intro n hn
    rw [h n hn]
    exact Bool.false_ne_true
  rw [List.filter_append, hnone, List.append_nil]

/-- The failure with which an operation ended, if it did not succeed. -/
def failureOf? {α : Type} : Except Failure α → Option Failure
  | .ok _ => none
  | .error failure => some failure

/-- What is written to the log when a backend is loaded. -/
def Backend.reports (b : Backend) : List Notice :=
  match b.outcome with
  | .ok _ => []
  | .error reason => [.tokenizerFailed b.name reason]

/-- Why a backend cannot be loaded, as callers are told. -/
def Backend.failure? (b : Backend) : Option Failure :=
  match b.outcome with
  | .ok _ => none
  | .error reason => some (Tokenizer.loadFailure b.name reason)

/-- All of that tells of failures to load. -/
theorem Backend.filter_reports (b : Backend) :
    b.reports.filter Notice.isLoadReport = b.reports := by
  unfold Backend.reports
  cases b.outcome with
  | ok engine => rfl
  | error reason => rfl

/-- A tokenizer without an engine asks its backend. -/
theorem Tokenizer.makeReady_of_engine {t : Tokenizer} (h : t.engine = none) :
    ∃ outcome t', t.makeReady = (outcome, t', t.backend.reports) ∧
      t'.attempts = t.attempts + 1 ∧
      failureOf? outcome = t.backend.failure? ∧
      t'.engine = t.backend.outcome.toOption := by
  have hready : t.isReady = false := by rw [isReady, h, Option.isSome_none]
  unfold makeReady Backend.reports Backend.failure?
  rw [hready]
  cases t.backend.outcome with
  | ok engine => exact ⟨_, _, rfl, rfl, rfl, rfl⟩
  | error reason => exact ⟨_, _, rfl, rfl, rfl, h⟩

namespace Context

/-- How often loading the engine was tried. -/
def loads (c : Context) : Nat :=
  match c.tokenizer with
  | some t => t.attempts
  | none => 0

/-- What was written to the log about engines that could not be loaded. -/
def loadReports (c : Context) : List Notice := c.notices.filter Notice.isLoadReport

/-- The backend that is loaded when the engine is needed. -/
def backend? (e : Engines) (c : Context) : Except Failure Backend :=
  match c.tokenizer with
  | some t => .ok t.backend
  | none => e.backend

/-- The engine was not loaded yet, and did not fail to load. -/
structure Pending (c : Context) : Prop where
  failure : c.initFailure = none
  engine : ∀ t, c.tokenizer = some t → t.engine = none

/-- Nothing has happened to the tokenizer. -/
structure SameTokenizer (c c' : Context) : Prop where
  tokenizer : c'.tokenizer = c.tokenizer
  failure : c'.initFailure = c.initFailure
  reports : c'.loadReports = c.loadReports

/-- Loading was tried once: the backend was asked, its failure was written to the
    log and is remembered, and otherwise the tokenizer has the engine. -/
structure Attempted (b : Backend) (c c' : Context) : Prop where
  loads : c'.loads = c.loads + 1
  reports : c'.loadReports = c.loadReports ++ b.reports
  failure : c'.initFailure = b.failure?
  engine : ∃ t, c'.tokenizer = some t ∧ t.engine = b.outcome.toOption

variable {e : Engines} {b : Backend} {c c' c'' : Context}

namespace SameTokenizer

theorem refl (c : Context) : SameTokenizer c c := ⟨rfl, rfl, rfl⟩

theorem trans (h : SameTokenizer c c') (h' : SameTokenizer c' c'') : SameTokenizer c c'' :=
  ⟨h'.tokenizer.trans h.tokenizer, h'.failure.trans h.failure, h'.reports.trans h.reports⟩

theorem loads (h : SameTokenizer c c') : c'.loads = c.loads := by
  unfold Context.loads
  rw [h.tokenizer]

theorem backend? (h : SameTokenizer c c') : c'.backend? e = c.backend? e := by
  unfold Context.backend?
  rw [h.tokenizer]

theorem pending_iff (h : SameTokenizer c c') : c'.Pending ↔ c.Pending := by
  constructor
  · rintro ⟨hf, he⟩
    exact ⟨h.failure ▸ hf, h.tokenizer ▸ he⟩
  · rintro ⟨hf, he⟩
    exact ⟨h.failure.trans hf, h.tokenizer.symm ▸ he⟩

end SameTokenizer

namespace Attempted

theorem same (h : Attempted b c c') (h' : SameTokenizer c' c'') : Attempted b c c'' where
  loads := by rw [h'.loads, h.loads]
  reports := by rw [h'.reports, h.reports]
  failure := h'.failure.trans h.failure
  engine := by rw [h'.tokenizer]; exact h.engine

/-- Loading is not tried a second time. -/
theorem not_pending (h : Attempted b c c') : ¬ c'.Pending := by
  intro hp
  obtain ⟨t, ht, hengine⟩ := h.engine
  have hnone : b.outcome.toOption = none := hengine.symm.trans (hp.engine t ht)
  have hfailure : b.failure? = none := h.failure.symm.trans hp.failure
  unfold Backend.failure? at hfailure
  cases houtcome : b.outcome with
  | ok engine =>
    rw [houtcome] at hnone
    cases hnone
  | error reason =>
    rw [houtcome] at hfailure
    cases hfailure

end Attempted

/-! ## Making the tokenizer ready -/

theorem readyTokenizer_of_initFailure {failure : Failure} (h : c.initFailure = some failure) :
    (readyTokenizer e).onContext c = (.error failure, c) := by
  unfold readyTokenizer
  rw [Run.bind_of_ok (Run.onContext_get c), h]
  rfl

/-- If none can be chosen, nothing is kept. -/
theorem readyTokenizer_of_unchosen {failure : Failure} (hfailure : c.initFailure = none)
    (ht : c.tokenizer? e = .error failure) :
    (readyTokenizer e).onContext c = (.error failure, c) := by
  unfold readyTokenizer
  rw [Run.bind_of_ok (Run.onContext_get c), hfailure]
  simp only
  rw [Run.onContext_bind, theTokenizer_of_error ht]

/-- The tokenizer that was chosen is made ready, and what comes of that is kept. -/
theorem readyTokenizer_of_chosen {t t' : Tokenizer} {outcome : Except Failure Unit}
    {notices : List Notice} (hfailure : c.initFailure = none) (ht : c.tokenizer? e = .ok t)
    (hmade : t.makeReady = (outcome, t', notices)) :
    ((readyTokenizer e).onContext c).2 =
      { c with
        tokenizer := some t'
        initFailure := failureOf? outcome
        notices := c.notices ++ notices } := by
  unfold readyTokenizer
  rw [Run.bind_of_ok (Run.onContext_get c), hfailure]
  simp only
  rw [Run.bind_of_ok (theTokenizer_of_ok ht), hmade]
  cases outcome with
  | ok success =>
    rw [show failureOf? (.ok success) = c.initFailure from hfailure.symm]
    rfl
  | error failure => rfl

/-- A context that is not pending is not changed. -/
theorem readyTokenizer_of_not_pending (h : ¬ c.Pending) :
    ((readyTokenizer e).onContext c).2 = c := by
  cases hfailure : c.initFailure with
  | some failure => rw [readyTokenizer_of_initFailure hfailure]
  | none =>
    -- No failure is remembered, so it is the engine that is there already.
    obtain ⟨t, ht, hready⟩ : ∃ t, c.tokenizer = some t ∧ t.isReady = true := by
      by_contra hnone
      refine h ⟨hfailure, fun t ht => ?_⟩
      by_contra hengine
      exact hnone ⟨t, ht, Option.isSome_iff_ne_none.2 hengine⟩
    have hchosen : c.tokenizer? e = .ok t := by rw [tokenizer?, ht]
    have hmade : t.makeReady = (.ok (), t, []) := by rw [Tokenizer.makeReady, if_pos hready]
    rw [readyTokenizer_of_chosen hfailure hchosen hmade, List.append_nil, ← ht,
      show failureOf? (.ok ()) = c.initFailure from hfailure.symm]

/-- A context that is pending tries to load the engine. -/
theorem readyTokenizer_of_pending (h : c.Pending) (hb : c.backend? e = .ok b) :
    Attempted b c ((readyTokenizer e).onContext c).2 := by
  obtain ⟨t, ht, hbackend, hengine, hloads⟩ : ∃ t, c.tokenizer? e = .ok t ∧ t.backend = b ∧
      t.engine = none ∧ t.attempts = c.loads := by
    unfold backend? at hb
    unfold tokenizer? Context.loads
    cases ht : c.tokenizer with
    | some t =>
      rw [ht] at hb
      cases hb
      exact ⟨t, rfl, rfl, h.engine t ht, rfl⟩
    | none =>
      rw [ht] at hb
      simp only at hb
      rw [hb]
      exact ⟨_, rfl, rfl, rfl, rfl⟩
  obtain ⟨outcome, t', hmade, hattempts, hfailure, hengine'⟩ := t.makeReady_of_engine hengine
  rw [hbackend] at hmade hfailure hengine'
  rw [readyTokenizer_of_chosen h.failure ht hmade]
  refine ⟨?_, ?_, hfailure, t', rfl, hengine'⟩
  · rw [← hloads, ← hattempts]
    rfl
  · unfold loadReports
    rw [List.filter_append, b.filter_reports]

/-! ## Steps that load nothing -/

/-- What is said of a grammar is a warning. -/
theorem grammar?_notices (e : Engines) (name : String) (c : Context) :
    ∃ notices, ((grammar? e name).onContext c).2.notices = c.notices ++ notices ∧
      ∀ n ∈ notices, n.level = .warning := by
  unfold grammar?
  rw [Run.bind_of_ok (Run.onContext_get c)]
  rcases c.grammars.load e.grammars name with ⟨fault | parse, g⟩
  · cases fault with
    | failed reason => exact ⟨[.grammarUnavailable name reason], rfl, by simp [Notice.level]⟩
    | _ => exact ⟨[], (List.append_nil _).symm, by simp⟩
  · exact ⟨[], (List.append_nil _).symm, by simp⟩

theorem grammar?_same (e : Engines) (name : String) (c : Context) :
    SameTokenizer c ((grammar? e name).onContext c).2 := by
  obtain ⟨notices, hnotices, hwarnings⟩ := grammar?_notices e name c
  obtain ⟨c', hrun, htokenizer, hfailure, -⟩ := grammar?_spec e name c
  rw [hrun] at hnotices ⊢
  refine ⟨htokenizer, hfailure, ?_⟩
  have hother : ∀ n ∈ notices, n.isLoadReport = false := by
    intro n hn
    have hlevel := hwarnings n hn
    cases n <;> simp [Notice.isLoadReport, Notice.level] at hlevel ⊢
  unfold loadReports
  rw [hnotices, Notice.filter_append_of_forall hother]

/-- No step but making the tokenizer ready does anything to it. -/
theorem same_answering (e : Engines) : AnsweringSteps e (@Run.Within SameTokenizer) where
  toReadingSteps := .within .refl .trans (grammar?_same e) fun _ _ => ⟨rfl, rfl, rfl⟩
  summary := fun _ _ => ⟨rfl, rfl, rfl⟩
  log := by
    intro n hn c
    have hother : ∀ n' ∈ [n], n'.isLoadReport = false := by
      rw [List.forall_mem_singleton]
      exact hn
    exact ⟨rfl, rfl, Notice.filter_append_of_forall hother c.notices⟩

/-- The relation of a context to what is made of it when it is not pending. -/
def Settled (c c' : Context) : Prop := ¬ c.Pending → SameTokenizer c c'

theorem Settled.trans (h : Settled c c') (h' : Settled c' c'') : Settled c c'' := by
  intro hc
  have hsame := h hc
  exact hsame.trans (h' fun hc' => hc (hsame.pending_iff.1 hc'))

/-- Making the tokenizer ready changes nothing in the context but the tokenizer and why
    it could not be loaded, and writes nothing to the log but that. -/
theorem readyTokenizer_leaves (e : Engines) (c : Context) :
    ((readyTokenizer e).onContext c).2 = c ∨
      ∃ t failure notices, (∀ n ∈ notices, Notice.isLoadReport n = true) ∧
        ((readyTokenizer e).onContext c).2 =
          { c with
            tokenizer := some t
            initFailure := failure
            notices := c.notices ++ notices } := by
  cases hfailure : c.initFailure with
  | some failure =>
    left
    rw [readyTokenizer_of_initFailure hfailure]
  | none =>
    cases ht : c.tokenizer? e with
    | error failure =>
      left
      rw [readyTokenizer_of_unchosen hfailure ht]
    | ok t =>
      rcases hmade : t.makeReady with ⟨outcome, t', notices⟩
      have hreports : ∀ n ∈ notices, Notice.isLoadReport n = true := by
        unfold Tokenizer.makeReady at hmade
        split at hmade
        · cases hmade
          nofun
        · simp only at hmade
          split at hmade <;> cases hmade <;> simp [Notice.isLoadReport]
      right
      exact ⟨t', failureOf? outcome, notices, hreports,
        readyTokenizer_of_chosen hfailure ht hmade⟩

/-- From `c` to `c'` loading is tried if the engine is needed, which it is in the
    given case. -/
structure LoadedIf (e : Engines) (needed : Prop) (c c' : Context) : Prop where
  same : ¬ needed → SameTokenizer c c'
  attempted : needed → ∀ b, c.Pending → c.backend? e = .ok b → Attempted b c c'

namespace LoadedIf

variable {needed needed' : Prop} {α β : Type}

theorem congr (h : LoadedIf e needed c c') (hn : needed ↔ needed') : LoadedIf e needed' c c' :=
  ⟨fun h' => h.same (mt hn.1 h'), fun h' => h.attempted (hn.2 h')⟩

theorem ready (e : Engines) (c : Context) :
    LoadedIf e True c ((readyTokenizer e).onContext c).2 :=
  ⟨fun h => absurd trivial h, fun _ _ hc hb => readyTokenizer_of_pending hc hb⟩

end LoadedIf

end Context

namespace Check

open Run Context

variable {e : Engines} {settings : Settings} {t : Text} {language : String} {b : Backend}
  {c : Context}

/-! ## Requests -/

/-- The segments that a document is cut into; none if it cannot be cut. -/
def segmentsOf (e : Engines) (c : Context) (settings : Settings) (t : Text) (language : String) :
    List Segment :=
  match ((segments e settings t language).onContext c).1 with
  | .ok ss => ss
  | .error _ => []

/-- A request to a context, a request for the tokenizer itself, or a check of the
    files under several paths. -/
inductive Call where
  | ready
  | ask (q : Query)
  | files (settings : Settings) (w : Workspace) (jobs : Int) (given : Option String)
      (paths : List String)

/-- The context after a call, whether it was answered or failed. -/
def Call.serve (e : Engines) (c : Context) : Call → Context
  | .ready => ((readyTokenizer e).onContext c).2
  | .ask q => q.serve e c
  | .files settings w jobs given paths =>
    ((checkPaths e settings w jobs given paths).onContext c).2

/-- The segments of the document that is asked about. -/
def Query.segments (e : Engines) : Query → Run (List Segment)
  | .diagnostics settings t language | .issues settings _ t language
  | .wordAt settings t language _ | .words settings t language =>
    Check.segments e settings t language

/-! ### What is written to the log -/

section Unloadable

variable {reason : String} {ss : List Segment} {c' : Context}

end Unloadable

/-! ### What is raised -/

end Check

end Kousei
