import Kousei.Proofs.Check.Course
import Kousei.Proofs.Tree.Grammar

/-! # What a context remembers

    Of all that a context holds, two things decide about later answers: the
    morphological engine, or why it cannot be had (`Context.engine?`), and the
    grammars that can be had (`Context.parser`).  Operations find out more
    about them and never change them: a context is after any operation a later
    state of itself (`Run.Keeps`).

    That is shown for the few steps that touch the memory
    (`Context.later_serving`), and all operations are put together from them. -/

namespace Kousei

/-! ## The engine of a tokenizer -/

namespace Tokenizer

/-- The engine that a tokenizer has once it is loaded, or why it has none. -/
def loaded (t : Tokenizer) : Except Failure Engine :=
  match t.engine with
  | some engine => .ok engine
  | none => t.backend.outcome.mapError (loadFailure t.backend.name)

theorem loaded_of_engine {t : Tokenizer} {engine : Engine} (h : t.engine = some engine) :
    t.loaded = .ok engine := by
  rw [loaded, h]

/-- Loading gives the engine, and the tokenizer has it from then on. -/
theorem makeReady_of_ok {t : Tokenizer} {engine : Engine} (h : t.loaded = .ok engine) :
    ∃ t' notices, t.makeReady = (.ok (), t', notices) ∧ t'.engine = some engine := by
  unfold loaded at h
  unfold makeReady isReady
  cases hengine : t.engine with
  | some engine' =>
    rw [hengine] at h
    cases h
    exact ⟨t, [], rfl, hengine⟩
  | none =>
    rw [hengine] at h
    cases houtcome : t.backend.outcome with
    | ok engine' =>
      rw [houtcome] at h
      cases h
      exact ⟨_, _, rfl, rfl⟩
    | error reason =>
      rw [houtcome] at h
      cases h

/-- Loading that fails tells why. -/
theorem makeReady_of_error {t : Tokenizer} {failure : Failure} (h : t.loaded = .error failure) :
    ∃ t' notices, t.makeReady = (.error failure, t', notices) := by
  unfold loaded at h
  unfold makeReady isReady
  cases hengine : t.engine with
  | some engine =>
    rw [hengine] at h
    cases h
  | none =>
    rw [hengine] at h
    cases houtcome : t.backend.outcome with
    | ok engine =>
      rw [houtcome] at h
      cases h
    | error reason =>
      rw [houtcome] at h
      cases h
      exact ⟨_, _, rfl⟩

end Tokenizer

namespace Context

variable {e : Engines} {c c' c'' : Context}

/-! ## Memory -/

/-- The tokenizer that is asked for next. -/
def tokenizer? (e : Engines) (c : Context) : Except Failure Tokenizer :=
  match c.tokenizer with
  | some t => .ok t
  | none => e.backend.map fun backend => { backend }

/-- The morphological engine that texts are given to, or why there is none. -/
def engine? (e : Engines) (c : Context) : Except Failure Engine :=
  match c.initFailure with
  | some failure => .error failure
  | none => c.tokenizer? e >>= Tokenizer.loaded

/-- The parser of the grammar of a name, if the grammar can be had. -/
def parser (e : Engines) (c : Context) (name : String) : Option Parser :=
  c.grammars.answer e.grammars name

/-- `c'` is a later state of `c`: what is known in `c` is known in `c'`, and is
    the same. -/
structure Later (e : Engines) (c c' : Context) : Prop where
  engine : c'.engine? e = c.engine? e
  decided : ∀ name p, c.grammars.Decided name p → c'.grammars.Decided name p
  /-- What is not known yet is the same if the source of grammars does not
      change its mind. -/
  parser : e.grammars.Steady → c'.parser e = c.parser e

namespace Later

theorem refl (e : Engines) (c : Context) : Later e c c := ⟨rfl, fun _ _ h => h, fun _ => rfl⟩

theorem trans (h : Later e c c') (h' : Later e c' c'') : Later e c c'' where
  engine := h'.engine.trans h.engine
  decided := fun name p hp => h'.decided name p (h.decided name p hp)
  parser := fun hs => (h'.parser hs).trans (h.parser hs)

/-- Nothing that counts was touched. -/
theorem of_eq (ht : c'.tokenizer = c.tokenizer) (hf : c'.initFailure = c.initFailure)
    (hg : c'.grammars = c.grammars) : Later e c c' where
  engine := by unfold engine? tokenizer?; rw [ht, hf]
  decided := fun name p hp => by rwa [hg]
  parser := fun _ => by unfold Context.parser; rw [hg]

/-- The engine is the same, and no grammar was asked for. -/
theorem of_engine (he : c'.engine? e = c.engine? e) (hg : c'.grammars = c.grammars) :
    Later e c c' where
  engine := he
  decided := fun name p hp => by rwa [hg]
  parser := fun _ => by unfold Context.parser; rw [hg]

/-- Which engines answer is all that counts. -/
theorem congr {e' : Engines} (hb : e'.backend = e.backend) (hg : e'.grammars = e.grammars)
    (h : Later e' c c') : Later e c c' := by
  obtain ⟨hengine, hdecided, hparser⟩ := h
  unfold engine? tokenizer? at hengine
  unfold Context.parser at hparser
  rw [hb] at hengine
  rw [hg] at hparser
  exact ⟨hengine, hdecided, hparser⟩

end Later

end Context

/-! ## Operations that take nothing back -/

namespace Run

variable {α β : Type} {e : Engines}

/-- The operation leads to a later state of the context, whatever its outcome
    is. -/
def Keeps (e : Engines) (run : Run α) : Prop := ∀ c, Context.Later e c (run.onContext c).2

theorem Keeps.ofExcept (outcome : Except Failure α) : Keeps e (Run.ofExcept outcome) :=
  fun c => .refl e c

theorem Keeps.pure (a : α) : Keeps e (Pure.pure a : Run α) := fun c => .refl e c

/-- The rest of an operation leads from what its first part left to what the
    whole leaves. -/
theorem later_bind (run : Run α) {rest : α → Run β} (h : ∀ a, Keeps e (rest a)) (c : Context) :
    Context.Later e (run.onContext c).2 ((run >>= rest).onContext c).2 :=
  within_bind (Context.Later.refl e) run h c

theorem Keeps.bind {run : Run α} {rest : α → Run β} (h : Keeps e run) (h' : ∀ a, Keeps e (rest a)) :
    Keeps e (run >>= rest) :=
  fun c => (h c).trans (later_bind run h' c)

end Run

namespace Context

open Run

variable {e : Engines} {c : Context}

/-! ## The tokenizer -/

theorem theTokenizer_of_ok {t : Tokenizer} (h : c.tokenizer? e = .ok t) :
    (theTokenizer e).onContext c = (.ok t, { c with tokenizer := some t }) := by
  unfold tokenizer? at h
  unfold theTokenizer
  rw [bind_of_ok (onContext_get c)]
  rcases c with ⟨_ | t', initFailure, grammars, enrichment, generations, notices⟩
  · cases hb : e.backend with
    | ok backend =>
      rw [hb] at h
      cases h
      rfl
    | error failure =>
      rw [hb] at h
      cases h
  · cases h
    rfl

theorem theTokenizer_of_error {failure : Failure} (h : c.tokenizer? e = .error failure) :
    (theTokenizer e).onContext c = (.error failure, c) := by
  unfold tokenizer? at h
  unfold theTokenizer
  rw [bind_of_ok (onContext_get c)]
  rcases c with ⟨_ | t, initFailure, grammars, enrichment, generations, notices⟩
  · cases hb : e.backend with
    | ok backend =>
      rw [hb] at h
      cases h
    | error failure' =>
      rw [hb] at h
      cases h
      rfl
  · cases h

theorem engine?_of_tokenizer {t : Tokenizer} (hfailure : c.initFailure = none)
    (ht : c.tokenizer = some t) : c.engine? e = t.loaded := by
  unfold engine? tokenizer?
  rw [hfailure, ht]
  rfl

/-- Making the tokenizer ready gives one that has the engine, or tells why there
    is none. -/
theorem readyTokenizer_cases (e : Engines) (c : Context) :
    ∃ c', Later e c c' ∧
      ((∃ engine t, c.engine? e = .ok engine ∧ t.engine = some engine ∧
          (readyTokenizer e).onContext c = (.ok t, c')) ∨
        ∃ failure, c.engine? e = .error failure ∧
          (readyTokenizer e).onContext c = (.error failure, c')) := by
  unfold readyTokenizer
  rw [bind_of_ok (onContext_get c)]
  cases hfailure : c.initFailure with
  | some failure =>
    -- Loading was tried in vain before, and is not tried again.
    refine ⟨c, .refl e c, .inr ⟨failure, ?_, rfl⟩⟩
    unfold engine?
    rw [hfailure]
  | none =>
    have hengine : c.engine? e = c.tokenizer? e >>= Tokenizer.loaded := by
      unfold engine?
      rw [hfailure]
    cases ht : c.tokenizer? e with
    | error failure =>
      -- There is no engine of the name that was asked for.
      rw [ht] at hengine
      refine ⟨c, .refl e c, .inr ⟨failure, hengine, ?_⟩⟩
      rw [onContext_bind, theTokenizer_of_error ht]
    | ok t =>
      rw [ht] at hengine
      rw [bind_of_ok (theTokenizer_of_ok ht)]
      cases hloaded : t.loaded with
      | ok engine =>
        -- The tokenizer that is kept has the engine that this one would load.
        obtain ⟨t', notices, hready, ht'⟩ := Tokenizer.makeReady_of_ok hloaded
        have hsame : c.engine? e = .ok engine := hengine.trans hloaded
        rw [hready]
        refine ⟨_, .of_engine ?_ ?_, .inl ⟨engine, t', hsame, ht', rfl⟩⟩
        · rw [hsame, ← Tokenizer.loaded_of_engine ht']
          exact engine?_of_tokenizer hfailure rfl
        · rfl
      | error failure =>
        -- The failure that is remembered is the one that loading would give.
        obtain ⟨t', notices, hready⟩ := Tokenizer.makeReady_of_error hloaded
        have hsame : c.engine? e = .error failure := hengine.trans hloaded
        rw [hready]
        refine ⟨_, .of_engine ?_ ?_, .inr ⟨failure, hsame, rfl⟩⟩
        · rw [hsame]
          rfl
        · rfl

theorem readyTokenizer_keeps : Keeps e (readyTokenizer e) := by
  intro c
  obtain ⟨c', hlater, ⟨engine, t, -, -, hrun⟩ | ⟨failure, -, hrun⟩⟩ := readyTokenizer_cases e c
  · rwa [hrun]
  · rwa [hrun]

/-! ## Texts and grammars -/

/-- A text is answered by the engine of the tokenizer. -/
theorem tokenize_outcome {t : Tokenizer} {engine : Engine} (h : t.engine = some engine) (s : Text)
    (c : Context) :
    ((tokenize e t s).onContext c).1 = (engine s).map (anchor s) := by
  change t.tokenize s = _
  rw [Tokenizer.tokenize, h]

/-- Asking for a grammar gives the parser that it has, and makes it known. -/
theorem grammar?_spec (e : Engines) (name : String) (c : Context) :
    ∃ c', (grammar? e name).onContext c = (.ok (c.parser e name), c') ∧
      c'.tokenizer = c.tokenizer ∧ c'.initFailure = c.initFailure ∧
      c'.grammars = (c.grammars.load e.grammars name).2 := by
  unfold grammar? parser Grammars.answer
  rw [bind_of_ok (onContext_get c)]
  rcases c.grammars.load e.grammars name with ⟨fault | parse, g⟩
  · cases fault <;> exact ⟨_, rfl, rfl, rfl, rfl⟩
  · exact ⟨_, rfl, rfl, rfl, rfl⟩

theorem grammar?_keeps (name : String) : Keeps e (grammar? e name) := by
  intro c
  obtain ⟨c', hrun, ht, hf, hg⟩ := grammar?_spec e name c
  rw [hrun]
  refine ⟨?_, ?_, ?_⟩
  · unfold engine? tokenizer?
    rw [ht, hf]
  · intro other p hp
    rw [hg]
    exact hp.load e.grammars name
  · intro hs
    funext other
    unfold parser
    rw [hg]
    exact Grammars.answer_load hs c.grammars name other

/-- All steps of serving a request lead to a later state. -/
theorem later_serving (e : Engines) : ServingSteps e (@Within (Later e)) where
  toReadingSteps := .within (.refl e) .trans grammar?_keeps fun _ _ => .of_eq rfl rfl rfl
  summary := fun _ _ => .of_eq rfl rfl rfl
  log := fun _ _ _ => .of_eq rfl rfl rfl
  ready := fun _ => .ready (.refl e) .trans readyTokenizer_keeps

theorem tokenize_keeps (t : Tokenizer) (s : Text) : Keeps e (tokenize e t s) :=
  (later_serving e).tokenize t s

end Context

namespace Check

open Run

variable {e : Engines} {settings : Settings} {t : Text} {language : String}

/-! ## Requests -/

theorem segments_keeps : Keeps e (segments e settings t language) :=
  (Context.later_serving e).segments

/-- All that follows the cutting of a document takes nothing back. -/
theorem later_of_segments (c : Context) :
    Context.Later e ((segments e settings t language).onContext c).2
      ((validateText e settings t language).onContext c).2 := by
  have hserving := Context.later_serving e
  have hcut : Context.Later e ((segments e settings t language).onContext c).2
      ((validate e settings t language).onContext c).2 := by
    rw [validate_eq]
    exact later_bind _ (fun ss => hserving.diagnosticsOf ss) c
  rw [validateText_eq]
  exact hcut.trans (later_bind (attempt (validate e settings t language)) hserving.conclude c)

theorem validateText_keeps : Keeps e (validateText e settings t language) :=
  (Context.later_serving e).validateText

theorem checkText_keeps (file : Option String) : Keeps e (checkText e settings file t language) :=
  (Context.later_serving e).checkText file

theorem hover_keeps (offset : Int) : Keeps e (hover e settings t language offset) :=
  (Context.later_serving e).hover offset

theorem semanticTokens_keeps : Keeps e (semanticTokens e settings t language) :=
  (Context.later_serving e).semanticTokens

end Check

end Kousei
