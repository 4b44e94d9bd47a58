import Kousei.Proofs.Check.Hover
import Kousei.Proofs.Check.Publication
import Mathlib.Logic.Function.Iterate

/-! # The numbers of the checks while a document is checked

    While the engine is asked about a text other checks begin and end, so what a
    check may publish depends on how many texts it is asked about (`asked`).  A
    check does nothing else to the numbers (`validateText_generations`), and
    what it gives to be published is a function of the engine, the parsers and
    the numbers that its context has (`validateDocument_outcome`). -/

namespace Kousei

namespace Context

open Run

theorem grammar?_generations (e : Engines) (name : String) (c : Context) :
    ((grammar? e name).onContext c).2.generations = c.generations := by
  unfold grammar?
  rw [bind_of_ok (onContext_get c)]
  rcases c.grammars.load e.grammars name with ⟨fault | parse, g⟩
  · cases fault <;> rfl
  · rfl

theorem readyTokenizer_generations (e : Engines) (c : Context) :
    ((readyTokenizer e).onContext c).2.generations = c.generations := by
  obtain hsame | ⟨t, failure, notices, -, hleft⟩ := readyTokenizer_leaves e c
  · rw [hsame]
  · rw [hleft]

end Context

namespace Check

open Run

variable {e : Engines} {c : Context} {settings : Settings} {t : Text} {language : String}
  {engine : Engine} {tokenizer : Tokenizer}

/-! ## Texts that the engine is asked about -/

/-- How many texts the engine is asked about when several segments are checked: all up to
    the first at which the check fails. -/
def asked (engine : Engine) (settings : Settings) : List Segment → Nat
  | [] => 0
  | s :: r =>
    match segmentAnswer engine settings s with
    | .ok _ => asked engine settings r + 1
    | .error _ => 1

/-- How many texts the engine is asked about when a document is checked. -/
def documentAsked (engine : Except Failure Engine) (parsers : Parsers) (settings : Settings)
    (t : Text) (language : String) : Nat :=
  match documentSegments parsers settings t language, engine with
  | .ok ss, .ok read => asked read settings ss
  | _, _ => 0

/-- A segment is one text to ask about, whether its check fails or not. -/
theorem segmentDiagnostics_leaves (tokenizer : Tokenizer) (s : Segment) (c : Context) :
    ((segmentDiagnostics e settings tokenizer s).onContext c).2 =
      { c with generations := e.meanwhile c.generations } := by
  unfold segmentDiagnostics sentences
  rw [context_bind_of_still, context_bind_of_still]
  · rfl
  · intro xs c
    rfl
  · intro ss c
    split
    · rfl
    · rfl

/-- Checking segments does nothing to a context but what other checks do meanwhile. -/
theorem segmentsDiagnostics_leaves (hengine : tokenizer.engine = some engine) (ss : List Segment)
    (c : Context) :
    ((segmentsDiagnostics e settings tokenizer ss).onContext c).2 =
      { c with generations := e.meanwhile^[asked engine settings ss] c.generations } := by
  induction ss generalizing c with
  | nil => rfl
  | cons s r ih =>
    have hhere : ((segmentDiagnostics e settings tokenizer s).onContext c).1 =
        segmentAnswer engine settings s := segmentDiagnostics_outcome hengine s c
    unfold segmentsDiagnostics asked
    cases hs : segmentAnswer engine settings s with
    | error failure =>
      rw [context_bind_of_error (hhere.trans hs), segmentDiagnostics_leaves]
      rfl
    | ok here =>
      have hstill (found : List Diagnostic) (c : Context) :
          ((pure (here ++ found) : Run _).onContext c).2 = c := rfl
      rw [context_bind_of_ok (hhere.trans hs), context_bind_of_still hstill, ih,
        segmentDiagnostics_leaves]
      rfl

/-- With an engine at hand segments are analysed without a trace. -/
theorem diagnosticsBy_leaves (e : Engines) (settings : Settings) (language : String)
    (hengine : tokenizer.engine = some engine) (ss : List Segment) (c : Context) :
    ((diagnosticsBy e settings language ss tokenizer).onContext c).2 =
      { c with generations := e.meanwhile^[asked engine settings ss] c.generations } := by
  unfold diagnosticsBy
  rw [context_attempt_bind, segmentsDiagnostics_leaves hengine]
  rcases ((segmentsDiagnostics e settings tokenizer ss).onContext c).1 with failure | ds
  · rfl
  · rfl

/-! ## The numbers of the checks -/

/-- A document that no grammar is asked for is cut without a trace. -/
theorem segments_of_not_consulted (c : Context) (t : Text)
    (h : consulted settings language = none) :
    ((segments e settings t language).onContext c).2 = c := by
  unfold consulted at h
  unfold segments
  by_cases hwanted : (!settings.enable || !settings.targetLanguages.contains language) = true
  · rw [if_pos hwanted]
    rfl
  · rw [if_neg hwanted]
    simp only [Bool.eq_false_iff.2 hwanted, Bool.false_or] at h
    have hextract (ratio : Float) : ((extract e t language ratio).onContext c).2 = c := by
      cases hl : isProse language with
      | true =>
        unfold extract
        rw [if_pos hl]
        rfl
      | false =>
        rw [hl] at h
        have hname : grammarOf? language = none := h
        have hrun : (extract e t language ratio).onContext c =
            (documentExtract (c.parser e) t language ratio, c) :=
          extract_of_noGrammarOf? hname ratio
        rw [hrun]
    cases settings.minJapaneseRatio with
    | some ratio =>
      simp only
      split
      · rfl
      · exact hextract ratio
    | none =>
      simp only
      split
      · rfl
      · rw [context_bind_of_still]
        · exact hextract anyRatio
        · intro found c
          split
          · rfl
          · rfl

theorem segments_generations (e : Engines) (c : Context) (settings : Settings) (t : Text)
    (language : String) :
    ((segments e settings t language).onContext c).2.generations = c.generations := by
  cases hname : consulted settings language with
  | none => rw [segments_of_not_consulted c t hname]
  | some name => rw [segments_of_consulted c t hname, Context.grammar?_generations]

theorem validate_generations (e : Engines) (c : Context) (settings : Settings) (t : Text)
    (language : String) :
    ((validate e settings t language).onContext c).2.generations =
      e.meanwhile^[documentAsked (c.engine? e) (c.parser e) settings t language]
        c.generations := by
  have hlater : Context.Later e c ((segments e settings t language).onContext c).2 :=
    segments_keeps c
  have hcut := segments_generations e c settings t language
  rw [validate_eq, ← hlater.engine, ← hcut]
  unfold documentAsked
  cases hss : documentSegments (c.parser e) settings t language with
  | error failure =>
    rw [context_bind_of_error ((segments_outcome e c settings t language).trans hss)]
    rfl
  | ok ss =>
    rw [context_bind_of_ok ((segments_outcome e c settings t language).trans hss)]
    generalize ((segments e settings t language).onContext c).2 = c₁
    unfold diagnosticsOf
    cases ss with
    | nil => cases c₁.engine? e <;> rfl
    | cons s r =>
      rw [if_neg (by simp)]
      have hready := Context.readyTokenizer_generations e c₁
      obtain ⟨c₂, -, ⟨read, tokenizer, hengine, htokenizer, hrun⟩ | ⟨failure, hengine, hrun⟩⟩ :=
        Context.readyTokenizer_cases e c₁
      · rw [hrun] at hready
        rw [bind_of_ok hrun, diagnosticsBy_leaves e settings language htokenizer, hengine, ← hready]
      · rw [hrun] at hready
        rw [onContext_bind, hrun, hengine]
        exact hready

/-- While a document is checked other checks begin and end as often as the engine is asked
    about a text, and nothing else happens to the numbers. -/
theorem validateText_generations (e : Engines) (c : Context) (settings : Settings) (t : Text)
    (language : String) :
    ((validateText e settings t language).onContext c).2.generations =
      e.meanwhile^[documentAsked (c.engine? e) (c.parser e) settings t language]
        c.generations := by
  obtain ⟨notices, hleft⟩ := validateText_context e settings t language c
  rw [hleft]
  exact validate_generations e c settings t language

/-- **What a check may publish** depends on the engine, the parsers and the numbers of
    the checks that the context has. -/
theorem validateDocument_outcome (e : Engines) (c : Context) (settings : Settings) (key : String)
    (t : Text) (language : String) :
    ((validateDocument e settings key t language).onContext c).1 =
      (documentDiagnostics (c.engine? e) (c.parser e) settings t language).map fun ds =>
        if (e.meanwhile^[documentAsked (c.engine? e) (c.parser e) settings t language]
            (c.generations.begin key).2).number key = c.generations.number key + 1
        then some ds else none := by
  have hbegin : (beginPass key).onContext c =
      (.ok ⟨key, c.generations.number key + 1⟩,
        { c with generations := (c.generations.begin key).2 }) := rfl
  have hpublish (ds : List Diagnostic) (c' : Context) :
      ((do return if ← mayPublish ⟨key, c.generations.number key + 1⟩ then some ds else none :
          Run (Option (List Diagnostic))).onContext c').1 =
        .ok (if c'.generations.number key = c.generations.number key + 1
          then some ds else none) := by
    have hiff : c'.generations.isCurrent key (c.generations.number key + 1 : Nat) = true ↔
        c'.generations.number key = c.generations.number key + 1 :=
      Generations.isCurrent_iff (Nat.succ_pos _)
    exact congrArg Except.ok (if_congr hiff rfl rfl)
  unfold validateDocument
  rw [bind_of_ok hbegin, outcome_bind, validateText_outcome]
  -- Beginning a check changes neither the engine nor the parsers.
  show (documentDiagnostics (c.engine? e) (c.parser e) settings t language).bind _ = _
  cases documentDiagnostics (c.engine? e) (c.parser e) settings t language with
  | error failure => rfl
  | ok ds =>
    simp only [Except.bind, Except.map]
    rw [hpublish, validateText_generations]
    rfl

end Check

end Kousei
