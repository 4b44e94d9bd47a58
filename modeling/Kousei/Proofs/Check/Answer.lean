import Kousei.Proofs.Check.Extraction
import Kousei.Proofs.Check.Memory

/-! # Answers

    What is answered about a document is a function of the document, the
    settings, the morphological engine and the parsers that can be had.  The
    functions of this module say which (`documentDiagnostics`,
    `documentTokens`); that a context answers so is shown for
    every context, whatever was done with it before
    (`validateText_outcome`, `semanticTokens_outcome`).

    Of the parsers only that of the document's own language counts
    (`documentDiagnostics_congr`), and after a check it is known
    (`decided_of_validateText`). -/

namespace Kousei

/-- The parsers of the grammars that can be had, by the names of the grammars. -/
abbrev Parsers : Type := String → Option Parser

namespace Check

open Run

/-! ## Segments -/

/-- The segments of a document. -/
def documentExtract (parsers : Parsers) (t : Text) (language : String) (minRatio : Float) :
    Except Failure (List Segment) :=
  if isProse language then .ok (wholeText t)
  else
    match grammarOf? language with
    | none => .ok (Extract.scanned t language minRatio)
    | some name =>
      match parsers name with
      | none => .ok (Extract.scanned t language minRatio)
      | some parse =>
        (parse t).map fun tree => Segment.ofCandidates minRatio (Node.walk name t [tree])

/-- The segments of a document that the settings want checked. -/
def documentSegments (parsers : Parsers) (settings : Settings) (t : Text) (language : String) :
    Except Failure (List Segment) :=
  if !settings.enable || !settings.targetLanguages.contains language then .ok []
  else
    match settings.minJapaneseRatio with
    | some ratio =>
      if isProse language && t.japaneseRatio < ratio then .ok []
      else documentExtract parsers t language ratio
    | none =>
      if isProse language then .error .incomparable
      else
        (documentExtract parsers t language anyRatio).bind fun found =>
          if found.isEmpty then .ok [] else .error .incomparable

/-! ## Diagnostics -/

/-- The diagnostics of a segment, at their places in the document. -/
def segmentAnswer (engine : Engine) (settings : Settings) (s : Segment) :
    Except Failure (List Diagnostic) :=
  (engine s.text).bind fun ms =>
    let ss := Sentence.split s.text (anchor s.text ms)
    match Rule.failure? s.text ss settings.rules with
    | some failure => .error failure
    | none => .ok ((Rule.check s.text ss settings.rules).map (·.shifted s.offset))

/-- What the analysis of a document gives. -/
def documentAnalysis (engine : Except Failure Engine) (parsers : Parsers) (settings : Settings)
    (t : Text) (language : String) : Except Failure (List Diagnostic) :=
  (documentSegments parsers settings t language).bind fun ss =>
    if ss.isEmpty then .ok []
    else
      engine.bind fun read =>
        match ss.mapM (segmentAnswer read settings) with
        | .ok found => reported settings found.flatten
        | .error failure => .error (failure.ofAnalysis language)

/-- The diagnostics of a document. -/
def documentDiagnostics (engine : Except Failure Engine) (parsers : Parsers) (settings : Settings)
    (t : Text) (language : String) : Except Failure (List Diagnostic) :=
  answered (documentAnalysis engine parsers settings t language)

/-! ## Words -/

/-- The words of a segment in the whole document. -/
def segmentTokens (engine : Except Failure Engine) (document : Text) (s : Segment) :
    Except Failure (List SemanticToken) :=
  engine.bind fun engine =>
    (engine s.text).map fun ms => (anchor s.text ms).filterMap (semanticToken? document s)

/-- The words of a document; none if anything fails. -/
def documentTokens (engine : Except Failure Engine) (parsers : Parsers) (settings : Settings)
    (t : Text) (language : String) : List SemanticToken :=
  match (documentSegments parsers settings t language).bind
      fun ss => ss.mapM (segmentTokens engine t) with
  | .ok found => found.flatten
  | .error _ => []

variable {e : Engines} {settings : Settings} {t : Text} {language name : String} {c : Context}
  {parsers parsers' : Parsers}

/-! ## Documents that can be cut -/

/-- What a document is cut into: prose is one segment, other documents are scanned
    or read by the parser of their grammar. -/
theorem documentExtract_eq_ok {minRatio : Float} {ss : List Segment}
    (h : documentExtract parsers t language minRatio = .ok ss) :
    isProse language = true ∧ ss = wholeText t ∨
      isProse language = false ∧
        (ss = Extract.scanned t language minRatio ∨
          ∃ name parse tree, grammarOf? language = some name ∧ parsers name = some parse ∧
            parse t = .ok tree ∧
            ss = Segment.ofCandidates minRatio (Node.walk name t [tree])) := by
  unfold documentExtract at h
  split at h
  · next hprose =>
    cases h
    exact .inl ⟨hprose, rfl⟩
  · next hprose =>
    refine .inr ⟨by simpa using hprose, ?_⟩
    split at h
    · cases h
      exact .inl rfl
    · next name hname =>
      split at h
      · cases h
        exact .inl rfl
      · next parse hparse =>
        cases htree : parse t with
        | error failure =>
          rw [htree] at h
          cases h
        | ok tree =>
          rw [htree] at h
          cases h
          exact .inr ⟨name, parse, tree, hname, hparse, htree, rfl⟩

/-- The settings want no segment, or all that the document is cut into. -/
theorem documentSegments_eq_ok {ss : List Segment}
    (h : documentSegments parsers settings t language = .ok ss) :
    ss = [] ∨ settings.enable = true ∧ settings.targetLanguages.contains language = true ∧
      ∃ ratio, documentExtract parsers t language ratio = .ok ss := by
  unfold documentSegments at h
  split at h
  · cases h
    exact .inl rfl
  · next hwanted =>
    simp only [Bool.or_eq_true, Bool.not_eq_true', not_or, Bool.not_eq_false] at hwanted
    split at h
    · split at h
      · cases h
        exact .inl rfl
      · exact .inr ⟨hwanted.1, hwanted.2, _, h⟩
    · split at h
      · cases h
      · -- Without a share to compare with there must be no segment.
        left
        cases hfound : documentExtract parsers t language anyRatio with
        | error failure =>
          rw [hfound] at h
          cases h
        | ok found =>
          rw [hfound] at h
          simp only [Except.bind] at h
          split at h
          · cases h
            rfl
          · cases h

/-! ## Several segments -/

/-- An answer that can be given for each segment is given for all of them. -/
theorem mapM_ok_of_forall {α : Type} {answer : Segment → Except Failure α} {found : Segment → α}
    {ss : List Segment} (h : ∀ s ∈ ss, answer s = .ok (found s)) :
    ss.mapM answer = .ok (ss.map found) := by
  induction ss with
  | nil => rfl
  | cons s r ih =>
    obtain ⟨hs, hr⟩ := List.forall_mem_cons.1 h
    rw [List.mapM_cons, hs, ih hr]
    rfl

/-- Segments are answered in order, and a failure at one is a failure of all. -/
theorem exists_error_of_mem {α : Type} {answer : Segment → Except Failure α} {ss : List Segment}
    {s : Segment} {failure : Failure} (hs : s ∈ ss) (h : answer s = .error failure) :
    ∃ failure', ss.mapM answer = .error failure' := by
  induction ss with
  | nil => cases hs
  | cons first r ih =>
    rw [List.mapM_cons]
    cases hfirst : answer first with
    | error failure' => exact ⟨failure', rfl⟩
    | ok here =>
      rcases List.mem_cons.1 hs with rfl | hs
      · rw [h] at hfirst
        cases hfirst
      · obtain ⟨failure', hr⟩ := ih hs
        rw [hr]
        exact ⟨failure', rfl⟩

/-! ## What a context answers -/

theorem extract_of_noGrammarOf? (hname : grammarOf? language = none) (minRatio : Float) :
    (extract e t language minRatio).onContext c =
      (documentExtract parsers t language minRatio, c) := by
  unfold extract documentExtract Context.parser?
  rw [hname]
  split
  · rfl
  · split <;> rfl

theorem extract_of_grammarOf? (hl : isProse language = false)
    (hname : grammarOf? language = some name) (minRatio : Float)
    (hparsers : parsers name = c.parser e name) :
    (extract e t language minRatio).onContext c =
      (documentExtract parsers t language minRatio,
        ((Context.grammar? e name).onContext c).2) := by
  obtain ⟨c', hrun, -⟩ := Context.grammar?_spec e name c
  rw [hrun]
  unfold documentExtract
  simp only [hl, hname, hparsers, Bool.false_eq_true, ↓reduceIte]
  cases hp : c.parser e name with
  | some parse =>
    rw [hp] at hrun
    exact extract_of_grammar? t minRatio hl hname hrun
  | none =>
    rw [hp] at hrun
    unfold extract Context.parser?
    simp only [hl, scannedOnly_of_grammarOf? hname, hname, Bool.false_eq_true, ↓reduceIte,
      Bool.not_false]
    rw [bind_of_ok hrun]
    rfl

/-- The segments are what the parsers that can be had make of the document. -/
theorem extract_outcome (e : Engines) (c : Context) (t : Text) (language : String)
    (minRatio : Float) :
    ((extract e t language minRatio).onContext c).1 =
      documentExtract (c.parser e) t language minRatio := by
  cases hl : isProse language with
  | true =>
    unfold extract documentExtract
    rw [if_pos hl, if_pos hl]
    rfl
  | false =>
    cases hname : grammarOf? language with
    | none => rw [extract_of_noGrammarOf? hname]
    | some name => rw [extract_of_grammarOf? hl hname minRatio rfl]

theorem segments_outcome (e : Engines) (c : Context) (settings : Settings) (t : Text)
    (language : String) :
    ((segments e settings t language).onContext c).1 =
      documentSegments (c.parser e) settings t language := by
  unfold segments documentSegments
  split
  · rfl
  · cases settings.minJapaneseRatio with
    | some ratio =>
      simp only
      split
      · rfl
      · exact extract_outcome e c t language ratio
    | none =>
      simp only
      by_cases hl : isProse language = true
      · simp only [hl, ↓reduceIte]
        rfl
      · simp only [hl, Bool.false_eq_true, ↓reduceIte]
        rw [outcome_bind, extract_outcome]
        congr 1
        funext found
        split
        · rfl
        · rfl

theorem segmentDiagnostics_outcome {tokenizer : Tokenizer} {engine : Engine}
    (hengine : tokenizer.engine = some engine) (s : Segment) (c : Context) :
    ((segmentDiagnostics e settings tokenizer s).onContext c).1 =
      segmentAnswer engine settings s := by
  unfold segmentDiagnostics sentences segmentAnswer
  rw [outcome_bind, outcome_bind, Context.tokenize_outcome hengine]
  cases engine s.text with
  | error failure => rfl
  | ok ms =>
    simp only [Except.map, Except.bind, onContext_pure]
    cases Rule.failure? s.text (Sentence.split s.text (anchor s.text ms)) settings.rules with
    | some failure => rfl
    | none => rfl

/-- The diagnostics of several segments are those of each, and there are none if
    one of them has none. -/
theorem segmentsDiagnostics_outcome {tokenizer : Tokenizer} {engine : Engine}
    (hengine : tokenizer.engine = some engine) (ss : List Segment) (c : Context) :
    ((segmentsDiagnostics e settings tokenizer ss).onContext c).1 =
      (ss.mapM (segmentAnswer engine settings)).map List.flatten := by
  induction ss generalizing c with
  | nil => rfl
  | cons s r ih =>
    unfold segmentsDiagnostics
    rw [List.mapM_cons, outcome_bind, segmentDiagnostics_outcome hengine]
    cases segmentAnswer engine settings s with
    | error failure => rfl
    | ok here =>
      simp only [Except.bind]
      rw [outcome_bind, ih]
      cases r.mapM (segmentAnswer engine settings) with
      | error failure => rfl
      | ok found => rfl

theorem validate_outcome (e : Engines) (c : Context) (settings : Settings) (t : Text)
    (language : String) :
    ((validate e settings t language).onContext c).1 =
      documentAnalysis (c.engine? e) (c.parser e) settings t language := by
  have hlater : Context.Later e c ((segments e settings t language).onContext c).2 :=
    segments_keeps c
  rw [validate_eq]
  unfold documentAnalysis
  -- Cutting the document may make grammars known; the engine stays what it was.
  rw [outcome_bind, segments_outcome, ← hlater.engine]
  generalize ((segments e settings t language).onContext c).2 = c₁
  cases documentSegments (c.parser e) settings t language with
  | error failure => rfl
  | ok ss =>
    unfold diagnosticsOf
    simp only [Except.bind]
    split
    · rfl
    · obtain ⟨c₂, -, ⟨engine, tokenizer, hready, htokenizer, hrun⟩ | ⟨failure, hready, hrun⟩⟩ :=
        Context.readyTokenizer_cases e c₁
      · rw [hready, bind_of_ok hrun]
        unfold diagnosticsBy
        rw [outcome_attempt_bind, segmentsDiagnostics_outcome htokenizer]
        simp only
        cases ss.mapM (segmentAnswer engine settings) with
        | ok found => rfl
        | error failure => rfl
      · rw [hready, onContext_bind, hrun]

/-- **What a context answers about a document** depends on the engine and the
    parsers that it has, and on nothing else that it holds. -/
theorem validateText_outcome (e : Engines) (c : Context) (settings : Settings) (t : Text)
    (language : String) :
    ((validateText e settings t language).onContext c).1 =
      documentDiagnostics (c.engine? e) (c.parser e) settings t language := by
  have hrun : (validate e settings t language).onContext c =
      (documentAnalysis (c.engine? e) (c.parser e) settings t language,
        ((validate e settings t language).onContext c).2) :=
    Prod.ext (validate_outcome e c settings t language) rfl
  rw [validateText_onContext hrun]
  rfl

/-! ## What a context answers about words -/

theorem semanticTokensIn_outcome (document : Text) (ss : List Segment) (c : Context) :
    ((semanticTokensIn e document ss).onContext c).1 =
      (ss.mapM (segmentTokens (c.engine? e) document)).map List.flatten := by
  induction ss generalizing c with
  | nil => rfl
  | cons s r ih =>
    unfold semanticTokensIn
    rw [List.mapM_cons]
    obtain ⟨c', hlater, ⟨engine, tokenizer, hready, htokenizer, hrun⟩ | ⟨failure, hready, hrun⟩⟩ :=
      Context.readyTokenizer_cases e c
    · have htokens : Context.Later e c'
          ((Context.tokenize e tokenizer s.text).onContext c').2 :=
        Context.tokenize_keeps tokenizer s.text c'
      have hhere : segmentTokens (.ok engine) document s =
          (engine s.text).map fun ms => (anchor s.text ms).filterMap (semanticToken? document s) :=
        rfl
      rw [bind_of_ok hrun, outcome_bind, Context.tokenize_outcome htokenizer, hready, hhere]
      cases engine s.text with
      | error failure => rfl
      | ok ms =>
        -- The engine is the same for the segments that follow.
        have hsame := (hlater.trans htokens).engine
        simp only [Except.map, Except.bind]
        rw [outcome_bind, ih, hsame, hready]
        cases r.mapM (segmentTokens (.ok engine) document) with
        | error failure => rfl
        | ok found => rfl
    · rw [onContext_bind, hrun, hready]
      rfl

/-- **What a context answers about the words of a document** depends on the engine
    and the parsers that it has, and it always answers. -/
theorem semanticTokens_outcome (e : Engines) (c : Context) (settings : Settings) (t : Text)
    (language : String) :
    ((semanticTokens e settings t language).onContext c).1 =
      .ok (documentTokens (c.engine? e) (c.parser e) settings t language) := by
  have hlater : Context.Later e c ((segments e settings t language).onContext c).2 :=
    segments_keeps c
  have hall : ((segments e settings t language >>= semanticTokensIn e t).onContext c).1 =
      ((documentSegments (c.parser e) settings t language).bind fun ss =>
        ss.mapM (segmentTokens (c.engine? e) t)).map List.flatten := by
    rw [outcome_bind, segments_outcome, ← hlater.engine]
    cases documentSegments (c.parser e) settings t language with
    | error failure => rfl
    | ok ss => exact semanticTokensIn_outcome t ss _
  unfold semanticTokens documentTokens
  simp only
  rw [outcome_attempt_bind, hall]
  cases (documentSegments (c.parser e) settings t language).bind fun ss =>
      ss.mapM (segmentTokens (c.engine? e) t) with
  | ok found => rfl
  | error failure => cases failure <;> rfl

/-! ## The parser that counts -/

/-- The grammar that is asked for when a document is checked, if one is. -/
def consulted (settings : Settings) (language : String) : Option String :=
  if !settings.enable || !settings.targetLanguages.contains language || isProse language then none
  else grammarOf? language

theorem consulted_eq_some : consulted settings language = some name ↔
    settings.enable = true ∧ settings.targetLanguages.contains language = true ∧
      isProse language = false ∧ grammarOf? language = some name := by
  unfold consulted
  cases settings.enable <;> cases settings.targetLanguages.contains language <;>
    cases isProse language <;> simp

/-- Of the parsers only the one that is asked for counts. -/
theorem documentSegments_congr (t : Text)
    (h : ∀ name, consulted settings language = some name → parsers name = parsers' name) :
    documentSegments parsers settings t language =
      documentSegments parsers' settings t language := by
  unfold documentSegments
  by_cases hwanted : (!settings.enable || !settings.targetLanguages.contains language) = true
  · rw [if_pos hwanted, if_pos hwanted]
  · by_cases hl : isProse language = true
    · simp only [documentExtract, hl, if_true]
    · simp only [Bool.or_eq_true, Bool.not_eq_true', not_or, Bool.not_eq_false,
        Bool.not_eq_true] at hwanted hl
      have hextract (ratio : Float) : documentExtract parsers t language ratio =
          documentExtract parsers' t language ratio := by
        unfold documentExtract
        cases hname : grammarOf? language with
        | none => rfl
        | some name =>
          simp only [h name (consulted_eq_some.2 ⟨hwanted.1, hwanted.2, hl, hname⟩)]
      simp only [hextract]

theorem documentDiagnostics_congr (engine : Except Failure Engine) (t : Text)
    (h : ∀ name, consulted settings language = some name → parsers name = parsers' name) :
    documentDiagnostics engine parsers settings t language =
      documentDiagnostics engine parsers' settings t language := by
  unfold documentDiagnostics documentAnalysis
  rw [documentSegments_congr t h]

/-- Cutting a document asks for the grammar, and does nothing else to the context. -/
theorem segments_of_consulted (c : Context) (t : Text)
    (h : consulted settings language = some name) :
    ((segments e settings t language).onContext c).2 =
      ((Context.grammar? e name).onContext c).2 := by
  obtain ⟨henable, htarget, hl, hname⟩ := consulted_eq_some.1 h
  have hextract (ratio : Float) : (extract e t language ratio).onContext c =
      (documentExtract (c.parser e) t language ratio,
        ((Context.grammar? e name).onContext c).2) :=
    extract_of_grammarOf? hl hname ratio rfl
  unfold segments
  simp only [henable, htarget, hl, Bool.not_true, Bool.or_false, Bool.false_and,
    Bool.false_eq_true, if_false]
  cases settings.minJapaneseRatio with
  | some ratio => exact congrArg Prod.snd (hextract ratio)
  | none =>
    simp only
    rw [onContext_bind, hextract anyRatio]
    cases documentExtract (c.parser e) t language anyRatio with
    | error failure => rfl
    | ok found =>
      simp only
      split
      · rfl
      · rfl

/-- After a check it is known whether the grammar that was asked for can be had. -/
theorem decided_of_validateText (e : Engines) (c : Context) (settings : Settings) (t : Text)
    (h : consulted settings language = some name) :
    ((validateText e settings t language).onContext c).2.grammars.Decided name
      (c.parser e name) := by
  obtain ⟨c', hrun, -, -, hgrammars⟩ := Context.grammar?_spec e name c
  have hsegments : ((segments e settings t language).onContext c).2 = c' := by
    rw [segments_of_consulted c t h, hrun]
  have hlater : Context.Later e c' ((validateText e settings t language).onContext c).2 := by
    rw [← hsegments]
    exact later_of_segments c
  -- It is known once the document is cut, and stays known from there on.
  apply hlater.decided
  rw [hgrammars]
  exact Grammars.decided_load e.grammars c.grammars name

end Check

end Kousei
