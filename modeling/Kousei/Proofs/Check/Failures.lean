import Kousei.Proofs.Check.Answer

/-! # Failures of the check of a document

    The check of a document ends with a failure in four ways and in no other
    (`documentDiagnostics_eq_error`): the parser of its language refuses it,
    there is no engine of the name that was asked for, or one of two limits
    was asked for without a value (`Escapes`).  All other failures, those of
    the engine and of the rules, and those that a parser or the backend gives
    out as failures of the analysis or of loading, are caught, and the document
    has no diagnostics (`documentDiagnostics_of_unanalysed`). -/

namespace Kousei.Check

/-! ## Ways for a failure to get out -/

/-- The settings have no share of Japanese characters to compare with, but the
    document has something to be compared. -/
def Uncompared (parsers : Parsers) (settings : Settings) (t : Text) (language : String) : Prop :=
  settings.minJapaneseRatio = none ∧ settings.enable = true ∧
    settings.targetLanguages.contains language = true ∧
    (isProse language = true ∨
      ∃ found, found ≠ [] ∧ documentExtract parsers t language anyRatio = .ok found)

/-- The ways in which the check of a document ends with a failure. -/
inductive Escapes (engine : Except Failure Engine) (parsers : Parsers) (settings : Settings)
    (t : Text) (language : String) : Failure → Prop
  /-- The parser of the document's grammar refuses it with a failure that is not caught. -/
  | parser {name : String} {parse : Parser} {failure : Failure}
      (hname : consulted settings language = some name) (hparse : parsers name = some parse)
      (hfails : parse t = .error failure) (hother : failure.isAnswered = false) :
      Escapes engine parsers settings t language failure
  /-- There is no engine of the name that was asked for, and a segment to read. -/
  | backend {ss : List Segment} {failure : Failure}
      (hss : documentSegments parsers settings t language = .ok ss) (hne : ss ≠ [])
      (hengine : engine = .error failure) (hother : failure.isAnswered = false) :
      Escapes engine parsers settings t language failure
  /-- The share of Japanese characters is asked for without a value. -/
  | ratio (h : Uncompared parsers settings t language) :
      Escapes engine parsers settings t language .incomparable
  /-- The severity is asked for without a value, and there are diagnostics. -/
  | severity {ss : List Segment} {read : Engine} {found : List (List Diagnostic)}
      (hss : documentSegments parsers settings t language = .ok ss) (hengine : engine = .ok read)
      (hfound : ss.mapM (segmentAnswer read settings) = .ok found) (hsome : found.flatten ≠ [])
      (hnone : settings.minSeverity = none) :
      Escapes engine parsers settings t language .incomparable

/-- The analysis of a document fails: the engine cannot be loaded, or it fails
    at one of the segments, or a rule does, or the parser fails in one of the two
    ways that count as that. -/
inductive Unanalysed (engine : Except Failure Engine) (parsers : Parsers) (settings : Settings)
    (t : Text) (language : String) : Prop
  | parser {name : String} {parse : Parser} {failure : Failure}
      (hname : consulted settings language = some name) (hparse : parsers name = some parse)
      (hfails : parse t = .error failure) (hanswered : failure.isAnswered = true)
  | load {ss : List Segment} {failure : Failure}
      (hss : documentSegments parsers settings t language = .ok ss)
      (hengine : engine = .error failure) (hanswered : failure.isAnswered = true)
  | words {ss : List Segment} {read : Engine} {s : Segment} {failure : Failure}
      (hss : documentSegments parsers settings t language = .ok ss) (hs : s ∈ ss)
      (hengine : engine = .ok read) (hfails : read s.text = .error failure)
  | rules {ss : List Segment} {read : Engine} {s : Segment} {ms : List Morpheme}
      {failure : Failure} (hss : documentSegments parsers settings t language = .ok ss)
      (hs : s ∈ ss) (hengine : engine = .ok read) (hms : read s.text = .ok ms)
      (hfails : Rule.failure? s.text (Sentence.split s.text (anchor s.text ms)) settings.rules =
        some failure)

variable {settings : Settings} {t : Text} {language : String}
  {engine : Except Failure Engine} {read : Engine} {parsers : Parsers} {failure : Failure}

/-- A document that is not prose cannot be cut just when its parser refuses it. -/
theorem documentExtract_eq_error (hl : isProse language = false) (minRatio : Float) :
    documentExtract parsers t language minRatio = .error failure ↔
      ∃ name parse, grammarOf? language = some name ∧ parsers name = some parse ∧
        parse t = .error failure := by
  unfold documentExtract
  simp only [hl, Bool.false_eq_true, if_false]
  cases hname : grammarOf? language with
  | none => simp
  | some name =>
    cases hparse : parsers name with
    | none => simp [hparse]
    | some parse =>
      cases hfails : parse t with
      | error failure' => simp [hparse, hfails, Except.map]
      | ok tree => simp [hparse, hfails, Except.map]

/-- A document cannot be cut if its parser refuses it, or if there is no share to
    compare with. -/
theorem documentSegments_eq_error :
    documentSegments parsers settings t language = .error failure ↔
      (∃ name parse, consulted settings language = some name ∧ parsers name = some parse ∧
        parse t = .error failure) ∨
      failure = .incomparable ∧ Uncompared parsers settings t language := by
  unfold documentSegments Uncompared consulted
  by_cases hwanted : (!settings.enable || !settings.targetLanguages.contains language) = true
  · have hnot : ¬ (settings.enable = true ∧
        settings.targetLanguages.contains language = true) := by
      rintro ⟨henable, htarget⟩
      rw [henable, htarget] at hwanted
      cases hwanted
    rw [if_pos hwanted]
    simp only [hwanted, Bool.true_or, if_true]
    constructor
    · intro h
      cases h
    · rintro (⟨name, parse, h, -⟩ | ⟨-, -, henable, htarget, -⟩)
      · cases h
      · exact absurd ⟨henable, htarget⟩ hnot
  · rw [if_neg hwanted]
    simp only [Bool.or_eq_true, Bool.not_eq_true', not_or, Bool.not_eq_false] at hwanted
    obtain ⟨henable, htarget⟩ := hwanted
    simp only [henable, htarget, Bool.not_true, Bool.false_or, true_and]
    cases hl : isProse language with
    | true =>
      -- Prose is never parsed, and its segments are there in any case.
      cases settings.minJapaneseRatio with
      | some ratio =>
        by_cases hratio : t.japaneseRatio < ratio
        · simp [hratio]
        · simp [documentExtract, hl, hratio]
      | none => simp [eq_comm]
    | false =>
      -- Without a share the document is cut all the same, so its parser may fail first.
      simp only [Bool.false_and, Bool.false_eq_true, if_false, false_or]
      cases settings.minJapaneseRatio with
      | some ratio => simp [documentExtract_eq_error hl]
      | none =>
        rw [← documentExtract_eq_error hl anyRatio]
        cases documentExtract parsers t language anyRatio with
        | error failure' => simp [Except.bind]
        | ok found =>
          cases found with
          | nil => simp [Except.bind]
          | cons s r => simp [Except.bind, eq_comm]

theorem segmentAnswer_of_error {s : Segment} (h : read s.text = .error failure) :
    segmentAnswer read settings s = .error failure := by
  unfold segmentAnswer
  rw [h]
  rfl

theorem segmentAnswer_of_rule {s : Segment} {ms : List Morpheme} (hms : read s.text = .ok ms)
    (h : Rule.failure? s.text (Sentence.split s.text (anchor s.text ms)) settings.rules =
      some failure) :
    segmentAnswer read settings s = .error failure := by
  unfold segmentAnswer
  rw [hms]
  simp only [Except.bind, h]

/-- A document whose analysis fails has no diagnostics. -/
theorem documentDiagnostics_of_unanalysed (h : Unanalysed engine parsers settings t language) :
    documentDiagnostics engine parsers settings t language = .ok [] := by
  have hnone {ss : List Segment} {read : Engine} {s : Segment} {failure : Failure}
      (hss : documentSegments parsers settings t language = .ok ss) (hs : s ∈ ss)
      (hengine : engine = .ok read) (hfails : segmentAnswer read settings s = .error failure) :
      documentDiagnostics engine parsers settings t language = .ok [] := by
    obtain ⟨failure', hall⟩ := exists_error_of_mem hs hfails
    have hne : ss ≠ [] := List.ne_nil_of_mem hs
    unfold documentDiagnostics documentAnalysis
    rw [hss, hengine]
    simp only [Except.bind, List.isEmpty_iff, if_neg hne, hall]
    exact answered_of_isAnswered (isAnswered_ofAnalysis language failure')
  cases h with
  | parser hname hparse hfails hanswered =>
    unfold documentDiagnostics documentAnalysis
    rw [documentSegments_eq_error.2 (.inl ⟨_, _, hname, hparse, hfails⟩)]
    exact answered_of_isAnswered hanswered
  | load hss hengine hanswered =>
    unfold documentDiagnostics documentAnalysis
    rw [hss, hengine]
    simp only [Except.bind]
    split
    · rfl
    · exact answered_of_isAnswered hanswered
  | words hss hs hengine hfails => exact hnone hss hs hengine (segmentAnswer_of_error hfails)
  | rules hss hs hengine hms hfails =>
    exact hnone hss hs hengine (segmentAnswer_of_rule hms hfails)

theorem reported_eq_error {ds : List Diagnostic} :
    reported settings ds = .error failure ↔
      settings.minSeverity = none ∧ ds ≠ [] ∧ failure = .incomparable := by
  unfold reported
  cases settings.minSeverity with
  | some severity => simp
  | none =>
    cases ds with
    | nil => simp
    | cons d r => simp [eq_comm]

/-- **Failures that get out.**  The check of a document ends with a failure in these
    ways and in no other. -/
theorem documentDiagnostics_eq_error :
    documentDiagnostics engine parsers settings t language = .error failure ↔
      Escapes engine parsers settings t language failure := by
  unfold documentDiagnostics
  rw [answered_eq_error]
  constructor
  · rintro ⟨h, hother⟩
    unfold documentAnalysis at h
    cases hss : documentSegments parsers settings t language with
    | error failure' =>
      rw [hss] at h
      cases h
      rcases documentSegments_eq_error.1 hss with ⟨name, parse, hname, hparse, hfails⟩ | ⟨rfl, hr⟩
      · exact .parser hname hparse hfails hother
      · exact .ratio hr
    | ok ss =>
      rw [hss] at h
      simp only [Except.bind, List.isEmpty_iff] at h
      by_cases hne : ss = []
      · rw [if_pos hne] at h
        cases h
      · rw [if_neg hne] at h
        -- There is something to read, so the engine is asked for.
        cases hengine : engine with
        | error failure' =>
          rw [hengine] at h
          cases h
          exact .backend hss hne rfl hother
        | ok read =>
          rw [hengine] at h
          cases hfound : ss.mapM (segmentAnswer read settings) with
          | error failure' =>
            -- This is a failure of the analysis.
            simp only [hfound] at h
            cases h
            rw [isAnswered_ofAnalysis] at hother
            cases hother
          | ok found =>
            simp only [hfound] at h
            obtain ⟨hnone, hsome, rfl⟩ := reported_eq_error.1 h
            exact .severity hss rfl hfound hsome hnone
  · intro h
    unfold documentAnalysis
    cases h with
    | parser hname hparse hfails hother =>
      rw [documentSegments_eq_error.2 (.inl ⟨_, _, hname, hparse, hfails⟩)]
      exact ⟨rfl, hother⟩
    | backend hss hne hengine hother =>
      rw [hss, hengine]
      simp only [Except.bind, List.isEmpty_iff, if_neg hne]
      exact ⟨trivial, hother⟩
    | ratio h =>
      rw [documentSegments_eq_error.2 (.inr ⟨rfl, h⟩)]
      exact ⟨rfl, rfl⟩
    | @severity ss read found hss hengine hfound hsome hnone =>
      have hne : ss ≠ [] := by
        rintro rfl
        cases hfound
        exact hsome rfl
      rw [hss, hengine]
      simp only [Except.bind, List.isEmpty_iff, if_neg hne, hfound]
      exact ⟨reported_eq_error.2 ⟨hnone, hsome, rfl⟩, rfl⟩

end Kousei.Check
