import Kousei.Proofs.Check.Failures
import Kousei.Proofs.Check.History
import Kousei.Proofs.Check.Observation
import Kousei.Proofs.Check.Words

/-! # All or nothing

    The segments of a document are read one after the other, and the engine, or
    a rule, may fail at any of them when others have been read already.  Then
    the document has no diagnostics at all, and no words if it was the engine
    that failed; otherwise it has those of all its segments (`whole_or_none`).

    A rule can fail although the engine read everything: a limit of thousands of
    digits cannot be put into the message (`none_of_longLimit`).

    Nothing of all that is left behind for later requests (`Unseen`).  The
    engine was there before, so nothing is loaded, and what is written to the
    log is never read. -/

namespace Kousei

namespace Context

open Run

/-- The tokenizer was made ready and has the engine. -/
structure HasEngine (c : Context) (engine : Engine) : Prop where
  failure : c.initFailure = none
  tokenizer : ∃ t, c.tokenizer = some t ∧ t.engine = some engine

namespace HasEngine

variable {e : Engines} {c c' : Context} {engine : Engine}

theorem engine? (h : c.HasEngine engine) (e : Engines) : c.engine? e = .ok engine := by
  obtain ⟨t, ht, hengine⟩ := h.tokenizer
  rw [engine?_of_tokenizer h.failure ht, Tokenizer.loaded_of_engine hengine]

theorem not_pending (h : c.HasEngine engine) : ¬ c.Pending := by
  intro hpending
  obtain ⟨t, ht, hengine⟩ := h.tokenizer
  rw [hpending.engine t ht] at hengine
  cases hengine

theorem same (h : c.HasEngine engine) (hsame : SameTokenizer c c') : c'.HasEngine engine := by
  obtain ⟨t, ht, hengine⟩ := h.tokenizer
  exact ⟨hsame.failure.trans h.failure, t, hsame.tokenizer.trans ht, hengine⟩

/-- The tokenizer that is there is ready. -/
theorem readyTokenizer (h : c.HasEngine engine) (e : Engines) :
    ∃ t, t.engine = some engine ∧ (Context.readyTokenizer e).onContext c = (.ok t, c) := by
  obtain ⟨t, c', hengine, hrun, -⟩ := readyTokenizer_of_engine (h.engine? e)
  have hsame : ((Context.readyTokenizer e).onContext c).2 = c :=
    readyTokenizer_of_not_pending h.not_pending
  rw [hrun] at hsame
  obtain rfl : c' = c := hsame
  exact ⟨t, hengine, hrun⟩

end HasEngine

end Context

namespace Check

open Run

variable {e e' : Engines} {c c₁ after : Context} {settings : Settings} {t : Text}
  {language : String} {engine : Engine} {ss : List Segment} {s : Segment}

/-! ## One segment -/

/-- The engine fails at the segment. -/
def Unread (engine : Engine) (s : Segment) : Prop := ∃ failure, engine s.text = .error failure

/-- The engine fails at the segment, or reads it and a rule fails at its words. -/
inductive FailsAt (engine : Engine) (settings : Settings) (s : Segment) : Prop
  | words (h : Unread engine s)
  | rules {ms : List Morpheme} {failure : Failure} (hms : engine s.text = .ok ms)
      (h : Rule.failure? s.text (Sentence.split s.text (anchor s.text ms)) settings.rules =
        some failure)

/-- The words that the engine reads in a text; none if it fails at it. -/
def wordsOf (engine : Engine) (t : Text) : List Morpheme :=
  match engine t with
  | .ok ms => ms
  | .error _ => []

/-- What the rules report about the words of a segment, at their places in the
    document. -/
def reportedAt (engine : Engine) (settings : Settings) (s : Segment) : List Diagnostic :=
  (Rule.check s.text (Sentence.split s.text (anchor s.text (wordsOf engine s.text)))
    settings.rules).map (·.shifted s.offset)

theorem read_of_not_unread (h : ¬ Unread engine s) :
    engine s.text = .ok (wordsOf engine s.text) := by
  unfold wordsOf
  cases hread : engine s.text with
  | ok ms => rfl
  | error failure => exact absurd ⟨failure, hread⟩ h

/-- Either something fails at the segment, or its diagnostics are those of its words. -/
theorem segmentAnswer_of_not_failsAt (h : ¬ FailsAt engine settings s) :
    segmentAnswer engine settings s = .ok (reportedAt engine settings s) := by
  have hread : engine s.text = .ok (wordsOf engine s.text) :=
    read_of_not_unread fun hunread => h (.words hunread)
  unfold segmentAnswer
  rw [hread]
  simp only [Except.bind]
  cases hrules : Rule.failure? s.text
      (Sentence.split s.text (anchor s.text (wordsOf engine s.text))) settings.rules with
  | none => rfl
  | some failure => exact absurd (.rules hread hrules) h

/-! ## What is answered -/

theorem documentSegments_of_segments
    (hss : (segments e settings t language).onContext c = (.ok ss, c₁)) :
    documentSegments (c.parser e) settings t language = .ok ss := by
  rw [← segments_outcome, hss]

/-- A document has no diagnostics if something fails at one of its segments. -/
theorem validateText_of_failsAt (hengine : c.HasEngine engine)
    (hss : (segments e settings t language).onContext c = (.ok ss, c₁)) (hs : s ∈ ss)
    (h : FailsAt engine settings s) :
    ((validateText e settings t language).onContext c).1 = .ok [] := by
  have hcut := documentSegments_of_segments hss
  rw [validateText_outcome]
  apply documentDiagnostics_of_unanalysed
  cases h with
  | words h =>
    obtain ⟨failure, hfails⟩ := h
    exact .words hcut hs (hengine.engine? e) hfails
  | rules hms hfails => exact .rules hcut hs (hengine.engine? e) hms hfails

/-- Otherwise it has those of all its segments, as far as they are wanted. -/
theorem validateText_of_sound {severity : Int} (hengine : c.HasEngine engine)
    (hss : (segments e settings t language).onContext c = (.ok ss, c₁))
    (h : ¬ ∃ s ∈ ss, FailsAt engine settings s) (hseverity : settings.minSeverity = some severity) :
    ((validateText e settings t language).onContext c).1 =
      .ok ((ss.flatMap (reportedAt engine settings)).filter (·.severity ≤ severity)) := by
  have hall : ss.mapM (segmentAnswer engine settings) =
      .ok (ss.map (reportedAt engine settings)) := by
    apply mapM_ok_of_forall
    intro s hs
    exact segmentAnswer_of_not_failsAt fun hfails => h ⟨s, hs, hfails⟩
  rw [validateText_outcome, hengine.engine? e]
  unfold documentDiagnostics documentAnalysis reported
  rw [documentSegments_of_segments hss]
  simp only [Except.bind, hall, hseverity, List.flatMap_def]
  cases ss with
  | nil => rfl
  | cons s r => rfl

theorem semanticTokens_of_unread (hengine : c.HasEngine engine)
    (hss : (segments e settings t language).onContext c = (.ok ss, c₁)) (hs : s ∈ ss)
    (h : Unread engine s) : ((semanticTokens e settings t language).onContext c).1 = .ok [] := by
  obtain ⟨failure, hfails⟩ := h
  have hsegment : segmentTokens (.ok engine) t s = .error failure := by
    show (engine s.text).map _ = _
    rw [hfails]
    rfl
  obtain ⟨failure', hall⟩ := exists_error_of_mem hs hsegment
  rw [semanticTokens_outcome, hengine.engine? e]
  unfold documentTokens
  rw [documentSegments_of_segments hss]
  simp only [Except.bind, hall]

/-- Otherwise it has all its words. -/
theorem semanticTokens_of_not_unread (hengine : c.HasEngine engine)
    (hss : (segments e settings t language).onContext c = (.ok ss, c₁))
    (h : ¬ ∃ s ∈ ss, Unread engine s) :
    ((semanticTokens e settings t language).onContext c).1 =
      .ok ((inkedPairs (wordsOf engine) ss).map (told t)) := by
  have hsegments : segmentsOf e c settings t language = ss := by
    unfold segmentsOf
    rw [hss]
  have hread : ∀ s ∈ segmentsOf e c settings t language,
      engine s.text = .ok (wordsOf engine s.text) := by
    rw [hsegments]
    intro s hs
    exact read_of_not_unread fun hunread => h ⟨s, hs, hunread⟩
  have hall := semanticTokens_of_read (hengine.engine? e) hread
  rwa [hsegments] at hall

/-! ## What is left behind -/

/-- What a request leaves that cut a document on the way, from the context `c` to `c₁`:
    nothing that later requests could tell. -/
structure Unseen (e : Engines) (c c₁ after : Context) : Prop where
  /-- The log has grown, and other checks have begun and ended meanwhile. -/
  left : ∃ k notices, after =
    { c₁ with generations := e.meanwhile^[k] c₁.generations, notices := c₁.notices ++ notices }
  /-- Later requests, one after the other, are answered as if the document had been cut and
      nothing else, whatever answers them. -/
  cut : Inseparable (fun _ => True) { c₁ with generations := after.generations } after
  /-- If the source of grammars does not change its mind, they are answered as if there had
      been no request. -/
  untouched : e.grammars.Steady → Inseparable e.Agree { c with generations := after.generations }
    after

/-- Cutting a document touches none of the things that a request reads. -/
theorem alike_of_segments (hsteady : e.grammars.Steady) (c : Context) (settings : Settings)
    (t : Text) (language : String) :
    Context.Alike e c ((segments e settings t language).onContext c).2 := by
  have hlater : Context.Later e c ((segments e settings t language).onContext c).2 :=
    segments_keeps c
  constructor
  · exact hlater.engine
  · exact hlater.parser hsteady
  · exact (Context.enrichment_reading e).segments c
  · exact segments_generations e c settings t language

/-- The log is not read, and neither is what other checks did but where it is asked for. -/
theorem unseen_of_left (hss : (segments e settings t language).onContext c = (.ok ss, c₁))
    (h : ∃ k notices, after =
      { c₁ with generations := e.meanwhile^[k] c₁.generations, notices := c₁.notices ++ notices }) :
    Unseen e c c₁ after := by
  refine ⟨h, ?_, ?_⟩
  · obtain ⟨k, notices, rfl⟩ := h
    exact Bisimulation.inseparable (fun e' _ => Context.sameButLog_bisimulation e')
      ⟨c₁.notices ++ notices, rfl⟩
  · intro hsteady
    have hcut := alike_of_segments hsteady c settings t language
    rw [hss] at hcut
    obtain ⟨k, notices, rfl⟩ := h
    exact Bisimulation.inseparable
      (fun e' hagree => Context.alike_bisimulation_of_agree hsteady hagree)
      ⟨hcut.engine, hcut.parser, hcut.enrichment, rfl⟩

theorem hasEngine_of_segments (hengine : c.HasEngine engine)
    (hss : (segments e settings t language).onContext c = (.ok ss, c₁)) :
    c₁.HasEngine engine := by
  have hsame : Context.SameTokenizer c ((segments e settings t language).onContext c).2 :=
    (Context.same_answering e).segments c
  rw [hss] at hsame
  exact hengine.same hsame

theorem validateText_leaves (hengine : c.HasEngine engine)
    (hss : (segments e settings t language).onContext c = (.ok ss, c₁)) :
    ∃ k notices, ((validateText e settings t language).onContext c).2 =
      { c₁ with
        generations := e.meanwhile^[k] c₁.generations
        notices := c₁.notices ++ notices } := by
  obtain ⟨tokenizer, htokenizer, hready⟩ :=
    (hasEngine_of_segments hengine hss).readyTokenizer e
  have hanalysis : ∃ k, ((validate e settings t language).onContext c).2 =
      { c₁ with generations := e.meanwhile^[k] c₁.generations } := by
    rw [validate_eq, bind_of_ok hss]
    unfold diagnosticsOf
    split
    · exact ⟨0, rfl⟩
    · rw [bind_of_ok hready]
      exact ⟨asked engine settings ss, diagnosticsBy_leaves e settings language htokenizer ss c₁⟩
  obtain ⟨k, hanalysed⟩ := hanalysis
  obtain ⟨notices, hleft⟩ := validateText_context e settings t language c
  rw [hleft, hanalysed]
  exact ⟨k, notices, rfl⟩

/-- Each segment is one text to ask about, up to the first at which the engine fails. -/
theorem semanticTokensIn_leaves (e : Engines) (document : Text) (ss : List Segment)
    (hengine : c.HasEngine engine) :
    ∃ k, ((semanticTokensIn e document ss).onContext c).2 =
      { c with generations := e.meanwhile^[k] c.generations } := by
  induction ss generalizing c with
  | nil => exact ⟨0, rfl⟩
  | cons s r ih =>
    obtain ⟨tokenizer, htokenizer, hready⟩ := hengine.readyTokenizer e
    have hwords : ((Context.tokenize e tokenizer s.text).onContext c).1 =
        (engine s.text).map (anchor s.text) := Context.tokenize_outcome htokenizer s.text c
    have hasked : ((Context.tokenize e tokenizer s.text).onContext c).2 =
        { c with generations := e.meanwhile c.generations } := rfl
    unfold semanticTokensIn
    rw [bind_of_ok hready]
    cases hread : engine s.text with
    | error failure =>
      rw [hread] at hwords
      rw [context_bind_of_error hwords, hasked]
      exact ⟨1, rfl⟩
    | ok ms =>
      rw [hread] at hwords
      -- Asking changed nothing but the numbers, so the engine is there for the rest too.
      have hnext : ({ c with generations := e.meanwhile c.generations } : Context).HasEngine
          engine := ⟨hengine.failure, hengine.tokenizer⟩
      obtain ⟨k, hrest⟩ := ih hnext
      rw [context_bind_of_ok hwords, hasked, context_bind_of_still (fun _ _ => rfl), hrest]
      exact ⟨k + 1, rfl⟩

theorem semanticTokens_leaves (hengine : c.HasEngine engine)
    (hss : (segments e settings t language).onContext c = (.ok ss, c₁)) :
    ∃ k notices, ((semanticTokens e settings t language).onContext c).2 =
      { c₁ with
        generations := e.meanwhile^[k] c₁.generations
        notices := c₁.notices ++ notices } := by
  obtain ⟨k, hleft⟩ := semanticTokensIn_leaves e t ss (hasEngine_of_segments hengine hss)
  have hall : ((segments e settings t language >>= semanticTokensIn e t).onContext c).2 =
      { c₁ with generations := e.meanwhile^[k] c₁.generations } := by
    rw [bind_of_ok hss, hleft]
  unfold semanticTokens
  simp only
  rw [context_attempt_bind, hall]
  -- As with diagnostics, a failure is written to the log and nowhere else.
  rcases ((segments e settings t language >>= semanticTokensIn e t).onContext c).1 with
    failure | ys
  · cases failure with
    | initialization reason => exact ⟨k, [], by rw [List.append_nil]; rfl⟩
    | _ => exact ⟨k, [.semanticTokensFailed], rfl⟩
  · exact ⟨k, [], by rw [List.append_nil]; rfl⟩

/-! ## All or nothing -/

/-- **All or nothing.**  Let the engine be loaded and the document be cut.  If the engine or
    a rule fails at a segment there are no diagnostics, and otherwise there are those of all
    segments in their order, but for the ones that are not grave enough.  If the engine fails
    at a segment there are no words, and otherwise there are those of all segments.  In no
    case is anything left behind that later requests could tell. -/
theorem whole_or_none (e : Engines) (c c₁ : Context) (engine : Engine) (settings : Settings)
    (t : Text) (language : String) (ss : List Segment) (hengine : c.HasEngine engine)
    (hss : (segments e settings t language).onContext c = (.ok ss, c₁)) :
    ((∃ s ∈ ss, FailsAt engine settings s) →
      ((validateText e settings t language).onContext c).1 = .ok []) ∧
    ((¬ ∃ s ∈ ss, FailsAt engine settings s) →
      ∀ severity, settings.minSeverity = some severity →
        ((validateText e settings t language).onContext c).1 =
          .ok ((ss.flatMap (reportedAt engine settings)).filter (·.severity ≤ severity))) ∧
    ((∃ s ∈ ss, Unread engine s) →
      ((semanticTokens e settings t language).onContext c).1 = .ok []) ∧
    ((¬ ∃ s ∈ ss, Unread engine s) →
      ((semanticTokens e settings t language).onContext c).1 =
        .ok ((inkedPairs (wordsOf engine) ss).map (told t))) ∧
    Unseen e c c₁ ((validateText e settings t language).onContext c).2 ∧
    Unseen e c c₁ ((semanticTokens e settings t language).onContext c).2 := by
  refine ⟨?_, ?_, ?_, ?_, ?_, ?_⟩
  · rintro ⟨s, hs, hfails⟩
    exact validateText_of_failsAt hengine hss hs hfails
  · intro hsound severity hseverity
    exact validateText_of_sound hengine hss hsound hseverity
  · rintro ⟨s, hs, hfails⟩
    exact semanticTokens_of_unread hengine hss hs hfails
  · intro hread
    exact semanticTokens_of_not_unread hengine hss hread
  · exact unseen_of_left hss (validateText_leaves hengine hss)
  · exact unseen_of_left hss (semanticTokens_leaves hengine hss)

/-- A context with an engine that was loaded. -/
def loadedWith (engine : Engine) : Context where
  tokenizer := some { backend := ⟨"sample", none, .ok engine⟩, engine := some engine }

theorem loadedWith_hasEngine (engine : Engine) : (loadedWith engine).HasEngine engine :=
  ⟨rfl, _, rfl, rfl⟩

/-- An engine that fails at every text. -/
def deafEngine : Engine := fun _ => .error (.raised "RuntimeError" "no words")

/-- No rule fails at the verbs. -/
theorem sampleProse_sound : ¬ ∃ s ∈ [(⟨sampleProse, 0⟩ : Segment)],
    FailsAt (fun _ => .ok sampleVerbs) {} s := by
  rintro ⟨s, hs, hfails⟩
  rw [List.mem_singleton.1 hs] at hfails
  cases hfails with
  | words h =>
    obtain ⟨failure, hfails⟩ := h
    cases hfails
  | rules hms h =>
    cases hms
    have hnone : Rule.failure? sampleProse
        (Sentence.split sampleProse (anchor sampleProse sampleVerbs)) {} = none := by
      decide +kernel
    rw [hnone] at h
    cases h

/-- One engine fails at the document, and another reads it. -/
theorem whole_or_none_of_sampleProse :
    (loadedWith deafEngine).HasEngine deafEngine ∧
    ((validateText proseEngines {} sampleProse "plaintext").onContext
      (loadedWith deafEngine)).1 = .ok [] ∧
    ((semanticTokens proseEngines {} sampleProse "plaintext").onContext
      (loadedWith deafEngine)).1 = .ok [] ∧
    Inseparable proseEngines.Agree (loadedWith deafEngine)
      ((validateText proseEngines {} sampleProse "plaintext").onContext
        (loadedWith deafEngine)).2 ∧
    ∃ ds, ((validateText proseEngines {} sampleProse "plaintext").onContext
        (loadedWith fun _ => .ok sampleVerbs)).1 = .ok ds ∧
      ds.map (fun d => (d.start, d.stop)) = [(0, 3), (4, 7)] := by
  have hcut : (segments proseEngines {} sampleProse "plaintext").onContext
      (loadedWith deafEngine) = (.ok [⟨sampleProse, 0⟩], loadedWith deafEngine) := rfl
  obtain ⟨hnone, -, hnowords, -, hunseen, -⟩ := whole_or_none proseEngines (loadedWith deafEngine)
    (loadedWith deafEngine) deafEngine {} sampleProse "plaintext" [⟨sampleProse, 0⟩]
    (loadedWith_hasEngine deafEngine) hcut
  have hunread : Unread deafEngine ⟨sampleProse, 0⟩ := ⟨_, rfl⟩
  have hmember : (⟨sampleProse, 0⟩ : Segment) ∈ [(⟨sampleProse, 0⟩ : Segment)] :=
    List.mem_singleton_self _
  refine ⟨loadedWith_hasEngine deafEngine, hnone ⟨_, hmember, .words hunread⟩,
    hnowords ⟨_, hmember, hunread⟩, hunseen.untouched fun _ _ _ => rfl, ?_⟩
  have hcut' : (segments proseEngines {} sampleProse "plaintext").onContext
      (loadedWith fun _ => .ok sampleVerbs) =
        (.ok [⟨sampleProse, 0⟩], loadedWith fun _ => .ok sampleVerbs) := rfl
  obtain ⟨-, hall, -⟩ := whole_or_none proseEngines (loadedWith fun _ => .ok sampleVerbs) _ _ {}
    sampleProse "plaintext" [⟨sampleProse, 0⟩] (loadedWith_hasEngine _) hcut'
  exact ⟨_, hall sampleProse_sound 2 rfl, by decide +kernel⟩

/-- A limit of commas of more digits than can be written. -/
def longLimit : Settings where
  rules := { commaLimitMax := .count (-(Nat.pow 10 Decimal.maxDigits : Nat)) }

/-- A verb without ra is found, but the limit of commas cannot be put into a message. -/
theorem longLimit_fails :
    FailsAt (fun _ => .ok sampleVerbs) longLimit ⟨sampleProse, 0⟩ := by
  have hsome : (Rule.failure? sampleProse
      (Sentence.split sampleProse (anchor sampleProse sampleVerbs)) longLimit.rules).isSome =
        true := by decide +kernel
  obtain ⟨failure, hfailure⟩ := Option.isSome_iff_exists.1 hsome
  exact .rules rfl hfailure

/-- It is not so that a document which is read as a whole has all its diagnostics. -/
theorem none_of_longLimit :
    ¬ ∀ (e : Engines) (c c₁ : Context) (engine : Engine) (settings : Settings) (t : Text)
      (language : String) (ss : List Segment) (severity : Int), c.HasEngine engine →
      (segments e settings t language).onContext c = (.ok ss, c₁) →
      (¬ ∃ s ∈ ss, Unread engine s) → settings.minSeverity = some severity →
      ((validateText e settings t language).onContext c).1 =
        .ok ((ss.flatMap (reportedAt engine settings)).filter (·.severity ≤ severity)) := by
  intro h
  have hcut : (segments proseEngines longLimit sampleProse "plaintext").onContext
      (loadedWith fun _ => .ok sampleVerbs) =
        (.ok [⟨sampleProse, 0⟩], loadedWith fun _ => .ok sampleVerbs) := rfl
  have hread : ¬ ∃ s ∈ [(⟨sampleProse, 0⟩ : Segment)],
      Unread (fun _ => .ok sampleVerbs) s := by
    rintro ⟨s, -, failure, hfails⟩
    cases hfails
  have hall := h proseEngines _ _ _ longLimit sampleProse "plaintext" _ 2
    (loadedWith_hasEngine _) hcut hread rfl
  have hnone := validateText_of_failsAt (loadedWith_hasEngine _) hcut
    (List.mem_singleton_self _) longLimit_fails
  -- Nothing is reported, but both verbs are to be found among all diagnostics.
  rw [hnone] at hall
  have hsome : ((([⟨sampleProse, 0⟩] : List Segment).flatMap
      (reportedAt (fun _ => .ok sampleVerbs) longLimit)).filter (·.severity ≤ 2)).isEmpty =
        false := by decide +kernel
  rw [← Except.ok.inj hall] at hsome
  cases hsome

end Check

end Kousei
