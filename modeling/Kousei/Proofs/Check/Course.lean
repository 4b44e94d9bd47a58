import Kousei.Check.Hover
import Kousei.Check.Paths
import Kousei.Check.SemanticTokens
import Kousei.Proofs.Check.Run

/-! # The course of an operation

    All operations on a context are put together from a few steps that touch
    it: a grammar is asked for, the tokenizer is made ready, the engine is asked
    about a text, a summary is asked for, and something is written to the log.
    What holds of each of these steps, and of one part followed by another if it
    holds of both, holds of every operation.

    Three kinds of parts take ever more kinds of steps: cutting a document into
    segments and asking a ready tokenizer about them (`ReadingSteps`), making
    an answer of that (`AnsweringSteps`), and a whole request, for which the
    tokenizer is made ready (`ServingSteps`).

    One thing that can be said of an operation is that what it finds and what it
    leaves are related in some way (`Run.Within`). -/

namespace Kousei

/-- Does the notice tell that an engine could not be loaded? -/
def Notice.isLoadReport : Notice → Bool
  | .tokenizerFailed .. => true
  | _ => false

variable {e : Engines}

/-! ## Steps -/

/-- What holds of the steps of reading a document. -/
structure ReadingSteps (e : Engines) (P : ∀ α : Type, Run α → Prop) : Prop where
  ofExcept : ∀ {α : Type} (outcome : Except Failure α), P α (Run.ofExcept outcome)
  attempt : ∀ {α : Type} {run : Run α}, P α run → P (Except Failure α) (Run.attempt run)
  bind : ∀ {α β : Type} {run : Run α} {rest : α → Run β}, P α run → (∀ a, P β (rest a)) →
    P β (run >>= rest)
  grammar : ∀ name, P (Option Parser) (Context.grammar? e name)
  /-- Other checks begin or end while the engine is asked about a text. -/
  meanwhile : P PUnit (modify fun c => { c with generations := e.meanwhile c.generations })

/-- What holds of all steps but those of making the tokenizer ready. -/
structure AnsweringSteps (e : Engines) (P : ∀ α : Type, Run α → Prop) : Prop
    extends ReadingSteps e P where
  summary : ∀ term, P (Option Value) (Context.summary e term)
  /-- Something other than a failure to load is written to the log. -/
  log : ∀ n : Notice, n.isLoadReport = false → P PUnit (Run.log [n])

/-- What holds of all steps that serve a request.  A tokenizer that is ready is good for
    nothing but its engine. -/
structure ServingSteps (e : Engines) (P : ∀ α : Type, Run α → Prop) : Prop
    extends AnsweringSteps e P where
  ready : ∀ {α : Type} {rest : Tokenizer → Run α},
    (∀ t t', t.engine = t'.engine → rest t = rest t') → (∀ t, P α (rest t)) →
    P α (Context.readyTokenizer e >>= rest)

/-! ## Operations within a relation -/

namespace Run

variable {α β : Type} {R : Context → Context → Prop}

/-- The operation leads from every context to one that is related to it,
    whatever its outcome is. -/
def Within (R : Context → Context → Prop) {α : Type} (run : Run α) : Prop :=
  ∀ c, R c (run.onContext c).2

theorem Within.attempt {run : Run α} (h : Within R run) : Within R (Run.attempt run) := h

/-- The rest of an operation leads from what its first part left to what the
    whole leaves. -/
theorem within_bind (hrefl : ∀ c, R c c) (run : Run α) {rest : α → Run β}
    (h : ∀ a, Within R (rest a)) (c : Context) :
    R (run.onContext c).2 ((run >>= rest).onContext c).2 := by
  rw [onContext_bind]
  rcases run.onContext c with ⟨_ | a, c'⟩
  · exact hrefl c'
  · exact h a c'

/-- Making the tokenizer ready may be the first step if it lies in the preorder, too. -/
theorem Within.ready (hrefl : ∀ c, R c c) (htrans : ∀ {c c' c''}, R c c' → R c' c'' → R c c'')
    (hready : Within R (Context.readyTokenizer e)) {rest : Tokenizer → Run α}
    (hrest : ∀ t, Within R (rest t)) : Within R (Context.readyTokenizer e >>= rest) :=
  fun c => htrans (hready c) (within_bind hrefl _ hrest c)

end Run

/-- A preorder in which the steps of reading a document lie. -/
theorem ReadingSteps.within {R : Context → Context → Prop} (hrefl : ∀ c, R c c)
    (htrans : ∀ {c c' c''}, R c c' → R c' c'' → R c c'')
    (hgrammar : ∀ name, Run.Within R (Context.grammar? e name))
    (hgenerations : ∀ (g : Generations) (c : Context), R c { c with generations := g }) :
    ReadingSteps e (@Run.Within R) where
  ofExcept := fun _ => hrefl
  attempt := Run.Within.attempt
  bind := fun hrun hrest c => htrans (hrun c) (Run.within_bind hrefl _ hrest c)
  grammar := hgrammar
  meanwhile := fun c => hgenerations (e.meanwhile c.generations) c

variable {P : ∀ α : Type, Run α → Prop}

/-! ## Reading a document -/

namespace ReadingSteps

open Run Check

variable {α β : Type} {settings : Settings} {t : Text} {language : String}

theorem pure (h : ReadingSteps e P) (a : α) : P α (Pure.pure a : Run α) := h.ofExcept (.ok a)

theorem throw (h : ReadingSteps e P) (failure : Failure) : P α (throw failure : Run α) :=
  h.ofExcept (.error failure)

theorem tokenize (h : ReadingSteps e P) (tokenizer : Tokenizer) (s : Text) :
    P _ (Context.tokenize e tokenizer s) :=
  h.bind h.meanwhile fun _ => h.ofExcept _

theorem parser? (h : ReadingSteps e P) (language : String) :
    P _ (Context.parser? e language) := by
  unfold Context.parser?
  split
  · exact h.pure none
  · exact h.grammar _

theorem treeSegments (h : ReadingSteps e P) (minRatio : Float) :
    P _ (treeSegments e t language minRatio) := by
  unfold Check.treeSegments
  split
  · exact h.pure []
  · refine h.bind (h.grammar _) fun parse => ?_
    cases parse with
    | none => exact h.pure []
    | some parse => exact h.bind (h.ofExcept _) fun _ => h.pure _

theorem extract (h : ReadingSteps e P) (minRatio : Float) :
    P _ (extract e t language minRatio) := by
  unfold Check.extract
  split
  · exact h.pure _
  · split
    · refine h.bind (h.parser? language) fun parse => ?_
      split
      · exact h.treeSegments minRatio
      · exact h.pure _
    · exact h.pure _

theorem segments (h : ReadingSteps e P) : P _ (segments e settings t language) := by
  unfold Check.segments
  split
  · exact h.pure []
  · split
    · split
      · exact h.pure []
      · exact h.extract _
    · split
      · exact h.throw _
      · refine h.bind (h.extract anyRatio) fun found => ?_
        split
        · exact h.pure []
        · exact h.throw _

theorem segmentDiagnostics (h : ReadingSteps e P) (tokenizer : Tokenizer) (s : Segment) :
    P _ (segmentDiagnostics e settings tokenizer s) := by
  unfold Check.segmentDiagnostics sentences
  refine h.bind (h.bind (h.tokenize tokenizer s.text) fun _ => h.pure _) fun _ => ?_
  split
  · exact h.throw _
  · exact h.pure _

theorem segmentsDiagnostics (h : ReadingSteps e P) (tokenizer : Tokenizer) (ss : List Segment) :
    P _ (segmentsDiagnostics e settings tokenizer ss) := by
  induction ss with
  | nil => exact h.pure []
  | cons s r ih =>
    exact h.bind (h.segmentDiagnostics tokenizer s) fun _ => h.bind ih fun _ => h.pure _

end ReadingSteps

/-! ## Parts of the check of a document -/

/-- Of a tokenizer that texts are given to only the engine counts. -/
theorem Context.tokenize_congr {t t' : Tokenizer} (h : t.engine = t'.engine) (s : Text) :
    Context.tokenize e t s = Context.tokenize e t' s := by
  unfold Context.tokenize Tokenizer.tokenize
  rw [h]

namespace Check

variable {settings : Settings} {language : String}

/-- What follows when the tokenizer is ready. -/
def diagnosticsBy (e : Engines) (settings : Settings) (language : String) (ss : List Segment)
    (tokenizer : Tokenizer) : Run (List Diagnostic) := do
  match ← Run.attempt (segmentsDiagnostics e settings tokenizer ss) with
  | .ok ds => Run.ofExcept (reported settings ds)
  | .error failure => throw (failure.ofAnalysis language)

theorem segmentDiagnostics_congr {tokenizer tokenizer' : Tokenizer}
    (h : tokenizer.engine = tokenizer'.engine) (s : Segment) :
    segmentDiagnostics e settings tokenizer s = segmentDiagnostics e settings tokenizer' s := by
  unfold segmentDiagnostics sentences
  rw [Context.tokenize_congr h]

theorem segmentsDiagnostics_congr {tokenizer tokenizer' : Tokenizer}
    (h : tokenizer.engine = tokenizer'.engine) (ss : List Segment) :
    segmentsDiagnostics e settings tokenizer ss =
      segmentsDiagnostics e settings tokenizer' ss := by
  induction ss with
  | nil => rfl
  | cons s r ih =>
    unfold segmentsDiagnostics
    rw [segmentDiagnostics_congr h, ih]

theorem diagnosticsBy_congr {tokenizer tokenizer' : Tokenizer}
    (h : tokenizer.engine = tokenizer'.engine) (ss : List Segment) :
    diagnosticsBy e settings language ss tokenizer =
      diagnosticsBy e settings language ss tokenizer' := by
  unfold diagnosticsBy
  rw [segmentsDiagnostics_congr h]

/-- What follows when a document is cut into segments. -/
def diagnosticsOf (e : Engines) (settings : Settings) (language : String) (ss : List Segment) :
    Run (List Diagnostic) := do
  if ss.isEmpty then return []
  diagnosticsBy e settings language ss (← Context.readyTokenizer e)

theorem validate_eq (e : Engines) (settings : Settings) (t : Text) (language : String) :
    validate e settings t language =
      segments e settings t language >>= diagnosticsOf e settings language := by
  unfold validate diagnosticsOf diagnosticsBy
  rfl

/-- An outcome as it is given to the outside: a failure of the analysis or of loading
    the tokenizer is no diagnostics. -/
def answered : Except Failure (List Diagnostic) → Except Failure (List Diagnostic)
  | .ok ds => .ok ds
  | .error failure => if failure.isAnswered then .ok [] else .error failure

/-- What has become a failure of the analysis is not passed on. -/
theorem isAnswered_ofAnalysis (language : String) (failure : Failure) :
    (failure.ofAnalysis language).isAnswered = true := by
  cases failure <;> rfl

section Answered

variable {failure : Failure} {outcome : Except Failure (List Diagnostic)} {ds : List Diagnostic}

theorem answered_of_isAnswered (h : failure.isAnswered = true) :
    answered (.error failure) = .ok [] := if_pos h

theorem answered_of_not_isAnswered (h : failure.isAnswered = false) :
    answered (.error failure) = .error failure := if_neg (by simp [h])

theorem answered_error_eq_ok :
    answered (.error failure) = .ok ds ↔ failure.isAnswered = true ∧ ds = [] := by
  cases h : failure.isAnswered with
  | true => simp [answered_of_isAnswered h, eq_comm]
  | false => simp [answered_of_not_isAnswered h]

theorem answered_eq_error :
    answered outcome = .error failure ↔ outcome = .error failure ∧ failure.isAnswered = false := by
  cases outcome with
  | ok ds => simp [answered]
  | error failure' =>
    cases h : failure'.isAnswered with
    | true =>
      rw [answered_of_isAnswered h]
      constructor
      · intro hfails
        cases hfails
      · rintro ⟨hfails, hother⟩
        cases hfails
        exact absurd (hother.symm.trans h) Bool.false_ne_true
    | false =>
      rw [answered_of_not_isAnswered h]
      constructor
      · intro hfails
        cases hfails
        exact ⟨rfl, h⟩
      · exact And.left

end Answered

/-- What is written to the log about an outcome. -/
def noticesOn : Except Failure (List Diagnostic) → List Notice
  | .error (.analysis _) => [.analysisFailed]
  | _ => []

/-- What follows when the analysis of a document has ended. -/
def conclude : Except Failure (List Diagnostic) → Run (List Diagnostic)
  | .ok ds => return ds
  | .error (.initialization _) => return []
  | .error (.analysis _) => do
    Run.log [.analysisFailed]
    return []
  | .error failure => throw failure

theorem validateText_eq (e : Engines) (settings : Settings) (t : Text) (language : String) :
    validateText e settings t language =
      Run.attempt (validate e settings t language) >>= conclude := by
  unfold validateText conclude
  rfl

/-- The check of a document gives the outcome of its analysis to the outside, and writes
    to the log about it. -/
theorem validateText_onContext {e : Engines} {settings : Settings} {t : Text} {language : String}
    {c c' : Context} {outcome : Except Failure (List Diagnostic)}
    (h : (validate e settings t language).onContext c = (outcome, c')) :
    (validateText e settings t language).onContext c =
      (answered outcome, { c' with notices := c'.notices ++ noticesOn outcome }) := by
  have hunchanged : { c' with notices := c'.notices ++ [] } = c' := by rw [List.append_nil]
  rw [validateText_eq, Run.bind_of_ok (Run.attempt_eq_ok.2 h)]
  cases outcome with
  | ok ds => exact Prod.ext rfl hunchanged.symm
  | error failure =>
    cases failure with
    | analysis reason => rfl
    | initialization reason => exact Prod.ext rfl hunchanged.symm
    | unknownBackend name => exact Prod.ext rfl hunchanged.symm
    | raised kind message => exact Prod.ext rfl hunchanged.symm

/-- Nothing but the log is touched once the analysis has ended. -/
theorem validateText_context (e : Engines) (settings : Settings) (t : Text) (language : String)
    (c : Context) :
    ∃ notices, ((validateText e settings t language).onContext c).2 =
      { ((validate e settings t language).onContext c).2 with
        notices := ((validate e settings t language).onContext c).2.notices ++ notices } := by
  rcases hrun : (validate e settings t language).onContext c with ⟨outcome, c'⟩
  rw [validateText_onContext hrun]
  exact ⟨noticesOn outcome, rfl⟩

end Check

/-! ## Answering a request -/

namespace AnsweringSteps

open Run Check

variable {settings : Settings} {t : Text} {language : String}

theorem diagnosticsBy (h : AnsweringSteps e P) (ss : List Segment) (tokenizer : Tokenizer) :
    P _ (diagnosticsBy e settings language ss tokenizer) := by
  unfold Check.diagnosticsBy
  refine h.bind (h.attempt (h.segmentsDiagnostics tokenizer ss)) fun found => ?_
  split
  · exact h.ofExcept _
  · exact h.throw _

theorem conclude (h : AnsweringSteps e P) (outcome : Except Failure (List Diagnostic)) :
    P _ (conclude outcome) := by
  unfold Check.conclude
  split
  · exact h.pure _
  · exact h.pure []
  · exact h.bind (h.log _ rfl) fun _ => h.pure []
  · exact h.throw _

theorem hoverContent (h : AnsweringSteps e P) (x : Token) :
    P _ (hoverContent e settings x) := by
  have hsummary : P _ (summaryOrNone e x.baseForm) := by
    unfold summaryOrNone
    refine h.bind (h.attempt (h.summary x.baseForm)) fun outcome => ?_
    split
    · exact h.pure _
    · exact h.pure none
  unfold Check.hoverContent
  split
  · exact h.pure _
  · refine h.bind hsummary fun summary => ?_
    split
    · exact h.pure _
    · exact h.pure _

end AnsweringSteps

/-! ## Serving a request -/

namespace ServingSteps

open Run Check

variable {settings : Settings} {t : Text} {language : String} {w : Workspace}
  {given : Option String}

theorem diagnosticsOf (h : ServingSteps e P) (ss : List Segment) :
    P _ (diagnosticsOf e settings language ss) := by
  unfold Check.diagnosticsOf
  split
  · exact h.pure []
  · exact h.ready (fun _ _ hengine => diagnosticsBy_congr hengine ss) (h.diagnosticsBy ss)

theorem validate (h : ServingSteps e P) : P _ (validate e settings t language) := by
  rw [validate_eq]
  exact h.bind h.segments fun ss => h.diagnosticsOf ss

theorem validateText (h : ServingSteps e P) : P _ (validateText e settings t language) := by
  rw [validateText_eq]
  exact h.bind (h.attempt h.validate) h.conclude

theorem checkText (h : ServingSteps e P) (file : Option String) :
    P _ (checkText e settings file t language) :=
  h.bind h.validateText fun _ => h.pure _

/-! ### Questions of an editor -/

theorem coveringIn (h : ServingSteps e P) (offset : Int) (ss : List Segment) :
    P _ (coveringIn e offset ss) := by
  induction ss with
  | nil => exact h.pure none
  | cons s r ih =>
    unfold Check.coveringIn
    split
    · exact ih
    · refine h.ready (fun _ _ hengine => ?_) fun tokenizer => ?_
      · rw [Context.tokenize_congr hengine]
      refine h.bind (h.tokenize tokenizer s.text) fun xs => ?_
      split
      · exact h.pure _
      · exact ih

theorem hover (h : ServingSteps e P) (offset : Int) :
    P _ (hover e settings t language offset) := by
  have hcovering : P _ (coveringToken e settings t language offset) :=
    h.bind h.segments fun ss => h.coveringIn offset ss
  unfold Check.hover
  refine h.bind (h.attempt hcovering) fun outcome => ?_
  split
  · exact h.pure none
  · exact h.bind (h.hoverContent _) fun _ => h.pure _
  · exact h.pure none
  · exact h.bind (h.log _ rfl) fun _ => h.pure none

theorem semanticTokensIn (h : ServingSteps e P) (document : Text) (ss : List Segment) :
    P _ (semanticTokensIn e document ss) := by
  induction ss with
  | nil => exact h.pure []
  | cons s r ih =>
    unfold Check.semanticTokensIn
    refine h.ready (fun _ _ hengine => ?_) fun tokenizer => ?_
    · rw [Context.tokenize_congr hengine]
    exact h.bind (h.tokenize tokenizer s.text) fun _ => h.bind ih fun _ => h.pure _

theorem semanticTokens (h : ServingSteps e P) :
    P _ (semanticTokens e settings t language) := by
  have hall : P _ (segments e settings t language >>= Check.semanticTokensIn e t) :=
    h.bind h.segments fun ss => h.semanticTokensIn t ss
  unfold Check.semanticTokens
  refine h.bind (h.attempt hall) fun outcome => ?_
  split
  · exact h.pure _
  · exact h.pure []
  · exact h.bind (h.log _ rfl) fun _ => h.pure []

/-! ### Files -/

theorem checkFile (h : ServingSteps e P) (path : String) :
    P _ (checkFile e settings w given path) := by
  unfold Check.checkFile
  simp only
  split
  · exact h.throw _
  · split
    · exact h.pure []
    · exact h.checkText (some path)

theorem checkInTurn (h : ServingSteps e P) (files : List String) :
    P _ (checkInTurn e settings w given files) := by
  induction files with
  | nil => exact h.pure []
  | cons path r ih => exact h.bind (h.checkFile path) fun _ => h.bind ih fun _ => h.pure _

theorem checkByWorker (h : ServingSteps e P) (path : String) :
    P _ (checkByWorker e settings w given path) := by
  unfold Check.checkByWorker
  refine h.bind (h.attempt (h.checkFile path)) fun outcome => ?_
  split
  · exact h.pure _
  · split
    · exact h.bind (h.log _ rfl) fun _ => h.pure _
    · exact h.pure _

theorem checkAll (h : ServingSteps e P) (files : List String) :
    P _ (checkAll e settings w given files) := by
  induction files with
  | nil => exact h.pure []
  | cons path r ih => exact h.bind (h.checkByWorker path) fun _ => h.bind ih fun _ => h.pure _

end ServingSteps

end Kousei
