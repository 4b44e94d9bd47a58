import Kousei.Check.Paths
import Kousei.Proofs.Check.Failures
import Kousei.Proofs.Check.History

/-! # Failures of one file among several

    A file whose analysis fails has no issues, and the other files have theirs
    (`checkPaths_isolated`).  This holds of the failures of the morphological
    engine and of the rules.  It does not hold of every document that the parser
    of its language refuses: it is parsed before the part begins in which every
    failure counts as one of the analysis, so a failure that is not one already
    ends the whole run (`checkPaths_aborted`). -/

namespace Kousei.Check

open Run

variable {e : Engines} {settings : Settings} {t : Text} {language name path : String}
  {c : Context} {engine : Except Failure Engine} {read : Engine} {parsers : Parsers}
  {failure : Failure}

/-! ## One file -/

/-- The text of a file, if it is a text. -/
def fileText? (w : Workspace) (path : String) : Option Text :=
  (w.read? (Path.ofString path)).bind Encoding.readText?

/-- The language in which a file is checked. -/
def fileLanguage (language : Option String) (path : String) : String :=
  match language with
  | none | some "" => languageOf (Path.ofString path)
  | some given => given

/-- What is answered about a file. -/
def fileAnswer (engine : Except Failure Engine) (parsers : Parsers) (settings : Settings)
    (w : Workspace) (language : Option String) (path : String) : Except Failure (List Issue) :=
  if (Path.ofString path).hasNull then .error PathFault.null.failure
  else
    match fileText? w path with
    | none => .ok []
    | some t =>
      (documentDiagnostics engine parsers settings t (fileLanguage language path)).map
        (·.map (Issue.ofDiagnostic (some path) t))

variable {w : Workspace} {given : Option String}

/-- The parsers agree with what is known of the grammars. -/
def Knows (c : Context) (parsers : Parsers) : Prop :=
  ∀ name p, c.grammars.Decided name p → parsers name = p

theorem Knows.of_later {c' : Context} (h : Knows c' parsers) (hlater : Context.Later e c c') :
    Knows c parsers :=
  fun name p hp => h name p (hlater.decided name p hp)

/-- Parsers that agree with what is known after an operation agree with what was
    known after its first part. -/
theorem Knows.of_bind {α β : Type} {run : Run α} {rest : α → Run β}
    (h : Knows ((run >>= rest).onContext c).2 parsers) (hrest : ∀ a, Keeps e (rest a)) :
    Knows (run.onContext c).2 parsers :=
  h.of_later (later_bind run hrest c)

theorem knows_own_parsers (e : Engines) (c : Context) : Knows c (c.parser e) :=
  fun _ _ hp => (Grammars.load_of_decided hp e.grammars).2

/-- The check of a file is that of its text. -/
theorem checkFile_of_text (hnull : (Path.ofString path).hasNull = false)
    (ht : fileText? w path = some t) :
    checkFile e settings w given path =
      checkText e settings (some path) t (fileLanguage given path) := by
  unfold fileText? at ht
  unfold checkFile
  simp only [hnull, ht, Bool.false_eq_true, if_false]
  rfl

theorem checkText_outcome (file : Option String) (c : Context) :
    ((checkText e settings file t language).onContext c).1 =
      (documentDiagnostics (c.engine? e) (c.parser e) settings t language).map
        (·.map (Issue.ofDiagnostic file t)) := by
  unfold checkText
  rw [outcome_bind, validateText_outcome]
  rfl

/-- After a check of a text it is known whether its grammar can be had. -/
theorem decided_of_checkText (e : Engines) (c : Context) (file : Option String) (t : Text)
    (h : consulted settings language = some name) :
    ((checkText e settings file t language).onContext c).2.grammars.Decided name
      (c.parser e name) := by
  have hlater : Context.Later e ((validateText e settings t language).onContext c).2
      ((checkText e settings file t language).onContext c).2 :=
    later_bind _ (fun _ => .pure _) c
  exact hlater.decided name _ (decided_of_validateText e c settings t h)

theorem checkFile_keeps (path : String) : Keeps e (checkFile e settings w given path) :=
  (Context.later_serving e).checkFile path

theorem checkFile_outcome (path : String) (c : Context) :
    ((checkFile e settings w given path).onContext c).1 =
      fileAnswer (c.engine? e) (c.parser e) settings w given path := by
  unfold fileAnswer
  by_cases hnull : (Path.ofString path).hasNull = true
  · rw [if_pos hnull]
    unfold checkFile
    simp only [hnull, if_true]
    rfl
  · rw [if_neg hnull]
    rw [Bool.not_eq_true] at hnull
    cases ht : fileText? w path with
    | none =>
      unfold fileText? at ht
      unfold checkFile
      simp only [hnull, ht, Bool.false_eq_true, if_false]
      rfl
    | some t =>
      rw [checkFile_of_text hnull ht]
      exact checkText_outcome (some path) c

/-- Once a file was checked, what is answered about it depends on what is known. -/
theorem checkFile_of_knows (path : String) (c : Context)
    (h : Knows ((checkFile e settings w given path).onContext c).2 parsers) :
    ((checkFile e settings w given path).onContext c).1 =
      fileAnswer (c.engine? e) parsers settings w given path := by
  rw [checkFile_outcome]
  unfold fileAnswer
  by_cases hnull : (Path.ofString path).hasNull = true
  · rw [if_pos hnull, if_pos hnull]
  · rw [if_neg hnull, if_neg hnull]
    rw [Bool.not_eq_true] at hnull
    cases ht : fileText? w path with
    | none => rfl
    | some t =>
      rw [checkFile_of_text hnull ht] at h
      have hsame : documentDiagnostics (c.engine? e) (c.parser e) settings t
          (fileLanguage given path) = documentDiagnostics (c.engine? e) parsers settings t
          (fileLanguage given path) := by
        apply documentDiagnostics_congr
        intro name hname
        exact (h name _ (decided_of_checkText e c (some path) t hname)).symm
      simp only [hsame]

theorem fileAnswer_of_text (hnull : (Path.ofString path).hasNull = false)
    (ht : fileText? w path = some t) :
    fileAnswer engine parsers settings w given path =
      (documentDiagnostics engine parsers settings t (fileLanguage given path)).map
        (·.map (Issue.ofDiagnostic (some path) t)) := by
  unfold fileAnswer
  simp only [hnull, ht, Bool.false_eq_true, if_false]

theorem fileAnswer_eq_error (hnull : (Path.ofString path).hasNull = false)
    (ht : fileText? w path = some t) :
    fileAnswer engine parsers settings w given path = .error failure ↔
      Escapes engine parsers settings t (fileLanguage given path) failure := by
  rw [fileAnswer_of_text hnull ht, ← documentDiagnostics_eq_error]
  cases documentDiagnostics engine parsers settings t (fileLanguage given path) with
  | error failure' => simp [Except.map]
  | ok ds => simp [Except.map]

theorem fileAnswer_of_unanalysed (hnull : (Path.ofString path).hasNull = false)
    (ht : fileText? w path = some t)
    (h : Unanalysed engine parsers settings t (fileLanguage given path)) :
    fileAnswer engine parsers settings w given path = .ok [] := by
  rw [fileAnswer_of_text hnull ht, documentDiagnostics_of_unanalysed h]
  rfl

/-! ## Several files -/

theorem checkInTurn_keeps (files : List String) :
    Keeps e (checkInTurn e settings w given files) :=
  (Context.later_serving e).checkInTurn files

/-- In turn every file is answered as it is on its own, until one fails. -/
theorem checkInTurn_of_knows (files : List String) (c : Context)
    (h : Knows ((checkInTurn e settings w given files).onContext c).2 parsers) :
    ((checkInTurn e settings w given files).onContext c).1 =
      (files.mapM (fileAnswer (c.engine? e) parsers settings w given)).map List.flatten := by
  induction files generalizing c with
  | nil => rfl
  | cons path r ih =>
    -- What the first file made known is still known at the end of the run.
    have hpath : Knows ((checkFile e settings w given path).onContext c).2 parsers :=
      h.of_bind fun _ => .bind (checkInTurn_keeps r) fun _ => .pure _
    have hanswer := checkFile_of_knows path c hpath
    have hlater : Context.Later e c ((checkFile e settings w given path).onContext c).2 :=
      checkFile_keeps path c
    unfold checkInTurn at h ⊢
    rw [List.mapM_cons, outcome_bind, ← hanswer]
    rcases hrun : (checkFile e settings w given path).onContext c with ⟨failure | here, c'⟩
    · rfl
    · rw [onContext_bind, hrun] at h
      rw [hrun] at hlater
      have hrest : Knows ((checkInTurn e settings w given r).onContext c').2 parsers :=
        h.of_bind (e := e) fun _ => .pure _
      simp only [Except.bind]
      rw [outcome_bind, ih c' hrest, hlater.engine]
      cases r.mapM (fileAnswer (c.engine? e) parsers settings w given) with
      | error failure => rfl
      | ok found => rfl

/-- A failure of the operating system is passed over, any other stays. -/
def passedOver : Except Failure (List Issue) → Except Failure (List Issue)
  | .ok found => .ok found
  | .error failure => if failure.isOfSystem then .ok [] else .error failure

theorem passedOver_error (failure : Failure) :
    passedOver (.error failure) = if failure.isOfSystem then .ok [] else .error failure := rfl

theorem checkByWorker_keeps (path : String) : Keeps e (checkByWorker e settings w given path) :=
  (Context.later_serving e).checkByWorker path

/-- What a worker does after the check of a file. -/
theorem later_of_checkFile (path : String) (c : Context) :
    Context.Later e ((checkFile e settings w given path).onContext c).2
      ((checkByWorker e settings w given path).onContext c).2 := by
  have h := Context.later_serving e
  unfold checkByWorker
  refine later_bind (Run.attempt (checkFile e settings w given path)) (fun outcome => ?_) c
  split
  · exact h.pure _
  · split
    · exact h.bind (h.log _ rfl) fun _ => h.pure _
    · exact h.pure _

theorem checkByWorker_of_knows (path : String) (c : Context)
    (h : Knows ((checkByWorker e settings w given path).onContext c).2 parsers) :
    ((checkByWorker e settings w given path).onContext c).1 =
      .ok (passedOver (fileAnswer (c.engine? e) parsers settings w given path)) := by
  have hanswer : ((checkFile e settings w given path).onContext c).1 =
      fileAnswer (c.engine? e) parsers settings w given path :=
    checkFile_of_knows path c (h.of_later (later_of_checkFile path c))
  unfold checkByWorker
  rw [outcome_attempt_bind, hanswer]
  cases fileAnswer (c.engine? e) parsers settings w given path with
  | ok found => rfl
  | error failure =>
    simp only [passedOver]
    split
    · rfl
    · rfl

theorem checkAll_keeps (files : List String) : Keeps e (checkAll e settings w given files) :=
  (Context.later_serving e).checkAll files

/-- By workers every file is answered as it is on its own, whatever becomes of the
    others. -/
theorem checkAll_of_knows (files : List String) (c : Context)
    (h : Knows ((checkAll e settings w given files).onContext c).2 parsers) :
    ((checkAll e settings w given files).onContext c).1 =
      .ok (files.map fun path =>
        passedOver (fileAnswer (c.engine? e) parsers settings w given path)) := by
  induction files generalizing c with
  | nil => rfl
  | cons path r ih =>
    have hpath : Knows ((checkByWorker e settings w given path).onContext c).2 parsers :=
      h.of_bind fun _ => .bind (checkAll_keeps r) fun _ => .pure _
    have hanswer := checkByWorker_of_knows path c hpath
    have hlater : Context.Later e c ((checkByWorker e settings w given path).onContext c).2 :=
      checkByWorker_keeps path c
    unfold checkAll at h ⊢
    rcases hrun : (checkByWorker e settings w given path).onContext c with ⟨outcome, c'⟩
    rw [hrun] at hanswer hlater
    cases hanswer
    rw [bind_of_ok hrun] at h ⊢
    have hrest : Knows ((checkAll e settings w given r).onContext c').2 parsers :=
      h.of_bind (e := e) fun _ => .pure _
    rw [outcome_bind, ih c' hrest, hlater.engine]
    rfl

/-! ## A run -/

/-- What becomes of the outcome of a file: several workers pass over the failures of
    the operating system. -/
def tolerated (jobs : Int) (outcome : Except Failure (List Issue)) :
    Except Failure (List Issue) :=
  if 1 < jobs then passedOver outcome else outcome

/-- The issues of the files of a run in the order in which they are given. -/
def arranged (jobs : Int) (found : List (List Issue)) : List Issue :=
  if 1 < jobs then gather found else found.flatten

theorem tolerated_of_several {jobs : Int} (h : 1 < jobs)
    (outcome : Except Failure (List Issue)) : tolerated jobs outcome = passedOver outcome :=
  if_pos h

theorem tolerated_of_one {jobs : Int} (h : ¬ 1 < jobs) (outcome : Except Failure (List Issue)) :
    tolerated jobs outcome = outcome :=
  if_neg h

theorem arranged_of_several {jobs : Int} (h : 1 < jobs) : arranged jobs = gather :=
  funext fun _ => if_pos h

theorem arranged_of_one {jobs : Int} (h : ¬ 1 < jobs) : arranged jobs = List.flatten :=
  funext fun _ => if_neg h

/-- The files of a run. -/
def filesOf (w : Workspace) (paths : List String) : List String :=
  (w.filesUnderAll paths).map Path.render

/-- The part of a run that follows when all paths are good and the tokenizer is
    ready. -/
def checkFiles (e : Engines) (settings : Settings) (w : Workspace) (jobs : Int)
    (given : Option String) (files : List String) : Run (List Issue) :=
  if 1 < jobs then
    checkAll e settings w given files >>= fun outcomes =>
      Run.ofExcept (allFound outcomes) >>= fun found => pure (gather found)
  else checkInTurn e settings w given files

theorem checkPaths_eq (jobs : Int) (paths : List String) (hpaths : w.firstFault? paths = none) :
    checkPaths e settings w jobs given paths =
      Context.readyTokenizer e >>= fun _ =>
        checkFiles e settings w jobs given (filesOf w paths) := by
  unfold checkPaths checkFiles filesOf
  simp only [hpaths]

theorem checkPaths_of_fault (jobs : Int) (paths : List String) {fault : PathFault}
    (hpaths : w.firstFault? paths = some fault) :
    checkPaths e settings w jobs given paths = throw fault.failure := by
  unfold checkPaths
  simp only [hpaths]
  rfl

theorem checkFiles_serving {P : ∀ α : Type, Run α → Prop} (h : ServingSteps e P) (jobs : Int)
    (files : List String) : P _ (checkFiles e settings w jobs given files) := by
  unfold checkFiles
  split
  · exact h.bind (h.checkAll files) fun _ => h.bind (h.ofExcept _) fun _ => h.pure _
  · exact h.checkInTurn files

theorem checkPaths_serving {P : ∀ α : Type, Run α → Prop} (h : ServingSteps e P) (jobs : Int)
    (paths : List String) : P _ (checkPaths e settings w jobs given paths) := by
  cases hpaths : w.firstFault? paths with
  | none =>
    rw [checkPaths_eq jobs paths hpaths]
    exact h.ready (fun _ _ _ => rfl) fun _ => checkFiles_serving h jobs _
  | some fault =>
    rw [checkPaths_of_fault jobs paths hpaths]
    exact h.throw _

theorem checkPaths_keeps (jobs : Int) (paths : List String) :
    Keeps e (checkPaths e settings w jobs given paths) :=
  checkPaths_serving (Context.later_serving e) jobs paths

theorem checkFiles_of_knows (jobs : Int) (files : List String) (c : Context)
    (h : Knows ((checkFiles e settings w jobs given files).onContext c).2 parsers) :
    ((checkFiles e settings w jobs given files).onContext c).1 =
      (files.mapM fun path =>
        tolerated jobs (fileAnswer (c.engine? e) parsers settings w given path)).map
          (arranged jobs) := by
  unfold checkFiles at h ⊢
  by_cases hjobs : 1 < jobs
  · simp only [hjobs, if_true] at h ⊢
    have hall : Knows ((checkAll e settings w given files).onContext c).2 parsers :=
      h.of_bind (e := e) fun _ => .bind (.ofExcept _) fun _ => .pure _
    -- Several workers: every file has an outcome, and the first failure counts.
    rw [outcome_bind, checkAll_of_knows files c hall, arranged_of_several hjobs]
    simp only [Except.bind, tolerated_of_several hjobs, allFound, List.mapM_map,
      Function.id_comp]
    cases files.mapM fun path =>
        passedOver (fileAnswer (c.engine? e) parsers settings w given path) with
    | error failure => rfl
    | ok found => rfl
  · simp only [hjobs, if_false] at h ⊢
    rw [checkInTurn_of_knows files c h, arranged_of_one hjobs]
    simp only [tolerated_of_one hjobs]

/-- **A run over several files** answers each file as it is on its own. -/
theorem checkPaths_of_knows (jobs : Int) (paths : List String) (c : Context)
    (hpaths : w.firstFault? paths = none) (hengine : c.engine? e = .ok read)
    (h : Knows ((checkPaths e settings w jobs given paths).onContext c).2 parsers) :
    ((checkPaths e settings w jobs given paths).onContext c).1 =
      ((filesOf w paths).mapM fun path =>
        tolerated jobs (fileAnswer (.ok read) parsers settings w given path)).map
          (arranged jobs) := by
  rw [checkPaths_eq jobs paths hpaths] at h ⊢
  obtain ⟨c', hlater, ⟨engine, tokenizer, hready, -, hrun⟩ | ⟨failure, hready, -⟩⟩ :=
    Context.readyTokenizer_cases e c
  · rw [bind_of_ok hrun] at h ⊢
    rw [checkFiles_of_knows jobs (filesOf w paths) c' h, hlater.engine, hengine]
  · rw [hready] at hengine
    cases hengine

/-- **Failures of one document.**  The check of a document ends with a failure just
    when one escapes, and gives no diagnostics if the analysis fails.  A run with
    a tokenizer that is ready gives the issues that each file has when it is
    checked alone, with what the run knows of grammars: nothing for a file whose
    analysis fails, and all of its issues for any other.  A failure that escapes
    from one file is that of the run. -/
theorem checkPaths_isolated (e : Engines) (settings : Settings) (c : Context) :
    (∀ t language,
      (∀ failure, ((validateText e settings t language).onContext c).1 = .error failure ↔
        Escapes (c.engine? e) (c.parser e) settings t language failure) ∧
      (Unanalysed (c.engine? e) (c.parser e) settings t language →
        ((validateText e settings t language).onContext c).1 = .ok [])) ∧
    ∀ w jobs given paths read, w.firstFault? paths = none → c.engine? e = .ok read →
      let run := (checkPaths e settings w jobs given paths).onContext c
      let alone (path : String) := ((checkFile e settings w given path).onContext run.2).1
      run.1 = ((filesOf w paths).mapM fun path => tolerated jobs (alone path)).map
        (arranged jobs) ∧
      (e.grammars.Steady →
        ∀ path, alone path = ((checkFile e settings w given path).onContext c).1) ∧
      ∀ path t, (Path.ofString path).hasNull = false → fileText? w path = some t →
        (∀ failure, alone path = .error failure ↔
          Escapes (.ok read) (run.2.parser e) settings t (fileLanguage given path) failure) ∧
        (Unanalysed (.ok read) (run.2.parser e) settings t (fileLanguage given path) →
          alone path = .ok []) := by
  constructor
  · intro t language
    rw [validateText_outcome]
    exact ⟨fun failure => documentDiagnostics_eq_error, documentDiagnostics_of_unanalysed⟩
  · intro w jobs given paths read hpaths hengine
    simp only
    generalize hrun : (checkPaths e settings w jobs given paths).onContext c = run
    have hlater : Context.Later e c run.2 := by
      rw [← hrun]
      exact checkPaths_keeps jobs paths c
    have hafter : run.2.engine? e = .ok read := hlater.engine.trans hengine
    have halone (path : String) : ((checkFile e settings w given path).onContext run.2).1 =
        fileAnswer (.ok read) (run.2.parser e) settings w given path := by
      rw [checkFile_outcome, hafter]
    -- A file that is checked alone afterwards finds all grammars known.
    simp only [halone]
    refine ⟨?_, ?_, ?_⟩
    · have hknows : Knows ((checkPaths e settings w jobs given paths).onContext c).2
          (run.2.parser e) := by
        rw [hrun]
        exact knows_own_parsers e run.2
      have hall := checkPaths_of_knows jobs paths c hpaths hengine hknows
      rwa [hrun] at hall
    · intro hsteady path
      rw [checkFile_outcome, hengine, hlater.parser hsteady]
    · intro path t hnull ht
      exact ⟨fun failure => fileAnswer_eq_error hnull ht, fileAnswer_of_unanalysed hnull ht⟩

/-- A directory with two files. -/
def twoFiles (first second : String × String) : Workspace where
  root := .directory {}
    [(first.1, .file first.2.toUTF8.data.toList), (second.1, .file second.2.toUTF8.data.toList)]
  home := ⟨"/", []⟩

/-- Engines that cannot read one text. -/
def fragileReader : Engines where
  backend := .ok ⟨"sample", none, .ok fun s =>
    if s = text "壊れた" then .error (.raised "RuntimeError" "broken") else .ok sampleVerbs⟩
  grammars := fun _ _ => .error "none"

/-- A file that cannot be read, and one with two verbs. -/
def fragileFiles : Workspace := twoFiles ("a.txt", "壊れた") ("b.txt", "見れる\n来れる")

theorem checkPaths_isolated_of_fragileFiles :
    fragileFiles.firstFault? ["a.txt", "b.txt"] = none ∧
    ((checkPaths fragileReader {} fragileFiles 1 none ["a.txt", "b.txt"]).onContext
      {}).1.toOption.map (·.map fun i => (i.file, i.start, i.stop)) =
        some [(some "b.txt", 0, 3), (some "b.txt", 4, 7)] ∧
    ((checkFile fragileReader {} fragileFiles none "a.txt").onContext
      ((checkPaths fragileReader {} fragileFiles 1 none ["a.txt", "b.txt"]).onContext {}).2).1 =
        .ok [] := by
  have hpaths : fragileFiles.firstFault? ["a.txt", "b.txt"] = none := by decide +kernel
  obtain ⟨-, hfiles⟩ := checkPaths_isolated fragileReader {} {}
  obtain ⟨-, -, hfile⟩ := hfiles fragileFiles 1 none ["a.txt", "b.txt"] _ hpaths rfl
  have ht : fileText? fragileFiles "a.txt" = some (text "壊れた") := by decide +kernel
  obtain ⟨-, hnone⟩ := hfile "a.txt" (text "壊れた") (by decide +kernel) ht
  refine ⟨hpaths, by decide +kernel, hnone ?_⟩
  exact .words (s := ⟨text "壊れた", 0⟩) rfl (List.mem_singleton_self _) rfl rfl

/-- A file that its parser refuses, and one with two verbs. -/
def refusedFiles : Workspace := twoFiles ("a.c", "// 日本語\n") ("b.txt", "見れる\n来れる")

/-- A document that its parser refuses ends the whole run. -/
theorem checkPaths_aborted :
    ((validateText sampleReader {} sampleLine "c").onContext {}).1 =
        .error (.raised "RuntimeError" "no tree") ∧
      ¬ ∀ (e : Engines) (settings : Settings) (c : Context) (w : Workspace) (jobs : Int)
        (given : Option String) (paths : List String), w.firstFault? paths = none →
        (∃ read, c.engine? e = .ok read) →
        ∃ issues, ((checkPaths e settings w jobs given paths).onContext c).1 = .ok issues := by
  refine ⟨rfl, fun hall => ?_⟩
  obtain ⟨issues, hrun⟩ := hall sampleReader {} {} refusedFiles 1 none ["a.c", "b.txt"]
    (by decide +kernel) ⟨_, rfl⟩
  have hfails : ((checkPaths sampleReader {} refusedFiles 1 none ["a.c", "b.txt"]).onContext
      {}).1.toOption.isNone = true := by decide +kernel
  rw [hrun] at hfails
  cases hfails

end Kousei.Check
