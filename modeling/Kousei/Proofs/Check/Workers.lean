import Kousei.Proofs.Check.Isolation
import Kousei.Proofs.Check.Order

/-! # One worker and several

    Several workers take the files in any order and end in any order.  What is
    gathered from them is the same in all cases, is sorted, and has all issues
    that were found (`gathered_in_any_order`).

    A single worker gives the issues in the order in which it finds them, so the
    answer depends on the number of workers just when that order is not the sorted
    one (`checkPaths_jobs`), and it need not be (`checkPaths_jobs_differ`). -/

namespace Kousei.Check

open Run

variable {e : Engines} {settings : Settings} {w : Workspace} {given : Option String}
  {c c' : Context} {read : Engine} {files taken : List String} {path : String}
  {answer : String → Except Failure (List Issue)}

/-! ## Outcomes -/

/-- The issues in an outcome; none if it is a failure. -/
def issuesOf : Except Failure (List Issue) → List Issue
  | .ok found => found
  | .error _ => []

theorem issuesOf_passedOver (outcome : Except Failure (List Issue)) :
    issuesOf (passedOver outcome) = issuesOf outcome := by
  cases outcome with
  | ok found => rfl
  | error failure =>
    rw [passedOver_error]
    split
    · rfl
    · rfl

/-- Only failures of the operating system are passed over. -/
theorem passedOver_ok_iff {outcome : Except Failure (List Issue)} :
    (∃ found, passedOver outcome = .ok found) ↔
      ∀ failure, outcome = .error failure → failure.isOfSystem = true := by
  cases outcome with
  | ok found => exact ⟨fun _ => nofun, fun _ => ⟨found, rfl⟩⟩
  | error failure =>
    rw [passedOver_error]
    constructor
    · rintro ⟨found, hfound⟩ failure' h
      cases h
      by_contra hother
      rw [if_neg hother] at hfound
      cases hfound
    · intro h
      exact ⟨[], if_pos (h failure rfl)⟩

/-- Without a failure all issues are found. -/
theorem allFound_of_ok {outcomes : List (Except Failure (List Issue))}
    (h : ∀ o ∈ outcomes, ∃ found, o = .ok found) :
    allFound outcomes = .ok (outcomes.map issuesOf) := by
  induction outcomes with
  | nil => rfl
  | cons o r ih =>
    obtain ⟨⟨found, rfl⟩, hr⟩ := List.forall_mem_cons.1 h
    have hrest := ih hr
    unfold allFound at hrest ⊢
    rw [List.mapM_cons, hrest]
    rfl

theorem forall_ok_of_allFound {outcomes : List (Except Failure (List Issue))}
    {found : List (List Issue)} (h : allFound outcomes = .ok found) :
    ∀ o ∈ outcomes, ∃ issues, o = .ok issues := by
  induction outcomes generalizing found with
  | nil => nofun
  | cons o r ih =>
    unfold allFound at h
    rw [List.mapM_cons] at h
    cases o with
    | error failure => cases h
    | ok issues =>
      cases hr : r.mapM id with
      | error failure =>
        rw [hr] at h
        cases h
      | ok found' => exact List.forall_mem_cons.2 ⟨⟨issues, rfl⟩, ih hr⟩

theorem gather_allFound_ok_iff {outcomes : List (Except Failure (List Issue))}
    {issues : List Issue} : (allFound outcomes).map gather = .ok issues ↔
      (∀ o ∈ outcomes, ∃ found, o = .ok found) ∧ issues = gather (outcomes.map issuesOf) := by
  constructor
  · intro h
    cases hall : allFound outcomes with
    | error failure =>
      rw [hall] at h
      cases h
    | ok found =>
      have hok := forall_ok_of_allFound hall
      rw [allFound_of_ok hok] at h
      cases h
      exact ⟨hok, rfl⟩
  · rintro ⟨hok, rfl⟩
    rw [allFound_of_ok hok]
    rfl

/-- What is gathered from outcomes does not depend on their order, if outcomes with
    issues of one file are equal. -/
theorem gather_allFound_of_perm {outcomes outcomes' : List (Except Failure (List Issue))}
    (h : outcomes.Perm outcomes')
    (hsingle : ∀ x ∈ outcomes, ∀ y ∈ outcomes, ∀ i ∈ issuesOf x, ∀ j ∈ issuesOf y,
      Issue.place i = Issue.place j → x = y) :
    ((allFound outcomes).map gather).toOption = ((allFound outcomes').map gather).toOption := by
  -- Which failure is met first depends on the order; that there is one does not.
  have hfails {os : List (Except Failure (List Issue))}
      (hos : ¬ ∀ o ∈ os, ∃ found, o = .ok found) :
      ((allFound os).map gather).toOption = none := by
    cases hall : allFound os with
    | ok found => exact absurd (forall_ok_of_allFound hall) hos
    | error failure => rfl
  by_cases hok : ∀ o ∈ outcomes, ∃ found, o = .ok found
  · have hok' : ∀ o ∈ outcomes', ∃ found, o = .ok found :=
      fun o ho => hok o (h.mem_iff.2 ho)
    have hgather : gather (outcomes.map issuesOf) = gather (outcomes'.map issuesOf) := by
      refine gather_eq_of_perm (h.map issuesOf) fun x hx y hy i hi j hj hij => ?_
      obtain ⟨o, ho, rfl⟩ := List.mem_map.1 hx
      obtain ⟨o', ho', rfl⟩ := List.mem_map.1 hy
      rw [hsingle o ho o' ho' i hi j hj hij]
    rw [allFound_of_ok hok, allFound_of_ok hok']
    exact congrArg some hgather
  · rw [hfails hok, hfails fun hall => hok fun o ho => hall o (h.mem_iff.1 ho)]

/-! ## Files with results of their own -/

/-- Whatever was done before, the check of each of the files has the same outcome. -/
def Determined (e : Engines) (settings : Settings) (w : Workspace) (given : Option String)
    (c : Context) (files : List String) (answer : String → Except Failure (List Issue)) : Prop :=
  ∀ path ∈ files, ∀ c', Context.Later e c c' →
    ((checkFile e settings w given path).onContext c').1 = answer path

/-- If the source of grammars does not change its mind, files have results of their own. -/
theorem determined_of_steady (hsteady : e.grammars.Steady) (c : Context) (files : List String) :
    Determined e settings w given c files fun path =>
      ((checkFile e settings w given path).onContext c).1 := by
  intro path _ c' hlater
  simp only
  rw [checkFile_outcome, checkFile_outcome, hlater.engine, hlater.parser hsteady]

namespace Determined

theorem fileAnswer_eq (h : Determined e settings w given c files answer) (hpath : path ∈ files)
    (hlater : Context.Later e c c') :
    fileAnswer (c.engine? e) (c'.parser e) settings w given path = answer path := by
  rw [← h path hpath c' hlater, checkFile_outcome, hlater.engine]

/-- The issues of a file name it. -/
theorem file_eq (h : Determined e settings w given c files answer) (hpath : path ∈ files)
    {i : Issue} (hi : i ∈ issuesOf (answer path)) : i.file = some path := by
  rw [← h.fileAnswer_eq hpath (.refl e c)] at hi
  unfold fileAnswer at hi
  split at hi
  · cases hi
  · split at hi
    · cases hi
    · next t _ =>
      cases hds : documentDiagnostics (c.engine? e) (c.parser e) settings t
          (fileLanguage given path) with
      | error failure =>
        rw [hds] at hi
        cases hi
      | ok ds =>
        rw [hds] at hi
        obtain ⟨d, -, rfl⟩ := List.mem_map.1 hi
        rfl

/-- Several workers answer each file as it is. -/
theorem checkAll (h : Determined e settings w given c files answer)
    (hlater : Context.Later e c c') (htaken : ∀ path ∈ taken, path ∈ files) :
    ((checkAll e settings w given taken).onContext c').1 =
      .ok (taken.map fun path => passedOver (answer path)) := by
  have hend : Context.Later e c ((Check.checkAll e settings w given taken).onContext c').2 :=
    hlater.trans (checkAll_keeps taken c')
  rw [checkAll_of_knows taken c' (knows_own_parsers e _), hlater.engine]
  congr 1
  refine List.map_congr_left fun path hpath => ?_
  rw [h.fileAnswer_eq (htaken path hpath) hend]

/-- A run answers each file as it is. -/
theorem checkPaths {paths : List String}
    (h : Determined e settings w given c (filesOf w paths) answer)
    (hpaths : w.firstFault? paths = none) (hengine : c.engine? e = .ok read) (jobs : Int) :
    ((checkPaths e settings w jobs given paths).onContext c).1 =
      (allFound ((filesOf w paths).map fun path => tolerated jobs (answer path))).map
        (arranged jobs) := by
  have hend : Context.Later e c
      ((Check.checkPaths e settings w jobs given paths).onContext c).2 :=
    checkPaths_keeps jobs paths c
  have hsame : ((filesOf w paths).map fun path => tolerated jobs (answer path)) =
      (filesOf w paths).map fun path => tolerated jobs
        (fileAnswer (.ok read) (((Check.checkPaths e settings w jobs given paths).onContext
          c).2.parser e) settings w given path) := by
    refine List.map_congr_left fun path hpath => ?_
    rw [← hengine, h.fileAnswer_eq hpath hend]
  rw [checkPaths_of_knows jobs paths c hpaths hengine (knows_own_parsers e _), hsame]
  unfold allFound
  rw [List.mapM_map, Function.id_comp]

end Determined

/-! ## Several workers -/

/-- What several workers may give for the files under several paths: the tokenizer is made
    ready, the workers take the files in some order, and the outcomes are gathered in
    the order in which the workers end. -/
inductive WorkersGive (e : Engines) (settings : Settings) (w : Workspace)
    (given : Option String) (c : Context) (paths : List String) :
    Except Failure (List Issue) → Prop where
  | intro {tokenizer : Tokenizer} {ready : Context} {taken : List String}
      {outcomes ended : List (Except Failure (List Issue))}
      (hready : (Context.readyTokenizer e).onContext c = (.ok tokenizer, ready))
      (htaken : taken.Perm (filesOf w paths))
      (hrun : ((checkAll e settings w given taken).onContext ready).1 = .ok outcomes)
      (hended : ended.Perm outcomes) :
      WorkersGive e settings w given c paths ((allFound ended).map gather)

variable {paths : List String}

/-- Issues of one file come from equal outcomes. -/
theorem Determined.single (h : Determined e settings w given c files answer)
    (htaken : ∀ path ∈ taken, path ∈ files) :
    ∀ x ∈ taken.map (fun path => passedOver (answer path)),
      ∀ y ∈ taken.map (fun path => passedOver (answer path)),
        ∀ i ∈ issuesOf x, ∀ j ∈ issuesOf y, Issue.place i = Issue.place j → x = y := by
  intro x hx y hy i hi j hj hij
  obtain ⟨p, hp, rfl⟩ := List.mem_map.1 hx
  obtain ⟨q, hq, rfl⟩ := List.mem_map.1 hy
  rw [issuesOf_passedOver] at hi hj
  have hpq : p = q := by
    unfold Issue.place at hij
    rwa [h.file_eq (htaken p hp) hi, h.file_eq (htaken q hq) hj] at hij
  rw [hpq]

/-- In whichever order the workers take the files and end, they give what they give
    in the order of the files. -/
theorem WorkersGive.toOption_eq {outcome : Except Failure (List Issue)}
    (h : Determined e settings w given c (filesOf w paths) answer)
    (hgive : WorkersGive e settings w given c paths outcome) :
    outcome.toOption = ((allFound ((filesOf w paths).map fun path =>
      passedOver (answer path))).map gather).toOption := by
  obtain ⟨hready, htaken, hrun, hended⟩ := hgive
  have hlater := Context.readyTokenizer_keeps (e := e) c
  rw [hready] at hlater
  have hmem : ∀ path ∈ _, path ∈ filesOf w paths := fun path hpath => htaken.mem_iff.1 hpath
  rw [h.checkAll hlater hmem] at hrun
  cases hrun
  -- The order in which files are taken and that in which workers end are one permutation.
  have hperm := hended.trans (htaken.map fun path => passedOver (answer path))
  exact (gather_allFound_of_perm hperm.symm (h.single fun _ hpath => hpath)).symm

/-- Several workers who take the files in order and end in order. -/
theorem Determined.workersGive (h : Determined e settings w given c (filesOf w paths) answer)
    (hengine : c.engine? e = .ok read) :
    WorkersGive e settings w given c paths
      ((allFound ((filesOf w paths).map fun path => passedOver (answer path))).map gather) := by
  obtain ⟨ready, hlater, ⟨engine, tokenizer, -, -, hready⟩ | ⟨failure, hfailure, -⟩⟩ :=
    Context.readyTokenizer_cases e c
  · exact .intro hready (.refl _) (h.checkAll hlater fun _ hpath => hpath) (.refl _)
  · rw [hengine] at hfailure
    cases hfailure

/-- **Any order of the workers.**  Let the files under good paths have results of their own,
    and let the engine be there.  A run with several workers gives a list just when only
    the operating system fails at any of the files.  In every order in which workers
    may take the files and end they give the same list or none at all, as the run does,
    and its own order is one of these.  The list is sorted by file and by where issues
    begin, and has the issues of all files, of each as often as it is named. -/
theorem gathered_in_any_order (hpaths : w.firstFault? paths = none)
    (hengine : c.engine? e = .ok read)
    (h : Determined e settings w given c (filesOf w paths) answer) (jobs : Int)
    (hjobs : 1 < jobs) :
    let given' := ((checkPaths e settings w jobs given paths).onContext c).1
    (∀ outcome, WorkersGive e settings w given c paths outcome →
      outcome.toOption = given'.toOption) ∧
    WorkersGive e settings w given c paths given' ∧
    ((∃ issues, given' = .ok issues) ↔ ∀ path ∈ filesOf w paths, ∀ failure,
      answer path = .error failure → failure.isOfSystem = true) ∧
    ∀ issues, given' = .ok issues →
      issues.Pairwise (fun a b => Issue.isBefore a b = true) ∧
      issues.Perm ((filesOf w paths).flatMap fun path => issuesOf (answer path)) := by
  intro given'
  have hgiven : given' = (allFound ((filesOf w paths).map fun path =>
      passedOver (answer path))).map gather := by
    have hrun := h.checkPaths hpaths hengine jobs
    simp only [arranged_of_several hjobs, tolerated_of_several hjobs] at hrun
    exact hrun
  rw [hgiven]
  refine ⟨fun outcome hgive => hgive.toOption_eq h, h.workersGive hengine, ?_, ?_⟩
  · constructor
    · rintro ⟨issues, hissues⟩ path hpath
      exact passedOver_ok_iff.1
        ((gather_allFound_ok_iff.1 hissues).1 _ (List.mem_map_of_mem hpath))
    · intro hsystem
      refine ⟨_, gather_allFound_ok_iff.2 ⟨fun o ho => ?_, rfl⟩⟩
      obtain ⟨path, hpath, rfl⟩ := List.mem_map.1 ho
      exact passedOver_ok_iff.2 (hsystem path hpath)
  · intro issues hissues
    obtain ⟨-, rfl⟩ := gather_allFound_ok_iff.1 hissues
    refine ⟨gather_pairwise _, ?_⟩
    have hmap : ((filesOf w paths).map fun path => passedOver (answer path)).map issuesOf =
        (filesOf w paths).map fun path => issuesOf (answer path) := by
      rw [List.map_map]
      exact List.map_congr_left fun path _ => issuesOf_passedOver (answer path)
    rw [hmap, List.flatMap_def]
    exact gather_perm _

/-- Two files with the same two verbs. -/
def twinFiles : Workspace := twoFiles ("a.txt", "見れる\n来れる") ("b.txt", "見れる\n来れる")

/-- Paths of which one is named twice. -/
def twinPaths : List String := ["b.txt", "a.txt", "b.txt"]

theorem gathered_in_any_order_of_twinFiles :
    twinFiles.firstFault? twinPaths = none ∧ proseEngines.grammars.Steady ∧
    ∃ issues, ((checkPaths proseEngines {} twinFiles 2 none twinPaths).onContext {}).1 =
        .ok issues ∧
      issues.Pairwise (fun a b => Issue.isBefore a b = true) ∧
      (issues.map fun i => (i.file, i.start)).Perm
        [(some "b.txt", 0), (some "b.txt", 4), (some "a.txt", 0), (some "a.txt", 4),
         (some "b.txt", 0), (some "b.txt", 4)] ∧
      ∀ outcome, WorkersGive proseEngines {} twinFiles none {} twinPaths outcome →
        outcome.toOption = some issues := by
  have hpaths : twinFiles.firstFault? twinPaths = none := by decide +kernel
  have hsteady : proseEngines.grammars.Steady := fun _ _ _ => rfl
  have hdetermined : Determined proseEngines {} twinFiles none {} (filesOf twinFiles twinPaths)
      fun path => ((checkFile proseEngines {} twinFiles none path).onContext {}).1 :=
    determined_of_steady hsteady {} _
  obtain ⟨hsame, -, hok, hlist⟩ := gathered_in_any_order hpaths rfl hdetermined 2 (by decide)
  have hfound : ∀ path ∈ filesOf twinFiles twinPaths,
      (((checkFile proseEngines {} twinFiles none path).onContext {}).1.toOption).isSome =
        true := by decide +kernel
  obtain ⟨issues, hissues⟩ := hok.2 fun path hpath failure hfails => by
    have hsome := hfound path hpath
    rw [hfails] at hsome
    cases hsome
  obtain ⟨hsorted, hperm⟩ := hlist issues hissues
  have hplaces : ((filesOf twinFiles twinPaths).flatMap fun path =>
      issuesOf ((checkFile proseEngines {} twinFiles none path).onContext {}).1).map
        (fun i => (i.file, i.start)) =
      [(some "b.txt", 0), (some "b.txt", 4), (some "a.txt", 0), (some "a.txt", 4),
        (some "b.txt", 0), (some "b.txt", 4)] := by decide +kernel
  refine ⟨hpaths, hsteady, issues, hissues, hsorted, ?_, fun outcome hgive => ?_⟩
  · rw [← hplaces]
    exact hperm.map _
  · rw [hsame outcome hgive, hissues]
    rfl

/-! ## One worker -/

/-- The sorted lists are those that sorting leaves as they are. -/
theorem mergeSort_eq_self_iff {issues : List Issue} :
    issues.mergeSort Issue.isBefore = issues ↔
      issues.Pairwise fun a b => Issue.isBefore a b = true := by
  constructor
  · intro h
    rw [← h]
    exact List.pairwise_mergeSort isBefore_trans isBefore_total issues
  · exact List.mergeSort_of_pairwise

/-- If no file fails, one worker gives the issues as they are found, and several give them
    sorted. -/
theorem Determined.checkPaths_of_ok
    (h : Determined e settings w given c (filesOf w paths) answer)
    (hpaths : w.firstFault? paths = none) (hengine : c.engine? e = .ok read)
    (hok : ∀ path ∈ filesOf w paths, ∃ found, answer path = .ok found) (jobs : Int) :
    ((Check.checkPaths e settings w jobs given paths).onContext c).1 =
      .ok (arranged jobs ((filesOf w paths).map fun path => issuesOf (answer path))) := by
  have htolerated : ((filesOf w paths).map fun path => tolerated jobs (answer path)) =
      (filesOf w paths).map answer := by
    refine List.map_congr_left fun path hpath => ?_
    obtain ⟨found, hfound⟩ := hok path hpath
    rw [hfound]
    by_cases hjobs : 1 < jobs
    · exact tolerated_of_several hjobs _
    · exact tolerated_of_one hjobs _
  have hall : ∀ o ∈ (filesOf w paths).map answer, ∃ found, o = .ok found := by
    intro o ho
    obtain ⟨path, hpath, rfl⟩ := List.mem_map.1 ho
    exact hok path hpath
  rw [h.checkPaths hpaths hengine jobs, htolerated, allFound_of_ok hall, List.map_map]
  rfl

/-- One worker and several give the same list just when the issues are found in sorted
    order. -/
theorem Determined.checkPaths_eq_iff
    (h : Determined e settings w given c (filesOf w paths) answer)
    (hpaths : w.firstFault? paths = none) (hengine : c.engine? e = .ok read)
    (hok : ∀ path ∈ filesOf w paths, ∃ found, answer path = .ok found) {jobs : Int}
    (hjobs : 1 < jobs) :
    ((Check.checkPaths e settings w jobs given paths).onContext c).1 =
        ((Check.checkPaths e settings w 1 given paths).onContext c).1 ↔
      ((filesOf w paths).flatMap fun path => issuesOf (answer path)).Pairwise
        fun a b => Issue.isBefore a b = true := by
  rw [h.checkPaths_of_ok hpaths hengine hok jobs, h.checkPaths_of_ok hpaths hengine hok 1,
    arranged_of_several hjobs, arranged_of_one (by decide), List.flatMap_def,
    ← mergeSort_eq_self_iff]
  exact ⟨fun h => Except.ok.inj h, fun h => congrArg Except.ok h⟩

/-- **The number of workers.**  Let the source of grammars not change its mind, let the
    engine be there, and let no file fail.  One worker gives the issues in the order in
    which they are found: file by file as the paths name them, and in each file rule
    by rule.  Several workers give the same issues sorted by file and by where they
    begin.  So they give the same list just when it is sorted already. -/
theorem checkPaths_jobs (hsteady : e.grammars.Steady) (hpaths : w.firstFault? paths = none)
    (hengine : c.engine? e = .ok read)
    (hok : ∀ path ∈ filesOf w paths, ∃ found,
      ((checkFile e settings w given path).onContext c).1 = .ok found)
    (jobs : Int) (hjobs : 1 < jobs) :
    let found := (filesOf w paths).flatMap fun path =>
      issuesOf ((checkFile e settings w given path).onContext c).1
    ((checkPaths e settings w 1 given paths).onContext c).1 = .ok found ∧
    ((checkPaths e settings w jobs given paths).onContext c).1 =
      .ok (found.mergeSort Issue.isBefore) ∧
    (((checkPaths e settings w jobs given paths).onContext c).1 =
        ((checkPaths e settings w 1 given paths).onContext c).1 ↔
      found.Pairwise fun a b => Issue.isBefore a b = true) := by
  intro found
  have hdetermined : Determined e settings w given c (filesOf w paths) fun path =>
      ((checkFile e settings w given path).onContext c).1 :=
    determined_of_steady hsteady c (filesOf w paths)
  refine ⟨?_, ?_, hdetermined.checkPaths_eq_iff hpaths hengine hok hjobs⟩
  · rw [hdetermined.checkPaths_of_ok hpaths hengine hok 1, arranged_of_one (by decide)]
    rfl
  · rw [hdetermined.checkPaths_of_ok hpaths hengine hok jobs, arranged_of_several hjobs]
    rfl

theorem ok_of_isSome {outcome : Except Failure (List Issue)}
    (h : outcome.toOption.isSome = true) : ∃ found, outcome = .ok found := by
  cases outcome with
  | ok found => exact ⟨found, rfl⟩
  | error failure => cases h

/-- In a file with two lines the issues are found in sorted order. -/
theorem checkPaths_jobs_of_twinFiles :
    twinFiles.firstFault? ["a.txt"] = none ∧ proseEngines.grammars.Steady ∧
    ((checkPaths proseEngines {} twinFiles 1 none ["a.txt"]).onContext {}).1.toOption.map
        (·.map fun i => (i.file, i.start)) = some [(some "a.txt", 0), (some "a.txt", 4)] ∧
    ((checkPaths proseEngines {} twinFiles 3 none ["a.txt"]).onContext {}).1 =
      ((checkPaths proseEngines {} twinFiles 1 none ["a.txt"]).onContext {}).1 := by
  have hpaths : twinFiles.firstFault? ["a.txt"] = none := by decide +kernel
  have hsteady : proseEngines.grammars.Steady := fun _ _ _ => rfl
  have hsome : ∀ path ∈ filesOf twinFiles ["a.txt"],
      ((checkFile proseEngines {} twinFiles none path).onContext {}).1.toOption.isSome = true := by
    decide +kernel
  obtain ⟨-, -, hsame⟩ := checkPaths_jobs hsteady hpaths rfl
    (fun path hpath => ok_of_isSome (hsome path hpath)) 3 (by decide)
  exact ⟨hpaths, hsteady, by decide +kernel, hsame.2 (by decide +kernel)⟩

/-- A list: a verb, a full stop, and four commas in a second sentence. -/
def sampleList : List Morpheme :=
  sampleVerb "見れる" :: { surface := text "。" } ::
    List.replicate 4 { surface := text "、" }

/-- Engines that read every text as the list. -/
def listEngines : Engines where
  backend := .ok ⟨"sample", none, .ok fun _ => .ok sampleList⟩
  grammars := fun _ _ => .error "none"

/-- The list in a file, beside one with a verb. -/
def listFiles : Workspace := twoFiles ("a.txt", "見れる。、、、、") ("b.txt", "見れる")

/-- In the list the commas are found before the verb, but they come after it. -/
theorem checkPaths_jobs_differ :
    ((checkPaths listEngines {} listFiles 1 none ["a.txt"]).onContext {}).1.toOption.map
        (·.map fun i => (i.start, i.code)) = some [(4, "comma-limit"), (0, "ra-dropping")] ∧
      ¬ ∀ (e : Engines) (settings : Settings) (c : Context) (w : Workspace)
        (given : Option String) (paths : List String) (jobs : Int), e.grammars.Steady →
        w.firstFault? paths = none → (∃ read, c.engine? e = .ok read) →
        (∀ path ∈ filesOf w paths, ∃ found,
          ((checkFile e settings w given path).onContext c).1 = .ok found) → 1 < jobs →
        ((checkPaths e settings w 1 given paths).onContext c).1 =
          ((checkPaths e settings w jobs given paths).onContext c).1 := by
  refine ⟨by decide +kernel, fun hall => ?_⟩
  have hpaths : listFiles.firstFault? ["a.txt"] = none := by decide +kernel
  have hsteady : listEngines.grammars.Steady := fun _ _ _ => rfl
  have hsome : ∀ path ∈ filesOf listFiles ["a.txt"],
      ((checkFile listEngines {} listFiles none path).onContext {}).1.toOption.isSome = true := by
    decide +kernel
  have hok := fun path hpath => ok_of_isSome (hsome path hpath)
  have hdetermined : Determined listEngines {} listFiles none {} (filesOf listFiles ["a.txt"])
      fun path => ((checkFile listEngines {} listFiles none path).onContext {}).1 :=
    determined_of_steady hsteady {} _
  have hsame := hall listEngines {} {} listFiles none ["a.txt"] 2 hsteady hpaths ⟨_, rfl⟩ hok
    (by decide)
  have hsorted := (hdetermined.checkPaths_eq_iff hpaths rfl hok (by decide)).1 hsame.symm
  revert hsorted
  decide +kernel

end Kousei.Check
