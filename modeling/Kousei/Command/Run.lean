import Kousei.Check.Paths
import Kousei.Command.Arguments
import Kousei.Command.Report

/-! # Running a command line

    A run prints a report and ends with a number: zero, one if there are
    issues and they were to count as a failure, and two if nothing could be
    checked.  What is wrong with a run but does not stop it is told beside
    the report. -/

namespace Kousei.Command

/-- What the program finds where it runs. -/
structure Host where
  installation : Installation
  grammars : GrammarSource Parser
  /-- The reader of settings files in YAML. -/
  yaml : Settings.Reader
  workspace : Workspace

/-- What a run leaves behind. -/
structure Ending where
  status : Nat
  /-- The lines of the report. -/
  printed : List String := []
  /-- What is told beside the report. -/
  told : List String := []
  deriving DecidableEq, Repr

/-- Why a run is broken off. -/
inductive Fault where
  /-- The settings file cannot be used, in a way that is not foreseen. -/
  | settings (fault : LoadFault)
  | failure (f : Failure)

/-! ## What is told -/

/-- Is the fault of what stands in a settings file told to the user?  Those of
    values that are not as they should be are. -/
def isForeseenReading : ReadFault → Bool
  | .malformed | .longInteger _ | .notInteger .. | .notFloat _ | .moment _ | .notCharacter => true
  | .tooDeep | .noNumber | .beyondFloats | .notTruth | .notMoment | .momentOfMap | .codeTooLarge => false

/-- Is the fault of a settings file told to the user? -/
def isForeseen : LoadFault → Bool
  | .noToolTable => false
  | .unreadable fault => isForeseenReading fault
  | .refused (.tooLarge _) | .refused (.unshown .tooDeep) | .refused (.unknownRule _) => false
  | _ => true

def settingsError (config : Option String) (fault : LoadFault) : String :=
  let path := config.getD ""
  s!"[error] failed to load config {path}: {fault.message}"

def backendWarning : String :=
  "[warn] --backend fugashi が指定されましたが 'fugashi/ipadic' が見つかりません。janome で実行します。"

def missingWarning (path : String) : String := s!"[warn] path not found: {path}"

def tokenizerError (reason : String) : String :=
  s!"[error] 形態素解析器を初期化できません: {reason}"

/-! ## Checking -/

/-- The backend that is used for a request: another one if the one that was
    asked for is not installed. -/
def chosenBackend (i : Installation) (q : Request) : Option String × List String :=
  if q.backend == some "fugashi" && !i.fugashiAvailable then (some "janome", [backendWarning])
  else (q.backend, [])

/-- The backend of a name that may be absent. -/
def backendOf (i : Installation) (name : Option String) : Except Failure Backend :=
  match name with
  | some name => i.backend name
  | none => .error (.raised "TypeError" "no name of a backend")

/-- The paths that are there, and what is told of the others. -/
def presentPaths (w : Workspace) (paths : List String) : List String × List String :=
  (paths.filter fun p => w.has (Path.ofString p),
   (paths.filter fun p => !w.has (Path.ofString p)).map missingWarning)

/-- The status that a run ends with once it has issues. -/
def statusOf (q : Request) (issues : List Issue) : Nat :=
  if q.failOnIssue && !issues.isEmpty then 1 else 0

/-- Run a request with the settings that it has. -/
def runRequest (h : Host) (q : Request) (s : Settings) : Except Fault Ending × Context :=
  let (backend, warnings) := chosenBackend h.installation q
  let (paths, missing) := presentPaths h.workspace q.paths
  let told := warnings ++ missing
  let engines : Engines := { backend := backendOf h.installation backend, grammars := h.grammars }
  let (outcome, c) :=
    (Check.checkPaths engines s h.workspace (q.jobs.getD 1) q.language.join paths).onContext {}
  match outcome with
  | .ok issues =>
    (.ok ⟨statusOf q issues, report h.workspace.home q.json issues, told⟩, c)
  | .error (.initialization reason) => (.ok ⟨2, [], told ++ [tokenizerError reason]⟩, c)
  | .error failure => (.error (.failure failure), c)

/-- Run a command line.  A path that is refused breaks the run off. -/
def run (h : Host) (args : List String) : Except Fault Ending × Context :=
  match readLine args with
  | .help => (.ok ⟨0, [], []⟩, {})
  | .refused => (.ok ⟨2, [], []⟩, {})
  | .request q =>
    match q.settings h.yaml h.workspace with
    | .ok s =>
      match h.workspace.firstFault? q.paths with
      | none => runRequest h q s
      | some fault => (.error (.failure fault.failure), {})
    | .error fault =>
      if isForeseen fault then (.ok ⟨2, [], [settingsError q.config fault]⟩, {})
      else (.error (.settings fault), {})

end Kousei.Command
