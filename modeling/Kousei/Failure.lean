/-! # Failures

    Why an analysis ends without an answer. -/

namespace Kousei

inductive Failure where
  /-- The morphological engine is not ready, for the given reason. -/
  | initialization (reason : String)
  /-- The analysis of a document failed, for the given reason. -/
  | analysis (reason : String)
  /-- There is no engine of the given name. -/
  | unknownBackend (name : String)
  /-- An engine or a service failed in a way of its own: the kind of its
      failure and what it said. -/
  | raised (kind message : String)
  deriving DecidableEq, Repr

/-- A number is compared with what is none. -/
def Failure.incomparable : Failure := .raised "TypeError" "no number to compare with"

/-- The kinds of failure of the operating system. -/
def systemKinds : List String :=
  ["OSError", "BlockingIOError", "ChildProcessError", "ConnectionError", "BrokenPipeError",
   "ConnectionAbortedError", "ConnectionRefusedError", "ConnectionResetError", "FileExistsError",
   "FileNotFoundError", "InterruptedError", "IsADirectoryError", "NotADirectoryError",
   "PermissionError", "ProcessLookupError", "TimeoutError"]

/-- Is it a failure of the operating system? -/
def Failure.isOfSystem : Failure → Bool
  | .raised kind _ => systemKinds.contains kind
  | _ => false

def Failure.message : Failure → String
  | .initialization reason | .analysis reason => reason
  | .unknownBackend name => s!"unknown tokenizer backend: {name}"
  | .raised _ message => message

/-- What a failure at a document of a language becomes: that the engine is not
    ready stays what it is, all others are failures of the analysis. -/
def Failure.ofAnalysis (language : String) : Failure → Failure
  | .initialization reason => .initialization reason
  | failure => .analysis s!"analysis failed for {language} document: {failure.message}"

/-- Is a document at which this failure comes up without diagnostics, instead of
    passing the failure on? -/
def Failure.isAnswered : Failure → Bool
  | .initialization _ | .analysis _ => true
  | _ => false

end Kousei
