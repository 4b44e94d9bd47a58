import Kousei.Check.Document
import Kousei.Encoding.Detect
import Kousei.Files.Directory

/-! # Checking files

    The files under several paths are checked one by one, in the order in
    which they are found, or by several workers at a time.  Workers end in
    any order, so what they found is put into an order that does not depend
    on that: by file, and within a file by where it begins. -/

namespace Kousei.Check

/-! ## One file -/

/-- The issues of a file.  A file that is no text has none; the language is
    that of its suffix unless one is given. -/
def checkFile (e : Engines) (settings : Settings) (w : Workspace) (language : Option String)
    (path : String) : Run (List Issue) := do
  let p := Path.ofString path
  if p.hasNull then throw PathFault.null.failure
  match (w.read? p).bind Encoding.readText? with
  | none => return []
  | some t =>
    let language :=
      match language with
      | none | some "" => languageOf p
      | some given => given
    checkText e settings (some path) t language

/-! ## Several files -/

/-- The issues of files, one file after the other. -/
def checkInTurn (e : Engines) (settings : Settings) (w : Workspace) (language : Option String) :
    List String → Run (List Issue)
  | [] => return []
  | path :: r => do
    let here ← checkFile e settings w language path
    return here ++ (← checkInTurn e settings w language r)

/-- The order of issues by file and by where they begin. -/
def Issue.isBefore (a b : Issue) : Bool :=
  let f := a.file.getD ""
  let g := b.file.getD ""
  f < g || (f == g && a.start ≤ b.start)

/-- The issues that several workers found, in order. -/
def gather (found : List (List Issue)) : List Issue := found.flatten.mergeSort Issue.isBefore

/-- What a worker finds in a file.  A file at which the operating system fails is
    passed over with a notice. -/
def checkByWorker (e : Engines) (settings : Settings) (w : Workspace) (language : Option String)
    (path : String) : Run (Except Failure (List Issue)) := do
  match ← Run.attempt (checkFile e settings w language path) with
  | .ok found => return .ok found
  | .error failure =>
    if failure.isOfSystem then
      Run.log [.filePassedOver path failure.message]
      return .ok []
    return .error failure

/-- The outcomes of files, every one of which is checked whatever becomes of
    the others. -/
def checkAll (e : Engines) (settings : Settings) (w : Workspace) (language : Option String) :
    List String → Run (List (Except Failure (List Issue)))
  | [] => return []
  | path :: r => do
    let here ← checkByWorker e settings w language path
    return here :: (← checkAll e settings w language r)

/-- The lists of issues in outcomes, or the first failure among them. -/
def allFound (outcomes : List (Except Failure (List Issue))) :
    Except Failure (List (List Issue)) :=
  outcomes.mapM id

/-- The issues of the files under several paths, none of which may be refused.
    The tokenizer has to be ready before any file is checked. -/
def checkPaths (e : Engines) (settings : Settings) (w : Workspace) (jobs : Int)
    (language : Option String) (paths : List String) : Run (List Issue) := do
  if let some fault := w.firstFault? paths then throw fault.failure
  let files := (w.filesUnderAll paths).map Path.render
  let _ ← Context.readyTokenizer e
  if 1 < jobs then
    let outcomes ← checkAll e settings w language files
    return gather (← Run.ofExcept (allFound outcomes))
  else checkInTurn e settings w language files

end Kousei.Check
