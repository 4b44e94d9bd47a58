import Kousei.Check.Segments
import Kousei.Rule.Basic

/-! # Checking a document

    Every segment is analysed on its own, and its diagnostics are moved to
    their places in the document.  When the analysis of a segment fails, the
    document has no diagnostics at all; when the tokenizer cannot be had,
    neither has any document. -/

namespace Kousei.Check

/-- The sentences of a text. -/
def sentences (e : Engines) (t : Tokenizer) (s : Text) : Run (List Sentence) := do
  return Sentence.split s (← Context.tokenize e t s)

/-- The tokens and the sentences of a text. -/
def analyze (e : Engines) (s : Text) : Run (List Token × List Sentence) := do
  let t ← Context.readyTokenizer e
  let tokens ← Context.tokenize e t s
  return (tokens, Sentence.split s tokens)

/-- The diagnostics of a segment, at their places in the document. -/
def segmentDiagnostics (e : Engines) (settings : Settings) (t : Tokenizer) (s : Segment) :
    Run (List Diagnostic) := do
  let ss ← sentences e t s.text
  if let some failure := Rule.failure? s.text ss settings.rules then throw failure
  return (Rule.check s.text ss settings.rules).map (·.shifted s.offset)

/-- The diagnostics of several segments, one after the other. -/
def segmentsDiagnostics (e : Engines) (settings : Settings) (t : Tokenizer) :
    List Segment → Run (List Diagnostic)
  | [] => return []
  | s :: r => do
    let here ← segmentDiagnostics e settings t s
    return here ++ (← segmentsDiagnostics e settings t r)

/-- The diagnostics that are grave enough to be reported.  Without a severity to
    compare with only no diagnostics at all can be. -/
def reported (settings : Settings) (ds : List Diagnostic) : Except Failure (List Diagnostic) :=
  match settings.minSeverity with
  | some severity => .ok (ds.filter fun d => d.severity ≤ severity)
  | none => if ds.isEmpty then .ok [] else .error .incomparable

/-- The diagnostics of a document.  What the engine and the rules fail with is a
    failure of the analysis; what the parser fails with, or the loading of the
    tokenizer, stays as it is. -/
def validate (e : Engines) (settings : Settings) (t : Text) (language : String) :
    Run (List Diagnostic) := do
  let segs ← segments e settings t language
  if segs.isEmpty then return []
  let tokenizer ← Context.readyTokenizer e
  match ← Run.attempt (segmentsDiagnostics e settings tokenizer segs) with
  | .ok ds => Run.ofExcept (reported settings ds)
  | .error failure => throw (failure.ofAnalysis language)

/-- The diagnostics of a document, and none if it cannot be analysed or the
    tokenizer cannot be had. -/
def validateText (e : Engines) (settings : Settings) (t : Text) (language : String) :
    Run (List Diagnostic) := do
  match ← Run.attempt (validate e settings t language) with
  | .ok ds => return ds
  | .error (.initialization _) => return []
  | .error (.analysis _) =>
    Run.log [.analysisFailed]
    return []
  | .error failure => throw failure

/-- The diagnostics of a document as issues of a file. -/
def checkText (e : Engines) (settings : Settings) (file : Option String) (t : Text)
    (language : String) : Run (List Issue) := do
  return (← validateText e settings t language).map (Issue.ofDiagnostic file t)

/-! ## Publication -/

/-- A check whose result may be published: the document and the number of the
    check. -/
structure Pass where
  key : String
  generation : Nat
  deriving DecidableEq, Repr

/-- Begin a check of a document. -/
def beginPass (key : String) : Run Pass := do
  let (n, g) := (← get).generations.begin key
  modify fun c => { c with generations := g }
  return ⟨key, n⟩

/-- May the result of a check be published now? -/
def mayPublish (p : Pass) : Run Bool := do
  return (← get).generations.isCurrent p.key p.generation

/-- Check a document and give what is to be published: its diagnostics, or
    nothing if another check of it has begun. -/
def validateDocument (e : Engines) (settings : Settings) (key : String) (t : Text)
    (language : String) : Run (Option (List Diagnostic)) := do
  let p ← beginPass key
  let ds ← validateText e settings t language
  return if ← mayPublish p then some ds else none

end Kousei.Check
