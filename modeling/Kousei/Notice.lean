/-! # Notices

    What the program writes to its log when something it can do without has
    failed. -/

namespace Kousei

/-- The name under which the program reports. -/
def programName : String := "jastyle"

/-- How grave a notice is. -/
inductive Level where
  | warning
  | error
  deriving DecidableEq, Repr

def Level.name : Level → String
  | .warning => "WARNING"
  | .error => "ERROR"

inductive Notice where
  /-- A morphological engine could not be loaded. -/
  | tokenizerFailed (backend reason : String)
  /-- A grammar could not be loaded. -/
  | grammarUnavailable (grammar reason : String)
  /-- A document could not be analysed. -/
  | analysisFailed
  /-- A question about one place of a document could not be answered. -/
  | hoverFailed
  /-- The words of a document could not be classified. -/
  | semanticTokensFailed
  /-- One of several files was passed over. -/
  | filePassedOver (file reason : String)
  deriving DecidableEq, Repr

namespace Notice

def level : Notice → Level
  | grammarUnavailable .. | filePassedOver .. => .warning
  | _ => .error

/-- The part of the program that gives the notice. -/
def reporter : Notice → String
  | tokenizerFailed .. => programName ++ ".morph"
  | grammarUnavailable .. => programName ++ ".ast_extractor"
  | _ => programName ++ ".checker"

def message : Notice → String
  | tokenizerFailed backend reason => s!"failed to initialize {backend} tokenizer: {reason}"
  | grammarUnavailable grammar reason => s!"tree-sitter grammar {grammar} unavailable: {reason}"
  | analysisFailed => "analysis error; no diagnostics for this document"
  | hoverFailed => "hover analysis failed"
  | semanticTokensFailed => "semantic token analysis failed"
  | filePassedOver file reason => s!"failed to read {file}: {reason}"

end Notice

end Kousei
