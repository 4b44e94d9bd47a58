import Kousei.Extract.Code
import Kousei.Extract.Html
import Kousei.Extract.Latex

/-! # Languages

    The languages of documents, by the identifiers that editors give them.
    Prose is read whole; so is a document of a language that is not known
    here.  Of markup and source code only the candidates are read. -/

namespace Kousei

/-- The identifiers of documents that are prose. -/
def proseLanguages : List String := ["plaintext", "markdown", "japanese"]

def markupLanguages : List String := ["html", "latex"]

def programmingLanguages : List String :=
  ["javascript", "javascriptreact", "typescript", "typescriptreact", "python", "rust", "c", "cpp"]

/-- All identifiers that are known. -/
def supportedLanguages : List String :=
  proseLanguages ++ markupLanguages ++ programmingLanguages

/-- Is a document of this language read whole? -/
def isProse (language : String) : Bool :=
  proseLanguages.contains language || !supportedLanguages.contains language

namespace Extract

/-- How the candidates of a language are found by scanning the document. -/
def scanner? (language : String) : Option (Text → List Candidate) :=
  match language with
  | "javascript" | "javascriptreact" | "typescript" | "typescriptreact" =>
    some (codeCandidates javascriptLexer)
  | "python" => some (codeCandidates pythonLexer)
  | "rust" => some (codeCandidates rustLexer)
  | "c" | "cpp" => some (codeCandidates cLexer)
  | "html" => some (markupCandidates htmlLexer)
  | "latex" => some (markupCandidates latexLexer)
  | _ => none

/-- The segments found by scanning; none for a language without a scanner. -/
def scanned (t : Text) (language : String) (minRatio : Float) : List Segment :=
  match scanner? language with
  | none => []
  | some candidates => Segment.ofCandidates minRatio (candidates t)

end Extract

end Kousei
