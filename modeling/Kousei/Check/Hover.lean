import Kousei.Check.Segments

/-! # Hover

    What is shown for one place of a document: a table of the fields of the
    word that stands there and, for a noun, the summary of its base form.
    Asking for the summary may fail without any harm to the table. -/

namespace Kousei.Check

/-! ## Table -/

/-- The table of the fields of a token. -/
def formatToken (t : Token) : String :=
  let row (name value : String) : String := s!"| {name} | {value} |"
  "\n".intercalate
    [s!"**{String.ofList t.surface}**", "", row "項目" "値", "|------|------|",
     row "品詞" t.pos, row "品詞細分類1" t.posDetail1, row "品詞細分類2" t.posDetail2,
     row "品詞細分類3" t.posDetail3, row "活用型" t.conjugationType,
     row "活用形" t.conjugationForm, row "基本形" t.baseForm, row "読み" t.reading,
     row "発音" t.pronunciation]

/-! ## The word at a place -/

/-- Does the segment cover the place? -/
def covers (s : Segment) (offset : Int) : Bool := s.offset ≤ offset && offset < s.stop

/-- The first token that covers a place of its segment. -/
def tokenAt (tokens : List Token) (place : Int) : Option Token :=
  tokens.find? fun t => t.offset ≤ place && place < t.stop

/-- The first token in several segments that covers a place. -/
def coveringIn (e : Engines) (offset : Int) : List Segment → Run (Option Token)
  | [] => return none
  | s :: r => do
    if !covers s offset then return ← coveringIn e offset r
    let t ← Context.readyTokenizer e
    match tokenAt (← Context.tokenize e t s.text) (offset - s.offset) with
    | some token => return some token
    | none => coveringIn e offset r

/-- The token at a place of a document. -/
def coveringToken (e : Engines) (settings : Settings) (t : Text) (language : String)
    (offset : Int) : Run (Option Token) := do
  coveringIn e offset (← segments e settings t language)

/-! ## Content -/

/-- The summary of a word; none if asking for it failed. -/
def summaryOrNone (e : Engines) (term : String) : Run (Option Value) := do
  match ← Run.attempt (Context.summary e term) with
  | .ok summary => return summary
  | .error _ => return none

/-- The content for a token. -/
def hoverContent (e : Engines) (settings : Settings) (t : Token) : Run String := do
  let table := formatToken t
  if !settings.enableEnrichment || t.pos != "名詞" then return table
  match ← summaryOrNone e t.baseForm with
  | none => return table
  | some summary =>
    return if summary.isFalsy then table else table ++ "\n\n---\n\n" ++ summary.display

/-- What is shown for a place of a document, if a word stands there. -/
def hover (e : Engines) (settings : Settings) (t : Text) (language : String) (offset : Int) :
    Run (Option String) := do
  match ← Run.attempt (coveringToken e settings t language offset) with
  | .ok none => return none
  | .ok (some token) => return some (← hoverContent e settings token)
  | .error (.initialization _) => return none
  | .error _ =>
    Run.log [.hoverFailed]
    return none

end Kousei.Check
