import Kousei.Context
import Kousei.Settings.Basic

/-! # Segments of a document

    Which stretches of a document are checked.  Prose is one segment, the
    whole document.  Of other documents the candidates are found by the
    grammar of the language if it can be had, otherwise by scanning. -/

namespace Kousei.Check

/-- The segments that the grammar of the language finds; none if there is no
    such grammar. -/
def treeSegments (e : Engines) (t : Text) (language : String) (minRatio : Float) :
    Run (List Segment) := do
  match grammarOf? language with
  | none => return []
  | some name =>
    match ← Context.grammar? e name with
    | none => return []
    | some parse =>
      let tree ← Run.ofExcept (parse t)
      return Segment.ofCandidates minRatio (Node.walk name t [tree])

/-- The languages that are always scanned, whatever grammars there are. -/
def scannedOnly (language : String) : Bool := language == "latex"

/-- The whole document as a segment, unless it is empty. -/
def wholeText (t : Text) : List Segment := if t.isEmpty then [] else [⟨t, 0⟩]

/-- The segments of a document. -/
def extract (e : Engines) (t : Text) (language : String) (minRatio : Float) :
    Run (List Segment) := do
  if isProse language then return wholeText t
  if !scannedOnly language then
    if (← Context.parser? e language).isSome then
      return ← treeSegments e t language minRatio
  return Extract.scanned t language minRatio

/-- A share of Japanese characters that every text reaches. -/
def anyRatio : Float := -1

/-- The segments of a document that the settings want checked.  Without a share
    to compare with no text can be found to be Japanese enough, so there must
    be none to look at. -/
def segments (e : Engines) (settings : Settings) (t : Text) (language : String) :
    Run (List Segment) := do
  if !settings.enable || !settings.targetLanguages.contains language then return []
  match settings.minJapaneseRatio with
  | some ratio =>
    if isProse language && t.japaneseRatio < ratio then return []
    extract e t language ratio
  | none =>
    if isProse language then throw .incomparable
    let found ← extract e t language anyRatio
    if found.isEmpty then return [] else throw .incomparable

end Kousei.Check
