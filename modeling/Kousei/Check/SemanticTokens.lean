import Kousei.Check.Segments
import Kousei.Text.Position

/-! # Semantic tokens

    The words of a document with their places and classes, for an editor
    that colours them.  Classes are numbers of a fixed list, and what else is
    known of a word is a sum of powers of two. -/

namespace Kousei.Check

/-! ## Classes -/

/-- The classes of words; their numbers are their places in this list. -/
def tokenTypes : List String :=
  ["noun", "verb", "adjective", "adverb", "particle", "auxiliary", "conjunction", "symbol",
   "interjection", "prefix", "suffix", "unknown"]

/-- The classes of the parts of speech. -/
def posTypes : List (String × String) :=
  [("名詞", "noun"), ("動詞", "verb"), ("形容詞", "adjective"), ("副詞", "adverb"),
   ("助詞", "particle"), ("助動詞", "auxiliary"), ("接続詞", "conjunction"), ("記号", "symbol"),
   ("感動詞", "interjection"), ("接頭詞", "prefix"), ("接尾辞", "suffix")]

/-- The number of the class of a part of speech. -/
def tokenType (pos : String) : Nat := tokenTypes.idxOf ((posTypes.lookup pos).getD "unknown")

/-- What else is known of a word, as a number. -/
def modifierBits (m : Modifiers) : Nat :=
  (if m.proper then 1 else 0) + (if m.numeric then 2 else 0) + (if m.kana then 4 else 0) +
    (if m.kanji then 8 else 0)

/-! ## Tokens -/

structure SemanticToken where
  position : Position
  length : Nat
  type : Nat
  modifiers : Nat
  deriving DecidableEq, Repr

/-- A token of a segment in the whole document; none for blanks. -/
def semanticToken? (document : Text) (s : Segment) (t : Token) : Option SemanticToken :=
  if t.surface.allBlank then none
  else some
    { position := document.position (s.offset + t.offset), length := t.surface.length,
      type := tokenType t.pos, modifiers := modifierBits t.modifiers }

/-- The tokens of several segments, one after the other. -/
def semanticTokensIn (e : Engines) (document : Text) :
    List Segment → Run (List SemanticToken)
  | [] => return []
  | s :: r => do
    let t ← Context.readyTokenizer e
    let here := (← Context.tokenize e t s.text).filterMap (semanticToken? document s)
    return here ++ (← semanticTokensIn e document r)

/-- The tokens of a document; none if its analysis fails. -/
def semanticTokens (e : Engines) (settings : Settings) (t : Text) (language : String) :
    Run (List SemanticToken) := do
  let all : Run (List SemanticToken) := do
    semanticTokensIn e t (← segments e settings t language)
  match ← Run.attempt all with
  | .ok tokens => return tokens
  | .error (.initialization _) => return []
  | .error _ =>
    Run.log [.semanticTokensFailed]
    return []

end Kousei.Check
