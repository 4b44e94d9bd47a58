import Kousei.Morph.Token

/-! # Sentences

    A sentence is a run of tokens that ends with a full stop, an exclamation
    or question mark, or the end of a line.  Tokens after the last such end
    are a sentence too.  Each sentence begins where the one before it ends,
    the first one with the first token. -/

namespace Kousei

structure Sentence where
  text : Text
  start : Int
  stop : Int
  tokens : List Token
  deriving DecidableEq, Repr

/-- The surfaces that end a sentence. -/
def sentenceEnds : List Text := [['。'], ['！'], ['？'], ['!'], ['?'], ['\n']]

/-- Does a sentence end with this token?  A symbol that is nothing but blanks
    with a line feed among them ends one as well. -/
def Token.isSentenceEnd (t : Token) : Bool :=
  sentenceEnds.contains t.surface ||
    (t.pos == "記号" && t.surface.contains '\n' && t.surface.allBlank)

/-- The groups of a list, each of which ends with an element that satisfies
    `p`, except perhaps the last one. -/
def groupsEndingWith {α : Type} (p : α → Bool) : List α → List (List α)
  | [] => []
  | x :: r =>
    if p x then [x] :: groupsEndingWith p r
    else match groupsEndingWith p r with
      | [] => [[x]]
      | g :: more => (x :: g) :: more

namespace Sentence

/-- Sentences made of groups of tokens, the first beginning at `start`. -/
def ofGroups (t : Text) (start : Int) : List (List Token) → List Sentence
  | [] => []
  | g :: r =>
    let stop := (g.getLast?.map Token.stop).getD start
    ⟨t.sliceInt start stop, start, stop, g⟩ :: ofGroups t stop r

/-- The sentences of the tokens of a text. -/
def split (t : Text) (tokens : List Token) : List Sentence :=
  ofGroups t ((tokens.head?.map Token.offset).getD 0)
    (groupsEndingWith Token.isSentenceEnd tokens)

end Sentence

end Kousei
