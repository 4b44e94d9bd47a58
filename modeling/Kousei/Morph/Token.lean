import Kousei.Morph.Morpheme
import Kousei.Text.Japanese
import Kousei.Tree.ByteIndex

/-! # Tokens

    A token is a morpheme with a place in the text.  The engines do not tell
    places that can be relied on, so `anchor` finds them: each surface is
    looked for from the end of the one before it, and one that is not found
    is put there all the same. -/

namespace Kousei

/-- What else is known of a word. -/
structure Modifiers where
  /-- A proper noun. -/
  proper : Bool := false
  /-- A number. -/
  numeric : Bool := false
  /-- Written with kana, at least in part. -/
  kana : Bool := false
  /-- Written with ideographs, at least in part. -/
  kanji : Bool := false
  deriving DecidableEq, Repr

/-- A word at a place of a text.  A field that the dictionary does not have
    is a star, a reading that it does not have is empty. -/
structure Token where
  surface : Text
  pos : String := "*"
  posDetail1 : String := "*"
  posDetail2 : String := "*"
  posDetail3 : String := "*"
  conjugationType : String := "*"
  conjugationForm : String := "*"
  baseForm : String := ""
  reading : String := ""
  pronunciation : String := ""
  offset : Int := 0
  /-- The number of bytes of the surface in UTF-8. -/
  length : Nat := 0
  modifiers : Modifiers := {}
  deriving DecidableEq, Repr

namespace Token

/-- The place after the last character. -/
def stop (t : Token) : Int := t.offset + t.surface.length

end Token

namespace Morpheme

/-- A field, with a star for one that is missing or empty. -/
def orStar (field : Option String) : String :=
  match field with
  | none | some "" => "*"
  | some s => s

/-- The base form, which is the surface when the dictionary has none. -/
def base (m : Morpheme) : String :=
  match m.baseForm with
  | none | some "" | some "*" => String.ofList m.surface
  | some s => s

def modifiers (m : Morpheme) : Modifiers where
  proper := m.posDetail1 == some "固有名詞"
  numeric := m.posDetail1 == some "数" || m.posDetail2 == some "数" || m.surface.isNumeric
  kana := m.surface.hasKana
  kanji := m.surface.hasKanji

/-- The token of a morpheme at a place. -/
def toToken (m : Morpheme) (offset : Int) : Token where
  surface := m.surface
  pos := orStar m.pos
  posDetail1 := orStar m.posDetail1
  posDetail2 := orStar m.posDetail2
  posDetail3 := orStar m.posDetail3
  conjugationType := orStar m.conjugationType
  conjugationForm := orStar m.conjugationForm
  baseForm := m.base
  reading := m.reading.getD ""
  pronunciation := m.pronunciation.getD ""
  offset := offset
  length := m.surface.byteLength
  modifiers := m.modifiers

end Morpheme

/-- The tokens of morphemes that are looked for from the place `cursor` on. -/
def anchorFrom (t : Text) (cursor : Nat) : List Morpheme → List Token
  | [] => []
  | m :: r =>
    let offset : Nat := (Text.findFrom? m.surface t cursor).getD cursor
    m.toToken offset :: anchorFrom t (offset + m.surface.length) r

/-- The tokens of the morphemes of a text. -/
def anchor (t : Text) (ms : List Morpheme) : List Token := anchorFrom t 0 ms

end Kousei
