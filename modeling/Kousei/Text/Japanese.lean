import Kousei.Text.Basic

/-! # Japanese characters

    The blocks of characters by which Japanese prose is told from other
    text: the two kana, the ideographs, and the punctuation that goes with
    them.  A text is Japanese enough when the share of such characters in it
    reaches a given ratio; the empty text never is. -/

namespace Kousei.Text

def isHiragana (c : Char) : Bool := 0x3040 ≤ c.toNat && c.toNat ≤ 0x309F

def isKatakana (c : Char) : Bool := 0x30A0 ≤ c.toNat && c.toNat ≤ 0x30FF

def isKanji (c : Char) : Bool := 0x4E00 ≤ c.toNat && c.toNat ≤ 0x9FFF

/-- The ideographic space, comma, full stop, brackets and the like. -/
def isJapaneseSymbol (c : Char) : Bool := 0x3000 ≤ c.toNat && c.toNat ≤ 0x303F

/-- Does `c` count towards the Japanese ratio? -/
def isJapanese (c : Char) : Bool :=
  isHiragana c || isKatakana c || isKanji c || isJapaneseSymbol c

/-- The share of Japanese characters; zero for the empty text. -/
def japaneseRatio (t : Text) : Float :=
  if t.isEmpty then 0.0 else Float.ofNat (t.countP isJapanese) / Float.ofNat t.length

/-- Does the share of Japanese characters reach `ratio`? -/
def isJapaneseEnough (t : Text) (ratio : Float) : Bool :=
  !t.isEmpty && ratio ≤ t.japaneseRatio

def hasKana (t : Text) : Bool := t.any fun c => isHiragana c || isKatakana c

def hasKanji (t : Text) : Bool := t.any isKanji

/-- A half-width or full-width digit. -/
def isNumeral (c : Char) : Bool := c.isDigit || (0xFF10 ≤ c.toNat && c.toNat ≤ 0xFF19)

/-- Is the text a number: numerals only, at least one, and after them at most
    one line feed? -/
def isNumeric (t : Text) : Bool :=
  let rest := t.dropWhile isNumeral
  !(t.takeWhile isNumeral).isEmpty && (rest == [] || rest == ['\n'])

end Kousei.Text
