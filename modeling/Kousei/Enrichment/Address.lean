import Kousei.Enrichment.Template

/-! # Addresses

    The address that a summary is asked for at: a template with a place for
    the word, which is written there in UTF-8 with every byte escaped that
    is not a letter or digit of ASCII or one of four signs. -/

namespace Kousei.Enrichment

/-! ## Escaping -/

/-- The characters that stand for themselves in an address. -/
def isUnreserved (c : Char) : Bool :=
  c.isAlphanum || c == '_' || c == '.' || c == '-' || c == '~'

/-- One byte as a percent sign and two upper-case digits. -/
def escapeByte (b : UInt8) : Text := '%' :: (Text.hex 2 b.toNat).map Char.toUpper

/-- A word with all characters escaped that do not stand for themselves. -/
def escape (t : Text) : Text :=
  t.flatMap fun c =>
    if isUnreserved c then [c] else (String.ofList [c]).toUTF8.toList.flatMap escapeByte

/-! ## Addresses -/

/-- The address of a word. -/
def address (template : String) (word : Text) : Except Failure String :=
  (fill template.toList (escape word)).map String.ofList

end Kousei.Enrichment
