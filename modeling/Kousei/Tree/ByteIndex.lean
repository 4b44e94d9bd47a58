import Kousei.Text.Basic

/-! # Byte places

    Syntax trees tell places in bytes of UTF-8.  `charIndex` turns such a
    place into a count of characters: the number of characters that begin
    before it, one more than all of them when it lies past the end. -/

namespace Kousei.Text

/-- The number of bytes that a text has in UTF-8. -/
def byteLength : Text → Nat
  | [] => 0
  | c :: r => c.utf8Size + byteLength r

/-- The place in characters of a place in bytes. -/
def charIndex : Text → Int → Nat
  | [], b => if b ≤ 0 then 0 else 1
  | c :: r, b => if b ≤ 0 then 0 else 1 + charIndex r (b - c.utf8Size)

/-- The stretch between two places in bytes. -/
def sliceBytes (t : Text) (first last : Int) : Text :=
  t.slice (t.charIndex first) (t.charIndex last)

end Kousei.Text
