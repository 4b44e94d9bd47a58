import Kousei.Encoding.Cp932Pairs
import Kousei.Text.Basic

/-! # Code page 932

    The encoding of older Japanese files.  A byte below 80 in hexadecimal is
    a character of ASCII; some bytes from 80 on are characters of their own,
    half-width kana among them; the others begin a pair. -/

namespace Kousei.Encoding.Cp932

/-- The character of a byte that stands on its own. -/
def single? (b : Nat) : Option Char :=
  if b ≤ 0x80 then some (Char.ofNat b)
  else if b = 0xA0 then some '\uF8F0'
  else if 0xA1 ≤ b ∧ b ≤ 0xDF then some (Char.ofNat (0xFF61 + (b - 0xA1)))
  else if 0xFD ≤ b then some (Char.ofNat (0xF8F1 + (b - 0xFD)))
  else none

/-- The place of a second byte in its row. -/
def column? (b : Nat) : Option Nat :=
  if 0x40 ≤ b ∧ b ≤ 0x7E then some (b - 0x40)
  else if 0x80 ≤ b ∧ b ≤ 0xFC then some (b - 0x41)
  else none

/-- The character of a pair.  The first bytes from F0 to F9 begin the pairs
    that are left to their users. -/
def pair? (first second : Nat) : Option Char := do
  let column ← column? second
  if 0xF0 ≤ first ∧ first ≤ 0xF9 then
    return Char.ofNat (0xE000 + (first - 0xF0) * 188 + column)
  let row ← rows.lookup first
  let c ← row.toList[column]?
  if c = '\uFFFD' then none else some c

/-- The text of bytes, if they all stand for characters. -/
def decode? : List UInt8 → Option Text
  | [] => some []
  | a :: r =>
    match single? a.toNat with
    | some c => (decode? r).map (c :: ·)
    | none =>
      match r with
      | [] => none
      | b :: r =>
        match pair? a.toNat b.toNat with
        | some c => (decode? r).map (c :: ·)
        | none => none

end Kousei.Encoding.Cp932
