import Kousei.Text.Basic

/-! # UTF-16

    Text in units of two bytes.  A mark at the beginning tells which byte of
    a unit comes first and is no part of the text; without a mark the lower
    byte does.  A character beyond the first plane is a pair of units. -/

namespace Kousei.Encoding.Utf16

/-- The order of the two bytes of a unit. -/
inductive ByteOrder where
  | lowFirst
  | highFirst
  deriving DecidableEq, Repr

def unit (order : ByteOrder) (a b : UInt8) : Nat :=
  match order with
  | .lowFirst => b.toNat * 0x100 + a.toNat
  | .highFirst => a.toNat * 0x100 + b.toNat

/-- The units of bytes, if no byte is left over. -/
def units? (order : ByteOrder) : List UInt8 → Option (List Nat)
  | [] => some []
  | [_] => none
  | a :: b :: r => (units? order r).map (unit order a b :: ·)

def isHigh (u : Nat) : Bool := 0xD800 ≤ u && u < 0xDC00

def isLow (u : Nat) : Bool := 0xDC00 ≤ u && u < 0xE000

/-- The character of a pair of units. -/
def ofPair (high low : Nat) : Char :=
  Char.ofNat (0x10000 + (high - 0xD800) * 0x400 + (low - 0xDC00))

/-- The text of units, if every half of a pair has the other half. -/
def text? : List Nat → Option Text
  | [] => some []
  | u :: r =>
    if isHigh u then
      match r with
      | [] => none
      | v :: r => if isLow v then (text? r).map (ofPair u v :: ·) else none
    else if isLow u then none
    else (text? r).map (Char.ofNat u :: ·)

/-- The byte order of bytes, and the bytes after the mark. -/
def orderOf : List UInt8 → ByteOrder × List UInt8
  | 0xFF :: 0xFE :: r => (.lowFirst, r)
  | 0xFE :: 0xFF :: r => (.highFirst, r)
  | bytes => (.lowFirst, bytes)

/-- The text of bytes. -/
def decode? (bytes : List UInt8) : Option Text := do
  let (order, rest) := orderOf bytes
  text? (← units? order rest)

end Kousei.Encoding.Utf16
