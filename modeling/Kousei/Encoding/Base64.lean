import Kousei.Text.Basic

/-! # Base 64

    Bytes written as text: every character of an alphabet of sixty-four holds
    six bits, so four of them hold three bytes.  Equals signs fill the last
    four up, and everything after them is left unread; other characters do
    not count at all. -/

namespace Kousei.Encoding.Base64

def alphabet : List Char :=
  "ABCDEFGHIJKLMNOPQRSTUVWXYZabcdefghijklmnopqrstuvwxyz0123456789+/".toList

/-- The six bits of a character of the alphabet. -/
def bits? (c : Char) : Option Nat := alphabet.idxOf? c

/-- How far a group of four characters has been read. -/
structure Group where
  /-- The number of characters so far. -/
  size : Nat := 0
  /-- The bits that are not part of a byte yet. -/
  left : Nat := 0
  /-- The equals signs in a row that end the group. -/
  signs : Nat := 0

/-- The byte that a character finishes, if it does, and the group after it. -/
def Group.next (g : Group) (d : Nat) : Option UInt8 × Group :=
  match g.size with
  | 0 => (none, ⟨1, d, 0⟩)
  | 1 => (some (4 * g.left + d / 16).toUInt8, ⟨2, d % 16, 0⟩)
  | 2 => (some (16 * g.left + d / 4).toUInt8, ⟨3, d % 4, 0⟩)
  | _ => (some (64 * g.left + d).toUInt8, {})

/-- The group after an equals sign, which says nothing before the third
    place; nothing if it fills the group up. -/
def Group.sign? (g : Group) : Option Group :=
  if g.size < 2 then some g
  else if 4 ≤ g.size + g.signs + 1 then none
  else some { g with signs := g.signs + 1 }

/-- The bytes that a text goes on with; nothing if its last group is neither
    full nor filled up. -/
def bytesFrom? (g : Group) : Text → Option (List UInt8)
  | [] => if g.size = 0 then some [] else none
  | c :: r =>
    if c = '=' then
      match g.sign? with
      | none => some []
      | some g => bytesFrom? g r
    else
      match bits? c with
      | none => bytesFrom? g r
      | some d =>
        let (byte, g) := g.next d
        (bytesFrom? g r).map (byte.toList ++ ·)

/-- The bytes that a text of ASCII characters stands for. -/
def decode? (t : Text) : Option (List UInt8) :=
  if t.all fun c => c.toNat < 0x80 then bytesFrom? {} t else none

end Kousei.Encoding.Base64
