import Kousei.Text.Printable

/-! # Quoted text

    A text in quotes, as error messages show it.  The quotes are single
    unless that would ask for an escape that double ones do not; what is
    not printable is written as an escape with the shortest of two, four or
    eight hexadecimal digits. -/

namespace Kousei.Text

/-- The lower-case hexadecimal digit of a number below sixteen. -/
def hexDigit (n : Nat) : Char := (Nat.toDigits 16 (n % 16)).headD '0'

/-- The last `width` hexadecimal digits of a number. -/
def hex : Nat → Nat → Text
  | 0, _ => []
  | width + 1, n => hex width (n / 16) ++ [hexDigit n]

/-- One character between quotes. -/
def escapeChar (quote c : Char) : Text :=
  if c = quote || c = '\\' then ['\\', c]
  else if c = '\n' then ['\\', 'n']
  else if c = '\r' then ['\\', 'r']
  else if c = '\t' then ['\\', 't']
  else if isPrintable c then [c]
  else if c.toNat < 0x100 then '\\' :: 'x' :: hex 2 c.toNat
  else if c.toNat < 0x10000 then '\\' :: 'u' :: hex 4 c.toNat
  else '\\' :: 'U' :: hex 8 c.toNat

/-- The quotes of a text: double ones if it has a single one and no double
    one in it. -/
def quoteFor (t : Text) : Char := if t.contains '\'' && !t.contains '"' then '"' else '\''

/-- A text in quotes. -/
def quoted (t : Text) : Text :=
  let q := quoteFor t
  q :: t.flatMap (escapeChar q) ++ [q]

/-! ## Codes -/

/-- The text of a list of codes, if every one of them is that of a character.
    Half a surrogate pair is none. -/
def ofCodes? (codes : List Nat) : Option Text :=
  codes.mapM fun n => if h : n.isValidChar then some (Char.ofNatAux n h) else none

/-- One code between quotes. -/
def escapeCode (quote : Char) (n : Nat) : Text :=
  if n.isValidChar then escapeChar quote (Char.ofNat n) else '\\' :: 'u' :: hex 4 n

/-- A list of codes in quotes. -/
def quotedCodes (codes : List Nat) : Text :=
  let q := quoteFor ((codes.filter fun n => n.isValidChar).map Char.ofNat)
  q :: codes.flatMap (escapeCode q) ++ [q]

/-! ## Bytes -/

/-- One byte between quotes. -/
def escapeByte (quote : Char) (b : UInt8) : Text :=
  if b < 0x80 then escapeChar quote (Char.ofNat b.toNat) else '\\' :: 'x' :: hex 2 b.toNat

/-- Bytes in quotes, with a letter before them. -/
def quotedBytes (bytes : List UInt8) : Text :=
  let q := quoteFor ((bytes.filter (· < 0x80)).map fun b => Char.ofNat b.toNat)
  'b' :: q :: bytes.flatMap (escapeByte q) ++ [q]

end Kousei.Text
