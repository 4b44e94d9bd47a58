import Kousei.Decimal.Notation
import Kousei.Text.Digit
import Kousei.Value.Fault

/-! # Numerals

    Integers and floats as they stand in a text of their own: blanks around
    them do not count, digits may be of any script, and single underscores
    may stand between digits. -/

namespace Kousei.Numeral

/-! ## Digits -/

/-- A character with a digit of any script replaced by that of ASCII. -/
def asciiDigit (c : Char) : Char :=
  match Text.digitValue? c with
  | some n => Char.ofNat ('0'.toNat + n)
  | none => c

/-- A text without underscores that stand between two digits; nothing if
    there are others. -/
def dropUnderscores (before : Option Char) : Text → Option Text
  | [] => some []
  | c :: r =>
    if c = '_' then
      if before.any Char.isDigit && r.head?.any Char.isDigit then dropUnderscores (some c) r
      else none
    else (dropUnderscores (some c) r).map (c :: ·)

/-- White space around a number does not count, but for the controls that
    separate records. -/
def isPadding (c : Char) : Bool := Text.isBlank c && !Text.inRanges [(0x1C, 0x1F)] c

/-- A text less the padding at both ends. -/
def dropPadding (t : Text) : Text :=
  ((t.dropWhile isPadding).reverse.dropWhile isPadding).reverse

/-- A number as it is read: without padding, in digits of ASCII, without
    underscores. -/
def normalized (t : Text) : Option Text :=
  dropUnderscores none ((dropPadding t).map asciiDigit)

/-- The value of a digit in the bases up to sixteen. -/
def digitValue? (c : Char) : Option Nat :=
  if '0' ≤ c ∧ c ≤ '9' then some (c.toNat - '0'.toNat)
  else if 'a' ≤ c ∧ c ≤ 'f' then some (c.toNat - 'a'.toNat + 10)
  else if 'A' ≤ c ∧ c ≤ 'F' then some (c.toNat - 'A'.toNat + 10)
  else none

/-- Is the character a digit in a base? -/
def isDigitOf (base : Nat) (c : Char) : Bool := (digitValue? c).any (· < base)

/-- The number that digits stand for in a base. -/
def ofDigits (base : Nat) (ds : Text) : Nat :=
  ds.foldl (fun n c => base * n + (digitValue? c).getD 0) 0

/-- A sign, and what follows. -/
def sign (t : Text) : Bool × Text :=
  match t with
  | '-' :: r => (true, r)
  | '+' :: r => (false, r)
  | t => (false, t)

/-- Is the text a row of characters of a kind, at least one? -/
def isRow (p : Char → Bool) (t : Text) : Bool := !t.isEmpty && t.all p

/-! ## Integers -/

/-- An integer with a sign. -/
def signed (negative : Bool) (n : Nat) : Int := if negative then -(n : Int) else n

/-- A natural number in decimal digits, if there are not too many of them. -/
def natural (ds : Text) : Reading Nat :=
  if Decimal.maxDigits < ds.length then .error (.longInteger ds.length) else .ok (ofDigits 10 ds)

/-- An integer in decimal digits. -/
def integer (t : Text) : Reading Int :=
  match (normalized t).map sign with
  | none => .error (.notInteger t 10)
  | some (negative, ds) =>
    if isRow Char.isDigit ds then (natural ds).map (signed negative)
    else .error (.notInteger t 10)

/-- An integer in the digits of a base that is a power of two.  There may be
    any number of them. -/
def integerIn (base : Nat) (t : Text) : Reading Int :=
  let (negative, ds) := sign (dropPadding t)
  if isRow (isDigitOf base) ds then .ok (signed negative (ofDigits base ds))
  else .error (.notInteger t base)

/-! ## Floats -/

/-- The exponent of a float, which may be missing. -/
def exponent? (t : Text) : Option Int :=
  match t with
  | [] => some 0
  | e :: r =>
    if e = 'e' || e = 'E' then
      let (negative, ds) := sign r
      if isRow Char.isDigit ds then some (signed negative (ofDigits 10 ds)) else none
    else none

/-- A float in digits, without its sign. -/
def decimal? (negative : Bool) (t : Text) : Option Float := do
  let whole := t.takeWhile Char.isDigit
  let rest := t.drop whole.length
  let (places, rest) :=
    match rest with
    | '.' :: r => (r.takeWhile Char.isDigit, r.dropWhile Char.isDigit)
    | rest => ([], rest)
  if whole.isEmpty && places.isEmpty then none
  else
    let e ← exponent? rest
    return Decimal.read negative (ofDigits 10 (whole ++ places)) (e - places.length)

/-- A float in digits, or the name of what is no number or infinite. -/
def float? (t : Text) : Option Float := do
  let (negative, r) := sign (← normalized t)
  let word := String.ofList (Text.toAsciiWord r)
  if word = "inf" || word = "infinity" then
    return if negative then -1.0 / 0.0 else 1.0 / 0.0
  else if word = "nan" then return 0.0 / 0.0
  else decimal? negative r

def float (t : Text) : Reading Float :=
  match float? t with
  | some x => .ok x
  | none => .error (.notFloat t)

end Kousei.Numeral
