import Kousei.Decimal.Shortest

/-! # Decimal notation

    How a number is written: with the fewest digits that are read as the
    same number, with a point for exponents from -4 up to 15, otherwise
    with an exponent of at least two digits and its sign.  A number without
    a fraction still shows one when it is written with a point. -/

namespace Kousei.Decimal

/-- `n` zeros. -/
def zeros (n : Nat) : List Char := List.replicate n '0'

/-- Digits with a point, the first digit standing for `10 ^ e`. -/
def pointed (ds : List Char) (e : Int) : List Char :=
  if e < 0 then ['0', '.'] ++ zeros ((-e).toNat - 1) ++ ds
  else
    let whole := e.toNat + 1
    if ds.length ≤ whole then ds ++ zeros (whole - ds.length) ++ ['.', '0']
    else ds.take whole ++ ['.'] ++ ds.drop whole

/-- Digits with an exponent. -/
def scientific (ds : List Char) (e : Int) : List Char :=
  let mantissa :=
    match ds with
    | [] => []
    | [d] => [d]
    | d :: more => d :: '.' :: more
  let size := (toString e.natAbs).toList
  mantissa ++ ['e', if e < 0 then '-' else '+'] ++ zeros (2 - size.length) ++ size

/-- The text of a finite number that is not negative. -/
def unsigned (bits : UInt64) : List Char :=
  let x := Binary.ofBits bits
  if x.m = 0 then ['0', '.', '0']
  else
    let d := x.shortest
    let e := d.leading
    if -4 ≤ e ∧ e < 16 then pointed d.significant e else scientific d.significant e

/-- The names of what is no number and of the infinite ones. -/
structure Names where
  nan : String
  infinity : String

/-- The text of a float. -/
def write (names : Names) (x : Float) : String :=
  let bits := x.toBits
  let sign := if bits >>> 63 = 1 then "-" else ""
  if x.isNaN then names.nan
  else if x.isInf then sign ++ names.infinity
  else sign ++ String.ofList (unsigned bits)

/-! ## Reading -/

/-- The float nearest to `digits * 10 ^ exponent`.  Exponents beyond all
    floats are cut, so that no power is larger than it has to be. -/
def read (negative : Bool) (digits : Nat) (exponent : Int) : Float :=
  let size := (digitCount digits : Int) + exponent
  let x : Float :=
    if digits = 0 then 0.0
    else if 400 < size then 1.0 / 0.0
    else if size < -400 then 0.0
    else if exponent < 0 then Float.ofScientific digits true exponent.natAbs
    else Float.ofScientific digits false exponent.natAbs
  if negative then -x else x

/-- The float nearest to an integer. -/
def ofInt (n : Int) : Float := read (n < 0) n.natAbs 0

end Kousei.Decimal
