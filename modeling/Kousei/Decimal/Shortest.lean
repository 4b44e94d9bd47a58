/-! # Shortest decimals

    Among all decimals that are read as a given floating-point number, the
    one with the fewest digits, and of these the nearest to the number.

    The numbers that are read as a float `m * 2 ^ q` are an interval around
    it, which ends halfway to its two neighbours; the ends belong to it when
    `m` is even.  For one digit, two digits, and so on the two decimals next
    to the number are tried, in exact arithmetic.  Seventeen digits always
    suffice. -/

namespace Kousei.Decimal

/-! ## Powers -/

/-- A power of two; one for a negative exponent. -/
def twoTo (n : Int) : Nat := Nat.pow 2 n.toNat

/-- A power of ten; one for a negative exponent. -/
def tenTo (n : Int) : Nat := Nat.pow 10 n.toNat

/-! ## Floats and decimals -/

/-- A finite positive float, `m * 2 ^ q`. -/
structure Binary where
  m : Nat
  q : Int
  /-- Is the neighbour below nearer than the neighbour above? -/
  narrow : Bool
  deriving DecidableEq, Repr

/-- The float that has the given bits, its sign left aside. -/
def Binary.ofBits (bits : UInt64) : Binary :=
  let exponent := ((bits >>> 52) &&& 0x7FF).toNat
  let fraction := (bits &&& 0xFFFFFFFFFFFFF).toNat
  if exponent = 0 then ⟨fraction, -1074, false⟩
  else ⟨twoTo 52 + fraction, (exponent : Int) - 1075, fraction = 0 && 1 < exponent⟩

/-- A decimal, `digits * 10 ^ exponent`. -/
structure Dec where
  digits : Nat
  exponent : Int
  deriving DecidableEq, Repr

/-- The order of `a * 10 ^ i` and `b * 2 ^ j`, decided in whole numbers. -/
def compareScaled (a : Nat) (i : Int) (b : Nat) (j : Int) : Ordering :=
  compare (a * tenTo i * twoTo (-j)) (b * twoTo j * tenTo (-i))

/-- Is the decimal read as this float? -/
def Binary.reads (x : Binary) (d : Dec) : Bool :=
  let low := compareScaled d.digits d.exponent (4 * x.m - if x.narrow then 1 else 2) (x.q - 2)
  let high := compareScaled d.digits d.exponent (4 * x.m + 2) (x.q - 2)
  let even := x.m % 2 = 0
  (low = .gt || (even && low = .eq)) && (high = .lt || (even && high = .eq))

/-- The number of decimal digits of a natural number. -/
def digitCount (n : Nat) : Nat := (toString n).length

/-- The least `k` with `m * 2 ^ q < 10 ^ k`, for a number that is not zero. -/
def Binary.scale (x : Binary) : Int :=
  if 0 ≤ x.q then digitCount (x.m * twoTo x.q)
  else
    let whole := x.m / twoTo (-x.q)
    if whole = 0 then
      -- below one: as many more places as the quotient of the inverse has digits
      let inverse := (twoTo (-x.q) - 1) / x.m
      1 - (digitCount inverse : Int)
    else digitCount whole

/-- The digits of the number on the grid `10 ^ e`, rounded down. -/
def Binary.floorOn (x : Binary) (e : Int) : Nat :=
  (x.m * twoTo x.q * tenTo (-e)) / (twoTo (-x.q) * tenTo e)

/-- The decimal on the grid `10 ^ e` that is read as the float, the nearer one
    if there are two, the even one if they are equally near. -/
def Binary.onGrid? (x : Binary) (e : Int) : Option Dec :=
  let below : Dec := ⟨x.floorOn e, e⟩
  let above : Dec := ⟨x.floorOn e + 1, e⟩
  match x.reads below, x.reads above with
  | false, false => none
  | true, false => some below
  | false, true => some above
  | true, true =>
    match compareScaled (below.digits + above.digits) e (2 * x.m) x.q with
    | .gt => some below
    | .lt => some above
    | .eq => some (if below.digits % 2 = 0 then below else above)

/-- The first decimal found on finer and finer grids, `n` of them from `e`
    downwards. -/
def Binary.onGrids (x : Binary) : Nat → Int → Option Dec
  | 0, _ => none
  | n + 1, e => (x.onGrid? e).or (x.onGrids n (e - 1))

/-- The shortest decimal of a float that is not zero. -/
def Binary.shortest (x : Binary) : Dec :=
  (x.onGrids 18 (x.scale - 1)).getD ⟨x.floorOn (x.scale - 17), x.scale - 17⟩

/-- The digits of a decimal without the zeros at their end. -/
def Dec.significant (d : Dec) : List Char :=
  let ds := ((toString d.digits).toList.reverse.dropWhile (· == '0')).reverse
  if ds.isEmpty then ['0'] else ds

/-- The exponent of the first digit. -/
def Dec.leading (d : Dec) : Int := d.exponent + digitCount d.digits - 1

end Kousei.Decimal
