import Kousei.Encoding.Base64
import Kousei.Toml.Scalar
import Kousei.Yaml.Cursor

/-! # YAML scalars

    What a text without quotes stands for in YAML 1.1: nothing, a truth
    value, a number, a date with or without a time, and otherwise itself.
    Numbers may have underscores, integers may be binary, octal or
    hexadecimal, and parts between colons count sixty each.

    The kind of a scalar is found first, by what its text looks like or by a
    tag; its value is made of the text afterwards, and that may fail. -/

namespace Kousei.Yaml

/-! ## Kinds -/

/-- The kinds of nodes. -/
inductive Kind where
  | null
  | bool
  | int
  | float
  | moment
  | bytes
  | str
  | seq
  | map
  /-- A map of which only the keys matter. -/
  | set
  /-- A sequence of maps with one entry each. -/
  | pairs
  /-- The key whose values are entries of the map it stands in. -/
  | merge
  /-- The key for the value of a map itself. -/
  | content
  /-- One that is not known. -/
  | other
  deriving DecidableEq, Repr, Inhabited

/-- The names of kinds in tags. -/
def kindNames : List (String × Kind) :=
  [("null", .null), ("bool", .bool), ("int", .int), ("float", .float), ("timestamp", .moment),
   ("binary", .bytes), ("str", .str), ("seq", .seq), ("map", .map), ("set", .set),
   ("omap", .pairs), ("pairs", .pairs), ("merge", .merge), ("value", .content)]

/-- Are the nodes of the kind scalars? -/
def Kind.isScalar : Kind → Bool
  | .null | .bool | .int | .float | .moment | .bytes | .str => true
  | _ => false

/-- Is the value of a node of the kind there before what is in it? -/
def Kind.isCollection : Kind → Bool
  | .seq | .map | .set | .pairs => true
  | _ => false

/-! ## Words -/

def nullWords : List Text := ["", "~", "null", "Null", "NULL"].map text

def trueWords : List Text :=
  ["yes", "Yes", "YES", "true", "True", "TRUE", "on", "On", "ON"].map text

def falseWords : List Text :=
  ["no", "No", "NO", "false", "False", "FALSE", "off", "Off", "OFF"].map text

def infinityWords : List Text := [".inf", ".Inf", ".INF"].map text

def nanWords : List Text := [".nan", ".NaN", ".NAN"].map text

/-! ## What texts look like -/

def isDigitOrUnderscore (c : Char) : Bool := c.isDigit || c == '_'

/-- Digits and underscores of which the first is a digit. -/
def isNumberRun (t : Text) : Bool := t.head?.any Char.isDigit && t.all isDigitOrUnderscore

/-- Digits of a base and underscores, at least one of them. -/
def isBasedRun (base : Nat) (t : Text) : Bool :=
  Numeral.isRow (fun c => Numeral.isDigitOf base c || c == '_') t

/-- One part of a number in base sixty, after the first. -/
def isSixtieth (t : Text) : Bool :=
  match t with
  | [a] => a.isDigit
  | [a, b] => '0' ≤ a && a ≤ '5' && b.isDigit
  | _ => false

/-- A number in base sixty, with at least two parts. -/
def isSixtieths (t : Text) : Bool :=
  match Text.splitOn ':' t with
  | first :: second :: more => isNumberRun first && (second :: more).all isSixtieth
  | _ => false

/-- Does the text look like an integer without its sign? -/
def looksNatural (t : Text) : Bool :=
  match t with
  | ['0'] => true
  | '0' :: 'b' :: r => isBasedRun 2 r
  | '0' :: 'x' :: r => isBasedRun 16 r
  | '0' :: r => isBasedRun 8 r
  | t => isNumberRun t || isSixtieths t

/-- Is the text an exponent with its sign, or empty? -/
def isExponent (t : Text) : Bool :=
  match t with
  | [] => true
  | e :: s :: r => (e == 'e' || e == 'E') && (s == '+' || s == '-') && Numeral.isRow Char.isDigit r
  | _ => false

/-- Does the text look like a number with a point?  Without digits before the
    point it has no sign and at least one digit after it. -/
def looksPointed (t : Text) : Bool :=
  let r := (Numeral.sign t).2
  let whole := r.takeWhile isDigitOrUnderscore
  match r.drop whole.length with
  | '.' :: r =>
    let fraction := r.takeWhile isDigitOrUnderscore
    isExponent (r.drop fraction.length) &&
      (if whole.isEmpty then t.head? == some '.' && isNumberRun fraction else isNumberRun whole)
  | _ => false

/-- Does the text look like a number in base sixty with a point after its last
    part? -/
def looksSixtiethPointed (t : Text) : Bool :=
  match Text.splitOn '.' (Numeral.sign t).2 with
  | [whole, fraction] => isSixtieths whole && fraction.all isDigitOrUnderscore
  | _ => false

def looksFloat (t : Text) : Bool :=
  looksPointed t || looksSixtiethPointed t || infinityWords.contains (Numeral.sign t).2 ||
    nanWords.contains t

/-! ## Dates -/

/-- A number of one digit or more, up to so many. -/
def upTo? (width : Nat) (t : Text) : Option (Nat × Text) :=
  let ds := (t.take width).takeWhile Char.isDigit
  if ds.isEmpty then none else some (Numeral.ofDigits 10 ds, t.drop ds.length)

/-- What stands between a date and a time. -/
def separated? (t : Text) : Option Text :=
  match t with
  | c :: r =>
    if c = 'T' || c = 't' then some r
    else if isSpaceOrTab c then some (r.dropWhile isSpaceOrTab)
    else none
  | [] => none

/-- Parts of a second up to the sixth digit, after a point that may stand
    alone; further ones are dropped. -/
def microseconds (t : Text) : Nat × Text :=
  match t with
  | '.' :: r =>
    let ds := r.takeWhile Char.isDigit
    (Numeral.ofDigits 10 ((ds ++ List.replicate 6 '0').take 6), r.drop ds.length)
  | _ => (0, t)

/-- An offset from universal time, in minutes, at the end of a text. -/
def offset? (t : Text) : Option (Option Int) :=
  match t.dropWhile isSpaceOrTab with
  | [] => if t.isEmpty then some none else none
  | ['Z'] => some (some 0)
  | c :: r =>
    if c = '+' || c = '-' then do
      let (hours, r) ← upTo? 2 r
      let (minutes, r) ←
        match r with
        | ':' :: r => Toml.fixed? 2 r
        | r => some (0, r)
      if r.isEmpty then return some (Numeral.signed (c = '-') (60 * hours + minutes)) else none
    else none

/-- A date and perhaps a time, whose numbers may be out of their ranges, with
    any number of digits of months and days up to two. -/
def moment? (t : Text) : Option Moment := do
  let (year, t) ← Toml.fixed? 4 t
  let (month, t) ← upTo? 2 (← Toml.expect? '-' t)
  let (day, t) ← upTo? 2 (← Toml.expect? '-' t)
  if t.isEmpty then return .date ⟨year, month, day⟩
  let (hour, t) ← upTo? 2 (← separated? t)
  let (minute, t) ← Toml.fixed? 2 (← Toml.expect? ':' t)
  let (second, t) ← Toml.fixed? 2 (← Toml.expect? ':' t)
  let (microsecond, t) := microseconds t
  return .both ⟨year, month, day⟩ ⟨hour, minute, second, microsecond⟩ (← offset? t)

/-- Does the text look like a date?  One without a time has two digits of the
    month and of the day. -/
def looksMoment (t : Text) : Bool :=
  match moment? t with
  | some (.date _) => t.length == 10
  | some _ => true
  | none => false

/-- The kind of a text that is not empty, by what it looks like. -/
def lookOf (t : Text) : Kind :=
  if nullWords.contains t then .null
  else if trueWords.contains t || falseWords.contains t then .bool
  else if looksNatural (Numeral.sign t).2 then .int
  else if looksFloat t then .float
  else if looksMoment t then .moment
  else if t == ['<', '<'] then .merge
  else if t == ['='] then .content
  else .str

/-- The kind of a text without a tag that is taken by its look.  One line feed
    at its end does not matter, unless that is all there is. -/
def kindOf (t : Text) : Kind := if t = ['\n'] then .str else lookOf (Text.dropLineEnd t)

/-! ## Values -/

/-- A text without its underscores. -/
def withoutUnderscores (t : Text) : Text := t.filter (· != '_')

/-- The number that parts stand for, of which each counts sixty of the one
    after it. -/
def ofSixtieths (parts : List Int) : Int := parts.foldl (fun n d => 60 * n + d) 0

/-- The value of a text as an integer. -/
def intValue (t : Text) : Reading Int := do
  let (negative, t) := Numeral.sign (withoutUnderscores t)
  let n : Int ←
    match t with
    | [] => throw .noNumber
    | ['0'] => pure 0
    | '0' :: 'b' :: r => Numeral.integerIn 2 r
    | '0' :: 'x' :: r => Numeral.integerIn 16 r
    | '0' :: _ => Numeral.integerIn 8 t
    | t =>
      if t.contains ':' then do
        let parts ← (Text.splitOn ':' t).mapM Numeral.integer
        pure (ofSixtieths parts)
      else Numeral.integer t
  return if negative then -n else n

/-- The sum of the parts of a number in base sixty, the last one first, given
    what the first of them counts. -/
def sumSixtieths (unit : Nat) (sum : Float) : List Float → Reading Float
  | [] => .ok sum
  | d :: r =>
    let factor := Decimal.ofInt unit
    if factor.isInf then .error .beyondFloats else sumSixtieths (60 * unit) (sum + d * factor) r

/-- The value of a text as a float. -/
def floatValue (t : Text) : Reading Float := do
  let t := Text.toAsciiWord (withoutUnderscores t)
  if t.isEmpty then throw .noNumber
  let (negative, t) := Numeral.sign t
  let x : Float ←
    if t = text ".inf" then pure (1.0 / 0.0)
    else if t = text ".nan" then return 0.0 / 0.0
    else if t.contains ':' then do
      let parts ← (Text.splitOn ':' t).mapM Numeral.float
      sumSixtieths 1 0.0 parts.reverse
    else Numeral.float t
  return if negative then -x else x

/-- The value of a text as a truth value. -/
def boolValue (t : Text) : Reading Bool :=
  let word := Text.toAsciiWord t
  if (trueWords.map Text.toAsciiWord).contains word then .ok true
  else if (falseWords.map Text.toAsciiWord).contains word then .ok false
  else .error .notTruth

/-- The value of a text as a date, with a time or without. -/
def momentValue (t : Text) : Reading Moment :=
  match moment? (Text.dropLineEnd t) with
  | none => .error .notMoment
  | some m =>
    match m.fault? with
    | some fault => .error (.moment fault)
    | none => .ok m

/-- The characters of a scalar. -/
def characters : Value → Reading Text
  | .str s => .ok s.toList
  | _ => .error .malformed

/-- The value of a scalar of a kind; its content is a text. -/
def scalarValue (kind : Kind) (content : Value) : Reading Value :=
  match kind with
  | .null => .ok .null
  | .bool => do return .bool (← boolValue (← characters content))
  | .int => do return .int (← intValue (← characters content))
  | .float => do return .float (← floatValue (← characters content))
  | .moment => do return .moment (← momentValue (← characters content))
  | .bytes => do
    return .bytes (← Reading.ofOption (Encoding.Base64.decode? (← characters content)))
  | .str => .ok content
  | _ => .error .malformed

end Kousei.Yaml
