import Kousei.Failure
import Kousei.Text.Digit
import Kousei.Text.Quoted

/-! # Formats of texts

    How a text is set into another one: with how many characters of it, in
    how many columns, on which side and with what around it.  A format is
    written in a few signs, some of which are there for numbers only and are
    refused for texts. -/

namespace Kousei.Enrichment

def valueError (message : String) : Failure := .raised "ValueError" message

/-! ## Signs -/

structure TextFormat where
  fill : Char := ' '
  align : Char := '<'
  sign : Option Char := none
  /-- Is the sign of a zero left out? -/
  plainZero : Bool := false
  /-- Is another form asked for? -/
  alternate : Bool := false
  width : Option Nat := none
  /-- What stands between thousands. -/
  separator : Option Char := none
  precision : Option Nat := none
  kind : Char := 's'
  deriving DecidableEq, Repr

def isAlign (c : Char) : Bool := c == '<' || c == '>' || c == '=' || c == '^'

def isSign (c : Char) : Bool := c == ' ' || c == '+' || c == '-'

/-- The greatest number that may stand in a template. -/
def maxNumber : Nat := 9223372036854775807

/-- The number that decimal digits of any script at the head of a text stand
    for, and what follows them. -/
def digits (n : Nat) : Text → Except Failure (Nat × Text)
  | [] => .ok (n, [])
  | c :: r =>
    match Text.digitValue? c with
    | none => .ok (n, c :: r)
    | some d =>
      if (maxNumber - d) / 10 < n then
        .error (valueError "Too many decimal digits in format string")
      else digits (10 * n + d) r

/-- A number at the head of a text, if one stands there. -/
def number (t : Text) : Except Failure (Option Nat × Text) := do
  let (n, rest) ← digits 0 t
  return (if rest.length = t.length then none else some n, rest)

/-- One character of a kind, if it stands at the head of a text. -/
def sign? (p : Char → Bool) (t : Text) : Option Char × Text :=
  match t with
  | c :: r => if p c then (some c, r) else (none, t)
  | [] => (none, [])

/-- The side, with the character that fills the columns before it. -/
def alignment (t : Text) : TextFormat × Text :=
  match t with
  | c :: a :: r =>
    if isAlign a then ({ fill := c, align := a }, r)
    else if isAlign c then ({ align := c }, a :: r)
    else ({}, t)
  | [a] => if isAlign a then ({ align := a }, []) else ({}, t)
  | [] => ({}, [])

/-- Was the character that fills columns told? -/
def hasFill (t : Text) : Bool := (t.drop 1).head?.any isAlign

/-- A character in a message: by its number if it cannot be shown. -/
def shownChar (beyond : Nat) (c : Char) : String :=
  if 32 < c.toNat ∧ c.toNat < beyond then String.ofList [c]
  else "\\x" ++ String.ofList (Nat.toDigits 16 c.toNat)

/-- What stands between thousands: one of two signs. -/
def thousands (t : Text) : Except Failure (Option Char × Text) :=
  let both : Except Failure (Option Char × Text) :=
    .error (valueError "Cannot specify both ',' and '_'.")
  match t with
  | ',' :: '_' :: _ => both
  | '_' :: ',' :: _ => both
  | ',' :: r => .ok (some ',', r)
  | '_' :: r => .ok (some '_', r)
  | t => .ok (none, t)

/-- The number of characters after a point. -/
def precision (t : Text) : Except Failure (Option Nat × Text) :=
  match t with
  | '.' :: r => do
    match ← number r with
    | (none, _) => .error (valueError "Format specifier missing precision")
    | found => return found
  | t => .ok (none, t)

/-- The kinds of numbers that may have signs between thousands. -/
def allowsThousands (separator kind : Char) : Bool :=
  "defgEG%F".toList.contains kind || (separator == '_' && "boxX".toList.contains kind)

/-- The format that is written in a text. -/
def readFormat (t : Text) : Except Failure TextFormat := do
  let (f, r) := alignment t
  let (sign, r) := sign? isSign r
  let (plainZero, r) := sign? (· == 'z') r
  let (alternate, r) := sign? (· == '#') r
  let (zero, r) := if hasFill t then (none, r) else sign? (· == '0') r
  let (width, r) ← number r
  let (separator, r) ← thousands r
  let (precision, r) ← precision r
  let kind ←
    match r with
    | [] => pure 's'
    | [c] => pure c
    | _ =>
      let shown := String.ofList t
      .error (valueError s!"Invalid format specifier '{shown}' for object of type 'str'")
  if let some c := separator then
    if !allowsThousands c kind then
      let shown := shownChar 128 kind
      throw (valueError s!"Cannot specify '{c}' with '{shown}'.")
  return { f with
    fill := zero.getD f.fill, sign, plainZero := plainZero.isSome, alternate := alternate.isSome,
    width, separator, precision, kind }

/-! ## Texts -/

/-- Why a format is none for texts. -/
def TextFormat.refusal? (f : TextFormat) : Option String :=
  if f.kind != 's' then
    let shown := shownChar 128 f.kind
    some s!"Unknown format code '{shown}' for object of type 'str'"
  else if f.sign == some ' ' then some "Space not allowed in string format specifier"
  else if f.sign.isSome then some "Sign not allowed in string format specifier"
  else if f.plainZero then
    some "Negative zero coercion (z) not allowed in string format specifier"
  else if f.alternate then some "Alternate form (#) not allowed in string format specifier"
  else if f.align == '=' then some "'=' alignment not allowed in string format specifier"
  else none

/-- A text in a format for texts. -/
def TextFormat.apply (f : TextFormat) (t : Text) : Text :=
  let t := match f.precision with
    | some n => t.take n
    | none => t
  let room := f.width.getD 0 - t.length
  let before := if f.align == '>' then room else if f.align == '^' then room / 2 else 0
  List.replicate before f.fill ++ t ++ List.replicate (room - before) f.fill

/-- The most columns that there is room for. -/
def maxWidth : Nat := 1000000000

/-- A text in the format that is written in another one. -/
def formatText (spec t : Text) : Except Failure Text := do
  if spec.isEmpty then return t
  let f ← readFormat spec
  if let some message := f.refusal? then throw (valueError message)
  if maxWidth < f.width.getD 0 then throw (.raised "MemoryError" "")
  return f.apply t

end Kousei.Enrichment
