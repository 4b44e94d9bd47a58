import Kousei.Value.Numeral
import Kousei.Value.Written

/-! # JSON

    Reading and writing values as JSON.  The reader also takes the names of
    the numbers that are none, and of entries with one key in a map it keeps
    the value of the last at the place of the first.  The writer shows every
    character from the space on as it is, apart from the quote and the
    backslash. -/

namespace Kousei.Json

/-! ## Characters -/

def isSpace (c : Char) : Bool := c == ' ' || c == '\t' || c == '\n' || c == '\r'

def skipSpace (t : Text) : Text := t.dropWhile isSpace

/-- The number that hexadecimal digits stand for. -/
def hexNumber? (digits : Text) : Option Nat :=
  if digits.all (Numeral.isDigitOf 16) then some (Numeral.ofDigits 16 digits) else none

/-- Four hexadecimal digits and what follows them. -/
def hex4? (t : Text) : Option (Nat × Text) :=
  if (t.take 4).length = 4 then (hexNumber? (t.take 4)).map fun n => (n, t.drop 4) else none

/-! ## Texts -/

/-- The character of an escape with one letter. -/
def simpleEscape? : Char → Option Char
  | '"' => some '"'
  | '\\' => some '\\'
  | '/' => some '/'
  | 'b' => some '\x08'
  | 'f' => some '\x0c'
  | 'n' => some '\n'
  | 'r' => some '\r'
  | 't' => some '\t'
  | _ => none

/-- The character of a pair of surrogate halves. -/
def ofSurrogates (high low : Nat) : Char :=
  Char.ofNat (0x10000 + (high - 0xD800) * 0x400 + (low - 0xDC00))

/-- Is the code the first half of a pair? -/
def isHigh (n : Nat) : Bool := 0xD800 ≤ n && n < 0xDC00

/-- Is the code the second half of a pair? -/
def isLow (n : Nat) : Bool := 0xDC00 ≤ n && n < 0xE000

/-- The code of a numbered escape, given the number of its four digits and what
    stands after them, and what follows it.  Two halves of a pair are one
    code; a half on its own stays as it is. -/
def numberedEscape (n : Nat) (t : Text) : Option (Nat × Text) :=
  if !isHigh n then some (n, t)
  else
    match t with
    | '\\' :: 'u' :: r =>
      match hex4? r with
      | some (low, rest) =>
        some (if isLow low then ((ofSurrogates n low).toNat, rest) else (n, t))
      | none => none
    | _ => some (n, t)

/-- The codes of a text up to its closing quote, and what follows. -/
def stringBody : Nat → Text → Option (List Nat × Text)
  | 0, _ => none
  | _ + 1, [] => none
  | _ + 1, '"' :: r => some ([], r)
  | fuel + 1, '\\' :: 'u' :: r => do
    let (n, rest) ← hex4? r
    let (code, rest) ← numberedEscape n rest
    let (s, rest) ← stringBody fuel rest
    return (code :: s, rest)
  | fuel + 1, '\\' :: e :: r => do
    let c ← simpleEscape? e
    let (s, rest) ← stringBody fuel r
    return (c.toNat :: s, rest)
  | fuel + 1, c :: r => do
    if c = '\\' || c.toNat < 0x20 then none
    else
      let (s, rest) ← stringBody fuel r
      return (c.toNat :: s, rest)

/-- A text after its opening quote, and what follows. -/
def string? (t : Text) : Option (Value × Text) :=
  (stringBody (t.length + 1) t).map fun (codes, rest) => (Value.ofCodes codes, rest)

/-! ## Numbers -/

/-- The digits after a point, if there are any; a point without digits is not
    part of the number. -/
def fraction (t : Text) : Text × Text :=
  match t with
  | '.' :: r => if (r.head?.any Char.isDigit) then (r.takeWhile Char.isDigit, r.dropWhile Char.isDigit)
    else ([], t)
  | _ => ([], t)

/-- The exponent, if there is one with digits. -/
def exponent (t : Text) : Option Int × Text :=
  let digitsOf (r : Text) (negative : Bool) : Option Int × Text :=
    if r.head?.any Char.isDigit then
      (some (Numeral.signed negative (Numeral.ofDigits 10 (r.takeWhile Char.isDigit))),
        r.dropWhile Char.isDigit)
    else (none, t)
  match t with
  | e :: r =>
    if e = 'e' || e = 'E' then
      match r with
      | '-' :: r => digitsOf r true
      | '+' :: r => digitsOf r false
      | r => digitsOf r false
    else (none, t)
  | [] => (none, t)

/-- A number without its sign, and what follows.  It is an integer when it has
    neither a fraction nor an exponent. -/
def number (negative : Bool) (t : Text) : Reading (Value × Text) :=
  match t with
  | [] => .error .malformed
  | c :: r => do
    if !c.isDigit then throw .malformed
    let whole := if c = '0' then [c] else c :: r.takeWhile Char.isDigit
    let rest := t.drop whole.length
    let (places, rest) := fraction rest
    let (e, rest) := exponent rest
    if places.isEmpty && e.isNone then
      return (.int (Numeral.signed negative (← Numeral.natural whole)), rest)
    else
      let digits := Numeral.ofDigits 10 (whole ++ places)
      return (.float (Decimal.read negative digits (e.getD 0 - places.length)), rest)

/-! ## Values -/

/-- The values that are written as a word. -/
def words : List (Text × Value) :=
  [(text "null", .null), (text "true", .bool true), (text "false", .bool false),
   (text "NaN", .float (0.0 / 0.0)), (text "Infinity", .float (1.0 / 0.0)),
   (text "-Infinity", .float (-1.0 / 0.0))]

/-- A word or a number, and what follows. -/
def scalar (t : Text) : Reading (Value × Text) :=
  match words.find? fun (w, _) => t.startsWith w with
  | some (w, v) => .ok (v, t.drop w.length)
  | none =>
    match t with
    | '-' :: r => number true r
    | _ => number false t

/-- How deeply lists and maps may be nested. -/
def maxDepth : Nat := 985

mutual

/-- A value at the head of a text, and what follows. -/
def value : Nat → Nat → Text → Reading (Value × Text)
  | 0, _, _ => .error .malformed
  | _ + 1, _, '"' :: r => .ofOption (string? r)
  | fuel + 1, depth, '[' :: r => do
    if depth = 0 then throw .tooDeep
    match skipSpace r with
    | ']' :: rest => return (.list [], rest)
    | r =>
      let (xs, rest) ← elements fuel (depth - 1) r
      return (.list xs, rest)
  | fuel + 1, depth, '\x7b' :: r => do
    if depth = 0 then throw .tooDeep
    match skipSpace r with
    | '\x7d' :: rest => return (.map [], rest)
    | r =>
      let (es, rest) ← entries fuel (depth - 1) [] r
      return (.map es, rest)
  | _ + 1, _, t => scalar t

/-- The elements of a list from one of them on, and what follows the list. -/
def elements : Nat → Nat → Text → Reading (List Value × Text)
  | 0, _, _ => .error .malformed
  | fuel + 1, depth, t => do
    let (x, rest) ← value fuel depth (skipSpace t)
    match skipSpace rest with
    | ',' :: r =>
      let (xs, rest) ← elements fuel depth r
      return (x :: xs, rest)
    | ']' :: rest => return ([x], rest)
    | _ => throw .malformed

/-- The entries of a map from one of them on, put into those before, and what
    follows the map. -/
def entries : Nat → Nat → List (Value × Value) → Text → Reading (List (Value × Value) × Text)
  | 0, _, _, _ => .error .malformed
  | fuel + 1, depth, before, t =>
    match skipSpace t with
    | '"' :: r => do
      let (k, rest) ← Reading.ofOption (string? r)
      match skipSpace rest with
      | ':' :: r =>
        let (v, rest) ← value fuel depth (skipSpace r)
        let es := Value.put k v before
        match skipSpace rest with
        | ',' :: r => entries fuel depth es r
        | '\x7d' :: rest => return (es, rest)
        | _ => throw .malformed
      | _ => throw .malformed
    | _ => .error .malformed

end

/-- The value that a whole text is JSON for. -/
def read (t : Text) : Reading Value := do
  let (v, rest) ← value (t.length + 1) maxDepth (skipSpace t)
  if (skipSpace rest).isEmpty then return v else throw .malformed

/-! ## Writing -/

/-- One character of a text between quotes. -/
def escapeChar (c : Char) : Text :=
  if c = '"' || c = '\\' then ['\\', c]
  else if c = '\n' then ['\\', 'n']
  else if c = '\r' then ['\\', 'r']
  else if c = '\t' then ['\\', 't']
  else if c = '\x08' then ['\\', 'b']
  else if c = '\x0c' then ['\\', 'f']
  else if c.toNat < 0x20 then '\\' :: 'u' :: Text.hex 4 c.toNat
  else [c]

/-- One code of a text between quotes; half a pair is written with its
    number. -/
def escapeCode (n : Nat) : Text :=
  if n.isValidChar then escapeChar (Char.ofNat n) else '\\' :: 'u' :: Text.hex 4 n

def writeString (s : String) : String :=
  "\"" ++ String.ofList (s.toList.flatMap escapeChar) ++ "\""

def floatNames : Decimal.Names := ⟨"NaN", "Infinity"⟩

/-- How the parts of lists and maps are set: on one line, or each on a line of
    its own with two more spaces for every level. -/
inductive Style where
  | line
  | indented
  deriving DecidableEq, Repr

/-- The beginning of a line at a level. -/
def Style.newline (style : Style) (level : Nat) : String :=
  match style with
  | .line => ""
  | .indented => "\n" ++ String.ofList (List.replicate (2 * level) ' ')

/-- Parts between brackets. -/
def bracketed (style : Style) (level : Nat) (opening closing : String) (parts : List String) :
    String :=
  if parts.isEmpty then opening ++ closing
  else
    let separator := "," ++ (if style = .line then " " else "") ++ style.newline (level + 1)
    opening ++ style.newline (level + 1) ++ separator.intercalate parts ++ style.newline level ++
      closing

mutual

/-- A value at a level of nesting.  A key that is no text is written as one, and
    so are bytes; tuples and sets are lists. -/
def write (style : Style) (level : Nat) : Value → String
  | .null => "null"
  | .bool b => if b then "true" else "false"
  | .int n => toString n
  | .float x => Decimal.write floatNames x
  | .str s => writeString s
  | .halves codes => "\"" ++ String.ofList (codes.flatMap escapeCode) ++ "\""
  | .moment m => writeString m.display
  | .bytes bs => writeString (String.ofList (Text.quotedBytes bs))
  | .tuple xs => bracketed style level "[" "]" (writeAll style (level + 1) xs)
  | .set xs => bracketed style level "[" "]" (writeAll style (level + 1) xs)
  | .list xs => bracketed style level "[" "]" (writeAll style (level + 1) xs)
  | .map es => bracketed style level "\x7b" "\x7d" (writeEntries style (level + 1) es)

def writeAll (style : Style) (level : Nat) : List Value → List String
  | [] => []
  | x :: r => write style level x :: writeAll style level r

def writeEntries (style : Style) (level : Nat) : List (Value × Value) → List String
  | [] => []
  | (k, v) :: r =>
    (writeString k.display ++ ": " ++ write style level v) :: writeEntries style level r

end

end Kousei.Json
