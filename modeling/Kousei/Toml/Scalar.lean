import Kousei.Value.Json

/-! # TOML scalars

    The words, texts, numbers, dates and times of TOML.  A reader takes what
    it knows from the head of a text and gives it with what follows. -/

namespace Kousei.Toml

/-! ## Characters -/

def isBlank (c : Char) : Bool := c == ' ' || c == '\t'

def skipBlanks (t : Text) : Text := t.dropWhile isBlank

/-- A control character, which stands nowhere but in escapes. -/
def isControl (c : Char) : Bool := (c.toNat < 0x20 && c != '\t') || c.toNat == 0x7F

def isBareKeyChar (c : Char) : Bool := c.isAlphanum || c == '_' || c == '-'

/-! ## Texts -/

/-- The character of an escape, and what follows it, given what stands after
    the backslash. -/
def escape? : Text → Option (Char × Text)
  | 'b' :: r => some ('\x08', r)
  | 't' :: r => some ('\t', r)
  | 'n' :: r => some ('\n', r)
  | 'f' :: r => some ('\x0c', r)
  | 'r' :: r => some ('\r', r)
  | '"' :: r => some ('"', r)
  | '\\' :: r => some ('\\', r)
  | 'u' :: r => numbered 4 r
  | 'U' :: r => numbered 8 r
  | _ => none
where
  /-- An escape with a number of hexadecimal digits. -/
  numbered (width : Nat) (r : Text) : Option (Char × Text) :=
    if (r.take width).length < width then none
    else
      match Json.hexNumber? (r.take width) with
      | none => none
      | some n => if h : n.isValidChar then some (Char.ofNatAux n h, r.drop width) else none

/-- The characters up to a closing double quote. -/
def basicBody : Nat → Text → Option (Text × Text)
  | 0, _ => none
  | _ + 1, [] => none
  | _ + 1, '"' :: r => some ([], r)
  | fuel + 1, '\\' :: r => do
    let (c, rest) ← escape? r
    let (s, rest) ← basicBody fuel rest
    return (c :: s, rest)
  | fuel + 1, c :: r => do
    if isControl c then none
    else
      let (s, rest) ← basicBody fuel r
      return (c :: s, rest)

/-- The characters up to a closing single quote; nothing is escaped. -/
def literalBody : Text → Option (Text × Text)
  | [] => none
  | '\'' :: r => some ([], r)
  | c :: r =>
    if isControl c then none
    else (literalBody r).map fun (s, rest) => (c :: s, rest)

/-- The number of quotes at the head of a text that belong to the text before
    the three that close it: none if fewer than three stand there, two at
    most. -/
def closingQuotes? (quote : Char) (t : Text) : Option Nat :=
  let run := (t.takeWhile (· == quote)).length
  if run < 3 then none else some (min (run - 3) 2)

/-- What stands after a backslash at the end of a line: the next line that is
    not blank; none if the line goes on. -/
def continuedLine? (t : Text) : Option Text :=
  match skipBlanks t with
  | '\n' :: r => some (r.dropWhile fun c => isBlank c || c == '\n')
  | _ => none

/-- The characters of a text of several lines, up to its three closing
    quotes. -/
def multilineBody (quote : Char) (escapes : Bool) : Nat → Text → Option (Text × Text)
  | 0, _ => none
  | _ + 1, [] => none
  | fuel + 1, c :: r => do
    match closingQuotes? quote (c :: r) with
    | some more => return (List.replicate more quote, r.drop (more + 2))
    | none =>
      if escapes && c == '\\' then
        match continuedLine? r with
        | some rest => multilineBody quote escapes fuel rest
        | none =>
          let (e, rest) ← escape? r
          let (s, rest) ← multilineBody quote escapes fuel rest
          return (e :: s, rest)
      else if isControl c && c != '\n' then none
      else
        let (s, rest) ← multilineBody quote escapes fuel r
        return (c :: s, rest)

/-- A text without the line feed at its beginning. -/
def dropLineFeed (t : Text) : Text :=
  match t with
  | '\n' :: r => r
  | t => t

/-- A text between quotes on one line. -/
def string? (t : Text) : Option (String × Text) :=
  match t with
  | '"' :: r => (basicBody (r.length + 1) r).map fun (s, rest) => (String.ofList s, rest)
  | '\'' :: r => (literalBody r).map fun (s, rest) => (String.ofList s, rest)
  | _ => none

/-- A text between quotes, which has several lines if there are three of
    them. -/
def text? (t : Text) : Option (Value × Text) :=
  let ofBody (body : Option (Text × Text)) : Option (Value × Text) :=
    body.map fun (s, rest) => (.str (String.ofList s), rest)
  match t with
  | '"' :: '"' :: '"' :: r => ofBody (multilineBody '"' true (r.length + 1) (dropLineFeed r))
  | '\'' :: '\'' :: '\'' :: r =>
    ofBody (multilineBody '\'' false (r.length + 1) (dropLineFeed r))
  | t => (string? t).map fun (s, rest) => (.str s, rest)

/-! ## Numbers -/

/-- Digits with single underscores between them: the digits, and what
    follows. -/
def digits (isDigit : Char → Bool) : Text → Text × Text
  | [] => ([], [])
  | c :: r =>
    if isDigit c then
      let (ds, rest) := digits isDigit r
      (c :: ds, rest)
    else if c = '_' && r.head?.any isDigit then digits isDigit r
    else ([], c :: r)

/-- Digits of which there is at least one. -/
def digits? (isDigit : Char → Bool) (t : Text) : Option (Text × Text) :=
  if t.head?.any isDigit then some (digits isDigit t) else none

/-- The bases that have a letter, with their digits. -/
def bases : List (Char × Nat × (Char → Bool)) :=
  [('x', 16, Numeral.isDigitOf 16), ('o', 8, Numeral.isDigitOf 8), ('b', 2, Numeral.isDigitOf 2)]

/-- An integer with the letter of its base. -/
def based? : Text → Option (Value × Text)
  | '0' :: letter :: r => do
    let (base, isDigit) ← bases.lookup letter
    let (ds, rest) ← digits? isDigit r
    return (.int (Numeral.ofDigits base ds), rest)
  | _ => none

/-- The digits after a point. -/
def places (t : Text) : Text × Text :=
  match t with
  | '.' :: r => (digits? Char.isDigit r).getD ([], t)
  | _ => ([], t)

/-- An exponent. -/
def exponent (t : Text) : Option Int × Text :=
  match t with
  | e :: r =>
    if e = 'e' || e = 'E' then
      let (negative, r) := Numeral.sign r
      match digits? Char.isDigit r with
      | none => (none, t)
      | some (ds, rest) =>
        (some (Numeral.signed negative (Numeral.ofDigits 10 ds)), rest)
    else (none, t)
  | [] => (none, t)

/-- A decimal number, which may be too long: an integer unless it has a
    fraction or an exponent. -/
def decimal? (t : Text) : Option (Reading Value × Text) := do
  let (negative, t) := Numeral.sign t
  let (whole, rest) ←
    match t with
    | '0' :: r => some (['0'], r)
    | t => digits? Char.isDigit t
  let (fraction, rest) := places rest
  let (e, rest) := exponent rest
  if fraction.isEmpty && e.isNone then
    return ((Numeral.natural whole).map fun n => .int (Numeral.signed negative n), rest)
  else
    let e := e.getD 0 - fraction.length
    return (.ok (.float (Decimal.read negative (Numeral.ofDigits 10 (whole ++ fraction)) e)), rest)

/-- The infinite numbers and the one that is none. -/
def special? (t : Text) : Option (Value × Text) :=
  let (negative, r) := Numeral.sign t
  if r.startsWith (text "inf") then
    some (.float (if negative then -1.0 / 0.0 else 1.0 / 0.0), r.drop 3)
  else if r.startsWith (text "nan") then some (.float (0.0 / 0.0), r.drop 3)
  else none

/-! ## Dates and times -/

/-- A number with exactly so many digits. -/
def fixed? (width : Nat) (t : Text) : Option (Nat × Text) :=
  let ds := t.take width
  if ds.length = width && ds.all Char.isDigit then some (Numeral.ofDigits 10 ds, t.drop width) else none

/-- One character, and what follows. -/
def expect? (c : Char) (t : Text) : Option Text :=
  match t with
  | d :: r => if d = c then some r else none
  | [] => none

def date? (t : Text) : Option (Date × Text) := do
  let (year, t) ← fixed? 4 t
  let (month, t) ← fixed? 2 (← expect? '-' t)
  let (day, t) ← fixed? 2 (← expect? '-' t)
  return (⟨year, month, day⟩, t)

/-- Parts of a second up to the sixth digit; further ones are dropped. -/
def microseconds (t : Text) : Nat × Text :=
  match t with
  | '.' :: r =>
    let ds := r.takeWhile Char.isDigit
    if ds.isEmpty then (0, t)
    else (Numeral.ofDigits 10 ((ds ++ List.replicate 6 '0').take 6), r.drop ds.length)
  | _ => (0, t)

def time? (t : Text) : Option (TimeOfDay × Text) := do
  let (hour, t) ← fixed? 2 t
  let (minute, t) ← fixed? 2 (← expect? ':' t)
  let (second, t) ← fixed? 2 (← expect? ':' t)
  let (microsecond, t) := microseconds t
  let time : TimeOfDay := ⟨hour, minute, second, microsecond⟩
  if time.isValid then return (time, t) else none

/-- An offset from universal time, in minutes. -/
def offset? (t : Text) : Option (Int × Text) :=
  match t with
  | 'Z' :: r => some (0, r)
  | 'z' :: r => some (0, r)
  | c :: r =>
    if c = '+' || c = '-' then do
      let (hours, r) ← fixed? 2 r
      let (minutes, r) ← fixed? 2 (← expect? ':' r)
      if hours < 24 && minutes < 60 then
        return (Numeral.signed (c = '-') (60 * hours + minutes), r)
      else none
    else none
  | [] => none

/-- A date, with a time after it if one stands there, or a time. -/
def moment? (t : Text) : Option (Value × Text) :=
  match date? t with
  | some (d, rest) =>
    if !d.isValid then none
    else
      let timed :=
        match rest with
        | c :: r => if c = 'T' || c = 't' || c = ' ' then time? r else none
        | [] => none
      match timed with
      | none => some (.moment (.date d), rest)
      | some (time, rest) =>
        match offset? rest with
        | some (n, rest) => some (.moment (.both d time (some n)), rest)
        | none => some (.moment (.both d time none), rest)
  | none => (time? t).map fun (time, rest) => (.moment (.time time), rest)

/-! ## Scalars -/

/-- The truth values. -/
def truth? (t : Text) : Option (Value × Text) :=
  if t.startsWith (text "true") then some (.bool true, t.drop 4)
  else if t.startsWith (text "false") then some (.bool false, t.drop 5)
  else none

/-- Does a date stand at the head of the text, be there such a day or not? -/
def looksLikeDate (t : Text) : Bool := (date? t).isSome

/-- What stands for itself or is a number with a base. -/
def word? (t : Text) : Option (Value × Text) :=
  (truth? t).or ((moment? t).or (based? t))

/-- A word, a text, a number, a date or a time. -/
def scalar (t : Text) : Reading (Value × Text) :=
  if t.head? == some '"' || t.head? == some '\'' then .ofOption (text? t)
  else if looksLikeDate t then .ofOption (moment? t)
  else
    match word? t with
    | some x => .ok x
    | none =>
      match decimal? t with
      | some (v, rest) => v.map (·, rest)
      | none => .ofOption (special? t)

end Kousei.Toml
