import Kousei.Enrichment.Format

/-! # Templates

    A template is a text with places for a value, each between braces; a
    brace that is meant literally is written twice.  At a place stands the
    name of the value, perhaps the way to a part of it, how it is turned into
    a text, and the format of that text, which may have places itself.

    There is one value, a text, by the name of `term`.  The places are filled
    from left to right, and what is wrong with one of them is found when it
    is reached. -/

namespace Kousei.Enrichment

/-! ## Places -/

/-- A place for a value. -/
structure Place where
  /-- The name of the value and the way to a part of it. -/
  name : Text
  conversion : Option Char := none
  format : Text := []
  deriving DecidableEq, Repr

def unclosed : Failure := valueError "expected '\x7d' before end of string"

def unmatched : Failure := valueError "unmatched '\x7b' in format spec"

/-- The name at a place, the character that ends it, and what follows.  Between
    square brackets everything belongs to the name. -/
def placeName (inside : Bool) : Text → Except Failure (Text × Char × Text)
  | [] => .error unclosed
  | c :: r =>
    if inside then (placeName (c != ']') r).map fun (name, rest) => (c :: name, rest)
    else if c = '\x7b' then .error (valueError "unexpected '\x7b' in field name")
    else if c = '\x7d' || c = ':' || c = '!' then .ok ([], c, r)
    else (placeName (c = '[') r).map fun (name, rest) => (c :: name, rest)

/-- The format at a place up to the brace that ends it, inside so many others,
    and what follows. -/
def placeFormat (depth : Nat) : Text → Except Failure (Text × Text)
  | [] => .error unmatched
  | c :: r =>
    if c = '\x7d' && depth = 0 then .ok ([], r)
    else
      let depth := if c = '\x7b' then depth + 1 else if c = '\x7d' then depth - 1 else depth
      (placeFormat depth r).map fun (format, rest) => (c :: format, rest)

/-- A place after its opening brace, and what follows it. -/
def place (t : Text) : Except Failure (Place × Text) := do
  let (name, stop, r) ← placeName false t
  if stop = '\x7d' then return ({ name }, r)
  else if stop = ':' then
    let (format, rest) ← placeFormat 0 r
    return ({ name, format }, rest)
  else
    match r with
    | [] => throw (valueError "end of string while looking for conversion specifier")
    | [_] => throw unmatched
    | c :: d :: r =>
      if d = '\x7d' then return ({ name, conversion := some c }, r)
      else if d = ':' then
        let (format, rest) ← placeFormat 0 r
        return ({ name, conversion := some c, format }, rest)
      else throw (valueError "expected ':' after conversion specifier")

/-- The text before the next place, the place, if there is one, and what
    follows.  A brace that is written twice ends the text as well. -/
def nextPlace (t : Text) : Except Failure (Text × Option Place × Text) :=
  let literal := t.takeWhile fun c => c != '\x7b' && c != '\x7d'
  match t.drop literal.length with
  | [] => .ok (literal, none, [])
  | '\x7b' :: '\x7b' :: r => .ok (literal ++ ['\x7b'], none, r)
  | '\x7d' :: '\x7d' :: r => .ok (literal ++ ['\x7d'], none, r)
  | '\x7d' :: _ => .error (valueError "Single '\x7d' encountered in format string")
  | [_] => .error (valueError "Single '\x7b' encountered in format string")
  | _ :: r => (place r).map fun (p, rest) => (literal, some p, rest)

/-! ## Values -/

/-- What a name leads to: a text, or what kind of thing something is. -/
inductive Subject where
  | text (t : Text)
  | kind (name : String)
  deriving DecidableEq, Repr

namespace Subject

def kindName : Subject → String
  | text _ => "str"
  | kind _ => "type"

/-- A subject as it is put into a text. -/
def display : Subject → Text
  | text t => t
  | kind name => s!"<class '{name}'>".toList

/-- A subject with quotes around a text. -/
def written : Subject → Text
  | text t => Text.quoted t
  | s => s.display

/-- A part of a subject by its name. -/
def member (s : Subject) (name : Text) : Except Failure Subject :=
  match s, String.ofList name with
  | s, "__class__" => .ok (kind s.kindName)
  | kind name, "__name__" | kind name, "__qualname__" => .ok (text name.toList)
  | kind _, "__module__" => .ok (text "builtins".toList)
  | _, _ => .error (.raised "AttributeError" "")

/-- One character of a text, by its place. -/
def item (s : Subject) (place : Option Nat) : Except Failure Subject :=
  match s, place with
  | text t, some n =>
    match t[n]? with
    | some c => .ok (text [c])
    | none => .error (.raised "IndexError" "")
  | _, _ => .error (.raised "TypeError" "")

/-- A subject turned into a text in the way that a character stands for. -/
def converted (s : Subject) (conversion : Char) : Except Failure Subject :=
  match conversion with
  | 's' => .ok (text s.display)
  | 'r' | 'a' => .ok (text s.written)
  | c => .error (valueError ("Unknown conversion specifier " ++ shownChar 127 c))

/-- A subject in a format. -/
def formatted (s : Subject) (format : Text) : Except Failure Text :=
  match s with
  | text t => formatText format t
  | s => if format.isEmpty then .ok s.display else .error (.raised "TypeError" "")

end Subject

/-! ## Ways -/

/-- The number that a whole name is, if it is one. -/
def index? (name : Text) : Except Failure (Option Nat) := do
  match ← number name with
  | (some n, []) => return some n
  | _ => return none

def isStep (c : Char) : Bool := c == '.' || c == '['

def emptyName : Failure := valueError "Empty attribute in format string"

/-- The part of a subject that the rest of a name leads to. -/
def follow : Nat → Subject → Text → Except Failure Subject
  | _, s, [] => .ok s
  | 0, s, _ => .ok s
  | fuel + 1, s, '.' :: r => do
    let name := r.takeWhile fun c => !isStep c
    if name.isEmpty then throw emptyName
    follow fuel (← s.member name) (r.drop name.length)
  | fuel + 1, s, '[' :: r => do
    let name := r.takeWhile (· != ']')
    match r.drop name.length with
    | [] => throw (valueError "Missing ']' in format string")
    | _ :: rest =>
      let index ← index? name
      if name.isEmpty then throw emptyName
      follow fuel (← s.item index) rest
  | _, _, _ =>
    .error (valueError "Only '.' or '[' may follow ']' in format field specifier")

/-- What a name leads to, given the text that is there. -/
def resolve (term name : Text) : Except Failure Subject := do
  let first := name.takeWhile fun c => !isStep c
  if (← index? first).isSome || first.isEmpty then throw (.raised "IndexError" "")
  if first != "term".toList then throw (.raised "KeyError" "")
  follow name.length (.text term) (name.drop first.length)

/-! ## Filling -/

mutual

/-- The text at a place.  Its format is filled first if it has places. -/
def fillPlace (term : Text) : Nat → Place → Except Failure Text
  | 0, _ => .error (valueError "Max string recursion exceeded")
  | depth + 1, p => do
    let s ← resolve term p.name
    let s ← match p.conversion with
      | some c => s.converted c
      | none => pure s
    let format ←
      if p.format.contains '\x7b' then fillTemplate term (p.format.length + 1) depth p.format
      else pure p.format
    s.formatted format

/-- A template with its places filled, which may have formats with places to
    some depth. -/
def fillTemplate (term : Text) : Nat → Nat → Text → Except Failure Text
  | 0, _, _ => .ok []
  | _, 0, _ => .error (valueError "Max string recursion exceeded")
  | fuel + 1, depth + 1, t => do
    let (literal, p, rest) ← nextPlace t
    let here ← match p with
      | some p => fillPlace term (depth + 1) p
      | none => pure []
    if rest.isEmpty then return literal ++ here
    else return literal ++ here ++ (← fillTemplate term fuel (depth + 1) rest)

end

/-- How deeply formats may have places in them, counting the template. -/
def maxDepth : Nat := 2

/-- A template with its places filled. -/
def fill (template term : Text) : Except Failure Text :=
  fillTemplate term (template.length + 1) maxDepth template

end Kousei.Enrichment
