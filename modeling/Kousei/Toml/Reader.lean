import Kousei.Toml.Scalar
import Kousei.Toml.Table

/-! # TOML documents

    A document is a row of lines: headers of tables, headers of tables in
    lists, keys with values, and lines with nothing but a comment.  The
    reader gives the value of the whole document or nothing. -/

namespace Kousei.Toml

/-! ## Space and comments -/

/-- What follows a comment, if one stands there; a comment holds no control
    characters. -/
def skipComment? (t : Text) : Option Text :=
  match t with
  | '#' :: r =>
    let comment := r.takeWhile (· != '\n')
    if comment.any isControl then none else some (r.drop comment.length)
  | t => some t

/-- What follows blanks, line feeds and comments. -/
def skipLines? : Nat → Text → Option Text
  | 0, _ => none
  | fuel + 1, t =>
    match skipBlanks t with
    | '\n' :: r => skipLines? fuel r
    | '#' :: r => do skipLines? fuel (← skipComment? ('#' :: r))
    | t => some t

/-- What follows the end of a line. -/
def endLine? (t : Text) : Option Text := do
  match ← skipComment? (skipBlanks t) with
  | [] => return []
  | '\n' :: r => return r
  | _ => none

/-! ## Keys -/

/-- A key without dots. -/
def simpleKey? (t : Text) : Option (String × Text) :=
  match t with
  | c :: r =>
    if c = '"' || c = '\'' then string? (c :: r)
    else
      let name := t.takeWhile isBareKeyChar
      if name.isEmpty then none else some (String.ofList name, t.drop name.length)
  | [] => none

/-- A key with dots, as the list of its parts. -/
def key? : Nat → Text → Option (List String × Text)
  | 0, _ => none
  | fuel + 1, t => do
    let (name, rest) ← simpleKey? (skipBlanks t)
    match skipBlanks rest with
    | '.' :: r =>
      let (more, rest) ← key? fuel r
      return (name :: more, rest)
    | rest => return ([name], rest)

/-! ## Values -/

/-- What a list and a table on one line add to the depth of what they hold. -/
def listDepth : Nat := 2

def tableDepth : Nat := 3

/-- How deep values may be. -/
def maxDepth : Nat := 980

mutual

/-- A value at the head of a text, and what follows. -/
def value : Nat → Nat → Text → Reading (Value × Text)
  | 0, _, _ => .error .malformed
  | fuel + 1, depth, '[' :: r => do
    if depth < listDepth then throw .tooDeep
    let (xs, rest) ← elements fuel (depth - listDepth) r
    return (.list xs, rest)
  | fuel + 1, depth, '\x7b' :: r => do
    if depth < tableDepth then throw .tooDeep
    match skipBlanks r with
    | '\x7d' :: rest => return (.map [], rest)
    | r =>
      let (es, rest) ← pairs fuel (depth - tableDepth) [] r
      return (.map (entryValues es), rest)
  | _ + 1, _, t => scalar t

/-- The elements of a list up to its end, and what follows it. -/
def elements : Nat → Nat → Text → Reading (List Value × Text)
  | 0, _, _ => .error .malformed
  | fuel + 1, depth, t => do
    match ← Reading.ofOption (skipLines? (t.length + 1) t) with
    | ']' :: rest => return ([], rest)
    | t =>
      let (x, rest) ← value fuel depth t
      match ← Reading.ofOption (skipLines? (rest.length + 1) rest) with
      | ',' :: r =>
        let (xs, rest) ← elements fuel depth r
        return (x :: xs, rest)
      | ']' :: rest => return ([x], rest)
      | _ => throw .malformed

/-- The entries of a table on one line, put into those before, and what
    follows the table. -/
def pairs : Nat → Nat → Entries → Text → Reading (Entries × Text)
  | 0, _, _, _ => .error .malformed
  | fuel + 1, depth, es, t => do
    let (path, rest) ← Reading.ofOption (key? (t.length + 1) t)
    match rest with
    | '=' :: r =>
      let (v, rest) ← value fuel depth (skipBlanks r)
      let es ← Reading.ofOption (assign v path es)
      match skipBlanks rest with
      | ',' :: r => pairs fuel depth es r
      | '\x7d' :: rest => return (es, rest)
      | _ => throw .malformed
    | _ => throw .malformed

end

/-! ## Lines -/

/-- A document while it is read: its tables and the path of the one that is
    being read. -/
structure Document where
  tables : Entries := []
  path : List String := []

/-- A header at the head of a text: whether it is one of a table in a list,
    its path, and what follows. -/
def header? (t : Text) : Option (Bool × List String × Text) := do
  match t with
  | '[' :: '[' :: r =>
    let (path, rest) ← key? (r.length + 1) r
    match rest with
    | ']' :: ']' :: rest => return (true, path, rest)
    | _ => none
  | '[' :: r =>
    let (path, rest) ← key? (r.length + 1) r
    match rest with
    | ']' :: rest => return (false, path, rest)
    | _ => none
  | _ => none

/-- The document after a header. -/
def Document.enter (d : Document) (inList : Bool) (path : List String) : Option Document := do
  let name ← path.getLast?
  let declare := if inList then declareElement name else declareTable name
  let tables ← within declare path.dropLast (settle d.tables)
  return ⟨tables, path⟩

/-- The document after a key with its value. -/
def Document.give (d : Document) (path : List String) (v : Value) : Option Document := do
  return { d with tables := ← within (assign v path) d.path d.tables }

/-- The document after all lines of a text. -/
def lines : Nat → Document → Text → Reading Document
  | 0, _, _ => .error .malformed
  | fuel + 1, d, t =>
    match skipBlanks t with
    | [] => .ok d
    | '\n' :: r => lines fuel d r
    | '#' :: r => do lines fuel d (← Reading.ofOption (endLine? ('#' :: r)))
    | '[' :: r => do
      let (inList, path, rest) ← Reading.ofOption (header? ('[' :: r))
      let d ← Reading.ofOption (d.enter inList path)
      lines fuel d (← Reading.ofOption (endLine? rest))
    | t => do
      let (path, rest) ← Reading.ofOption (key? (t.length + 1) t)
      match rest with
      | '=' :: r =>
        let (v, rest) ← value (r.length + 1) maxDepth (skipBlanks r)
        let d ← Reading.ofOption (d.give path v)
        lines fuel d (← Reading.ofOption (endLine? rest))
      | _ => throw .malformed

/-- A text in which lines end with a line feed only. -/
def unifyLineEnds : Text → Text
  | [] => []
  | '\r' :: '\n' :: r => '\n' :: unifyLineEnds r
  | c :: r => c :: unifyLineEnds r

/-- The value that a whole text is TOML for. -/
def read (t : Text) : Reading Value := do
  let t := unifyLineEnds t
  let d ← lines (t.length + 1) {} t
  return .map (entryValues d.tables)

end Kousei.Toml
