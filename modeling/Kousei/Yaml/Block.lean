import Kousei.Value.Fault
import Kousei.Yaml.Plain

/-! # Block texts

    A text on lines of its own, after a bar or an arrow.  All its lines are
    set in by as much, which is told by a digit after the sign or by the
    first line that is not empty.  After an arrow single line ends between
    lines that do not begin with a blank are read as spaces.  Another sign
    tells whether the line ends at the end of the text are kept. -/

namespace Kousei.Yaml

/-- Which line ends are kept at the end of a block text. -/
inductive Chomping where
  /-- The one that ends the last line. -/
  | clip
  | strip
  | keep
  deriving DecidableEq, Repr

/-! ## Head -/

/-- A sign that tells which line ends are kept. -/
def chomping? (c : Cursor) : Option Chomping :=
  if c.isAt '+' then some .keep else if c.isAt '-' then some .strip else none

/-- A digit that tells how far the lines are set in, if one stands there; it
    is not zero. -/
def increment (c : Cursor) : Reading (Option Nat × Cursor) :=
  match c.peek with
  | none => .ok (none, c)
  | some x =>
    if !x.isDigit then .ok (none, c)
    else if x == '0' then .error .malformed
    else .ok (some (x.toNat - '0'.toNat), c.step)

/-- What stands after the sign on its line: a sign and a digit in any order,
    and perhaps a comment. -/
def blockHead (c : Cursor) : Reading (Chomping × Option Nat × Cursor) := do
  let (chomping, given, c) ←
    match chomping? c with
    | some chomping => do
      let (given, c) ← increment c.step
      pure (chomping, given, c)
    | none => do
      let (given, c) ← increment c
      match given, chomping? c with
      | some n, some chomping => pure (chomping, some n, c.step)
      | _, _ => pure (.clip, given, c)
  if !endsPart c.peek then throw .malformed
  let c := c.skipSpaces.skipComment
  if !endsLine c.peek then throw .malformed
  return (chomping, given, c.skipBreak)

/-! ## Lines -/

/-- The empty lines at a place, the greatest column to which spaces reach in
    them and in the line after them, and the place after those spaces. -/
def leadingLines : Nat → Cursor → Text × Nat × Cursor
  | 0, c => ([], 0, c)
  | fuel + 1, c =>
    let (spaces, next) := c.run (· == ' ')
    let width := if spaces.isEmpty then 0 else next.column
    match next.lineBreak? with
    | none => ([], width, next)
    | some (b, after) =>
      let (more, most, last) := leadingLines fuel after
      (b :: more, max width most, last)

/-- The empty lines at a place, and the place after them; the line after them
    is entered as far as a column. -/
def emptyLines (column : Nat) : Nat → Cursor → Text × Cursor
  | 0, c => ([], c)
  | fuel + 1, c =>
    let c := c.skipSpacesTo column
    match c.lineBreak? with
    | none => ([], c)
    | some (b, next) =>
      let (more, last) := emptyLines column fuel next
      (b :: more, last)

/-- Does a line of the block text begin at the place? -/
def isBlockLine (column : Nat) (c : Cursor) : Bool := c.column == column && c.peek.isSome

/-- What stands between two lines: their line end, unless it is folded, and the
    ends of the empty lines between them. -/
def betweenLines (folded : Bool) (first : Option Char) (b : Option Char) (empty : Text)
    (next : Option Char) : Text :=
  if folded && b == some '\n' && !first.any isSpaceOrTab && !next.any isSpaceOrTab then
    if empty.isEmpty then [' '] else empty
  else b.toList ++ empty

/-- The lines of a block text at a column from one of them on, the end of the
    last line, the ends of the empty lines after it, and the place after
    all. -/
def blockLines (folded : Bool) (column : Nat) :
    Nat → Cursor → Text × Option Char × Text × Cursor
  | 0, c => ([], none, [], c)
  | fuel + 1, c =>
    let (line, atEnd) := c.run (!isBreak ·)
    let b := atEnd.lineBreak?.map (·.1)
    let (empty, next) := emptyLines column (atEnd.rest.length + 1) atEnd.skipBreak
    if isBlockLine column next then
      let between := betweenLines folded c.peek b empty next.peek
      let (more, lastBreak, after, last) := blockLines folded column fuel next
      (line ++ between ++ more, lastBreak, after, last)
    else (line, b, empty, next)

/-- The line ends at the end of a block text that are kept. -/
def Chomping.kept (chomping : Chomping) (lastBreak : Option Char) (empty : Text) : Text :=
  match chomping with
  | .strip => []
  | .clip => lastBreak.toList
  | .keep => lastBreak.toList ++ empty

/-- A block text, given the place after its sign, in a collection that stands
    at a column. -/
def blockText (folded : Bool) (outer : Int) (c : Cursor) : Reading (Text × Cursor) := do
  let (chomping, given, c) ← blockHead c
  let least := (max (outer + 1) 1).toNat
  let fuel := c.rest.length + 1
  let (empty, column, c) :=
    match given with
    | some n =>
      let column := least + n - 1
      let (empty, c) := emptyLines column fuel c
      (empty, column, c)
    | none =>
      let (empty, width, c) := leadingLines fuel c
      (empty, max least width, c)
  if isBlockLine column c then
    let (body, lastBreak, after, last) := blockLines folded column fuel c
    return (empty ++ body ++ chomping.kept lastBreak after, last)
  else return (chomping.kept none empty, c)

end Kousei.Yaml
