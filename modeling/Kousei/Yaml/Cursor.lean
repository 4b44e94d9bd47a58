import Kousei.Text.Basic

/-! # Cursors

    A place in a YAML text with what stands from there on.  The column of a
    place decides to which collection a thing belongs, and whether a key can
    still be one depends on the line it began on, so a cursor counts
    characters, lines and columns. -/

namespace Kousei.Yaml

/-! ## Characters -/

/-- Does the character end a line? -/
def isBreak (c : Char) : Bool :=
  c == '\n' || c == '\r' || c == '\u0085' || c == '\u2028' || c == '\u2029'

/-- The characters that a text may have. -/
def isAllowed (c : Char) : Bool :=
  Text.inRanges
    [(0x09, 0x0A), (0x0D, 0x0D), (0x20, 0x7E), (0x85, 0x85), (0xA0, 0xD7FF), (0xE000, 0xFFFD),
     (0x10000, 0x10FFFF)] c

/-- Does a line end where this character stands?  The end of the text ends a
    line as well. -/
def endsLine (c : Option Char) : Bool := c.all isBreak

/-- Does a space stand there, or does a line end? -/
def endsPart (c : Option Char) : Bool := c.all fun c => c == ' ' || isBreak c

/-- Does a space or a tab stand there, or does a line end? -/
def endsWord (c : Option Char) : Bool := c.all fun c => c == ' ' || c == '\t' || isBreak c

def isSpaceOrTab (c : Char) : Bool := c == ' ' || c == '\t'

/-- A letter or a digit of ASCII, or one of two signs, as names have them. -/
def isNameChar (c : Char) : Bool := c.isAlphanum || c == '-' || c == '_'

/-! ## Cursors -/

structure Cursor where
  /-- What stands from the place on. -/
  rest : Text
  index : Nat := 0
  line : Nat := 0
  column : Nat := 0
  deriving DecidableEq, Repr

namespace Cursor

/-- The character at the place; none at the end of the text. -/
def peek (c : Cursor) : Option Char := c.rest.head?

/-- The character so many places further on. -/
def peekAt (c : Cursor) (n : Nat) : Option Char := c.rest[n]?

/-- Does the given character stand at the place? -/
def isAt (c : Cursor) (x : Char) : Bool := c.peek == some x

/-- The next place.  A mark of the byte order has no width. -/
def step (c : Cursor) : Cursor :=
  match c.rest with
  | [] => c
  | x :: r =>
    if isBreak x && !(x == '\r' && r.head? == some '\n') then ⟨r, c.index + 1, c.line + 1, 0⟩
    else ⟨r, c.index + 1, c.line, if x == '\uFEFF' then c.column else c.column + 1⟩

/-- The place so many characters further on. -/
def steps (c : Cursor) : Nat → Cursor
  | 0 => c
  | n + 1 => c.step.steps n

/-- The characters from the place on that are of a kind, and the place after
    them. -/
def run (p : Char → Bool) (c : Cursor) : Text × Cursor :=
  let t := c.rest.takeWhile p
  (t, c.steps t.length)

/-- The place after the characters that are of a kind. -/
def skip (p : Char → Bool) (c : Cursor) : Cursor := (c.run p).2

/-- The place after spaces. -/
def skipSpaces (c : Cursor) : Cursor := c.skip (· == ' ')

/-- The place after spaces, as far as a column. -/
def skipSpacesTo (c : Cursor) (column : Nat) : Cursor :=
  c.steps (min (c.rest.takeWhile (· == ' ')).length (column - c.column))

/-- The place where the line ends, after a comment if one stands there. -/
def skipComment (c : Cursor) : Cursor :=
  if c.isAt '#' then c.skip (!isBreak ·) else c

/-- The end of a line, if there is one at the place, as the character that it
    is read as, and the place after it. -/
def lineBreak? (c : Cursor) : Option (Char × Cursor) :=
  match c.rest with
  | '\r' :: '\n' :: _ => some ('\n', c.steps 2)
  | x :: _ =>
    if x == '\u2028' || x == '\u2029' then some (x, c.step)
    else if isBreak x then some ('\n', c.step)
    else none
  | [] => none

/-- The place after the end of a line, if there is one. -/
def skipBreak (c : Cursor) : Cursor := (c.lineBreak?.map (·.2)).getD c

/-- Do three equal characters stand at the place, and no word after them? -/
def isMark (c : Cursor) (x : Char) : Bool :=
  c.rest.take 3 == [x, x, x] && endsWord (c.peekAt 3)

/-- Does a mark stand there that begins or ends a document? -/
def isDocumentMark (c : Cursor) : Bool := c.isMark '-' || c.isMark '.'

end Cursor

end Kousei.Yaml
