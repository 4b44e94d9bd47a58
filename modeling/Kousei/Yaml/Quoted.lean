import Kousei.Value.Basic
import Kousei.Value.Numeral
import Kousei.Yaml.Plain

/-! # Quoted texts

    Between single quotes a quote is written twice and nothing else is
    escaped.  Between double quotes a backslash begins an escape, and at the
    end of a line it takes the line end away.  Line ends are read as in plain
    texts, whatever the lines are set in. -/

namespace Kousei.Yaml

/-! ## Escapes -/

/-- The characters of escapes with one letter. -/
def letterEscapes : List (Char × Char) :=
  [('0', '\x00'), ('a', '\x07'), ('b', '\x08'), ('t', '\t'), ('\t', '\t'), ('n', '\n'),
   ('v', '\x0b'), ('f', '\x0c'), ('r', '\r'), ('e', '\x1b'), (' ', ' '), ('"', '"'), ('\\', '\\'),
   ('/', '/'), ('N', '\u0085'), ('_', '\u00A0'), ('L', '\u2028'), ('P', '\u2029')]

/-- The numbers of digits of escapes that have a number. -/
def numberedEscapes : List (Char × Nat) := [('x', 2), ('u', 4), ('U', 8)]

/-- The code of so many hexadecimal digits.  A half of a surrogate pair is one
    as well. -/
def codeOf (width : Nat) (c : Cursor) : Reading (Nat × Cursor) :=
  let digits := c.rest.take width
  let n := Numeral.ofDigits 16 digits
  if digits.length < width || !digits.all (Numeral.isDigitOf 16) then .error .malformed
  else if 0x80000000 ≤ n then .error .codeTooLarge
  else if 0x110000 ≤ n then .error .notCharacter
  else .ok (n, c.steps width)

/-- The code of an escape, given the place after its backslash. -/
def escapeCode (c : Cursor) : Reading (Nat × Cursor) :=
  match c.peek with
  | none => .error .malformed
  | some x =>
    match letterEscapes.lookup x, numberedEscapes.lookup x with
    | some y, _ => .ok (y.toNat, c.step)
    | none, some width => codeOf width c.step
    | none, none => .error .malformed

/-! ## Line ends -/

/-- The ends of lines that follow one, with the blanks around them.  A mark of
    the document may not stand at the beginning of a line. -/
def quotedBreaks : Nat → Cursor → Reading (Text × Cursor)
  | 0, _ => .error .malformed
  | fuel + 1, c => do
    if c.isDocumentMark then throw .malformed
    let c := c.skip isSpaceOrTab
    match c.lineBreak? with
    | none => return ([], c)
    | some (b, next) =>
      let (more, after) ← quotedBreaks fuel next
      return (b :: more, after)

/-- Blanks as they are read: those in a line stand for themselves, those
    around line ends do not count. -/
def quotedGap (c : Cursor) : Reading (Text × Cursor) := do
  let (blanks, after) := c.run isSpaceOrTab
  match after.lineBreak? with
  | none => if after.rest.isEmpty then throw .malformed else return (blanks, after)
  | some (b, next) =>
    let (following, after) ← quotedBreaks (next.rest.length + 1) next
    return (foldBreaks b following, after)

/-! ## Texts -/

def codesOf (t : Text) : List Nat := t.map Char.toNat

/-- What stands at a place inside quotes. -/
inductive QuotedPart where
  /-- The closing quote. -/
  | closing
  /-- Some codes. -/
  | codes (ns : List Nat)

/-- The part of a quoted text at a place, and the place after it. -/
def quotedPart (quote : Char) (c : Cursor) : Reading (QuotedPart × Cursor) := do
  match c.peek with
  | none => throw .malformed
  | some x =>
    if x == quote then
      if quote == '\'' && c.peekAt 1 == some quote then return (.codes [quote.toNat], c.steps 2)
      else return (.closing, c.step)
    else if x == '\\' && quote == '"' then
      match c.step.lineBreak? with
      | some (_, next) =>
        let (following, after) ← quotedBreaks (next.rest.length + 1) next
        return (.codes (codesOf following), after)
      | none =>
        let (n, after) ← escapeCode c.step
        return (.codes [n], after)
    else if endsWord (some x) then
      let (gap, after) ← quotedGap c
      return (.codes (codesOf gap), after)
    else return (.codes [x.toNat], c.step)

/-- The codes up to the closing quote, and the place after it. -/
def quotedBody (quote : Char) : Nat → Cursor → Reading (List Nat × Cursor)
  | 0, _ => .error .malformed
  | fuel + 1, c => do
    match ← quotedPart quote c with
    | (.closing, after) => return ([], after)
    | (.codes here, after) =>
      let (more, last) ← quotedBody quote fuel after
      return (here ++ more, last)

/-- A text between quotes, given the place of the opening one. -/
def quoted (quote : Char) (c : Cursor) : Reading (Value × Cursor) := do
  let (ns, after) ← quotedBody quote (c.rest.length + 1) c.step
  return (Value.ofCodes ns, after)

end Kousei.Yaml
