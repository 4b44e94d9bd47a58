import Kousei.Yaml.Cursor

/-! # Plain texts

    A text without quotes ends where a comment begins, at a colon that ends a
    key, at the brackets and commas of a collection around it, and before a
    line that is not set in as far as it.  A single line end inside is read
    as a space, of several ones the first does not count. -/

namespace Kousei.Yaml

/-- The characters that end a word between brackets. -/
def endsFlowWord (c : Char) : Bool := ",?[]\x7b\x7d".toList.contains c

/-- The characters that make a colon before them one that ends a key between
    brackets. -/
def followsFlowColon (c : Char) : Bool := ",[]\x7b\x7d".toList.contains c

/-- Does a colon end a key, given what follows it? -/
def colonEndsKey (inFlow : Bool) (next : Option Char) : Bool :=
  endsWord next || (inFlow && next.any followsFlowColon)

/-- The length of the word at the head of a text. -/
def wordLength (inFlow : Bool) : Text → Nat
  | [] => 0
  | c :: r =>
    if endsWord (some c) || (c == ':' && colonEndsKey inFlow r.head?) || (inFlow && endsFlowWord c)
    then 0
    else wordLength inFlow r + 1

/-- What stands between two words. -/
structure Gap where
  /-- What it is read as; empty if no word can follow. -/
  text : Text := []
  /-- Is there the end of a line in it? -/
  crossed : Bool := false
  deriving DecidableEq, Repr

/-- The ends of lines that follow one, with the spaces among them; nothing if a
    mark of the document follows one of them. -/
def followingBreaks : Nat → Cursor → Option Text × Cursor
  | 0, c => (some [], c)
  | fuel + 1, c =>
    let c := c.skipSpaces
    match c.lineBreak? with
    | none => (some [], c)
    | some (b, next) =>
      if next.isDocumentMark then (none, next)
      else
        let (more, after) := followingBreaks fuel next
        (more.map (b :: ·), after)

/-- Line ends as they are read, the first one and those that follow it. -/
def foldBreaks (first : Char) (following : Text) : Text :=
  if first != '\n' then first :: following
  else if following.isEmpty then [' ']
  else following

/-- What stands between two words, and the place after it. -/
def plainGap (c : Cursor) : Gap × Cursor :=
  let (spaces, after) := c.run (· == ' ')
  match after.lineBreak? with
  | none => ({ text := spaces }, after)
  | some (b, next) =>
    if next.isDocumentMark then ({ crossed := true }, next)
    else
      match followingBreaks (next.rest.length + 1) next with
      | (none, after) => ({ crossed := true }, after)
      | (some following, after) => ({ text := foldBreaks b following, crossed := true }, after)

/-- The words from a place on, given the gap before them; whether the end of a
    line has been passed after the last one, and the place after all. -/
def plainWords (inFlow : Bool) (margin : Int) : Nat → Gap → Cursor → Text × Bool × Cursor
  | 0, gap, c => ([], gap.crossed, c)
  | fuel + 1, gap, c =>
    let n := wordLength inFlow c.rest
    if c.isAt '#' || n = 0 then ([], gap.crossed, c)
    else
      let word := gap.text ++ c.rest.take n
      let (next, after) := plainGap (c.steps n)
      if next.text.isEmpty || (!inFlow && after.column < margin) then (word, next.crossed, after)
      else
        let (more, crossed, last) := plainWords inFlow margin fuel next after
        (word ++ more, crossed, last)

/-- A plain text at a place, in a collection that stands at a column: the text,
    whether it has gone past the end of a line, and the place after it. -/
def plain (inFlow : Bool) (column : Int) (c : Cursor) : Text × Bool × Cursor :=
  plainWords inFlow (column + 1) (c.rest.length + 1) {} c

/-- Can a plain text begin at the place? -/
def beginsPlain (inFlow : Bool) (c : Cursor) : Bool :=
  match c.peek with
  | none => false
  | some x =>
    if x == '-' || (!inFlow && (x == '?' || x == ':')) then !endsWord (c.peekAt 1)
    else !endsWord (some x) && !("-?:,[]\x7b\x7d#&*!|>'\"%@\x60".toList.contains x)

end Kousei.Yaml
