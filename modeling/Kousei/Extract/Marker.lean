import Kousei.Text.Basic

/-! # Comment markers

    A comment is written with markers around what it says: an opening at
    its beginning, mostly a closing at its end, and in a block comment often
    a row of stars before the first line.  `body` takes the markers and the
    blanks around them away and tells where in the comment the rest begins.

    The body is always a stretch of the comment that stands at the place
    told, so a place in the body is a place in the document after two
    additions. -/

namespace Kousei.Extract

open Text

/-! ## Markers -/

/-- One way to write a comment. -/
structure Marker where
  /-- The length of the opening at the head of a text, if one stands there. -/
  opening : Text → Option Nat
  /-- The length of the closing at the end of what follows the opening, zero
      if there is none. -/
  closing : Text → Nat
  /-- May the first line hold nothing but stars? -/
  starred : Bool

/-- A fixed opening. -/
def literal (s : Text) (t : Text) : Option Nat :=
  if t.startsWith s then some s.length else none

/-- A fixed closing. -/
def closedBy (s : Text) (t : Text) : Nat := if t.endsWith s then s.length else 0

/-- No closing at all. -/
def unclosed (_ : Text) : Nat := 0

/-- The letters that may stand before the quotes of a string literal. -/
def isLiteralLetter (c : Char) : Bool := "rRuUbBfF".toList.contains c

/-- Up to two literal letters and then the given quotes. -/
def quoteOpening (quotes : Text) (t : Text) : Option Nat :=
  let letters := min 2 (t.takeWhile isLiteralLetter).length
  if startsWith (t.drop letters) quotes then some (letters + quotes.length) else none

/-- A run of the character `c`, if at least `least` of them stand there. -/
def runOpening (c : Char) (least : Nat) (t : Text) : Option Nat :=
  let run := (t.takeWhile (· == c)).length
  if least ≤ run then some run else none

/-- Two or more slashes, and an exclamation mark after them if there is one. -/
def slashOpening (t : Text) : Option Nat :=
  (runOpening '/' 2 t).map fun run => if (t.drop run).head? == some '!' then run + 1 else run

/-- A slash at the end with all the stars before it, of which there is at
    least one. -/
def starClosing (t : Text) : Nat :=
  match t.reverse with
  | '/' :: r =>
    let stars := (r.takeWhile (· == '*')).length
    if stars = 0 then 0 else stars + 1
  | _ => 0

/-- The ways to write a comment.  The first whose opening stands at the head
    of the comment is the one it is written in. -/
def Marker.all : List Marker :=
  [⟨literal (text "<!--"), closedBy (text "-->"), false⟩,
   ⟨literal (text "/*"), starClosing, true⟩,
   ⟨quoteOpening (text "\"\"\""), closedBy (text "\"\"\""), false⟩,
   ⟨quoteOpening (text "'''"), closedBy (text "'''"), false⟩,
   ⟨slashOpening, unclosed, false⟩,
   ⟨runOpening '#' 1, unclosed, false⟩,
   ⟨runOpening '%' 1, unclosed, false⟩]

/-- What stands between the markers: its place, the stretch, and whether it
    may begin with a line of stars. -/
def unmark (comment : Text) : Nat × Text × Bool :=
  match Marker.all.findSome? fun m => (m.opening comment).map fun n => (m, n) with
  | none => (0, comment, false)
  | some (m, n) =>
    let rest := comment.drop n
    (n, rest.take (rest.length - m.closing rest), m.starred)

/-! ## Stars -/

def isSpaceOrTab (c : Char) : Bool := c == ' ' || c == '\t'

/-- The length of the stars that a block comment begins with: a run of stars
    with the spaces and tabs after it and, when the line ends there and the
    next text is stars again, that second run with one space or tab. -/
def starLength (t : Text) : Nat :=
  let stars := (t.takeWhile (· == '*')).length
  if stars = 0 then 0 else
    let spaces := ((t.drop stars).takeWhile isSpaceOrTab).length
    match t.drop (stars + spaces) with
    | '\n' :: r =>
      let blanks := (r.takeWhile isBlank).length
      let more := ((r.drop blanks).takeWhile (· == '*')).length
      if more = 0 then stars + spaces else
        let after := (((r.drop (blanks + more)).take 1).takeWhile isSpaceOrTab).length
        stars + spaces + 1 + blanks + more + after
    | _ => stars + spaces

/-! ## Body -/

/-- A stretch at a place, less the blanks at its two ends. -/
def stripAt (lead : Nat) (t : Text) : Nat × Text :=
  (lead + (t.takeWhile isBlank).length, t.strip)

/-- What a comment says and where in it that begins.  Without markers only
    the blanks at the two ends are taken away. -/
def body (comment : Text) (markers : Bool) : Nat × Text :=
  if markers then
    let (start, inner, starred) := unmark comment
    let (lead, t) := stripAt start inner
    if starred then stripAt (lead + starLength t) (t.drop (starLength t)) else (lead, t)
  else stripAt 0 comment

end Kousei.Extract
