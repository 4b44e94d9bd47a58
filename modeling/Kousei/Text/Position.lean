import Kousei.Text.Basic

/-! # Positions

    A place in a text counted in characters, and the same place as a line
    and a character within that line, both counted from zero.  Lines end
    with a line feed and with nothing else.

    `position` clamps its place to the text; `offset` moves a position that
    lies outside its line, or outside the text, to the nearest place that
    the line, or the text, has on that side. -/

namespace Kousei

/-- A line and a character within it, counted from zero.  Either may be
    any integer when it comes from outside. -/
structure Position where
  line : Int
  character : Int
  deriving DecidableEq, Repr

/-- Two positions, the first of which is where a stretch begins. -/
structure Span where
  start : Position
  stop : Position
  deriving DecidableEq, Repr

namespace Text

/-- The end of the last line: the characters after the last line feed. -/
def lastLine (t : Text) : Text := (t.reverse.takeWhile (· != '\n')).reverse

/-- An integer place moved into the text. -/
def clamp (t : Text) (o : Int) : Nat := min o.toNat t.length

/-- The position of a place: the line feeds before it, and the characters
    between the last of them and the place. -/
def position (t : Text) (o : Int) : Position :=
  let before : Text := t.take (t.clamp o)
  ⟨before.count '\n', before.lastLine.length⟩

/-- The place of a line and a character counted from zero.  A character past
    the end of its line stands for that end; a line past the last one stands
    for the end of the text. -/
def offsetOf : Text → Nat → Nat → Nat
  | t, 0, k => min k (t.takeWhile (· != '\n')).length
  | [], _ + 1, _ => 0
  | c :: r, l + 1, k => 1 + offsetOf r (if c = '\n' then l else l + 1) k

/-- The place of a position.  A negative line stands for the beginning of the
    text and a negative character for the beginning of its line. -/
def offset (t : Text) (p : Position) : Nat :=
  if p.line < 0 then 0 else t.offsetOf p.line.toNat p.character.toNat

/-- The positions of the two ends of a stretch. -/
def span (t : Text) (start stop : Int) : Span := ⟨t.position start, t.position stop⟩

end Text

end Kousei
