import Kousei.Extract.Lexer

/-! # Source code

    Comments of programming languages.  String literals are read along with
    the comments, so that the slashes of an address inside a string begin no
    comment.  A quote or a comment opening that is never closed begins
    nothing: it is read as plain code. -/

namespace Kousei.Extract

open Text

/-! ## Languages with slash comments -/

/-- A comment to the end of the line, or one between slash-star and the
    first star-slash. -/
def slashComment : Lexer :=
  .firstOf
    [.at .comment (restOfLine? (text "//")),
     .at .comment (enclosed? (text "/*") (text "*/"))]

/-- One character, or a backslash and any character, between single quotes. -/
def charLiteral? : Text → Option Nat
  | '\'' :: '\\' :: _ :: '\'' :: _ => some 4
  | '\'' :: c :: '\'' :: _ => if c = '\'' || c = '\\' || c = '\n' then none else some 3
  | _ => none

/-- C and its like: double quotes hold strings, single quotes one character. -/
def cLexer : Lexer :=
  .firstOf [.at .skipped (quoted? ⟨'"', false, true⟩), .at .skipped charLiteral?, slashComment]

/-- JavaScript and its like: both quotes hold strings, and strings in back
    quotes may have several lines. -/
def javascriptLexer : Lexer :=
  .firstOf
    [.at .skipped (quoted? ⟨'"', false, true⟩),
     .at .skipped (quoted? ⟨'\'', false, true⟩),
     .at .skipped (quoted? ⟨'\x60', true, true⟩),
     slashComment]

/-- Rust: literals and comments are read as those of C. -/
def rustLexer : Lexer := cLexer

/-! ## Python -/

/-- A letter, digit or underscore of ASCII. -/
def isNameChar (c : Char) : Bool := c.isAlphanum || c == '_'

/-- A literal between three quotes, with the literal letters before it. -/
def tripleQuoted? (t : Text) : Option Nat :=
  let letters := min 2 (t.takeWhile isLiteralLetter).length
  let rest := t.drop letters
  ((enclosed? (text "\"\"\"") (text "\"\"\"") rest).or
    (enclosed? (text "'''") (text "'''") rest)).map (letters + ·)

/-- A literal between three quotes that no name runs into. -/
def docstring : Lexer := fun before t =>
  if before.any isNameChar then none else (tripleQuoted? t).map fun n => (.comment, n)

/-- Python: literals between three quotes are read as comments, other
    strings end with their line, and a number sign begins a comment. -/
def pythonLexer : Lexer :=
  .firstOf
    [docstring,
     .at .skipped (quoted? ⟨'"', false, false⟩),
     .at .skipped (quoted? ⟨'\'', false, false⟩),
     .at .comment (restOfLine? (text "#"))]

end Kousei.Extract
