import Kousei.Extract.Lexer
import Kousei.Text.Alphanumeric

/-! # HTML

    The markup of HTML: comments, tags, and the elements whose content is
    no text.  Names are matched without regard to case, and the long s and
    the two Turkish letters i count as cases of s and i. -/

namespace Kousei.Extract

open Text

/-! ## Names -/

/-- Is `c` a case of the lower-case ASCII letter `l`? -/
def isCaseOf (l c : Char) : Bool :=
  lowerChar c == l || (l == 's' && c == '\u017F') || (l == 'i' && c == '\u0131')

/-- Does the text begin with a name that has the letters of `name`, in any
    case? -/
def startsWithName : Text → Text → Bool
  | [], _ => true
  | l :: name, c :: r => isCaseOf l c && startsWithName name r
  | _ :: _, [] => false

/-- The names of the elements whose content is passed over. -/
def rawNames : List Text := [text "script", text "style"]

/-- The name of such an element at the head of a text, as it is written
    there, when no word goes on after it. -/
def rawName? (t : Text) : Option Text :=
  rawNames.findSome? fun name =>
    if startsWithName name t && !(t.drop name.length).head?.any isWordChar then
      some (t.take name.length)
    else none

/-! ## Markup -/

/-- The length of the end tag of an element whose name is written `name`.
    The end tag may write it in other cases, letter for letter. -/
def endTag? (name t : Text) : Option Nat :=
  let written := (t.drop 2).take name.length
  let rest := t.drop (2 + name.length)
  let blanks := (rest.takeWhile isBlank).length
  if t.startsWith (text "</") && written.map lowerChar == name.map lowerChar
      && (rest.drop blanks).head? == some '>' then
    some (2 + name.length + blanks + 1)
  else none

/-- The number of characters through the first end tag. -/
def throughEndTag? (name : Text) : Text → Option Nat
  | [] => none
  | c :: r => (endTag? name (c :: r)).or ((throughEndTag? name r).map (· + 1))

/-- An element whose content is passed over, from its name to its end tag. -/
def rawElement? : Text → Option Nat
  | '<' :: r => do
    let name ← rawName? r
    let n ← throughEndTag? name (r.drop name.length)
    return 1 + name.length + n
  | _ => none

/-- Where the reading of a tag is. -/
inductive TagState where
  | outside
  /-- Inside a quoted value, which ends with the given quote. -/
  | inside (quote : Char)

/-- The number of characters up to the angle bracket that ends a tag and with
    it.  One inside a quoted value does not end it. -/
def closeTag? : TagState → Text → Option Nat
  | _, [] => none
  | .outside, c :: r =>
    if c = '>' then some 1
    else if c = '"' || c = '\'' then (closeTag? (.inside c) r).map (· + 1)
    else (closeTag? .outside r).map (· + 1)
  | .inside q, c :: r =>
    (closeTag? (if c = q then .outside else .inside q) r).map (· + 1)

/-- A tag. -/
def tag? : Text → Option Nat
  | '<' :: r => (closeTag? .outside r).map (· + 1)
  | _ => none

/-- The markup of HTML. -/
def htmlLexer : Lexer :=
  .firstOf
    [.at .comment (enclosed? (text "<!--") (text "-->")),
     .at .skipped rawElement?,
     .at .skipped tag?]

end Kousei.Extract
