import Kousei.Extract.Lexer

/-! # LaTeX

    The markup of LaTeX: comments, formulas, environments that hold
    formulas, commands and braces.  The commands that refer to something
    are passed over with their arguments; of all others only the name is,
    so that an argument with prose in it is read as prose. -/

namespace Kousei.Extract

open Text

/-! ## Comments and formulas -/

/-- A percent sign that no backslash stands before, with the rest of its
    line. -/
def percentComment : Lexer := fun before t =>
  if before == some '\\' then none
  else (restOfLine? (text "%") t).map fun n => (.comment, n)

/-- The environments that hold formulas. -/
def formulaNames : List Text :=
  ["equation", "align", "gather", "multline", "math", "displaymath", "eqnarray"].map text

/-- A name in braces after `command`, with or without a star. -/
def named? (command name t : Text) : Option Nat :=
  (literal (command ++ name ++ text "\x7d") t).or (literal (command ++ name ++ text "*\x7d") t)

/-- The number of characters through the first end of an environment. -/
def throughEnd? (name : Text) : Text → Option Nat
  | [] => none
  | c :: r => (named? (text "\\end\x7b") name (c :: r)).or ((throughEnd? name r).map (· + 1))

/-- An environment that holds formulas. -/
def formulaEnvironment? (t : Text) : Option Nat :=
  formulaNames.findSome? fun name => do
    let start ← named? (text "\\begin\x7b") name t
    let n ← throughEnd? name (t.drop start)
    return start + n

/-- The number of characters through the first dollar sign that no backslash
    stands before. -/
def throughDollar? (before : Char) : Text → Option Nat
  | [] => none
  | c :: r =>
    if c = '$' && before != '\\' then some 1 else (throughDollar? c r).map (· + 1)

/-- A formula between two dollar signs that no backslash stands before. -/
def dollarFormula : Lexer := fun before t =>
  match t with
  | '$' :: r =>
    if before == some '\\' then none
    else (throughDollar? '$' r).map fun n => (.skipped, n + 1)
  | _ => none

/-! ## Commands -/

/-- The commands that are passed over with their arguments.  The first that
    stands at the head of a text is the one that is read, so of two where one
    goes on with the other it is the one that comes first here. -/
def structureNames : List Text :=
  ["begin", "end", "label", "ref", "eqref", "pageref", "cite", "citep", "citet", "usepackage",
   "documentclass", "input", "include", "includegraphics", "bibliography", "bibliographystyle",
   "url", "href"].map text

/-- The length of a star, if there is one. -/
def star (t : Text) : Nat := if t.head? == some '*' then 1 else 0

/-- The length of the arguments in square brackets. -/
def brackets (t : Text) : Nat :=
  match enclosed? ['['] [']'] t with
  | none => 0
  | some n => if 0 < n ∧ n ≤ t.length then n + brackets (t.drop n) else 0
termination_by t.length
decreasing_by simp only [List.length_drop]; omega

/-- The length of one argument in braces, if there is one. -/
def braces (t : Text) : Nat := (enclosed? ['\x7b'] ['\x7d'] t).getD 0

/-- A command that is passed over with its arguments. -/
def structureCommand? : Text → Option Nat
  | '\\' :: r => do
    let name ← structureNames.find? fun name => startsWith r name
    let n := name.length
    let n := n + star (r.drop n)
    let n := n + brackets (r.drop n)
    let n := n + braces (r.drop n)
    return n + 1
  | _ => none

/-- A letter of a command name. -/
def isCommandLetter (c : Char) : Bool := c.isAlpha || c == '@'

/-- The name of any command: letters and perhaps a star, or else one
    character that is not a letter. -/
def commandName? : Text → Option Nat
  | '\\' :: c :: r =>
    if isCommandLetter c then
      let n := (r.takeWhile isCommandLetter).length
      some (2 + n + star (r.drop n))
    else some 2
  | _ => none

/-- A brace. -/
def brace? : Text → Option Nat
  | c :: _ => if c = '\x7b' || c = '\x7d' then some 1 else none
  | [] => none

/-- The markup of LaTeX. -/
def latexLexer : Lexer :=
  .firstOf
    [percentComment,
     .at .skipped formulaEnvironment?,
     .at .skipped (enclosed? (text "$$") (text "$$")),
     dollarFormula,
     .at .skipped (enclosed? (text "\\(") (text "\\)")),
     .at .skipped (enclosed? (text "\\[") (text "\\]")),
     .at .skipped structureCommand?,
     .at .skipped commandName?,
     .at .skipped brace?]

end Kousei.Extract
