import Kousei.Diagnostic
import Kousei.Files.Path
import Kousei.Value.Json

/-! # Reports

    What is printed about issues: a line for each of them that begins with
    the place, in the form that editors can jump to, and their number; or
    all of them as data. -/

namespace Kousei.Command

/-! ## Lines -/

/-- The place of an issue.  Relative paths are seen from a directory. -/
def issuePlace (directory : Path) (i : Issue) : String :=
  match i.file with
  | none | some "" => "<memory>"
  | some file => s!"{(Path.resolve directory (Path.ofString file)).render}:{i.line}:{i.column}"

/-- Why the place of an issue cannot be told: no path has a null character. -/
def placeFault? (i : Issue) : Option PathFault :=
  match i.file with
  | some file => if (Path.ofString file).hasNull then some .null else none
  | none => none

/-- A text on one line: a line feed is written as a backslash and an n. -/
def onOneLine (t : Text) : String :=
  String.ofList (t.flatMap fun c => if c = '\n' then ['\\', 'n'] else [c])

/-- The line of an issue. -/
def issueLine (directory : Path) (i : Issue) : String :=
  let line := s!"{issuePlace directory i}: [{i.code}] {i.message}"
  if i.snippet.isEmpty then line else line ++ " | " ++ onOneLine i.snippet

/-- The lines of all issues, and their number. -/
def issueLines (directory : Path) (issues : List Issue) : List String :=
  if issues.isEmpty then ["No issues found."]
  else issues.map (issueLine directory) ++ [s!"Total: {issues.length} issue(s)"]

/-! ## Data -/

/-- An issue as data. -/
def issueValue (i : Issue) : Value :=
  .map
    [(.str "file", (i.file.map Value.str).getD .null), (.str "start", .int i.start),
     (.str "end", .int i.stop), (.str "line", .int i.line), (.str "column", .int i.column),
     (.str "snippet", .str (String.ofList i.snippet)), (.str "message", .str i.message),
     (.str "severity", .int i.severity), (.str "code", .str i.code)]

/-- All issues as data. -/
def issueData (issues : List Issue) : String :=
  Json.write .indented 0 (.list (issues.map issueValue))

/-- What is printed about issues. -/
def report (directory : Path) (json : Bool) (issues : List Issue) : List String :=
  if json then [issueData issues] else issueLines directory issues

end Kousei.Command
