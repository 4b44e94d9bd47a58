import Kousei.Notice
import Kousei.Text.Position

/-! # Diagnostics and issues

    A diagnostic is a stretch of a text with something to say about it.  An
    issue is a diagnostic as it is reported to a reader: with its line and
    column, counted from one, and the stretch itself. -/

namespace Kousei

/-- How grave a diagnostic is, as a number: the lower the graver. -/
abbrev Severity : Type := Int

/-- What the rules of this library report. -/
def Severity.warning : Severity := 2

structure Diagnostic where
  start : Int
  stop : Int
  message : String
  severity : Severity := Severity.warning
  code : String := ""
  source : String := programName
  deriving DecidableEq, Repr

namespace Diagnostic

/-- The diagnostic moved by `delta` characters. -/
def shifted (d : Diagnostic) (delta : Int) : Diagnostic :=
  { d with start := d.start + delta, stop := d.stop + delta }

/-- The lines and characters of a diagnostic in its text. -/
def span (d : Diagnostic) (t : Text) : Span := t.span d.start d.stop

end Diagnostic

structure Issue where
  file : Option String
  start : Int
  stop : Int
  /-- Counted from one. -/
  line : Int
  /-- Counted from one. -/
  column : Int
  snippet : Text
  message : String
  severity : Severity
  code : String
  deriving DecidableEq, Repr

/-- A diagnostic of a text as an issue of a file. -/
def Issue.ofDiagnostic (file : Option String) (t : Text) (d : Diagnostic) : Issue :=
  let p := t.position d.start
  { file, start := d.start, stop := d.stop, line := p.line + 1, column := p.character + 1,
    snippet := t.sliceInt d.start d.stop, message := d.message, severity := d.severity,
    code := d.code }

end Kousei
