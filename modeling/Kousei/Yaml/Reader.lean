import Kousei.Settings.File
import Kousei.Yaml.Composer

/-! # YAML documents

    A text is scanned, its lexemes are composed to the nodes of the one
    document in it, and the value is made of these.  A text without a
    document has no value but nothing.

    What is read are trees: a node that has itself in it is refused. -/

namespace Kousei.Yaml

/-- The value that a whole text is YAML for. -/
def read (t : Text) : Reading Value := do
  if !t.all isAllowed then throw .malformed
  match ← compose (scan t) with
  | none => return .null
  | some n => n.value

/-- The reader of settings files that comes with the program. -/
def reader : Settings.Reader where
  Document := Value
  data := inferInstance
  read := read

end Kousei.Yaml
