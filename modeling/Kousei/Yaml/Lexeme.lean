import Kousei.Value.Basic

/-! # Lexemes

    The parts of a YAML document.  Some of them stand in the text, others
    stand for what its layout says: that a collection whose parts stand on
    lines of their own begins or ends, and that what follows is a key. -/

namespace Kousei.Yaml

/-- A tag as it is written: a handle, which stands for the beginning of a tag,
    and the rest. -/
structure RawTag where
  handle : Option Text
  suffix : Text
  deriving DecidableEq, Repr

inductive Directive where
  /-- The version of the language. -/
  | version (major minor : Nat)
  /-- What a handle stands for. -/
  | handle (name start : Text)
  /-- One that does not matter. -/
  | other
  deriving DecidableEq, Repr

inductive Lexeme where
  | directive (d : Directive)
  | documentStart
  | documentEnd
  | streamEnd
  | blockSequence
  | blockMapping
  /-- The end of a collection that has its parts on lines of their own. -/
  | blockEnd
  | flowSequence
  | flowSequenceEnd
  | flowMapping
  | flowMappingEnd
  /-- What follows is an item of a sequence on lines of its own. -/
  | item
  /-- What follows is another part of a collection between brackets. -/
  | comma
  | key
  | value
  | anchor (name : Text)
  | alias (name : Text)
  | tag (t : RawTag)
  /-- A text that stands for itself or for a value of another kind. -/
  | plain (t : Text)
  /-- A text between quotes, or one with lines of its own. -/
  | quoted (v : Value)

end Kousei.Yaml
