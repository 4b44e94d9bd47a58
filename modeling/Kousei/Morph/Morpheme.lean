import Kousei.Text.Basic

/-! # Morphemes

    A morpheme is a word as a morphological engine gives it: the characters
    it is written with and the fields of its dictionary entry, any of which
    may be missing.

    Two engines are known.  One joins the part of speech and its three
    details with commas and writes a star for what is missing; the other
    gives a list of fields that ends with the last one it has. -/

namespace Kousei

structure Morpheme where
  surface : Text
  pos : Option String := none
  posDetail1 : Option String := none
  posDetail2 : Option String := none
  posDetail3 : Option String := none
  conjugationType : Option String := none
  conjugationForm : Option String := none
  baseForm : Option String := none
  reading : Option String := none
  pronunciation : Option String := none
  deriving DecidableEq, Repr

namespace Morpheme

/-- A morpheme from the list of its fields in the order of the structure;
    fields after the end of the list are missing. -/
def ofFields (surface : Text) (fields : List (Option String)) : Morpheme :=
  let field (i : Nat) : Option String := fields[i]?.join
  { surface, pos := field 0, posDetail1 := field 1, posDetail2 := field 2, posDetail3 := field 3,
    conjugationType := field 4, conjugationForm := field 5, baseForm := field 6,
    reading := field 7, pronunciation := field 8 }

/-- An entry in which the part of speech and its details are one field,
    joined with commas. -/
structure JoinedEntry where
  surface : Text
  partOfSpeech : String
  conjugationType : Option String := none
  conjugationForm : Option String := none
  baseForm : Option String := none
  reading : Option String := none
  pronunciation : Option String := none
  deriving DecidableEq, Repr

/-- The morpheme of a joined entry.  Details that are missing are stars, and
    what goes beyond the third is dropped. -/
def ofJoined (e : JoinedEntry) : Morpheme :=
  let parts := (Text.splitOn ',' e.partOfSpeech.toList).map String.ofList
  let part (i : Nat) : Option String := some (parts[i]?.getD "*")
  { surface := e.surface, pos := part 0, posDetail1 := part 1, posDetail2 := part 2,
    posDetail3 := part 3, conjugationType := e.conjugationType,
    conjugationForm := e.conjugationForm, baseForm := e.baseForm, reading := e.reading,
    pronunciation := e.pronunciation }

end Morpheme

end Kousei
