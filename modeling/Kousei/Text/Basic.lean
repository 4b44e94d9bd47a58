/-! # Text

    A text is the list of its characters, so that every place in it is a
    count of characters.  This module holds the operations on places that
    the rest of the library is built from: cutting a stretch out of a text,
    finding one text inside another, and stripping blanks.

    The laws beside the definitions say that stripping only removes
    blanks at the two ends (`strip_append`), and that what is found does
    stand where it was found (`find?_isPrefix`). -/

namespace Kousei

/-- A text as the list of its characters. -/
abbrev Text : Type := List Char

/-- The characters of a string. -/
abbrev text (s : String) : Text := s.toList

namespace Text

/-! ## Stretches -/

/-- The stretch from place `a` up to place `b`; empty when `b ≤ a`, and cut
    at the end of the text. -/
def slice (t : Text) (a b : Nat) : Text := (t.take b).drop a

/-- A place given by an integer: one below zero counts from the end, and
    what lies outside the text is moved to its nearest end. -/
def place (t : Text) (i : Int) : Nat :=
  if i < 0 then (i + t.length).toNat else min i.toNat t.length

/-- The stretch between two integer places, read by `place`. -/
def sliceInt (t : Text) (a b : Int) : Text := t.slice (t.place a) (t.place b)

@[simp] theorem slice_self (t : Text) : t.slice 0 t.length = t := by simp [slice]

theorem slice_eq_nil (t : Text) {a b : Nat} (h : b ≤ a) : t.slice a b = [] := by
  simp only [slice, List.drop_eq_nil_iff, List.length_take]; omega

theorem length_slice (t : Text) (a b : Nat) : (t.slice a b).length = min b t.length - a := by
  simp [slice]

/-! ## Search -/

/-- Does the text begin with `needle`? -/
def startsWith (t needle : Text) : Bool := needle.isPrefixOf t

/-- Does the text end with `needle`? -/
def endsWith (t needle : Text) : Bool := needle.isSuffixOf t

/-- The first place at which `needle` stands in the text. -/
def find? (needle : Text) : Text → Option Nat
  | [] => if needle.isEmpty then some 0 else none
  | c :: r => if startsWith (c :: r) needle then some 0 else (find? needle r).map (· + 1)

/-- The first place not before `start` at which `needle` stands in the text.
    Past the end of the text nothing stands, not even the empty text. -/
def findFrom? (needle t : Text) (start : Nat) : Option Nat :=
  if start ≤ t.length then (find? needle (t.drop start)).map (· + start) else none

/-- Does `needle` stand anywhere in the text? -/
def includes (t needle : Text) : Bool := (find? needle t).isSome

/-- What was found stands at the place it was found at. -/
theorem find?_isPrefix {needle t : Text} {i : Nat} (h : find? needle t = some i) :
    needle <+: t.drop i := by
  induction t generalizing i with
  | nil =>
    simp only [find?] at h
    split at h
    · rename_i hn
      rw [List.isEmpty_iff.1 hn]; exact List.nil_prefix
    · cases h
  | cons c r ih =>
    simp only [find?] at h
    split at h
    · rename_i hp
      cases h
      simpa [startsWith] using hp
    · obtain ⟨j, hj, rfl⟩ := Option.map_eq_some_iff.1 h
      simpa using ih hj

/-! ## Pieces -/

/-- The pieces of a text between the characters `sep`. -/
def splitOn (sep : Char) : Text → List Text
  | [] => [[]]
  | c :: r =>
    if c = sep then [] :: splitOn sep r
    else match splitOn sep r with
      | [] => [[c]]
      | piece :: more => (c :: piece) :: more

/-! ## Blanks -/

/-- Is the code point of `c` in one of the closed ranges? -/
def inRanges (ranges : List (Nat × Nat)) (c : Char) : Bool :=
  ranges.any fun r => r.1 ≤ c.toNat && c.toNat ≤ r.2

/-- The code points of white space: the controls that separate lines or
    records, and the space characters of all scripts.  The zero-width space
    and the byte order mark are not among them. -/
def blankRanges : List (Nat × Nat) :=
  [(0x09, 0x0D), (0x1C, 0x20), (0x85, 0x85), (0xA0, 0xA0), (0x1680, 0x1680), (0x2000, 0x200A),
   (0x2028, 0x2029), (0x202F, 0x202F), (0x205F, 0x205F), (0x3000, 0x3000)]

/-- Is `c` white space? -/
def isBlank (c : Char) : Bool := inRanges blankRanges c

/-- Is there nothing in the text but white space? -/
def allBlank (t : Text) : Bool := t.all isBlank

/-- The text less the blanks at its end. -/
def stripEnd (t : Text) : Text := (t.reverse.dropWhile isBlank).reverse

/-- The text less the blanks at its beginning. -/
def stripStart (t : Text) : Text := t.dropWhile isBlank

/-- The text less the blanks at both ends. -/
def strip (t : Text) : Text := stripEnd (stripStart t)

/-- Only blanks are lost at the end. -/
theorem stripEnd_append (t : Text) :
    ∃ w : Text, t = stripEnd t ++ w ∧ w.all isBlank = true := by
  refine ⟨(t.reverse.takeWhile isBlank).reverse, ?_, ?_⟩
  · rw [stripEnd, ← List.reverse_append, List.takeWhile_append_dropWhile, List.reverse_reverse]
  · simp only [List.all_reverse, List.all_takeWhile]

/-- Only blanks are lost at the two ends. -/
theorem strip_append (t : Text) :
    ∃ w : Text, t = t.takeWhile isBlank ++ strip t ++ w ∧ w.all isBlank = true := by
  obtain ⟨w, hw, hb⟩ := stripEnd_append (stripStart t)
  refine ⟨w, ?_, hb⟩
  rw [List.append_assoc, strip, ← hw, stripStart, List.takeWhile_append_dropWhile]

/-- The text without one line feed at its end. -/
def dropLineEnd (t : Text) : Text := if t.getLast? = some '\n' then t.dropLast else t

/-! ## Words in any case -/

/-- The lower-case letter of an upper-case letter, where that is an ASCII
    letter: the ASCII capitals, the capital I with a dot and the Kelvin sign.
    Every other character is left alone. -/
def lowerChar (c : Char) : Char :=
  if c.isUpper then c.toLower
  else if c = '\u0130' then 'i'
  else if c = '\u212A' then 'k'
  else c

/-- The text as it is compared with ASCII words in lower case: it becomes one of
    them exactly if it is that word in some case.  Letters beyond ASCII stay as
    they are; the capital I with a dot keeps its dot as a mark of its own. -/
def toAsciiWord (t : Text) : Text :=
  t.flatMap fun c => if c = '\u0130' then ['i', '\u0307'] else [lowerChar c]

end Text

end Kousei
