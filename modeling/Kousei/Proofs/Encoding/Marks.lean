import Kousei.Proofs.Encoding.Reading
import Kousei.Settings.File

/-! # Marks of settings files

    Editors write a settings file in UTF-8 or in UTF-16, with a byte order mark
    or without one.  Whichever they take, the text is read without the marks at
    its beginning (`written_unmarked`): UTF-8 is tried first and reads its
    mark as a character, UTF-16 is not UTF-8 because of its mark, and no mark
    that was read is kept.

    It makes no difference whether UTF-8 less its mark is tried as well once
    UTF-8 has failed, since it fails too (`findSome?_readers`). -/

namespace Kousei.Encoding

variable {bytes : List UInt8} {t : Text}

/-! ## Readers -/

/-- The text of bytes in UTF-8, less one mark if they begin with it. -/
def Utf8.signed? : List UInt8 → Option Text
  | 0xEF :: 0xBB :: 0xBF :: r => utf8? r
  | bytes => utf8? bytes

/-- All readers, each tried if those before it fail. -/
def readers : List (List UInt8 → Option Text) :=
  [utf8?, Utf8.signed?, Utf16.decode?, Cp932.decode?]

/-- What is left after a mark is UTF-8 only if all of it is. -/
theorem Utf8.signed?_eq_none (h : utf8? bytes = none) : Utf8.signed? bytes = none := by
  fun_cases Utf8.signed? bytes with
  | case1 r =>
    -- What is a text after the mark is one with the mark as its first character.
    rw [Option.eq_none_iff_forall_ne_some]
    intro t ht
    have hr : r = Utf8.encode t := utf8?_eq_some_iff.1 ht
    refine utf8?_eq_none_iff.1 h ('\uFEFF' :: t) ?_
    rw [hr, ← Utf8.withMark_eq]
    rfl
  | case2 _ => exact h

/-- The second reader never decides. -/
theorem findSome?_readers (bytes : List UInt8) :
    readers.findSome? (· bytes) = decode? bytes := by
  cases h : utf8? bytes with
  | some t => simp only [readers, decode?, candidates, List.findSome?_cons, Scheme.decode?, h]
  | none =>
    have hsigned := Utf8.signed?_eq_none h
    simp only [readers, decode?, candidates, List.findSome?_cons, List.findSome?_nil,
      Scheme.decode?, h, hsigned]

/-! ## Writings -/

/-- How a text is written to a file. -/
inductive Writing where
  | utf8
  | utf8Marked
  | utf16Marked (order : Utf16.ByteOrder)
  deriving DecidableEq, Repr

/-- The bytes of a text. -/
def Writing.write : Writing → Text → List UInt8
  | utf8 => Utf8.encode
  | utf8Marked => Utf8.withMark
  | utf16Marked order => Utf16.withMark order

/-- What is read of the bytes: the text, or the text after a mark. -/
theorem decode?_write (w : Writing) (t : Text) :
    ∃ u, decode? (w.write t) = some u ∧ (u = t ∨ u = '\uFEFF' :: t) := by
  cases w with
  | utf8 => exact ⟨t, decode?_of_utf8 rfl, .inl rfl⟩
  | utf8Marked => exact ⟨'\uFEFF' :: t, decode?_of_utf8 (Utf8.withMark_eq t), .inr rfl⟩
  | utf16Marked order => exact ⟨t, decode?_withMark order t, .inl rfl⟩

theorem dropMarks_cons_mark (t : Text) : dropMarks ('\uFEFF' :: t) = dropMarks t :=
  List.dropWhile_cons_of_pos (by decide)

theorem unmarkedText?_write (w : Writing) (t : Text) :
    unmarkedText? (w.write t) = some (dropMarks t) := by
  obtain ⟨u, hdecode, rfl | rfl⟩ := decode?_write w t
  · rw [unmarkedText?, hdecode, Option.map_some]
  · rw [unmarkedText?, hdecode, Option.map_some, dropMarks_cons_mark]

/-- **Settings files of any writing.**  A text that is written in UTF-8, with a mark or without
    one, or in UTF-16 after the mark of either order of bytes, is read less the marks at its
    beginning, by the readers of this library and by all readers in turn.  So the settings of
    the file are those of the text, and the file is never one that no encoding fits. -/
theorem written_unmarked (w : Writing) (t : Text) :
    unmarkedText? (w.write t) = some (t.dropWhile (· == '\uFEFF')) ∧
    (readers.findSome? (· (w.write t))).map dropMarks = some (t.dropWhile (· == '\uFEFF')) ∧
    ∀ (yaml : Settings.Reader) (path : Path), Settings.ofBytes yaml path (w.write t) =
      Settings.ofText ((Settings.Format.ofPath path).reader yaml) path
        (t.dropWhile (· == '\uFEFF')) := by
  have hread := unmarkedText?_write w t
  refine ⟨hread, ?_, ?_⟩
  · rw [findSome?_readers]
    exact hread
  · intro yaml path
    unfold Settings.ofBytes
    rw [hread]
    rfl

end Kousei.Encoding
