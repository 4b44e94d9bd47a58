import Kousei.Proofs.Encoding.Cp932
import Kousei.Proofs.Encoding.Utf16

/-! # What is read of a file

    The first encoding that all bytes of a file fit decides what is read of
    it, so an encoding gives back what was written in it only if the bytes
    fit none before it.

    * What was written in code page 932 and is not UTF-8 is read back exactly
      if it is not UTF-16 either, and no character was written as another one
      (`cp932_readBack_iff`).  UTF-16 without a mark is fitted by most bytes
      that are even in number.
    * A mark before UTF-8 is always read as a character of the text.  One
      before UTF-16 never is, but the file is read only if less than three
      tenths of its bytes are control bytes (`mark_read`). -/

namespace Kousei.Encoding

variable {bytes : List UInt8} {t u : Text}

/-! ## Order of the encodings -/

theorem decode?_of_utf8 (h : bytes = Utf8.encode t) : decode? bytes = some t := by
  have hutf8 := utf8?_eq_some_iff.2 h
  simp [decode?, candidates, Scheme.decode?, hutf8]

theorem decode?_of_utf16 (hutf8 : utf8? bytes = none) (h : Utf16.Spells bytes t) :
    decode? bytes = some t := by
  have hutf16 := Utf16.decode?_eq_some_iff.2 h
  simp [decode?, candidates, Scheme.decode?, hutf8, hutf16]

theorem decode?_of_cp932 (hutf8 : utf8? bytes = none) (hutf16 : ∀ u, ¬ Utf16.Spells bytes u) :
    decode? bytes = Cp932.decode? bytes := by
  have hnone : Utf16.decode? bytes = none := by
    rw [Option.eq_none_iff_forall_ne_some]
    intro u hu
    exact hutf16 u (Utf16.decode?_eq_some_iff.1 hu)
  cases h : Cp932.decode? bytes <;> simp [decode?, candidates, Scheme.decode?, hutf8, hnone, h]

theorem utf8?_eq_none_iff : utf8? bytes = none ↔ ∀ u, bytes ≠ Utf8.encode u := by
  simp only [Option.eq_none_iff_forall_ne_some, ne_eq, utf8?_eq_some_iff]

theorem readText?_of_noControl (h : ∀ b ∈ bytes, isBinaryByte b = false) :
    readText? bytes = decode? bytes := by
  rw [readText?, if_pos (isProbablyText_of_noControl h)]

/-! ## Legacy files -/

/-- The bytes of no character are the same in code page 932 and in UTF-16. -/
theorem code_ne_encode {c : Char} {bs : List UInt8} (h : Cp932.Code (Cp932.standIn c) bs) :
    bs ≠ Utf16.encode .lowFirst [c] := by
  rintro rfl
  by_cases hc : c.toNat < 0x10000
  · rw [Utf16.encode_singleton hc] at h
    have hlow : (UInt8.ofNat c.toNat).toNat = c.toNat % 0x100 := UInt8.toNat_ofNat'
    have hhigh : (UInt8.ofNat (c.toNat / 0x100)).toNat = c.toNat / 0x100 := by
      rw [UInt8.toNat_ofNat']
      omega
    obtain hsame | ⟨-, hsmall⟩ := Cp932.standIn_cases c
    · have hne := h.toNat_ne
      rw [hsame, hlow, hhigh] at hne
      omega
    · have hpair := h.pair_le.2
      rw [hhigh] at hpair
      omega
  · have hlength := h.length_le
    rw [Utf16.length_encode, List.flatMap_singleton, Utf16.unitsOf, if_neg hc, List.length_cons,
      List.length_singleton] at hlength
    omega

/-- A text of code page 932 is not what UTF-16 takes its bytes for. -/
theorem ne_of_spells (hwritten : Cp932.encode? t = some bytes) (ht : t ≠ [])
    (h : Utf16.Spells bytes u) : u.length ≤ t.length ∧ u ≠ t := by
  have hbytes := Cp932.length_le_two_mul hwritten
  cases h with
  | marked order =>
    have hu := Utf16.two_mul_length_le order u
    rw [Utf16.length_withMark] at hbytes
    refine ⟨by omega, ?_⟩
    rintro rfl
    omega
  | unmarked _ hmark =>
    have hu := Utf16.two_mul_length_le .lowFirst u
    refine ⟨by omega, ?_⟩
    rintro rfl
    -- Both spend two bytes on every character, so they do on the first one.
    obtain ⟨c, r, rfl⟩ := List.exists_cons_of_ne_nil ht
    obtain ⟨bs, rest, hsplit, hcode, hrest⟩ := Cp932.encode?_cons hwritten
    have hbs := hcode.length_le
    have hrest' := Cp932.length_le_two_mul hrest
    have hc := Utf16.two_mul_length_le .lowFirst [c]
    have hr := Utf16.two_mul_length_le .lowFirst r
    rw [Utf16.encode_cons] at hsplit
    have hlength := congrArg List.length hsplit
    rw [List.length_append, List.length_append] at hlength
    rw [List.length_singleton] at hc
    obtain ⟨hfirst, -⟩ := List.append_inj hsplit (by omega)
    exact code_ne_encode hcode hfirst.symm

theorem ne_nil_of_not_utf8 (hwritten : Cp932.encode? t = some bytes)
    (hutf8 : ∀ u, bytes ≠ Utf8.encode u) : t ≠ [] := by
  rintro rfl
  cases hwritten
  exact hutf8 [] rfl

theorem eq_of_dropMarks_eq (h : dropMarks u = t) (hlength : u.length ≤ t.length) : u = t := by
  have hsublist : List.Sublist (dropMarks u) u := List.dropWhile_sublist _
  rw [h] at hsublist
  exact (hsublist.eq_of_length_le hlength).symm

/-- No text of code page 932 begins with a byte order mark. -/
theorem dropMarks_map_standIn (hwritten : Cp932.encode? t = some bytes) :
    dropMarks (t.map Cp932.standIn) = t.map Cp932.standIn := by
  cases t with
  | nil => rfl
  | cons c r =>
    obtain ⟨bs, rest, -, hcode, -⟩ := Cp932.encode?_cons hwritten
    exact List.dropWhile_cons_of_neg (by simpa using hcode.ne_mark)

/-- What is read of bytes that UTF-16 does not fit. -/
theorem cp932_read (ht : Plain t) (hwritten : Cp932.encode? t = some bytes)
    (hutf8 : ∀ u, bytes ≠ Utf8.encode u) (hutf16 : ∀ u, ¬ Utf16.Spells bytes u) :
    readText? bytes = some (t.map Cp932.standIn) ∧
      unmarkedText? bytes = some (t.map Cp932.standIn) := by
  have hdecode : decode? bytes = some (t.map Cp932.standIn) := by
    rw [decode?_of_cp932 (utf8?_eq_none_iff.2 hutf8) hutf16, Cp932.decode?_eq_of_encode? hwritten]
  constructor
  · rw [readText?_of_noControl (Cp932.isBinaryByte_of_encode? ht hwritten), hdecode]
  · rw [unmarkedText?, hdecode, Option.map_some, dropMarks_map_standIn hwritten]

/-- What is read of bytes that UTF-16 fits as well. -/
theorem cp932_misread (ht : Plain t) (hwritten : Cp932.encode? t = some bytes)
    (hutf8 : ∀ u, bytes ≠ Utf8.encode u) (hutf16 : Utf16.Spells bytes u) :
    readText? bytes = some u ∧ unmarkedText? bytes = some (dropMarks u) := by
  have hdecode := decode?_of_utf16 (utf8?_eq_none_iff.2 hutf8) hutf16
  constructor
  · rw [readText?_of_noControl (Cp932.isBinaryByte_of_encode? ht hwritten), hdecode]
  · rw [unmarkedText?, hdecode, Option.map_some]

theorem map_standIn_eq_iff : t.map Cp932.standIn = t ↔ ∀ c ∈ t, Cp932.standIn c = c := by
  have h := List.map_eq_map_iff (f := Cp932.standIn) (g := id) (l := t)
  rwa [List.map_id] at h

/-- A plain text that is written in code page 932, but not so that it is
    UTF-8, is read back exactly if its bytes are not those of a text in
    UTF-16, and none of its characters is written as another one.  The same
    holds of a file of settings.  Bytes that UTF-16 fits are read as what
    they are in UTF-16. -/
theorem cp932_readBack_iff (ht : Plain t) (hwritten : Cp932.encode? t = some bytes)
    (hutf8 : ∀ u, bytes ≠ Utf8.encode u) :
    (readText? bytes = some t ↔
      (∀ u, ¬ Utf16.Spells bytes u) ∧ ∀ c ∈ t, Cp932.standIn c = c) ∧
    (unmarkedText? bytes = some t ↔ readText? bytes = some t) ∧
    ∀ u, Utf16.Spells bytes u → readText? bytes = some u := by
  have hnil := ne_nil_of_not_utf8 hwritten hutf8
  by_cases hutf16 : ∃ u, Utf16.Spells bytes u
  · obtain ⟨u, hu⟩ := hutf16
    obtain ⟨hread, hunmarked⟩ := cp932_misread ht hwritten hutf8 hu
    obtain ⟨hlength, hne⟩ := ne_of_spells hwritten hnil hu
    have hdropped : dropMarks u ≠ t := fun h => hne (eq_of_dropMarks_eq h hlength)
    refine ⟨?_, ?_, fun v hv => (cp932_misread ht hwritten hutf8 hv).1⟩
    · rw [hread, Option.some_inj]
      exact iff_of_false hne (fun h => h.1 u hu)
    · rw [hread, hunmarked, Option.some_inj, Option.some_inj]
      exact iff_of_false hdropped hne
  · have hnone : ∀ u, ¬ Utf16.Spells bytes u := fun u hu => hutf16 ⟨u, hu⟩
    obtain ⟨hread, hunmarked⟩ := cp932_read ht hwritten hutf8 hnone
    refine ⟨?_, ?_, fun u hu => absurd hu (hnone u)⟩
    · rw [hread, Option.some_inj, map_standIn_eq_iff]
      exact ⟨fun h => ⟨hnone, h⟩, fun h => h.2⟩
    · rw [hread, hunmarked]

/-- Three half-width kana are an odd number of bytes. -/
theorem cp932_readBack_iff_of_kana :
    Cp932.encode? ['ｱ', 'ｲ', 'ｳ'] = some [0xB1, 0xB2, 0xB3] ∧
      readText? [0xB1, 0xB2, 0xB3] = some ['ｱ', 'ｲ', 'ｳ'] := by
  have hwritten : Cp932.encode? ['ｱ', 'ｲ', 'ｳ'] = some [0xB1, 0xB2, 0xB3] := by decide +kernel
  have hutf8 : ∀ u, [0xB1, 0xB2, 0xB3] ≠ Utf8.encode u := utf8?_eq_none_iff.1 (by decide +kernel)
  have hutf16 : ∀ u, ¬ Utf16.Spells [0xB1, 0xB2, 0xB3] u := by
    intro u hu
    exact absurd hu.length_even (by decide)
  exact ⟨hwritten,
    (cp932_readBack_iff (by decide) hwritten hutf8).1.2 ⟨hutf16, map_standIn_eq_iff.1 rfl⟩⟩

/-- The bytes of two half-width kana are those of one Korean syllable in
    UTF-16. -/
theorem cp932_not_readBack :
    Plain ['ｱ', 'ｲ'] ∧ Cp932.encode? ['ｱ', 'ｲ'] = some [0xB1, 0xB2] ∧
      (∀ u, [0xB1, 0xB2] ≠ Utf8.encode u) ∧
      readText? [0xB1, 0xB2] ≠ some ['ｱ', 'ｲ'] ∧
      unmarkedText? [0xB1, 0xB2] ≠ some ['ｱ', 'ｲ'] := by
  refine ⟨by decide, by decide +kernel, ?_, by decide +kernel, by decide +kernel⟩
  exact utf8?_eq_none_iff.1 (by decide +kernel)

/-! ## Byte order marks -/

/-- The bytes of a text in UTF-8 after a mark. -/
def Utf8.withMark (t : Text) : List UInt8 := [0xEF, 0xBB, 0xBF] ++ Utf8.encode t

theorem Utf8.withMark_eq (t : Text) : Utf8.withMark t = Utf8.encode ('\uFEFF' :: t) := rfl

/-- Neither mark of UTF-16 is UTF-8. -/
theorem utf8?_withMark (order : Utf16.ByteOrder) (t : Text) :
    utf8? (Utf16.withMark order t) = none := by
  have hmem : (0xFF : UInt8) ∈ Utf16.withMark order t := by
    cases order <;> simp [Utf16.withMark, Utf16.mark, Utf16.bytesOf]
  exact utf8?_eq_none_of_mem hmem (by decide)

theorem decode?_withMark (order : Utf16.ByteOrder) (t : Text) :
    decode? (Utf16.withMark order t) = some t :=
  decode?_of_utf16 (utf8?_withMark order t) (.marked order t)

theorem readText?_withMark (order : Utf16.ByteOrder) (t : Text) :
    readText? (Utf16.withMark order t) =
      if isProbablyText (Utf16.withMark order t) then some t else none := by
  rw [readText?, decode?_withMark]

/-- A plain text in UTF-8 is read with the mark that stands before it.  One in
    UTF-16 is read without its mark, unless the bytes are not taken for those
    of a text, which is so if three tenths of them are control bytes. -/
theorem mark_read (ht : Plain t) :
    readText? (Utf8.withMark t) = some ('\uFEFF' :: t) ∧
      ∀ order, readText? (Utf16.withMark order t) =
          (if isProbablyText (Utf16.withMark order t) then some t else none) ∧
        ((Utf16.withMark order t).length ≤ 2 ^ 50 →
          (readText? (Utf16.withMark order t) = some t ↔
            10 * (Utf16.withMark order t).countP isBinaryByte <
              3 * (Utf16.withMark order t).length)) := by
  constructor
  · have hplain : Plain ('\uFEFF' :: t) := List.forall_mem_cons.2 ⟨by decide, ht⟩
    rw [Utf8.withMark_eq, readText?_of_noControl (fun b => Utf8.isBinaryByte_of_mem_encode hplain)]
    exact decode?_of_utf8 rfl
  · intro order
    refine ⟨readText?_withMark order t, ?_⟩
    intro hsize
    have hne : Utf16.withMark order t ≠ [] := by
      have hmark := Utf16.length_withMark order t
      intro hnil
      rw [hnil, List.length_nil] at hmark
      omega
    have hshare := isProbablyText_iff hsize
    rw [readText?_withMark, ← hshare.trans (or_iff_right hne)]
    cases isProbablyText (Utf16.withMark order t) <;> simp

theorem mark_read_of_letter :
    Plain ['a'] ∧ readText? (Utf8.withMark ['a']) = some ['\uFEFF', 'a'] :=
  ⟨by decide, (mark_read (by decide)).1⟩

/-- A letter in UTF-8 is not read without its mark, and two letters in UTF-16
    are not read at all, since too many of their bytes are zero. -/
theorem mark_not_dropped :
    Plain ['a'] ∧ readText? (Utf8.withMark ['a']) ≠ some ['a'] ∧
      Plain ['a', 'b'] ∧ readText? (Utf16.withMark .lowFirst ['a', 'b']) = none :=
  ⟨by decide, by decide +kernel, by decide, by decide +kernel⟩

end Kousei.Encoding
