import Kousei.Proofs.Encoding.Share

/-! # UTF-8

    The bytes of a text in UTF-8, and what is known of them: the text can be
    told from its bytes (`utf8?_eq_some_iff`), no byte is FE or FF
    (`utf8?_eq_none_of_mem`), and the bytes of a plain text are no control
    bytes (`Utf8.isBinaryByte_of_mem_encode`). -/

namespace Kousei.Encoding

theorem toNat_charOfNat {n : Nat} (h : n.isValidChar) : (Char.ofNat n).toNat = n := by
  rw [Char.ofNat, dif_pos h]
  rfl

namespace Utf8

/-- The bytes of a text in UTF-8. -/
def encode (t : Text) : List UInt8 := t.flatMap String.utf8EncodeChar

/-- A byte is the number of its character, or it is beyond ASCII. -/
theorem toNat_of_mem_utf8EncodeChar {c : Char} {b : UInt8} (h : b ∈ String.utf8EncodeChar c) :
    (b.toNat = c.toNat ∧ b.toNat < 128) ∨ (128 ≤ b.toNat ∧ b.toNat < 248) := by
  have htoNat (n : Nat) : (UInt8.ofNat n).toNat = n % 256 := UInt8.toNat_ofNat'
  have hc : c.toNat = c.val.toNat := rfl
  rw [hc]
  unfold String.utf8EncodeChar at h
  generalize c.val.toNat = v at h ⊢
  dsimp only at h
  -- One case for every number of bytes.
  split at h
  · obtain rfl : b = _ := List.mem_singleton.1 h
    rw [htoNat]
    omega
  · refine .inr ?_
    split at h
    · simp only [List.mem_cons, List.not_mem_nil, or_false] at h
      obtain rfl | rfl := h <;> rw [htoNat] <;> omega
    · split at h
      · simp only [List.mem_cons, List.not_mem_nil, or_false] at h
        obtain rfl | rfl | rfl := h <;> rw [htoNat] <;> omega
      · simp only [List.mem_cons, List.not_mem_nil, or_false] at h
        obtain rfl | rfl | rfl | rfl := h <;> rw [htoNat] <;> omega

theorem toNat_lt_of_mem_encode {t : Text} {b : UInt8} (h : b ∈ encode t) : b.toNat < 248 := by
  obtain ⟨c, -, hb⟩ := List.mem_flatMap.1 h
  have := toNat_of_mem_utf8EncodeChar hb
  omega

/-- The bytes of a plain text are no control bytes. -/
theorem isBinaryByte_of_mem_encode {t : Text} (ht : Plain t) {b : UInt8} (h : b ∈ encode t) :
    isBinaryByte b = false := by
  obtain ⟨c, hc, hb⟩ := List.mem_flatMap.1 h
  obtain ⟨hchar, -⟩ | ⟨hlow, -⟩ := toNat_of_mem_utf8EncodeChar hb
  · exact isBinaryByte_of_isPlainChar hchar (ht c hc)
  · exact isBinaryByte_eq_false (.inl (by omega))

end Utf8

theorem utf8?_eq_some_iff {bytes : List UInt8} {t : Text} :
    utf8? bytes = some t ↔ bytes = Utf8.encode t := by
  have harray : (⟨bytes.toArray⟩ : ByteArray) = bytes.toByteArray :=
    ByteArray.ext List.data_toByteArray.symm
  unfold utf8? String.fromUTF8?
  rw [harray]
  constructor
  · intro h
    split at h
    case isTrue hvalid =>
      obtain rfl : (String.fromUTF8 bytes.toByteArray hvalid).toList = t := by simpa using h
      have hencode : (String.fromUTF8 bytes.toByteArray hvalid).toList.utf8Encode =
          bytes.toByteArray := String.utf8Encode_toList
      exact (List.toByteArray_inj.1 hencode).symm
    case isFalse => cases h
  · rintro rfl
    have hvalid : (Utf8.encode t).toByteArray.IsValidUTF8 := ⟨t, rfl⟩
    have htext : String.fromUTF8 (Utf8.encode t).toByteArray hvalid = String.ofList t :=
      String.toByteArray_inj.1 String.toByteArray_ofList.symm
    rw [dif_pos hvalid, htext, Option.map_some, String.toList_ofList]

/-- Bytes are not those of a text in UTF-8 if one of them is FE or FF. -/
theorem utf8?_eq_none_of_mem {bytes : List UInt8} {b : UInt8} (hb : b ∈ bytes)
    (hlarge : 248 ≤ b.toNat) : utf8? bytes = none := by
  rw [Option.eq_none_iff_forall_ne_some]
  intro t ht
  rw [utf8?_eq_some_iff] at ht
  have := Utf8.toNat_lt_of_mem_encode (ht ▸ hb)
  omega

end Kousei.Encoding
