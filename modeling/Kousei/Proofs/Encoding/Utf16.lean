import Kousei.Proofs.Encoding.Utf8

/-! # UTF-16

    The bytes of a text in UTF-16, in the order of the bytes that a mark
    tells or in that of files without a mark.  A text is read from bytes
    exactly if it was written to them so (`decode?_eq_some_iff`). -/

namespace Kousei.Encoding.Utf16

/-- The units of a character: its number, or a pair for a number that is
    beyond the first plane. -/
def unitsOf (c : Char) : List Nat :=
  if c.toNat < 0x10000 then [c.toNat]
  else [0xD800 + (c.toNat - 0x10000) / 0x400, 0xDC00 + (c.toNat - 0x10000) % 0x400]

def bytesOf (order : ByteOrder) (u : Nat) : List UInt8 :=
  match order with
  | .lowFirst => [.ofNat u, .ofNat (u / 0x100)]
  | .highFirst => [.ofNat (u / 0x100), .ofNat u]

/-- The bytes of a text without a mark. -/
def encode (order : ByteOrder) (t : Text) : List UInt8 :=
  (t.flatMap unitsOf).flatMap (bytesOf order)

/-- The byte order mark of an order. -/
def mark (order : ByteOrder) : List UInt8 := bytesOf order 0xFEFF

/-- The bytes of a text after a mark. -/
def withMark (order : ByteOrder) (t : Text) : List UInt8 := mark order ++ encode order t

/-- Bytes that a text is written as: with the mark of an order, or without
    one and the lower byte first.  Without one, the bytes must not begin
    with what would be taken for a mark. -/
inductive Spells : List UInt8 → Text → Prop where
  | marked (order : ByteOrder) (t : Text) : Spells (withMark order t) t
  | unmarked (t : Text) (h : ∀ order, ¬ mark order <+: encode .lowFirst t) :
    Spells (encode .lowFirst t) t

variable {order : ByteOrder} {bytes : List UInt8} {us : List Nat} {t : Text}

/-! ## Bytes and units -/

theorem ofNat_eq_of_mod {n : Nat} {b : UInt8} (h : n % 0x100 = b.toNat) : UInt8.ofNat n = b := by
  rw [← UInt8.toNat_inj, UInt8.toNat_ofNat', h]

theorem bytesOf_unit (a b : UInt8) : bytesOf order (unit order a b) = [a, b] := by
  have ha := a.toNat_lt
  have hb := b.toNat_lt
  cases order <;> simp only [unit, bytesOf, List.cons.injEq, and_true]
  · exact ⟨ofNat_eq_of_mod (by omega), ofNat_eq_of_mod (by omega)⟩
  · exact ⟨ofNat_eq_of_mod (by omega), ofNat_eq_of_mod (by omega)⟩

theorem unit_lt (a b : UInt8) : unit order a b < 0x10000 := by
  have ha := a.toNat_lt
  have hb := b.toNat_lt
  cases order <;> simp only [unit] <;> omega

theorem units?_bytesOf_append {u : Nat} (hu : u < 0x10000) :
    units? order (bytesOf order u ++ bytes) = (units? order bytes).map (u :: ·) := by
  have hunit : ∀ {a b : UInt8}, bytesOf order u = [a, b] → unit order a b = u := by
    intro a b h
    cases order <;>
    · obtain ⟨rfl, rfl⟩ : _ ∧ _ := by simpa [bytesOf] using h
      simp only [unit, UInt8.toNat_ofNat']
      omega
  cases order with
  | lowFirst =>
    change (units? _ bytes).map (unit _ _ _ :: ·) = _
    rw [hunit rfl]
  | highFirst =>
    change (units? _ bytes).map (unit _ _ _ :: ·) = _
    rw [hunit rfl]

theorem units?_eq_some_iff :
    units? order bytes = some us ↔ bytes = us.flatMap (bytesOf order) ∧ ∀ u ∈ us, u < 0x10000 := by
  constructor
  · intro h
    fun_induction units? order bytes generalizing us with
    | case1 =>
      cases h
      exact ⟨rfl, List.forall_mem_nil _⟩
    | case2 => cases h
    | case3 a b r ih =>
      obtain ⟨us', hus, rfl⟩ := Option.map_eq_some_iff.1 h
      obtain ⟨hr, hlt⟩ := ih hus
      refine ⟨?_, List.forall_mem_cons.2 ⟨unit_lt a b, hlt⟩⟩
      rw [List.flatMap_cons, bytesOf_unit, ← hr]
      rfl
  · rintro ⟨rfl, hlt⟩
    induction us with
    | nil => rfl
    | cons u us ih =>
      obtain ⟨hu, hus⟩ := List.forall_mem_cons.1 hlt
      rw [List.flatMap_cons, units?_bytesOf_append hu, ih hus]
      rfl

/-! ## Units and texts -/

theorem toNat_lt (c : Char) : c.toNat < 0x110000 := by
  have hvalid : c.toNat < 0xD800 ∨ 0xDFFF < c.toNat ∧ c.toNat < 0x110000 := c.valid
  omega

theorem unitsOf_lt (c : Char) : ∀ u ∈ unitsOf c, u < 0x10000 := by
  have hc := toNat_lt c
  unfold unitsOf
  intro u hu
  split at hu
  · obtain rfl := List.mem_singleton.1 hu
    assumption
  · simp only [List.mem_cons, List.not_mem_nil, or_false] at hu
    omega

theorem text?_cons {u : Nat} (hhigh : isHigh u = false) (hlow : isLow u = false) :
    text? (u :: us) = (text? us).map (Char.ofNat u :: ·) := by
  rw [text?.eq_def]
  simp only [hhigh, hlow, Bool.false_eq_true, if_false]

theorem text?_pair {u v : Nat} (hhigh : isHigh u = true) (hlow : isLow v = true) :
    text? (u :: v :: us) = (text? us).map (ofPair u v :: ·) := by
  rw [text?.eq_def]
  simp only [hhigh, hlow, if_true]

theorem isHigh_iff {u : Nat} : isHigh u = true ↔ 0xD800 ≤ u ∧ u < 0xDC00 := by
  simp only [isHigh, Bool.and_eq_true, decide_eq_true_eq]

theorem isLow_iff {u : Nat} : isLow u = true ↔ 0xDC00 ≤ u ∧ u < 0xE000 := by
  simp only [isLow, Bool.and_eq_true, decide_eq_true_eq]

theorem toNat_ofPair {u v : Nat} (hhigh : isHigh u = true) (hlow : isLow v = true) :
    (ofPair u v).toNat = 0x10000 + (u - 0xD800) * 0x400 + (v - 0xDC00) := by
  rw [isHigh_iff] at hhigh
  rw [isLow_iff] at hlow
  rw [ofPair, toNat_charOfNat]
  right
  omega

theorem text?_unitsOf_append (c : Char) :
    text? (unitsOf c ++ us) = (text? us).map (c :: ·) := by
  have hvalid : c.toNat < 0xD800 ∨ 0xDFFF < c.toNat ∧ c.toNat < 0x110000 := c.valid
  unfold unitsOf
  split
  case isTrue hfirst =>
    have hhigh : isHigh c.toNat = false := by
      rw [Bool.eq_false_iff, ne_eq, isHigh_iff]
      omega
    have hlow : isLow c.toNat = false := by
      rw [Bool.eq_false_iff, ne_eq, isLow_iff]
      omega
    rw [List.singleton_append, text?_cons hhigh hlow, Char.ofNat_toNat]
  case isFalse hfirst =>
    have hhigh : isHigh (0xD800 + (c.toNat - 0x10000) / 0x400) = true := by
      rw [isHigh_iff]
      omega
    have hlow : isLow (0xDC00 + (c.toNat - 0x10000) % 0x400) = true := by
      rw [isLow_iff]
      omega
    have hpair : ofPair (0xD800 + (c.toNat - 0x10000) / 0x400)
        (0xDC00 + (c.toNat - 0x10000) % 0x400) = c := by
      rw [← Char.toNat_inj, toNat_ofPair hhigh hlow]
      omega
    change text? (_ :: _ :: us) = _
    rw [text?_pair hhigh hlow, hpair]

theorem text?_flatMap_unitsOf (t : Text) : text? (t.flatMap unitsOf) = some t := by
  induction t with
  | nil => rfl
  | cons c t ih => rw [List.flatMap_cons, text?_unitsOf_append, ih, Option.map_some]

theorem eq_flatMap_unitsOf (h : text? us = some t) (hlt : ∀ u ∈ us, u < 0x10000) :
    us = t.flatMap unitsOf := by
  fun_induction text? us generalizing t with
  | case1 =>
    cases h
    rfl
  | case2 u hhigh => cases h
  | case3 u hhigh v r hlow ih =>
    obtain ⟨t', ht', rfl⟩ := Option.map_eq_some_iff.1 h
    have hpair : unitsOf (ofPair u v) = [u, v] := by
      have hnumber := toNat_ofPair hhigh hlow
      rw [isHigh_iff] at hhigh
      rw [isLow_iff] at hlow
      generalize hm : (ofPair u v).toNat = m at hnumber
      have hhalves : 0xD800 + (m - 0x10000) / 0x400 = u ∧ 0xDC00 + (m - 0x10000) % 0x400 = v := by
        omega
      rw [unitsOf, hm, if_neg (by omega), hhalves.1, hhalves.2]
    rw [List.flatMap_cons, hpair, ← ih ht' (fun w hw => hlt w (by simp [hw]))]
    rfl
  | case4 u hhigh v r hlow => cases h
  | case5 u r hhigh hlow => cases h
  | case6 u r hhigh hlow ih =>
    obtain ⟨t', ht', rfl⟩ := Option.map_eq_some_iff.1 h
    have hsingle : unitsOf (Char.ofNat u) = [u] := by
      have hu : u < 0x10000 := hlt u List.mem_cons_self
      rw [isHigh_iff] at hhigh
      rw [isLow_iff] at hlow
      have hvalid : u < 0xD800 ∨ 0xDFFF < u ∧ u < 0x110000 := by omega
      rw [unitsOf, toNat_charOfNat hvalid, if_pos hu]
    rw [List.flatMap_cons, hsingle, ← ih ht' (fun w hw => hlt w (by simp [hw]))]
    rfl

/-! ## Texts and bytes -/

theorem text?_units? :
    (units? order bytes).bind text? = some t ↔ bytes = encode order t := by
  constructor
  · intro h
    obtain ⟨us, hus, ht⟩ := Option.bind_eq_some_iff.1 h
    obtain ⟨rfl, hlt⟩ := units?_eq_some_iff.1 hus
    rw [encode, ← eq_flatMap_unitsOf ht hlt]
  · rintro rfl
    have hlt : ∀ u ∈ t.flatMap unitsOf, u < 0x10000 := by
      intro u hu
      obtain ⟨c, -, hc⟩ := List.mem_flatMap.1 hu
      exact unitsOf_lt c u hc
    rw [encode, units?_eq_some_iff.2 ⟨rfl, hlt⟩, Option.bind_some, text?_flatMap_unitsOf]

/-- Bytes begin with the mark of the order that is taken from them, or with
    none. -/
theorem orderOf_cases (bytes : List UInt8) :
    (∃ order rest, bytes = mark order ++ rest ∧ orderOf bytes = (order, rest)) ∨
      ((∀ order, ¬ mark order <+: bytes) ∧ orderOf bytes = (.lowFirst, bytes)) := by
  fun_cases orderOf bytes with
  | case1 r => exact .inl ⟨.lowFirst, r, rfl, rfl⟩
  | case2 r => exact .inl ⟨.highFirst, r, rfl, rfl⟩
  | case3 _ hlow hhigh =>
    refine .inr ⟨?_, rfl⟩
    rintro (_ | _) ⟨rest, rfl⟩
    · exact hlow rest rfl
    · exact hhigh rest rfl

theorem orderOf_mark (order : ByteOrder) (rest : List UInt8) :
    orderOf (mark order ++ rest) = (order, rest) := by
  cases order <;> rfl

theorem decode?_eq_some_iff : decode? bytes = some t ↔ Spells bytes t := by
  have hdecode {order : ByteOrder} {rest : List UInt8} (h : orderOf bytes = (order, rest)) :
      decode? bytes = some t ↔ rest = encode order t := by
    rw [← text?_units?, decode?, h]
    rfl
  constructor
  · intro h
    obtain ⟨order, rest, rfl, horder⟩ | ⟨hmark, horder⟩ := orderOf_cases bytes
    · obtain rfl := (hdecode horder).1 h
      exact .marked order t
    · obtain rfl := (hdecode horder).1 h
      exact .unmarked t hmark
  · intro h
    cases h with
    | marked order => exact (hdecode (orderOf_mark order _)).2 rfl
    | unmarked _ hmark =>
      obtain ⟨order, rest, hbytes, -⟩ | ⟨-, horder⟩ := orderOf_cases (encode .lowFirst t)
      · exact absurd ⟨rest, hbytes.symm⟩ (hmark order)
      · exact (hdecode horder).2 rfl

/-! ## Numbers of bytes -/

theorem length_bytesOf (order : ByteOrder) (u : Nat) : (bytesOf order u).length = 2 := by
  cases order <;> rfl

theorem encode_cons (order : ByteOrder) (c : Char) (t : Text) :
    encode order (c :: t) = encode order [c] ++ encode order t := by
  rw [← List.singleton_append, encode, List.flatMap_append, List.flatMap_append, encode, encode]

theorem encode_singleton {c : Char} (hc : c.toNat < 0x10000) :
    encode order [c] = bytesOf order c.toNat := by
  rw [encode, List.flatMap_singleton, unitsOf, if_pos hc, List.flatMap_singleton]

theorem length_encode (order : ByteOrder) (t : Text) :
    (encode order t).length = 2 * (t.flatMap unitsOf).length := by
  unfold encode
  induction t.flatMap unitsOf with
  | nil => rfl
  | cons u us ih =>
    rw [List.flatMap_cons, List.length_append, length_bytesOf, ih, List.length_cons]
    omega

theorem length_le_units (t : Text) : t.length ≤ (t.flatMap unitsOf).length := by
  induction t with
  | nil => exact Nat.le_refl 0
  | cons c t ih =>
    have hc : 1 ≤ (unitsOf c).length := by
      unfold unitsOf
      split <;> exact Nat.le_add_left 1 _
    rw [List.flatMap_cons, List.length_append, List.length_cons]
    omega

/-- Two bytes or more for every character. -/
theorem two_mul_length_le (order : ByteOrder) (t : Text) :
    2 * t.length ≤ (encode order t).length := by
  rw [length_encode]
  exact Nat.mul_le_mul_left 2 (length_le_units t)

theorem length_withMark (order : ByteOrder) (t : Text) :
    (withMark order t).length = 2 + (encode order t).length := by
  rw [withMark, List.length_append, mark, length_bytesOf]

theorem Spells.length_even (h : Spells bytes t) : bytes.length % 2 = 0 := by
  cases h with
  | marked order =>
    rw [length_withMark, length_encode]
    omega
  | unmarked =>
    rw [length_encode]
    omega

end Kousei.Encoding.Utf16
