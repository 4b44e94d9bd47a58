import Kousei.Proofs.Encoding.Utf8
import Kousei.Proofs.Tree.Comments
import Mathlib.Order.Bounds.Defs

/-! # Bytes and characters

    The characters of a text begin at places in bytes that go up, each by the
    one to four bytes of the character before (`starts`).  The character of a
    place in bytes is the first that does not begin before it, so it is found
    by cutting this list in two: what lies below the place, and the rest
    (`Cut`).  There is one such cut only (`Cut.unique`).

    A search that halves the list finds the cut (`lowerBound_cut`), and the
    recursion over the text finds it as well (`charIndex_cut`).  For a place
    at which a character begins, this leads back to the character, and what
    is cut out of the text between two of them is written in the bytes between
    them (`charIndex_least`). -/

namespace Kousei.Text

open Encoding

variable {t : Text} {b : Int} {i j : Nat}

/-! ## Beginnings of characters -/

/-- The place in bytes of a place in characters: the number of bytes before it. -/
def startOf (t : Text) (i : Nat) : Nat := (Utf8.encode (t.take i)).length

/-- The places in bytes at which the characters begin, and the end of the text. -/
def starts (t : Text) : List Nat := t.scanl (fun n c => n + (String.utf8EncodeChar c).length) 0

theorem length_encode_cons (c : Char) (t : Text) :
    (Utf8.encode (c :: t)).length = c.utf8Size + (Utf8.encode t).length := by
  rw [Utf8.encode, List.flatMap_cons, List.length_append, String.length_utf8EncodeChar, Utf8.encode]

theorem foldl_encode (t : Text) (n : Nat) :
    t.foldl (fun n c => n + (String.utf8EncodeChar c).length) n = n + (Utf8.encode t).length := by
  induction t generalizing n with
  | nil => rfl
  | cons c r ih =>
    rw [List.foldl_cons, ih, length_encode_cons, String.length_utf8EncodeChar, Nat.add_assoc]

@[simp] theorem length_starts (t : Text) : t.starts.length = t.length + 1 := List.length_scanl

theorem getElem?_starts (hi : i ≤ t.length) : t.starts[i]? = some (t.startOf i) := by
  rw [starts, List.getElem?_scanl, if_pos hi, foldl_encode, Nat.zero_add, startOf]

@[simp] theorem startOf_zero (t : Text) : t.startOf 0 = 0 := rfl

theorem startOf_cons_succ (c : Char) (t : Text) (i : Nat) :
    startOf (c :: t) (i + 1) = c.utf8Size + t.startOf i := by
  rw [startOf, List.take_succ_cons, length_encode_cons, startOf]

theorem startOf_length (t : Text) : t.startOf t.length = (Utf8.encode t).length := by
  rw [startOf, List.take_length]

/-- Each character has a byte at least. -/
theorem startOf_lt (hij : i < j) (hj : j ≤ t.length) : t.startOf i < t.startOf j := by
  induction t generalizing i j with
  | nil => simp at hj; omega
  | cons c r ih =>
    obtain ⟨j, rfl⟩ : ∃ k, j = k + 1 := ⟨j - 1, by omega⟩
    have hpos := c.utf8Size_pos
    rw [startOf_cons_succ]
    cases i with
    | zero => rw [startOf_zero]; omega
    | succ i =>
      have hr := ih (Nat.lt_of_succ_lt_succ hij) (Nat.le_of_succ_le_succ hj)
      rw [startOf_cons_succ]
      omega

theorem startOf_le (hij : i ≤ j) (hj : j ≤ t.length) : t.startOf i ≤ t.startOf j := by
  rcases Nat.eq_or_lt_of_le hij with rfl | hlt
  · exact Nat.le_refl _
  · exact Nat.le_of_lt (startOf_lt hlt hj)

/-! ## Cuts -/

/-- The first `n` of the characters begin before the place `b`, and the others, with the end
    of the text, do not. -/
structure Cut (t : Text) (b : Int) (n : Nat) : Prop where
  le_length : n ≤ t.length + 1
  below : ∀ i < n, t.startOf i < b
  above : ∀ i, n ≤ i → i ≤ t.length → b ≤ t.startOf i

theorem Cut.unique {n m : Nat} (hn : t.Cut b n) (hm : t.Cut b m) : n = m := by
  -- An index between the two would be on both sides.
  rcases Nat.lt_trichotomy n m with hlt | heq | hlt
  · have hbelow := hm.below n hlt
    have habove := hn.above n (Nat.le_refl n) (by have := hm.le_length; omega)
    omega
  · exact heq
  · have hbelow := hn.below m hlt
    have habove := hm.above m (Nat.le_refl m) (by have := hn.le_length; omega)
    omega

/-! ## Recursion over the text -/

theorem charIndex_le_length (t : Text) (b : Int) : t.charIndex b ≤ t.length + 1 := by
  induction t generalizing b with
  | nil => unfold charIndex; split <;> simp
  | cons c r ih =>
    have hr := ih (b - c.utf8Size)
    unfold charIndex
    split
    · exact Nat.zero_le _
    · rw [List.length_cons]
      omega

/-- Characters and bytes: an index is not below that of a place exactly if its character does
    not begin before the place. -/
theorem charIndex_le_iff (hi : i ≤ t.length) : t.charIndex b ≤ i ↔ b ≤ t.startOf i := by
  induction t generalizing b i with
  | nil =>
    obtain rfl := Nat.le_zero.1 hi
    unfold charIndex
    split <;> simp <;> omega
  | cons c r ih =>
    unfold charIndex
    cases i with
    | zero =>
      rw [startOf_zero]
      split <;> omega
    | succ i =>
      have hr := ih (b := b - c.utf8Size) (Nat.le_of_succ_le_succ hi)
      rw [startOf_cons_succ]
      split <;> omega

theorem charIndex_cut (t : Text) (b : Int) : t.Cut b (t.charIndex b) where
  le_length := charIndex_le_length t b
  below := by
    intro i hi
    have hle : i ≤ t.length := by
      have := charIndex_le_length t b
      omega
    rw [← Int.not_le, ← charIndex_le_iff hle]
    omega
  above := fun i hi hle => (charIndex_le_iff hle).1 hi

/-- The place at which a character begins leads back to the character. -/
theorem charIndex_startOf (hi : i ≤ t.length) : t.charIndex (t.startOf i) = i := by
  refine (charIndex_cut t _).unique ⟨by omega, ?_, ?_⟩
  · intro j hj
    exact Int.ofNat_lt.2 (startOf_lt hj hi)
  · intro j hij hj
    exact Int.ofNat_le.2 (startOf_le hij hj)

/-! ## Search by halves -/

/-- The first index from `lo` up to `hi` whose number in the list is not below `b`, found by
    halving what is between them. -/
def lowerBound (starts : List Nat) (b : Int) (lo hi : Nat) : Nat :=
  if lo < hi then
    let middle := (lo + hi) / 2
    if starts.getD middle 0 < b then lowerBound starts b (middle + 1) hi
    else lowerBound starts b lo middle
  else lo
termination_by hi - lo

theorem getD_starts (hi : i ≤ t.length) : t.starts.getD i 0 = t.startOf i := by
  rw [List.getD_eq_getElem?_getD, getElem?_starts hi, Option.getD_some]

/-- What the search keeps: below `lo` all characters begin before the place, and from `hi` on
    none does. -/
theorem lowerBound_cut_of (t : Text) (b : Int) (lo hi : Nat) (hle : lo ≤ hi)
    (hlength : hi ≤ t.length + 1) (hbelow : ∀ i < lo, t.startOf i < b)
    (habove : ∀ i, hi ≤ i → i ≤ t.length → b ≤ t.startOf i) :
    t.Cut b (lowerBound t.starts b lo hi) := by
  fun_induction lowerBound t.starts b lo hi with
  | case1 lo hi hlt middle hmiddle ih =>
    have hin : middle ≤ t.length := by omega
    rw [getD_starts hin] at hmiddle
    refine ih (by omega) hlength ?_ habove
    intro i hi
    have hmono := startOf_le (Nat.le_of_lt_succ hi) hin
    omega
  | case2 lo hi hlt middle hmiddle ih =>
    have hin : middle ≤ t.length := by omega
    rw [getD_starts hin] at hmiddle
    refine ih (by omega) (by omega) hbelow ?_
    intro i hi hlast
    have hmono := startOf_le hi hlast
    omega
  | case3 lo hi hge =>
    obtain rfl : lo = hi := by omega
    exact ⟨hlength, hbelow, habove⟩

/-- A search through all of the list finds what the recursion over the text finds. -/
theorem lowerBound_starts (t : Text) (b : Int) :
    lowerBound t.starts b 0 t.starts.length = t.charIndex b := by
  rw [length_starts]
  refine (lowerBound_cut_of t b 0 (t.length + 1) (Nat.zero_le _) (Nat.le_refl _) ?_ ?_).unique
    (charIndex_cut t b)
  · intro i hi
    omega
  · intro i hi hlast
    omega

/-! ## Bytes of a stretch -/

theorem encode_append (s t : Text) : Utf8.encode (s ++ t) = Utf8.encode s ++ Utf8.encode t :=
  List.flatMap_append

/-- What stands between two characters is written in the bytes between their beginnings. -/
theorem encode_slice (t : Text) (hij : i ≤ j) :
    Utf8.encode (t.slice i j) = ((Utf8.encode t).take (t.startOf j)).drop (t.startOf i) := by
  have hsplit : t.take i ++ t.slice i j = t.take j := by
    have htake : t.take i = (t.take j).take i := by rw [List.take_take, Nat.min_eq_left hij]
    rw [htake, slice, List.take_append_drop]
  have htake : (Utf8.encode t).take (t.startOf j) = Utf8.encode (t.take j) := by
    conv_lhs => rw [← List.take_append_drop j t, encode_append]
    rw [startOf, List.take_append_drop, List.take_left]
  rw [htake, ← hsplit, encode_append, startOf, List.drop_left]

/-- **Bytes and characters.**  The bytes before a character lead back to the character.  The
    character of any place in bytes is the first that does not begin before it, one more than
    all of them if the place is past the end; searching the beginnings by halves finds it; and
    it does not go back when the place goes on.  What is cut out between the beginnings of two
    characters is written in the bytes between them. -/
theorem charIndex_least (t : Text) :
    (∀ i ≤ t.length, t.charIndex (Utf8.encode (t.take i)).length = i) ∧
    (∀ b : Int,
      (b ≤ (Utf8.encode t).length →
        IsLeast {i : Nat | ∃ n, t.starts[i]? = some n ∧ b ≤ n} (t.charIndex b)) ∧
      ((Utf8.encode t).length < b → t.charIndex b = t.length + 1) ∧
      lowerBound t.starts b 0 t.starts.length = t.charIndex b) ∧
    (∀ b b' : Int, b ≤ b' → t.charIndex b ≤ t.charIndex b') ∧
    ∀ i j, i ≤ j → j ≤ t.length →
      Utf8.encode (t.sliceBytes (Utf8.encode (t.take i)).length (Utf8.encode (t.take j)).length) =
        ((Utf8.encode t).take (Utf8.encode (t.take j)).length).drop
          (Utf8.encode (t.take i)).length := by
  refine ⟨fun i hi => charIndex_startOf hi, ?_, fun b b' => t.charIndex_mono, ?_⟩
  · intro b
    have hcut := charIndex_cut t b
    refine ⟨?_, ?_, lowerBound_starts t b⟩
    · intro hb
      have hle : t.charIndex b ≤ t.length := by
        rwa [charIndex_le_iff (Nat.le_refl _), startOf_length]
      constructor
      · exact ⟨_, getElem?_starts hle, hcut.above _ (Nat.le_refl _) hle⟩
      · rintro i ⟨n, hn, hbn⟩
        have hi : i ≤ t.length := by
          have hlt := (List.getElem?_eq_some_iff.1 hn).1
          rw [length_starts] at hlt
          omega
        rw [getElem?_starts hi] at hn
        cases hn
        exact (charIndex_le_iff hi).2 hbn
    · intro hb
      have hgt : ¬ t.charIndex b ≤ t.length := by
        rw [charIndex_le_iff (Nat.le_refl _), startOf_length]
        omega
      have hle := hcut.le_length
      omega
  · intro i j hij hj
    have hfirst : t.charIndex (Utf8.encode (t.take i)).length = i :=
      charIndex_startOf (Nat.le_trans hij hj)
    have hlast : t.charIndex (Utf8.encode (t.take j)).length = j := charIndex_startOf hj
    rw [sliceBytes, hfirst, hlast]
    exact encode_slice t hij

/-- A text with characters of one to four bytes. -/
def sampleWidths : Text := text "aéあ𠮷b"

/-- The place 5 lies within the third character, so the fourth is the first that does not begin
    before it. -/
theorem charIndex_least_of_sampleWidths :
    2 ≤ sampleWidths.length ∧ sampleWidths.charIndex 3 = 2 ∧
    (5 : Int) ≤ (Utf8.encode sampleWidths).length ∧
    IsLeast {i : Nat | ∃ n, sampleWidths.starts[i]? = some n ∧ (5 : Int) ≤ n}
      (sampleWidths.charIndex 5) ∧
    ((Utf8.encode sampleWidths).length : Int) < 12 ∧ sampleWidths.charIndex 12 = 6 ∧
    (-1 : Int) ≤ 5 ∧ sampleWidths.charIndex (-1) ≤ sampleWidths.charIndex 5 ∧
    2 ≤ 4 ∧ 4 ≤ sampleWidths.length ∧
    Utf8.encode (sampleWidths.sliceBytes 3 10) =
      ((Utf8.encode sampleWidths).take 10).drop 3 := by
  obtain ⟨hstart, hplace, hmono, hslice⟩ := charIndex_least sampleWidths
  have htwo : (Utf8.encode (sampleWidths.take 2)).length = 3 := by decide
  have hfour : (Utf8.encode (sampleWidths.take 4)).length = 10 := by decide
  have hindex := hstart 2 (by decide)
  have hbytes := hslice 2 4 (by decide) (by decide)
  rw [htwo] at hindex hbytes
  rw [hfour] at hbytes
  exact ⟨by decide, hindex, by decide, (hplace 5).1 (by decide), by decide,
    (hplace 12).2.1 (by decide), by decide, hmono _ _ (by decide), by decide, by decide, hbytes⟩

end Kousei.Text
