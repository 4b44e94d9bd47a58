import Kousei.Text.Basic

/-! # Stretches of a text

    A stretch of a text is a text that stands in it at a place.  Every stage
    of an analysis cuts stretches out of stretches, and its answer is right
    when the places of all stages add up (`StandsAt.trans`).  What is cut out
    of a stretch is what is cut out of the whole text at places moved by the
    place of the stretch (`StandsAt.slice_slice`). -/

namespace Kousei.Text

/-- The text `s` stands in `t` at the place `o`. -/
def StandsAt (s t : Text) (o : Nat) : Prop :=
  ∃ a b : Text, t = a ++ s ++ b ∧ a.length = o

/-! ## Places of stretches -/

namespace StandsAt

variable {s t u : Text} {o i j : Nat}

theorem refl (t : Text) : StandsAt t t 0 := ⟨[], [], by simp, rfl⟩

/-- A stretch ends within its text. -/
theorem le_length (h : StandsAt s t o) : o + s.length ≤ t.length := by
  obtain ⟨a, b, rfl, rfl⟩ := h
  simp only [List.length_append]
  omega

/-- The places of a stretch of a stretch add up. -/
theorem trans (hu : StandsAt u s i) (hs : StandsAt s t o) : StandsAt u t (o + i) := by
  obtain ⟨a, b, rfl, rfl⟩ := hs
  obtain ⟨a', b', rfl, rfl⟩ := hu
  exact ⟨a ++ a', b' ++ b, by simp only [List.append_assoc], by simp⟩

/-- What is cut out of a stretch is cut out of the text as well. -/
theorem slice_slice (h : StandsAt s t o) (hj : j ≤ s.length) :
    t.slice (o + i) (o + j) = s.slice i j := by
  obtain ⟨a, b, rfl, rfl⟩ := h
  have htake : (a ++ s ++ b).take (a.length + j) = a ++ s.take j := by
    rw [List.append_assoc, List.take_length_add_append, List.take_append_of_le_length hj]
  rw [slice, slice, htake, List.drop_length_add_append]

theorem slice_eq (h : StandsAt s t o) : t.slice o (o + s.length) = s := by
  have h' := h.slice_slice (i := 0) (Nat.le_refl s.length)
  rwa [Nat.add_zero, slice_self] at h'

theorem isPrefix_drop (h : StandsAt s t o) : s <+: t.drop o := by
  obtain ⟨a, b, rfl, rfl⟩ := h
  exact ⟨b, by simp⟩

end StandsAt

theorem standsAt_of_isPrefix {s t : Text} {o : Nat} (ho : o ≤ t.length) (h : s <+: t.drop o) :
    StandsAt s t o := by
  obtain ⟨b, hb⟩ := h
  refine ⟨t.take o, b, ?_, List.length_take_of_le ho⟩
  rw [List.append_assoc, hb, List.take_append_drop]

/-- What is cut out of a text stands where the cut begins. -/
theorem slice_standsAt {t : Text} {a : Nat} (b : Nat) (ha : a ≤ t.length) :
    StandsAt (t.slice a b) t a := by
  refine standsAt_of_isPrefix ha ?_
  rw [slice, List.drop_take]
  exact List.take_prefix _ _

/-- Places that are not negative are read as they are. -/
theorem sliceInt_natCast (t : Text) (a b : Nat) : t.sliceInt a b = t.slice a b := by
  have place_natCast (n : Nat) : t.place n = min n t.length := by
    simp only [place, Int.toNat_natCast]
    rw [if_neg (by omega)]
  have htake : t.take (min b t.length) = t.take b := by
    rw [← List.take_take, List.take_length]
  rw [sliceInt, place_natCast, place_natCast, slice, slice, htake]
  rcases Nat.le_total a t.length with ha | ha
  · rw [Nat.min_eq_left ha]
  · rw [Nat.min_eq_right ha, List.drop_eq_nil_of_le, List.drop_eq_nil_of_le] <;>
      simp only [List.length_take] <;> omega

/-- Two stretches that touch are one. -/
theorem slice_append (t : Text) {a b c : Nat} (hab : a ≤ b) (hbc : b ≤ c) :
    t.slice a b ++ t.slice b c = t.slice a c := by
  have htake : t.take b = (t.take c).take b := by rw [List.take_take, Nat.min_eq_left hbc]
  have hdrop : ((t.take c).drop b).drop (a - ((t.take c).take b).length) = (t.take c).drop b := by
    -- Either the first stretch is whole, or nothing is left for the second.
    rcases Nat.le_total b (t.take c).length with hb | hb
    · rw [List.length_take_of_le hb, Nat.sub_eq_zero_of_le hab, List.drop_zero]
    · rw [List.drop_eq_nil_of_le hb, List.drop_nil]
  calc t.slice a b ++ t.slice b c
    _ = ((t.take c).take b).drop a ++ (t.take c).drop b := by rw [slice, slice, htake]
    _ = ((t.take c).take b ++ (t.take c).drop b).drop a := by rw [List.drop_append, hdrop]
    _ = t.slice a c := by rw [List.take_append_drop, slice]

theorem sliceInt_append (t : Text) {a b c : Int} (ha : 0 ≤ a) (hab : a ≤ b) (hbc : b ≤ c) :
    t.sliceInt a b ++ t.sliceInt b c = t.sliceInt a c := by
  obtain ⟨a, rfl⟩ := Int.eq_ofNat_of_zero_le ha
  obtain ⟨b, rfl⟩ := Int.eq_ofNat_of_zero_le (Int.le_trans ha hab)
  obtain ⟨c, rfl⟩ := Int.eq_ofNat_of_zero_le (Int.le_trans ha (Int.le_trans hab hbc))
  rw [sliceInt_natCast, sliceInt_natCast, sliceInt_natCast]
  exact slice_append t (by omega) (by omega)

/-! ## Blanks at the ends -/

/-- The text neither begins nor ends with a blank. -/
structure Trimmed (t : Text) : Prop where
  head : ∀ c ∈ t.head?, isBlank c = false
  last : ∀ c ∈ t.getLast?, isBlank c = false

/-- No blank is left where blanks were dropped. -/
theorem not_isBlank_of_mem_head? {t : Text} {c : Char} (h : c ∈ (t.dropWhile isBlank).head?) :
    isBlank c = false := by
  have hhead := List.head?_dropWhile_not isBlank t
  rwa [Option.mem_def.1 h] at hhead

/-- Stripping leaves no blank at either end. -/
theorem strip_trimmed (t : Text) : Trimmed (strip t) := by
  constructor
  · intro c hc
    -- What is stripped at the end cannot bring a blank to the beginning.
    obtain ⟨w, hw, -⟩ := stripEnd_append (stripStart t)
    rcases hs : strip t with _ | ⟨d, r⟩
    · simp [hs] at hc
    · have hd : c = d := by simpa [hs, eq_comm] using hc
      refine not_isBlank_of_mem_head? (t := t) ?_
      change c ∈ (stripStart t).head?
      rw [hw, show stripEnd (stripStart t) = d :: r from hs, hd]
      rfl
  · intro c hc
    refine not_isBlank_of_mem_head? (t := (stripStart t).reverse) ?_
    rwa [strip, stripEnd, List.getLast?_reverse] at hc

theorem strip_standsAt (t : Text) : StandsAt (strip t) t (t.takeWhile isBlank).length := by
  obtain ⟨w, hw, -⟩ := strip_append t
  exact ⟨t.takeWhile isBlank, w, hw, rfl⟩

namespace Trimmed

variable {t : Text}

theorem takeWhile_isBlank (h : Trimmed t) : t.takeWhile isBlank = [] := by
  cases t with
  | nil => rfl
  | cons c r =>
    have hc : isBlank c = false := h.head c rfl
    rw [List.takeWhile_cons, hc]
    simp

theorem stripStart (h : Trimmed t) : t.stripStart = t := by
  have hsplit := List.takeWhile_append_dropWhile (p := isBlank) (l := t)
  rw [h.takeWhile_isBlank, List.nil_append] at hsplit
  exact hsplit

theorem reverse (h : Trimmed t) : Trimmed t.reverse where
  head := by
    intro c hc
    rw [List.head?_reverse] at hc
    exact h.last c hc
  last := by
    intro c hc
    rw [List.getLast?_reverse] at hc
    exact h.head c hc

/-- There is nothing to strip. -/
theorem strip (h : Trimmed t) : t.strip = t := by
  have hend : t.stripEnd = t := by
    show (Text.stripStart t.reverse).reverse = t
    rw [h.reverse.stripStart, List.reverse_reverse]
  rw [Text.strip, h.stripStart, hend]

end Trimmed

end Kousei.Text
