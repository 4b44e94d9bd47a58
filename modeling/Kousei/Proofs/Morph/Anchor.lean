import Kousei.Morph.Token
import Kousei.Proofs.Text.Stretch
import Mathlib.Data.List.Forall2

/-! # Places of words

    Surfaces are placed in a text when they stand in it in their order and
    without overlap (`Placed`).  Tokens are always in their order
    (`anchor_pairwise`).  If there is any way to place the surfaces, each
    token stands in the text where it says (`anchor_standsIn`): a surface is
    looked for from the left, so it is never found later than in any
    placement, and what is left for the others is never less. -/

namespace Kousei

open Text

/-! ## Search from the left -/

namespace Text

variable {needle t : Text}

/-- What stands at a place is found there or before. -/
theorem find?_le {k : Nat} (h : needle <+: t.drop k) : ∃ i, find? needle t = some i ∧ i ≤ k := by
  induction t generalizing k with
  | nil =>
    rw [List.drop_nil, List.prefix_nil] at h
    exact ⟨0, by simp [find?, h], Nat.zero_le k⟩
  | cons c r ih =>
    unfold find?
    split
    · exact ⟨0, rfl, Nat.zero_le k⟩
    · next hhead =>
      cases k with
      | zero => exact absurd (List.isPrefixOf_iff_prefix.2 h) hhead
      | succ k =>
        obtain ⟨i, hi, hik⟩ := ih h
        exact ⟨i + 1, by rw [hi]; rfl, Nat.succ_le_succ hik⟩

theorem le_of_findFrom? {start i : Nat} (h : findFrom? needle t start = some i) : start ≤ i := by
  unfold findFrom? at h
  split at h
  · obtain ⟨j, -, rfl⟩ := Option.map_eq_some_iff.1 h
    exact Nat.le_add_left _ _
  · cases h

/-- The place at which a surface is put is never behind the cursor. -/
theorem le_findFrom?_getD (needle t : Text) (start : Nat) :
    start ≤ (findFrom? needle t start).getD start := by
  cases h : findFrom? needle t start with
  | none => exact Nat.le_refl start
  | some i => exact le_of_findFrom? h

/-- What stands at a place is found from any place before, not later, and
    where it is found it stands. -/
theorem findFrom?_of_standsAt {o start : Nat} (h : StandsAt needle t o) (hle : start ≤ o) :
    ∃ i, findFrom? needle t start = some i ∧ i ≤ o ∧ StandsAt needle t i := by
  have hlen := h.le_length
  have hprefix : needle <+: (t.drop start).drop (o - start) := by
    rw [List.drop_drop, Nat.add_sub_cancel' hle]
    exact h.isPrefix_drop
  obtain ⟨j, hj, hjo⟩ := find?_le hprefix
  refine ⟨j + start, ?_, by omega, standsAt_of_isPrefix (by omega) ?_⟩
  · rw [findFrom?, if_pos (by omega), hj]
    rfl
  · have hfound := find?_isPrefix hj
    rwa [List.drop_drop, Nat.add_comm] at hfound

end Text

/-! ## Placements -/

/-- The surfaces stand in the text at the places, in their order and without
    overlap, and none before `start`. -/
inductive Placed (t : Text) : Nat → List Text → List Nat → Prop where
  | nil {start : Nat} : Placed t start [] []
  | cons {start o : Nat} {s : Text} {ss : List Text} {os : List Nat} :
      start ≤ o → StandsAt s t o → Placed t (o + s.length) ss os →
      Placed t start (s :: ss) (o :: os)

/-- There is a way to place the surfaces. -/
def Placeable (t : Text) (ss : List Text) : Prop := ∃ os, Placed t 0 ss os

/-! ## Tokens -/

/-- The token stands in the text where it says. -/
def Token.StandsIn (t : Text) (x : Token) : Prop :=
  ∃ o : Nat, x.offset = o ∧ StandsAt x.surface t o

/-- The token `x` ends before `y` begins. -/
def Token.Before (x y : Token) : Prop := x.stop ≤ y.offset

theorem Token.offset_le_stop (x : Token) : x.offset ≤ x.stop := by
  unfold stop
  omega

theorem Token.StandsIn.bounds {t : Text} {x : Token} (h : x.StandsIn t) :
    0 ≤ x.offset ∧ x.stop ≤ t.length := by
  obtain ⟨o, ho, hx⟩ := h
  have hle := hx.le_length
  unfold stop
  omega

theorem le_offset_of_mem_anchorFrom {t : Text} {cursor : Nat} {ms : List Morpheme} :
    ∀ x ∈ anchorFrom t cursor ms, (cursor : Int) ≤ x.offset := by
  induction ms generalizing cursor with
  | nil => exact List.forall_mem_nil _
  | cons m r ih =>
    intro x hx
    rw [anchorFrom] at hx
    have hcursor := le_findFrom?_getD m.surface t cursor
    rcases List.mem_cons.1 hx with rfl | hx
    · exact Int.ofNat_le.2 hcursor
    · have hr := ih x hx
      omega

/-- Tokens are in the order of their morphemes. -/
theorem anchor_pairwise (t : Text) (ms : List Morpheme) :
    (anchor t ms).Pairwise Token.Before := by
  -- The cursor moves past each token, whether or not its surface was found.
  have hfrom (cursor : Nat) : (anchorFrom t cursor ms).Pairwise Token.Before := by
    induction ms generalizing cursor with
    | nil => exact List.Pairwise.nil
    | cons m r ih =>
      refine List.Pairwise.cons (fun y hy => ?_) (ih _)
      have hle := le_offset_of_mem_anchorFrom y hy
      rwa [Int.natCast_add] at hle
  exact hfrom 0

/-- If the surfaces can be placed from some place on, the tokens that are
    looked for from there, or from before, stand in the text, and none stands
    later than it is placed. -/
theorem anchorFrom_forall₂ {t : Text} {start cursor : Nat} {ms : List Morpheme} {os : List Nat}
    (h : Placed t start (ms.map Morpheme.surface) os) (hle : cursor ≤ start) :
    List.Forall₂ (fun (x : Token) (o : Nat) => x.StandsIn t ∧ x.offset ≤ (o : Int))
      (anchorFrom t cursor ms) os := by
  induction ms generalizing start cursor os with
  | nil =>
    cases h
    exact List.Forall₂.nil
  | cons m r ih =>
    rcases h with _ | ⟨hstart, hstands, hrest⟩
    -- The surface is found no later than it is placed, so the cursor stays behind.
    obtain ⟨i, hi, hio, hfound⟩ := findFrom?_of_standsAt hstands (Nat.le_trans hle hstart)
    rw [anchorFrom, hi, Option.getD_some]
    exact List.Forall₂.cons ⟨⟨i, rfl, hfound⟩, Int.ofNat_le.2 hio⟩
      (ih hrest (Nat.add_le_add_right hio _))

theorem anchorFrom_standsIn {t : Text} {start cursor : Nat} {ms : List Morpheme} {os : List Nat}
    (h : Placed t start (ms.map Morpheme.surface) os) (hle : cursor ≤ start) :
    ∀ x ∈ anchorFrom t cursor ms, x.StandsIn t :=
  ((List.forall₂_and_left _ _).1 (anchorFrom_forall₂ h hle)).1

/-- Tokens whose surfaces can be placed stand in the text. -/
theorem anchor_standsIn {t : Text} {ms : List Morpheme}
    (h : Placeable t (ms.map Morpheme.surface)) : ∀ x ∈ anchor t ms, x.StandsIn t := by
  obtain ⟨os, hos⟩ := h
  exact anchorFrom_standsIn hos (Nat.le_refl 0)

end Kousei
