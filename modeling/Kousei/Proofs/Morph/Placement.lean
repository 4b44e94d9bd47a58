import Kousei.Proofs.Morph.Anchor

/-! # Least places

    The places that are found from the left are the least ones: no placement
    of the surfaces puts any of them before its token, and if there is any
    placement at all, the tokens are one (`anchor_least`).

    When there is none, some surface is not found.  It is put at the cursor
    all the same, and the tokens are still in their order. -/

namespace Kousei

open Text

variable {t : Text} {x : Token} {cursor : Nat} {ms : List Morpheme}

/-! ## Tokens that stand in the text -/

/-- A token stands in the text if it ends within it and is what is cut out of
    it there. -/
theorem Token.standsIn_iff (h0 : 0 ≤ x.offset) :
    x.StandsIn t ↔ t.sliceInt x.offset x.stop = x.surface ∧ x.offset ≤ t.length ∧
      x.stop ≤ t.length := by
  obtain ⟨o, ho⟩ := Int.eq_ofNat_of_zero_le h0
  have hstop : x.stop = (o + x.surface.length : Nat) := by
    rw [stop, ho, Int.natCast_add]
  have hcut : t.sliceInt x.offset x.stop = t.slice o (o + x.surface.length) := by
    rw [hstop, ho, sliceInt_natCast]
  constructor
  · rintro ⟨o', ho', hstands⟩
    obtain rfl : o = o' := by omega
    have hle := hstands.le_length
    refine ⟨?_, by omega, by omega⟩
    rw [hcut, hstands.slice_eq]
  · rintro ⟨hslice, hoffset, -⟩
    refine ⟨o, ho, ?_⟩
    rw [hcut] at hslice
    rw [← hslice]
    exact slice_standsAt _ (by omega)

/-- Tokens that stand in the text are a placement of their surfaces. -/
theorem placed_of_standsIn (h : ∀ x ∈ anchorFrom t cursor ms, x.StandsIn t) :
    ∃ os, Placed t cursor (ms.map Morpheme.surface) os := by
  induction ms generalizing cursor with
  | nil => exact ⟨[], .nil⟩
  | cons m r ih =>
    rw [anchorFrom] at h
    obtain ⟨hfirst, hrest⟩ := List.forall_mem_cons.1 h
    obtain ⟨o, ho, hstands⟩ := hfirst
    -- The place of the first token is where its surface was found.
    have hfound : o = (findFrom? m.surface t cursor).getD cursor := (Int.ofNat_inj.1 ho).symm
    rw [← hfound] at hrest
    obtain ⟨os, hos⟩ := ih hrest
    refine ⟨o :: os, .cons ?_ hstands hos⟩
    rw [hfound]
    exact le_findFrom?_getD m.surface t cursor

/-- There is one token for each morpheme, in their order. -/
theorem anchorFrom_tokens (t : Text) (cursor : Nat) (ms : List Morpheme) :
    List.Forall₂ (fun (m : Morpheme) (x : Token) => x = m.toToken x.offset) ms
      (anchorFrom t cursor ms) := by
  induction ms generalizing cursor with
  | nil => exact .nil
  | cons m r ih => exact .cons rfl (ih _)

/-! ## The least placement -/

/-- **Least places.**  There is one token for each morpheme; none begins
    before the text or before the one ahead of it ends.  All of them stand in
    the text just when there is a way to place their surfaces, and then none
    stands later than any placement puts it. -/
theorem anchor_least (t : Text) (ms : List Morpheme) :
    List.Forall₂ (fun (m : Morpheme) (x : Token) => x = m.toToken x.offset) ms (anchor t ms) ∧
    (∀ x ∈ anchor t ms, 0 ≤ x.offset) ∧
    (anchor t ms).Pairwise (fun x y => x.stop ≤ y.offset) ∧
    ((∀ x ∈ anchor t ms, t.sliceInt x.offset x.stop = x.surface ∧ x.offset ≤ t.length ∧
        x.stop ≤ t.length) ↔
      Placeable t (ms.map Morpheme.surface)) ∧
    ∀ os, Placed t 0 (ms.map Morpheme.surface) os →
      List.Forall₂ (fun (x : Token) (o : Nat) => x.offset ≤ (o : Int)) (anchor t ms) os := by
  have hnonneg : ∀ x ∈ anchor t ms, 0 ≤ x.offset := le_offset_of_mem_anchorFrom
  refine ⟨anchorFrom_tokens t 0 ms, hnonneg, anchor_pairwise t ms, ⟨?_, ?_⟩, ?_⟩
  · intro h
    exact placed_of_standsIn fun x hx => (Token.standsIn_iff (hnonneg x hx)).2 (h x hx)
  · intro h x hx
    exact (Token.standsIn_iff (hnonneg x hx)).1 (anchor_standsIn h x hx)
  · intro os hos
    exact ((List.forall₂_and_left _ _).1 (anchorFrom_forall₂ hos (Nat.le_refl 0))).2

/-- A word that is written twice in a text that has it three times: the two
    tokens are the first two, whatever other way there is to place them. -/
theorem anchor_least_of_repeated :
    Placed (text "ああい、あ") 0 [text "あ", text "あ"] [1, 4] ∧
    List.Forall₂ (fun (x : Token) (o : Nat) => x.offset ≤ (o : Int))
      (anchor (text "ああい、あ") [{ surface := text "あ" }, { surface := text "あ" }]) [1, 4] := by
  have hsecond : StandsAt (text "あ") (text "ああい、あ") 1 :=
    ⟨text "あ", text "い、あ", by decide, rfl⟩
  have hlast : StandsAt (text "あ") (text "ああい、あ") 4 :=
    ⟨text "ああい、", [], by decide, rfl⟩
  have hplaced : Placed (text "ああい、あ") 0 [text "あ", text "あ"] [1, 4] :=
    .cons (by decide) hsecond (.cons (by decide) hlast .nil)
  obtain ⟨-, -, -, -, hleast⟩ :=
    anchor_least (text "ああい、あ") [{ surface := text "あ" }, { surface := text "あ" }]
  exact ⟨hplaced, hleast [1, 4] hplaced⟩

end Kousei
