import Kousei.Proofs.Extract.Pieces
import Kousei.Proofs.Morph.Anchor

/-! # Words with white space between them

    A morphological engine may drop white space.  If it drops nothing else, the
    tokens stand exactly where the words were read (`anchor_spaced`), however
    often a surface comes again or is a part of another one.

    Each surface is looked for from the end of the one before it.  What comes
    next in the text is white space, if there is any, and then the surface itself.
    The search cannot end in the white space, because a surface that comes after
    white space does not begin with it (`findFrom?_afterGap`). -/

namespace Kousei

open Text

/-- A word with the white space in front of it, which the engine dropped. -/
structure SpacedWord where
  gap : Text
  word : Morpheme
  gap_blank : gap.allBlank = true
  surface_ne_nil : word.surface ≠ []
  /-- What comes after white space begins with something else. -/
  head_not_blank : gap ≠ [] → ∀ c ∈ word.surface.head?, isBlank c = false

namespace SpacedWord

/-- The part of the text that a word takes up with its gap. -/
def written (w : SpacedWord) : Text := w.gap ++ w.word.surface

/-- The text of words, with more of it after the last one. -/
def document (ws : List SpacedWord) (last : Text) : Text := ws.flatMap written ++ last

/-- The place at which a word was read: all that is written before it, and its own
    gap. -/
def place (ws : List SpacedWord) (i : Fin ws.length) : Nat :=
  ((ws.take i).flatMap written).length + (ws.get i).gap.length

/-! ## Search behind a gap -/

/-- A surface is not found in the white space in front of it. -/
theorem find?_afterGap (w : SpacedWord) (rest : Text) :
    find? w.word.surface (w.gap ++ w.word.surface ++ rest) = some w.gap.length := by
  apply Extract.find?_append
  intro b hb hne hstarts
  obtain ⟨c, b, rfl⟩ := List.exists_cons_of_ne_nil hne
  obtain ⟨d, s, hsurface⟩ := List.exists_cons_of_ne_nil w.surface_ne_nil
  -- The surface would begin with a character of the gap.
  have hc : c ∈ w.gap := hb.subset (List.mem_cons_self ..)
  have hblank : isBlank c = true := List.all_eq_true.1 w.gap_blank c hc
  have hcd : c = d := by
    rw [hsurface] at hstarts
    obtain ⟨u, hu⟩ := hstarts
    exact (List.cons.inj hu).1.symm
  have hnot : isBlank d = false := by
    apply w.head_not_blank (List.ne_nil_of_mem hc)
    rw [hsurface]
    rfl
  rw [← hcd, hblank] at hnot
  cases hnot

/-- From the end of what is written before, a word is found at its place. -/
theorem findFrom?_afterGap (w : SpacedWord) (before rest : Text) :
    findFrom? w.word.surface (before ++ w.written ++ rest) before.length =
      some (before.length + w.gap.length) := by
  have hle : before.length ≤ (before ++ w.written ++ rest).length := by
    simp only [List.length_append]
    omega
  have hdrop : (before ++ w.written ++ rest).drop before.length =
      w.gap ++ w.word.surface ++ rest := by
    rw [List.append_assoc, List.drop_left, written]
  rw [findFrom?, if_pos hle, hdrop, find?_afterGap, Option.map_some, Nat.add_comm]

/-! ## Tokens -/

theorem place_zero (w : SpacedWord) (r : List SpacedWord) :
    place (w :: r) (0 : Fin (r.length + 1)) = w.gap.length := by
  simp [place]

theorem place_succ (w : SpacedWord) (r : List SpacedWord) (i : Fin r.length) :
    place (w :: r) i.succ = w.written.length + place r i := by
  simp [place]
  omega

/-- Words are found one after the other, from the end of what is written before
    them. -/
theorem anchorFrom_spaced (before : Text) (ws : List SpacedWord) (last : Text) :
    anchorFrom (before ++ document ws last) before.length (ws.map word) =
      List.ofFn fun i => (ws.get i).word.toToken (before.length + place ws i : Nat) := by
  induction ws generalizing before with
  | nil => rfl
  | cons w r ih =>
    have hdocument : before ++ document (w :: r) last = before ++ w.written ++ document r last := by
      simp only [document, List.flatMap_cons, List.append_assoc]
    have hfound : findFrom? w.word.surface (before ++ document (w :: r) last) before.length =
        some (before.length + w.gap.length) := by
      rw [hdocument]
      exact w.findFrom?_afterGap before (document r last)
    -- The cursor moves to the end of what is written with this word.
    have hnext : before.length + w.gap.length + w.word.surface.length =
        (before ++ w.written).length := by
      simp only [written, List.length_append]
      omega
    have hrest := ih (before ++ w.written)
    have hplaces : ∀ i : Fin r.length, (before ++ w.written).length + place r i =
        before.length + place (w :: r) i.succ := by
      intro i
      rw [place_succ, List.length_append, Nat.add_assoc]
    rw [List.map_cons, anchorFrom, hfound, Option.getD_some, hnext, hdocument, hrest]
    simp only [hplaces, List.length_cons]
    rw [List.ofFn_succ, place_zero]
    rfl

/-- At its place the surface of a word stands in the text. -/
theorem standsAt_place (ws : List SpacedWord) (last : Text) (i : Fin ws.length) :
    StandsAt (ws.get i).word.surface (document ws last) (place ws i) := by
  refine ⟨(ws.take i).flatMap written ++ (ws.get i).gap,
    (ws.drop (i + 1)).flatMap written ++ last, ?_, ?_⟩
  · have hws : ws = ws.take i ++ ws.get i :: ws.drop (i + 1) := by
      simp
    conv_lhs => rw [document, hws]
    simp only [List.flatMap_append, List.flatMap_cons, written, List.append_assoc]
  · rw [List.length_append]
    rfl

/-- **Exact places.**  Where nothing but white space was dropped, each word has its
    token at the place at which it was read, and there its surface stands. -/
theorem anchor_spaced (ws : List SpacedWord) (last : Text) :
    anchor (document ws last) (ws.map word) =
        List.ofFn (fun i => (ws.get i).word.toToken (place ws i)) ∧
      ∀ i, StandsAt (ws.get i).word.surface (document ws last) (place ws i) := by
  refine ⟨?_, standsAt_place ws last⟩
  have hfrom := anchorFrom_spaced [] ws last
  simp only [List.nil_append, List.length_nil, Nat.zero_add] at hfrom
  exact hfrom

/-- The same particle twice, the second time after a space. -/
def sampleSpaced : List SpacedWord :=
  [⟨[], { surface := text "を" }, by decide, by decide, by decide⟩,
   ⟨text " ", { surface := text "を" }, by decide, by decide, by decide⟩]

example : document sampleSpaced [] = text "を を" ∧
    (anchor (text "を を") (sampleSpaced.map word)).map Token.offset = [0, 2] := by
  decide +kernel

end SpacedWord

end Kousei
