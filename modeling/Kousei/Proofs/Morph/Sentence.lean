import Kousei.Morph.Sentence
import Kousei.Proofs.Morph.Anchor

/-! # Places of sentences

    The sentences of a row of tokens hold these tokens and no others
    (`flatMap_tokens_split`), and lie between the same two places as the
    tokens do (`split_between`). -/

namespace Kousei

/-! ## Groups -/

section groups

variable {α : Type} (p : α → Bool)

theorem flatten_groupsEndingWith (xs : List α) : (groupsEndingWith p xs).flatten = xs := by
  fun_induction groupsEndingWith p xs with
  | case1 => rfl
  | case2 x r _ ih => rw [List.flatten_cons, ih, List.singleton_append]
  | case3 x r _ h ih =>
    rw [h] at ih
    rw [← ih]
    rfl
  | case4 x r _ g more h ih =>
    rw [h] at ih
    rw [← ih]
    rfl

theorem ne_nil_of_mem_groupsEndingWith (xs : List α) :
    ∀ g ∈ groupsEndingWith p xs, g ≠ [] := by
  fun_induction groupsEndingWith p xs with
  | case1 => exact List.forall_mem_nil _
  | case2 x r _ ih => exact List.forall_mem_cons.2 ⟨List.cons_ne_nil _ _, ih⟩
  | case3 x r _ _ _ => exact List.forall_mem_singleton.2 (List.cons_ne_nil _ _)
  | case4 x r _ g more h ih =>
    rw [h] at ih
    exact List.forall_mem_cons.2 ⟨List.cons_ne_nil _ _, (List.forall_mem_cons.1 ih).2⟩

theorem head_ne_nil_of_groupsEndingWith {xs : List α} {g : List α} {more : List (List α)}
    (h : groupsEndingWith p xs = g :: more) : g ≠ [] := by
  apply ne_nil_of_mem_groupsEndingWith p xs
  rw [h]
  exact List.mem_cons_self ..

/-- No element of a group but the last satisfies `p`. -/
theorem not_of_mem_dropLast_groupsEndingWith (xs : List α) :
    ∀ g ∈ groupsEndingWith p xs, ∀ x ∈ g.dropLast, p x = false := by
  fun_induction groupsEndingWith p xs with
  | case1 => exact List.forall_mem_nil _
  | case2 x r _ ih => exact List.forall_mem_cons.2 ⟨List.forall_mem_nil _, ih⟩
  | case3 x r _ _ _ => exact List.forall_mem_singleton.2 (List.forall_mem_nil _)
  | case4 x r hx g more h ih =>
    have hg : g ≠ [] := head_ne_nil_of_groupsEndingWith p h
    rw [h] at ih
    obtain ⟨hhead, hmore⟩ := List.forall_mem_cons.1 ih
    refine List.forall_mem_cons.2 ⟨?_, hmore⟩
    rw [List.dropLast_cons_of_ne_nil hg]
    exact List.forall_mem_cons.2 ⟨Bool.eq_false_iff.2 hx, hhead⟩

/-- Every group but the last one ends with an element that satisfies `p`. -/
theorem getLast_of_mem_dropLast_groupsEndingWith (xs : List α) :
    ∀ g ∈ (groupsEndingWith p xs).dropLast, g.getLast?.any p = true := by
  fun_induction groupsEndingWith p xs with
  | case1 => exact List.forall_mem_nil _
  | case2 x r hx ih =>
    rcases hr : groupsEndingWith p r with _ | ⟨g, more⟩
    · exact List.forall_mem_nil _
    · rw [hr] at ih
      exact List.forall_mem_cons.2 ⟨hx, ih⟩
  | case3 x r _ _ _ => exact List.forall_mem_nil _
  | case4 x r _ g more h ih =>
    have hg : g ≠ [] := head_ne_nil_of_groupsEndingWith p h
    rw [h] at ih
    rcases more with _ | ⟨g', more⟩
    · exact List.forall_mem_nil _
    · -- The group that got one more element ends as it did before.
      obtain ⟨hlast, hmore⟩ := List.forall_mem_cons.1 ih
      refine List.forall_mem_cons.2 ⟨?_, hmore⟩
      rwa [List.getLast?_cons_of_ne_nil hg]

end groups

namespace Sentence

/-! ## Tokens of sentences -/

theorem map_tokens_ofGroups (t : Text) (start : Int) (gs : List (List Token)) :
    (ofGroups t start gs).map tokens = gs := by
  induction gs generalizing start with
  | nil => rfl
  | cons g r ih => rw [ofGroups, List.map_cons, ih]

/-- The tokens of the sentences are the tokens. -/
theorem flatMap_tokens_split (t : Text) (xs : List Token) :
    (split t xs).flatMap tokens = xs := by
  rw [List.flatMap_def, split, map_tokens_ofGroups, flatten_groupsEndingWith]

/-! ## Groups in a row -/

/-- The groups have tokens, which follow each other from the place `start` on:
    those of a group lie between where it begins and where its last token
    ends, and the next group begins there. -/
inductive InRow : Int → List (List Token) → Prop where
  | nil {start : Int} : InRow start []
  | cons {start : Int} {init : List Token} {last : Token} {r : List (List Token)} :
      start ≤ last.stop → (∀ x ∈ init ++ [last], start ≤ x.offset ∧ x.stop ≤ last.stop) →
      InRow last.stop r → InRow start ((init ++ [last]) :: r)

/-- Groups that tokens in their order are divided into are in a row. -/
theorem inRow_of_pairwise {start : Int} {gs : List (List Token)} (hne : ∀ g ∈ gs, g ≠ [])
    (hrow : gs.flatten.Pairwise Token.Before) (hstart : ∀ x ∈ gs.flatten, start ≤ x.offset) :
    InRow start gs := by
  induction gs generalizing start with
  | nil => exact .nil
  | cons g r ih =>
    obtain ⟨hg, hr⟩ := List.forall_mem_cons.1 hne
    obtain ⟨init, last, rfl⟩ : ∃ init last, g = init ++ [last] :=
      ⟨_, _, (List.dropLast_concat_getLast hg).symm⟩
    rw [List.flatten_cons] at hrow hstart
    obtain ⟨hgroup, hrest, hcross⟩ := List.pairwise_append.1 hrow
    have hlast : last ∈ init ++ [last] := List.mem_append_right _ (List.mem_singleton_self _)
    have hbegin : start ≤ last.offset := hstart last (List.mem_append_left _ hlast)
    refine .cons (Int.le_trans hbegin last.offset_le_stop) ?_ ?_
    · intro x hx
      refine ⟨hstart x (List.mem_append_left _ hx), ?_⟩
      rcases List.mem_append.1 hx with hinit | hx
      · have hbefore : x.stop ≤ last.offset :=
          (List.pairwise_append.1 hgroup).2.2 x hinit last (List.mem_singleton_self _)
        exact Int.le_trans hbefore last.offset_le_stop
      · obtain rfl := List.mem_singleton.1 hx
        exact Int.le_refl _
    · exact ih hr hrest fun x hx => hcross last hlast x hx

/-- No token begins before the first one. -/
theorem head_offset_le {x : Token} {r : List Token} (hrow : (x :: r).Pairwise Token.Before) :
    ∀ y ∈ x :: r, x.offset ≤ y.offset := by
  refine List.forall_mem_cons.2 ⟨Int.le_refl _, fun y hy => ?_⟩
  exact Int.le_trans x.offset_le_stop (List.rel_of_pairwise_cons hrow hy)

/-- The groups that tokens are divided into are in a row from the first token on. -/
theorem inRow_groupsEndingWith {x : Token} {r : List Token}
    (hrow : (x :: r).Pairwise Token.Before) :
    InRow x.offset (groupsEndingWith Token.isSentenceEnd (x :: r)) := by
  have hflat := flatten_groupsEndingWith Token.isSentenceEnd (x :: r)
  apply inRow_of_pairwise
  · exact ne_nil_of_mem_groupsEndingWith Token.isSentenceEnd (x :: r)
  · rwa [hflat]
  · rw [hflat]
    exact head_offset_le hrow

/-- The first sentence of groups ends with the last token of the first group,
    and the others begin there. -/
theorem ofGroups_cons (t : Text) (start : Int) (init : List Token) (last : Token)
    (r : List (List Token)) :
    ofGroups t start ((init ++ [last]) :: r) =
      ⟨t.sliceInt start last.stop, start, last.stop, init ++ [last]⟩ ::
        ofGroups t last.stop r := by
  simp only [ofGroups, List.getLast?_append, List.getLast?_singleton, Option.some_or,
    Option.map_some, Option.getD_some]

/-! ## Bounds -/

/-- The sentence lies between two places. -/
structure Between (a b : Int) (s : Sentence) : Prop where
  le_start : a ≤ s.start
  start_le_stop : s.start ≤ s.stop
  stop_le : s.stop ≤ b

/-- Sentences made of groups in a row lie between the place they begin at and
    any place that no token goes beyond. -/
theorem ofGroups_between {t : Text} {start b : Int} {gs : List (List Token)} (h : InRow start gs)
    (hb : ∀ x ∈ gs.flatten, x.stop ≤ b) : ∀ s ∈ ofGroups t start gs, s.Between start b := by
  induction h with
  | nil => exact List.forall_mem_nil _
  | @cons start init last r hle _ _ ih =>
    have hlast : last.stop ≤ b := hb last (by simp)
    have hothers : ∀ s ∈ ofGroups t last.stop r, s.Between last.stop b :=
      ih fun x hx => hb x (List.mem_append_right _ hx)
    rw [ofGroups_cons]
    refine List.forall_mem_cons.2 ⟨⟨Int.le_refl _, hle, hlast⟩, fun s hs => ?_⟩
    obtain ⟨hbegin, hss, hsb⟩ := hothers s hs
    exact ⟨Int.le_trans hle hbegin, hss, hsb⟩

/-- Sentences lie between any two places that their tokens lie between. -/
theorem split_between {t : Text} {a b : Int} {xs : List Token} (hrow : xs.Pairwise Token.Before)
    (ha : ∀ x ∈ xs, a ≤ x.offset) (hb : ∀ x ∈ xs, x.stop ≤ b) :
    ∀ s ∈ split t xs, s.Between a b := by
  cases xs with
  | nil => exact List.forall_mem_nil _
  | cons x r =>
    have hflat := flatten_groupsEndingWith Token.isSentenceEnd (x :: r)
    have hbetween : ∀ s ∈ split t (x :: r), s.Between x.offset b :=
      ofGroups_between (inRow_groupsEndingWith hrow) (by rwa [hflat])
    intro s hs
    obtain ⟨hle, hss, hsb⟩ := hbetween s hs
    exact ⟨Int.le_trans (ha x (List.mem_cons_self ..)) hle, hss, hsb⟩

end Sentence

end Kousei
