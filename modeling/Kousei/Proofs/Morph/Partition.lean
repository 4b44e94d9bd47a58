import Kousei.Proofs.Morph.Sentence
import Mathlib.Data.List.Chain

/-! # Sentences as a partition

    The sentences of a text divide its row of tokens: each token is in one of
    them, in its order, and a sentence ends with the first token that can end
    one.  Their stretches touch each other, from the beginning of the first
    token to the end of the last, whatever stands between the tokens
    (`split_isPartition`). -/

namespace Kousei.Sentence

/-! ## Sentences in a row -/

/-- The sentence is a part of a row of tokens: no token of it but the last
    could end it, it ends where that token ends, and all of them lie in it. -/
structure IsPart (s : Sentence) : Prop where
  tokens_ne_nil : s.tokens ≠ []
  not_isSentenceEnd : ∀ x ∈ s.tokens.dropLast, x.isSentenceEnd = false
  stop_eq : s.tokens.getLast?.map Token.stop = some s.stop
  covers : ∀ x ∈ s.tokens, s.start ≤ x.offset ∧ x.stop ≤ s.stop

variable {t : Text} {start : Int} {gs : List (List Token)}

theorem ofGroups_isPart (h : InRow start gs)
    (hend : ∀ g ∈ gs, ∀ x ∈ g.dropLast, x.isSentenceEnd = false) :
    ∀ s ∈ ofGroups t start gs, s.IsPart := by
  induction h with
  | nil => exact List.forall_mem_nil _
  | @cons start init last r _ hcovers _ ih =>
    obtain ⟨hfirst, hr⟩ := List.forall_mem_cons.1 hend
    rw [ofGroups_cons]
    refine List.forall_mem_cons.2 ⟨⟨?_, hfirst, ?_, hcovers⟩, ih hr⟩
    · exact List.append_ne_nil_of_right_ne_nil _ (List.cons_ne_nil _ _)
    · rw [List.getLast?_concat]
      rfl

theorem head?_ofGroups (t : Text) (start : Int) (gs : List (List Token)) :
    ∀ s ∈ (ofGroups t start gs).head?, s.start = start := by
  intro s hs
  cases gs with
  | nil => cases hs
  | cons g r =>
    cases hs
    rfl

/-- Each sentence begins where the one before it ends. -/
theorem ofGroups_isChain (t : Text) (start : Int) (gs : List (List Token)) :
    (ofGroups t start gs).IsChain fun a b => a.stop = b.start := by
  induction gs generalizing start with
  | nil => exact .nil
  | cons g r ih =>
    refine List.isChain_cons.2 ⟨?_, ih _⟩
    intro s hs
    exact (head?_ofGroups t _ r s hs).symm

/-- The texts of sentences that touch are the stretch from where the first
    begins to where the last ends. -/
theorem flatMap_text_ofGroups (h : InRow start gs) (h0 : 0 ≤ start) :
    start ≤ (gs.flatten.getLast?.map Token.stop).getD start ∧
    (ofGroups t start gs).flatMap text =
      t.sliceInt start ((gs.flatten.getLast?.map Token.stop).getD start) := by
  induction h with
  | @nil start => exact ⟨Int.le_refl start, (t.slice_eq_nil (Nat.le_refl _)).symm⟩
  | @cons start init last r hle _ _ ih =>
    -- What the others end with is what all of them end with.
    have hstop : (((init ++ [last]) :: r).flatten.getLast?.map Token.stop).getD start =
        (r.flatten.getLast?.map Token.stop).getD last.stop := by
      rw [List.flatten_cons, List.getLast?_append, List.getLast?_concat]
      cases r.flatten.getLast? with
      | none => rfl
      | some x => rfl
    obtain ⟨hrest, htext⟩ := ih (Int.le_trans h0 hle)
    rw [hstop, ofGroups_cons, List.flatMap_cons, htext]
    exact ⟨Int.le_trans hle hrest, t.sliceInt_append h0 hle hrest⟩

/-! ## The partition -/

/-- The sentences divide a row of tokens. -/
structure IsPartition (t : Text) (xs : List Token) (ss : List Sentence) : Prop where
  tokens_eq : ss.flatMap tokens = xs
  isPart : ∀ s ∈ ss, s.IsPart
  /-- Every sentence but perhaps the last ends with a token that can end it. -/
  isSentenceEnd_last : ∀ s ∈ ss.dropLast, s.tokens.getLast?.any Token.isSentenceEnd = true
  start_eq : ss.head?.map Sentence.start = xs.head?.map Token.offset
  /-- Each sentence begins where the one before it ends. -/
  touch : ss.IsChain fun a b => a.stop = b.start
  /-- Together they are the stretch from the first token to the last. -/
  text_eq : ∀ first ∈ xs.head?, ∀ last ∈ xs.getLast?,
    ss.flatMap Sentence.text = t.sliceInt first.offset last.stop

theorem dropLast_ofGroups (t : Text) (start : Int) (gs : List (List Token)) :
    (ofGroups t start gs).dropLast.map tokens = gs.dropLast := by
  rw [List.map_dropLast, map_tokens_ofGroups]

theorem IsPart.start_le_stop {s : Sentence} (h : s.IsPart) : s.start ≤ s.stop := by
  obtain ⟨x, hx⟩ := List.exists_mem_of_ne_nil s.tokens h.tokens_ne_nil
  have hcovers := h.covers x hx
  have hends := x.offset_le_stop
  omega

/-- A sentence ends where a token of it ends. -/
theorem IsPart.exists_stop {s : Sentence} (h : s.IsPart) : ∃ x ∈ s.tokens, s.stop = x.stop := by
  obtain ⟨x, hx, hstop⟩ := Option.map_eq_some_iff.1 h.stop_eq
  exact ⟨x, List.mem_of_mem_getLast? hx, hstop.symm⟩

section order

variable {xs : List Token} {ss : List Sentence}

theorem IsPartition.mem (h : IsPartition t xs ss) {s : Sentence} (hs : s ∈ ss) {x : Token}
    (hx : x ∈ s.tokens) : x ∈ xs := by
  rw [← h.tokens_eq]
  exact List.mem_flatMap.2 ⟨s, hs, hx⟩

/-- Sentences that touch, and none of which ends before it begins, do not go
    back. -/
theorem pairwise_of_touch (hss : ∀ s ∈ ss, s.start ≤ s.stop)
    (htouch : ss.IsChain fun a b => a.stop = b.start) :
    ss.Pairwise fun a b => a.stop ≤ b.start := by
  induction ss with
  | nil => exact .nil
  | cons a r ih =>
    obtain ⟨hfirst, hr⟩ := List.isChain_cons.1 htouch
    have hrest := ih (fun s hs => hss s (List.mem_cons_of_mem a hs)) hr
    refine List.pairwise_cons.2 ⟨fun c hc => ?_, hrest⟩
    cases r with
    | nil => cases hc
    | cons b r =>
      have hab : a.stop = b.start := hfirst b rfl
      rcases List.mem_cons.1 hc with rfl | hc
      · exact Int.le_of_eq hab
      · have hb : b.start ≤ b.stop := hss b (by simp)
        have hbc : b.stop ≤ c.start := List.rel_of_pairwise_cons hrest hc
        omega

/-- No sentence begins before an earlier one has ended. -/
theorem IsPartition.pairwise (h : IsPartition t xs ss) :
    ss.Pairwise fun a b => a.stop ≤ b.start :=
  pairwise_of_touch (fun s hs => (h.isPart s hs).start_le_stop) h.touch

/-- A sentence begins with the first token, or where a sentence ends. -/
theorem IsPartition.start_cases (h : IsPartition t xs ss) {s : Sentence} (hs : s ∈ ss) :
    (∃ x ∈ xs, s.start = x.offset) ∨ ∃ a ∈ ss, s.start = a.stop := by
  obtain ⟨before, after, hss⟩ := List.append_of_mem hs
  rcases List.eq_nil_or_concat before with rfl | ⟨init, a, rfl⟩
  · have hhead : some s.start = xs.head?.map Token.offset := by
      rw [← h.start_eq, hss]
      rfl
    obtain ⟨x, hx, hstart⟩ := Option.map_eq_some_iff.1 hhead.symm
    exact .inl ⟨x, List.mem_of_mem_head? hx, hstart.symm⟩
  · have htouch : a.stop = s.start := by
      have hchain := h.touch
      rw [hss, List.concat_eq_append, List.append_assoc] at hchain
      exact (List.isChain_append_cons_cons.1 hchain).2.1
    exact .inr ⟨a, by simp [hss], htouch.symm⟩

end order

/-- The sentences of tokens that are in their order and not before the text
    divide them. -/
theorem split_isPartition {xs : List Token} (hrow : xs.Pairwise Token.Before)
    (hnonneg : ∀ x ∈ xs, 0 ≤ x.offset) : IsPartition t xs (split t xs) := by
  rcases xs with _ | ⟨first, r⟩
  · exact ⟨rfl, List.forall_mem_nil _, List.forall_mem_nil _, rfl, .nil, nofun⟩
  have hflat := flatten_groupsEndingWith Token.isSentenceEnd (first :: r)
  have hin := inRow_groupsEndingWith hrow
  have hsplit : split t (first :: r) =
      ofGroups t first.offset (groupsEndingWith Token.isSentenceEnd (first :: r)) := rfl
  constructor
  case tokens_eq => exact flatMap_tokens_split t (first :: r)
  case isPart =>
    exact ofGroups_isPart hin (not_of_mem_dropLast_groupsEndingWith Token.isSentenceEnd _)
  case isSentenceEnd_last =>
    intro s hs
    refine getLast_of_mem_dropLast_groupsEndingWith Token.isSentenceEnd (first :: r) _ ?_
    rw [← dropLast_ofGroups t first.offset, ← hsplit]
    exact List.mem_map_of_mem hs
  case start_eq =>
    -- There is a first sentence, because the first token is in one.
    rcases hhead : (split t (first :: r)).head? with _ | s
    · have htokens := flatMap_tokens_split t (first :: r)
      rw [List.head?_eq_none_iff.1 hhead] at htokens
      cases htokens
    · exact congrArg some (head?_ofGroups t first.offset _ s (by rwa [← hsplit]))
  case touch => exact ofGroups_isChain t _ _
  case text_eq =>
    intro first' hfirst last hlast
    cases hfirst
    obtain ⟨-, htext⟩ := flatMap_text_ofGroups (t := t) hin (hnonneg first (List.mem_cons_self ..))
    rwa [hflat, Option.mem_def.1 hlast] at htext

/-- **Partition into sentences.**  The sentences of words have the tokens of
    the words, each in one sentence and in their order.  No sentence is empty,
    none goes on after a token that can end it, and all but the last one end
    with such a token.  Their stretches hold their tokens and touch each other,
    from the first token to the end of the last. -/
theorem split_anchor_isPartition (t : Text) (ms : List Morpheme) :
    IsPartition t (anchor t ms) (split t (anchor t ms)) :=
  split_isPartition (anchor_pairwise t ms) le_offset_of_mem_anchorFrom

end Kousei.Sentence
