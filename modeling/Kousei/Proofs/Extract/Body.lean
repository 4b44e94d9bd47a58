import Kousei.Extract.Marker
import Kousei.Proofs.Text.Stretch

/-! # Bodies of comments

    The body of a comment is a stretch of the comment, at the place that is
    told with it (`body_standsAt`), and it neither begins nor ends with a
    blank (`body_trimmed`).  Both hold of every text, whether or not it is
    written as a comment, since no opening, closing or row of stars is
    longer than what it is taken from. -/

namespace Kousei.Extract

open Text

/-! ## Openings -/

theorem literal_le {s t : Text} {n : Nat} (h : literal s t = some n) : n ≤ t.length := by
  unfold literal at h
  split at h
  · next hs =>
    cases h
    exact (List.isPrefixOf_iff_prefix.1 hs).length_le
  · cases h

theorem quoteOpening_le {quotes t : Text} {n : Nat} (h : quoteOpening quotes t = some n) :
    n ≤ t.length := by
  have hrun := (List.takeWhile_prefix (l := t) isLiteralLetter).length_le
  simp only [quoteOpening] at h
  split at h
  · next hq =>
    have hle := (List.isPrefixOf_iff_prefix.1 hq).length_le
    rw [List.length_drop] at hle
    cases h
    omega
  · cases h

theorem runOpening_le {c : Char} {least n : Nat} {t : Text} (h : runOpening c least t = some n) :
    n ≤ t.length := by
  have hrun := (List.takeWhile_prefix (l := t) (· == c)).length_le
  simp only [runOpening] at h
  split at h
  · cases h; exact hrun
  · cases h

theorem slashOpening_le {t : Text} {n : Nat} (h : slashOpening t = some n) : n ≤ t.length := by
  obtain ⟨run, hrun, rfl⟩ := Option.map_eq_some_iff.1 h
  have hle := runOpening_le hrun
  split
  · next hmark =>
    -- The exclamation mark after the slashes is a character of the text.
    have hlt : run < t.length := by
      rcases hd : t.drop run with _ | ⟨c, r⟩
      · simp [hd] at hmark
      · have := congrArg List.length hd
        simp only [List.length_drop, List.length_cons] at this
        omega
    exact hlt
  · exact hle

/-- No opening is longer than the text it stands at the head of. -/
theorem Marker.opening_le {m : Marker} (hm : m ∈ Marker.all) {t : Text} {n : Nat}
    (h : m.opening t = some n) : n ≤ t.length := by
  simp only [Marker.all, List.mem_cons, List.not_mem_nil, or_false] at hm
  rcases hm with rfl | rfl | rfl | rfl | rfl | rfl | rfl
  · exact literal_le h
  · exact literal_le h
  · exact quoteOpening_le h
  · exact quoteOpening_le h
  · exact slashOpening_le h
  · exact runOpening_le h
  · exact runOpening_le h

/-! ## Between the markers -/

/-- What stands between the markers is a stretch of the comment. -/
theorem unmark_standsAt (comment : Text) :
    StandsAt (unmark comment).2.1 comment (unmark comment).1 := by
  unfold unmark
  split
  · exact StandsAt.refl comment
  · next m n h =>
    obtain ⟨m', hm', hopen⟩ := List.exists_of_findSome?_eq_some h
    obtain ⟨n', hn', heq⟩ := Option.map_eq_some_iff.1 hopen
    cases heq
    exact standsAt_of_isPrefix (Marker.opening_le hm' hn') (List.take_prefix _ _)

/-- The row of stars is no longer than the text it begins. -/
theorem starLength_le (t : Text) : starLength t ≤ t.length := by
  unfold starLength
  extract_lets stars spaces
  have hstars : stars ≤ t.length := (List.takeWhile_prefix _).length_le
  have hspaces : spaces ≤ (t.drop stars).length := (List.takeWhile_prefix _).length_le
  rw [List.length_drop] at hspaces
  split
  · exact Nat.zero_le _
  · split
    · next r hr =>
      -- The line ends there: the second row of stars is in the text after it.
      have hlen := congrArg List.length hr
      simp only [List.length_drop, List.length_cons] at hlen
      extract_lets blanks more after
      have hblanks : blanks ≤ r.length := (List.takeWhile_prefix _).length_le
      have hmore : more ≤ (r.drop blanks).length := (List.takeWhile_prefix _).length_le
      have hafter : after ≤ ((r.drop (blanks + more)).take 1).length :=
        (List.takeWhile_prefix _).length_le
      simp only [List.length_take, List.length_drop] at hmore hafter
      split <;> omega
    · omega

/-! ## Body -/

theorem stripAt_standsAt {t u : Text} {lead : Nat} (h : StandsAt t u lead) :
    StandsAt (stripAt lead t).2 u (stripAt lead t).1 :=
  (strip_standsAt t).trans h

/-- The body of a comment stands in the comment at the place that is told. -/
theorem body_standsAt (comment : Text) (markers : Bool) :
    StandsAt (body comment markers).2 comment (body comment markers).1 := by
  unfold body
  split
  · have hinner := unmark_standsAt comment
    generalize unmark comment = u at hinner ⊢
    obtain ⟨start, inner, starred⟩ := u
    have hlead := stripAt_standsAt hinner
    simp only at hlead ⊢
    generalize stripAt start inner = v at hlead ⊢
    obtain ⟨lead, t⟩ := v
    simp only at hlead ⊢
    split
    · -- The stars are dropped from what has been stripped already.
      have hrest : StandsAt (t.drop (starLength t)) t (starLength t) :=
        standsAt_of_isPrefix (starLength_le t) (List.prefix_refl _)
      exact stripAt_standsAt (hrest.trans hlead)
    · exact hlead
  · exact stripAt_standsAt (StandsAt.refl comment)

/-- The body of a comment has no blank at either end. -/
theorem body_trimmed (comment : Text) (markers : Bool) : Trimmed (body comment markers).2 := by
  unfold body
  split
  · simp only
    split
    · exact strip_trimmed _
    · exact strip_trimmed _
  · exact strip_trimmed _

/-- A text with no blank at either end is its own body if it has no markers. -/
theorem body_of_trimmed {t : Text} (h : Trimmed t) : body t false = (0, t) := by
  show stripAt 0 t = (0, t)
  rw [stripAt, h.takeWhile_isBlank, h.strip]
  rfl

/-- **Where a body stands.**  Whatever a text is and whether or not it has markers, its body
    lies within it, is what is cut out of it at the place that is told, has no blank at
    either end, and is its own body when no markers are to be taken away. -/
theorem body_anchored (comment : Text) (markers : Bool) :
    ∃ lead inner, body comment markers = (lead, inner) ∧
      lead + inner.length ≤ comment.length ∧
      comment.slice lead (lead + inner.length) = inner ∧
      Trimmed inner ∧ body inner false = (0, inner) := by
  have hstands := body_standsAt comment markers
  have htrimmed := body_trimmed comment markers
  exact ⟨_, _, rfl, hstands.le_length, hstands.slice_eq, htrimmed, body_of_trimmed htrimmed⟩

/-- An opening and a closing do not overlap, even where a comment is no longer than one of
    them. -/
example : body (text "/*/") true = (2, text "/") ∧ body (text "/**/") true = (2, []) ∧
    body (text "''''") true = (3, text "'") := by decide

end Kousei.Extract
