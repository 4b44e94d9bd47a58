import Kousei.Extract.Marker
import Kousei.Proofs.Text.Blanks

/-! # Rows of stars

    The stars of a block comment: those before the slash that closes it, and
    the row that may stand before its text.  A row is a run of stars with the
    spaces after it; where the line ends there and the next text begins with
    stars, those belong to it as well (`starLength_row`, `nextRow`).  The body
    of a comment is what stands between its markers, less the blanks and such
    a row (`body_of_unmark`). -/

namespace Kousei.Extract

open Text

variable {k : Nat} {t w blanks spaces : Text}

/-- A run of stars. -/
def stars (k : Nat) : Text := List.replicate k '*'

theorem length_stars (k : Nat) : (stars k).length = k := List.length_replicate

theorem eq_star_of_mem_stars {x : Char} (h : x ∈ stars k) : x = '*' := List.eq_of_mem_replicate h

/-- No blank is a star. -/
theorem ne_star_of_isBlank {x : Char} (h : isBlank x = true) : x ≠ '*' := by
  rintro rfl
  exact absurd h (by decide)

theorem head?_stars_succ (k : Nat) (t : Text) : (stars (k + 1) ++ t).head? = some '*' := rfl

/-- Stars are counted as far as they go. -/
theorem takeWhile_stars (h : ∀ x ∈ t.head?, x ≠ '*') :
    (stars k ++ t).takeWhile (· == '*') = stars k := by
  apply takeWhile_run
  · intro x hx
    simp [eq_star_of_mem_stars hx]
  · intro x hx
    simp [h x hx]

/-- A text is the stars it begins with and a rest that goes on otherwise. -/
theorem exists_stars (t : Text) : ∃ k u, t = stars k ++ u ∧ ∀ x ∈ u.head?, x ≠ '*' := by
  obtain ⟨s, u, rfl, hs, hu⟩ := exists_run (· == '*') t
  have hstars : s = stars s.length := by
    apply List.eq_replicate_iff.2
    refine ⟨rfl, ?_⟩
    intro x hx
    exact beq_iff_eq.1 (hs x hx)
  refine ⟨s.length, u, congrArg (· ++ u) hstars, ?_⟩
  intro x hx
  exact beq_eq_false_iff_ne.1 (hu x hx)

/-! ## The closing -/

theorem starClosing_append (k : Nat) (h : ∀ x ∈ t.getLast?, x ≠ '*') :
    starClosing (t ++ (stars (k + 1) ++ ['/'])) = (stars (k + 1) ++ ['/']).length := by
  have hreverse : (t ++ (stars (k + 1) ++ ['/'])).reverse =
      '/' :: (stars (k + 1) ++ t.reverse) := by simp [stars]
  have hrun : (stars (k + 1) ++ t.reverse).takeWhile (· == '*') = stars (k + 1) := by
    apply takeWhile_stars
    intro x hx
    rw [List.head?_reverse] at hx
    exact h x hx
  simp [starClosing, hreverse, hrun, length_stars]

/-- Where there is a closing, it is stars and a slash. -/
theorem exists_closing (t : Text) (h : starClosing t ≠ 0) :
    ∃ u k, t = u ++ (stars (k + 1) ++ ['/']) ∧ ∀ x ∈ u.getLast?, x ≠ '*' := by
  unfold starClosing at h
  split at h
  · next r hr =>
    obtain ⟨k, u, rfl, hu⟩ := exists_stars r
    rw [takeWhile_stars hu, length_stars] at h
    have ht : t = u.reverse ++ (stars k ++ ['/']) := by
      rw [← List.reverse_reverse t, hr]
      simp [stars]
    cases k with
    | zero => exact absurd rfl h
    | succ k =>
      refine ⟨u.reverse, k, ht, ?_⟩
      intro x hx
      rw [List.getLast?_reverse] at hx
      exact hu x hx
  · exact absurd rfl h

/-! ## The row before the text -/

/-- The length that the text after a run of stars and spaces adds to a row: when
    the line ends there and the next text begins with stars, all up to these and
    one space or tab after them. -/
def nextRow : Text → Nat
  | '\n' :: r =>
    let blanks := (r.takeWhile isBlank).length
    let more := ((r.drop blanks).takeWhile (· == '*')).length
    if more = 0 then 0 else
      1 + blanks + more + (((r.drop (blanks + more)).take 1).takeWhile isSpaceOrTab).length
  | _ => 0

theorem starLength_of_head (h : ∀ x ∈ t.head?, x ≠ '*') : starLength t = 0 := by
  have hnone : t.takeWhile (· == '*') = [] := takeWhile_stars (k := 0) h
  simp [starLength, hnone]

theorem nextRow_of_ne (h : ∀ x ∈ t.head?, x ≠ '\n') : nextRow t = 0 := by
  unfold nextRow
  split
  · exact absurd rfl (h '\n' rfl)
  · rfl

/-- These are the spaces after a run of stars, and the text goes on with `t`. -/
structure Spaced (spaces t : Text) : Prop where
  run : ∀ x ∈ spaces, isSpaceOrTab x = true
  star : ∀ x ∈ (spaces ++ t).head?, x ≠ '*'
  stop : ∀ x ∈ t.head?, isSpaceOrTab x = false

theorem spaced_feed (hspaces : ∀ x ∈ spaces, isSpaceOrTab x = true) (t : Text) :
    Spaced spaces ('\n' :: t) where
  run := hspaces
  star := by
    rintro x hx rfl
    cases spaces with
    | nil => cases hx
    | cons y r =>
      cases hx
      exact absurd (hspaces '*' (List.mem_cons_self ..)) (by decide)
  stop := by
    rintro x ⟨⟩
    decide

theorem starLength_row (k : Nat) (h : Spaced spaces t) :
    starLength (stars (k + 1) ++ (spaces ++ t)) = k + 1 + spaces.length + nextRow t := by
  have hspaces : (spaces ++ t).takeWhile isSpaceOrTab = spaces := takeWhile_run h.run h.stop
  have hdrop : (stars (k + 1) ++ (spaces ++ t)).drop (k + 1) = spaces ++ t := by
    rw [List.drop_left' (length_stars (k + 1))]
  have hafter : (stars (k + 1) ++ (spaces ++ t)).drop (k + 1 + spaces.length) = t := by
    rw [← List.drop_drop, hdrop, List.drop_left]
  simp only [starLength, takeWhile_stars h.star, length_stars, hdrop, hspaces, hafter]
  rw [if_neg (by omega)]
  split
  · simp only [nextRow]
    split <;> omega
  · next hfeed =>
    have hnone : nextRow t = 0 := by
      apply nextRow_of_ne
      rintro x hx rfl
      obtain ⟨r, hr⟩ := List.head?_eq_some_iff.1 hx
      exact hfeed r hr
    rw [hnone]
    rfl

/-- Blanks alone, with or without line ends, add nothing. -/
theorem nextRow_of_blank (hw : ∀ x ∈ w, isBlank x = true)
    (hblank : ∀ x ∈ t.head?, isBlank x = false) (hstar : ∀ x ∈ t.head?, x ≠ '*') :
    nextRow (w ++ t) = 0 := by
  have hzero : (t.takeWhile (· == '*')).length = 0 :=
    congrArg List.length (takeWhile_stars (k := 0) hstar)
  unfold nextRow
  split
  · next r hr =>
    cases w with
    | nil =>
      -- The text itself does not begin with a line feed, which is a blank.
      rw [List.nil_append] at hr
      have hfeed := hblank '\n' (by rw [hr]; rfl)
      exact absurd hfeed (by decide)
    | cons x w =>
      have hrun : r.takeWhile isBlank = w := by
        rw [← (List.cons.inj hr).2]
        exact takeWhile_run (List.forall_mem_cons.1 hw).2 hblank
      have hdrop : r.drop w.length = t := by
        rw [← (List.cons.inj hr).2]
        exact List.drop_left
      simp [hrun, hdrop, hzero]
  · rfl

/-- Stars in the next text belong to the row. -/
theorem nextRow_stars (k : Nat) (hblanks : ∀ x ∈ blanks, isBlank x = true)
    (ht : ∀ x ∈ t.head?, x ≠ '*') :
    nextRow ('\n' :: (blanks ++ (stars (k + 1) ++ t))) =
      1 + blanks.length + (k + 1) + ((t.take 1).takeWhile isSpaceOrTab).length := by
  have hrun : (blanks ++ (stars (k + 1) ++ t)).takeWhile isBlank = blanks := by
    apply takeWhile_run hblanks
    intro x hx
    rw [head?_stars_succ] at hx
    cases hx
    decide
  have hdrop : (blanks ++ (stars (k + 1) ++ t)).drop (blanks.length + (k + 1)) = t := by
    rw [← List.drop_drop, List.drop_left, List.drop_left' (length_stars (k + 1))]
  simp [nextRow, hrun, takeWhile_stars ht, length_stars, hdrop]

/-- What adds to a row is stars in the next text. -/
theorem exists_of_nextRow (h : nextRow t ≠ 0) :
    ∃ blanks k u, t = '\n' :: (blanks ++ (stars (k + 1) ++ u)) ∧
      (∀ x ∈ blanks, isBlank x = true) ∧ ∀ x ∈ u.head?, x ≠ '*' := by
  unfold nextRow at h
  split at h
  · next r =>
    obtain ⟨k, u, hrest, hu⟩ := exists_stars (r.dropWhile isBlank)
    have hsplit : r = r.takeWhile isBlank ++ (stars k ++ u) := by
      rw [← hrest, List.takeWhile_append_dropWhile]
    have hdrop : r.drop (r.takeWhile isBlank).length = stars k ++ u := by
      have hafter : (r.takeWhile isBlank ++ (stars k ++ u)).drop (r.takeWhile isBlank).length =
          stars k ++ u := List.drop_left
      rwa [← hsplit] at hafter
    cases k with
    | zero =>
      simp [hdrop, takeWhile_stars hu, length_stars] at h
    | succ k =>
      refine ⟨r.takeWhile isBlank, k, u, congrArg _ hsplit, ?_, hu⟩
      intro x hx
      exact List.mem_takeWhile_imp hx
  · exact absurd rfl h

/-! ## Bodies -/

/-- What is left of a stretch at a place without the row of stars before it. -/
def unstar (p : Nat × Text) : Nat × Text :=
  stripAt (p.1 + starLength p.2) (p.2.drop (starLength p.2))

theorem body_of_unmark {comment inner : Text} {place : Nat} {starred : Bool}
    (h : unmark comment = (place, inner, starred)) :
    body comment true = if starred then unstar (stripAt place inner) else stripAt place inner := by
  simp [body, h, unstar]

end Kousei.Extract
