import Kousei.Proofs.Extract.MarkerLines

/-! # Line ends of comments

    What stands between the markers of a comment does not depend on its line
    ends, but a row of stars does: it goes on in the next line after a line
    feed only.  With other line ends the stars of the second line are left in
    the body (`afterRow_crlf_iff`).  So the body of a comment is the same, with
    other line ends, exactly if the comment does not begin with a row in two
    lines (`body_crlf_iff`).

    Which comments these are is told of the comment itself (`HasRow`): the
    stars of the second line must not be those of the closing, which are taken
    away before. -/

namespace Kousei.Extract

open Text

variable {k : Nat} {t v lead spaces blanks rest inner closing first comment : Text}

/-! ## Rows in two lines -/

/-- A row up to the stars of its second line. -/
def firstLine (k : Nat) (spaces blanks : Text) : Text := stars (k + 1) ++ (spaces ++ '\n' :: blanks)

/-- The text begins with a row that goes on in another line. -/
def InTwoLines (t : Text) : Prop :=
  ∃ k spaces blanks rest, t = firstLine k spaces blanks ++ '*' :: rest ∧
    (∀ x ∈ spaces, isSpaceOrTab x = true) ∧ ∀ x ∈ blanks, isBlank x = true

/-- The comment is a block comment, and what it has between its markers begins with a row that
    goes on in another line. -/
def HasRow (comment : Text) : Prop :=
  ∃ lead k spaces blanks rest,
    comment = text "/*" ++ (lead ++ (firstLine k spaces blanks ++ '*' :: rest)) ∧
    (∀ x ∈ lead, isBlank x = true) ∧ (∀ x ∈ spaces, isSpaceOrTab x = true) ∧
    (∀ x ∈ blanks, isBlank x = true) ∧
    -- The stars of the second line are not those before the slash at the end.
    ∀ n, rest ≠ stars n ++ ['/']

theorem Spaced.feed_not_mem (h : Spaced spaces v) : '\n' ∉ spaces := by
  intro hfeed
  exact absurd (h.run _ hfeed) (by decide)

theorem Spaced.crlf (h : Spaced spaces v) : Spaced spaces v.crlf where
  run := h.run
  star := by
    rw [← crlf_append_of_not_mem h.feed_not_mem]
    exact head?_crlf_of (by decide) h.star
  stop := head?_crlf_of (by decide) h.stop

theorem crlf_row (k : Nat) (h : Spaced spaces v) :
    crlf (stars (k + 1) ++ (spaces ++ v)) = stars (k + 1) ++ (spaces ++ crlf v) := by
  have hfirst : '\n' ∉ stars (k + 1) := by
    intro hfeed
    exact absurd (eq_star_of_mem_stars hfeed) (by decide)
  rw [crlf_append_of_not_mem hfirst, crlf_append_of_not_mem h.feed_not_mem]

/-- What is left after the row that a text begins with. -/
def afterRow (t : Text) : Text := t.drop (starLength t)

theorem afterRow_of_head (h : ∀ x ∈ t.head?, x ≠ '*') : afterRow t = t := by
  rw [afterRow, starLength_of_head h, List.drop_zero]

theorem afterRow_row (k : Nat) (h : Spaced spaces v) :
    afterRow (stars (k + 1) ++ (spaces ++ v)) = v.drop (nextRow v) := by
  rw [afterRow, starLength_row k h, ← List.drop_drop, ← List.drop_drop,
    List.drop_left' (length_stars (k + 1)), List.drop_left]

/-- With other line ends a row always ends with its first line. -/
theorem nextRow_crlf (t : Text) : nextRow (crlf t) = 0 := by
  apply nextRow_of_ne
  intro x hx
  rcases mem_head?_breakWith hx with rfl | ⟨-, hx⟩
  · decide
  · exact hx

theorem afterRow_crlf_row (k : Nat) (h : Spaced spaces v) :
    afterRow (crlf (stars (k + 1) ++ (spaces ++ v))) = crlf v := by
  rw [crlf_row k h, afterRow_row k h.crlf, nextRow_crlf, List.drop_zero]

/-- After stars there are spaces, perhaps none. -/
theorem exists_spaced (h : ∀ x ∈ t.head?, x ≠ '*') :
    ∃ spaces v, t = spaces ++ v ∧ Spaced spaces v := by
  obtain ⟨spaces, v, rfl, hspaces, hv⟩ := exists_run isSpaceOrTab t
  exact ⟨spaces, v, rfl, hspaces, h, hv⟩

theorem inTwoLines_of_nextRow (k : Nat) (h : Spaced spaces v) (hnext : nextRow v ≠ 0) :
    InTwoLines (stars (k + 1) ++ (spaces ++ v)) := by
  obtain ⟨blanks, j, w, rfl, hblanks, -⟩ := exists_of_nextRow hnext
  exact ⟨k, spaces, blanks, stars j ++ w, by simp [firstLine, stars, List.replicate_succ],
    h.run, hblanks⟩

theorem InTwoLines.exists_nextRow (h : InTwoLines t) :
    ∃ k spaces v, t = stars (k + 1) ++ (spaces ++ v) ∧ Spaced spaces v ∧ nextRow v ≠ 0 := by
  obtain ⟨k, spaces, blanks, rest, rfl, hspaces, hblanks⟩ := h
  refine ⟨k, spaces, '\n' :: (blanks ++ '*' :: rest), ?_, spaced_feed hspaces _, ?_⟩
  · simp only [firstLine, List.append_assoc, List.cons_append]
  · obtain ⟨j, w, hrest, hw⟩ := exists_stars ('*' :: rest)
    cases j with
    | zero =>
      cases hrest
      exact absurd rfl (hw '*' rfl)
    | succ j =>
      rw [hrest, nextRow_stars j hblanks hw]
      omega

theorem count_star_crlf (t : Text) : (crlf t).count '*' = t.count '*' := by
  induction t with
  | nil => rfl
  | cons c r ih =>
    have hsplit : crlf (c :: r) = crlf [c] ++ crlf r := crlf_append [c] r
    have hone : (crlf [c]).count '*' = [c].count '*' := by
      by_cases hc : c = '\n'
      · subst hc
        rfl
      · rw [crlf, breakWith_cons_of_ne hc]
        rfl
    rw [hsplit, List.count_append, hone, ih, ← List.count_append, List.singleton_append]

theorem count_star_strip (t : Text) : t.strip.count '*' = t.count '*' := by
  obtain ⟨w, hw, hblank⟩ := strip_append t
  have hnone {u : Text} (hu : ∀ x ∈ u, isBlank x = true) : u.count '*' = 0 := by
    rw [List.count_eq_zero]
    intro hstar
    exact absurd (hu _ hstar) (by decide)
  conv_rhs => rw [hw, List.count_append, List.count_append]
  rw [hnone (List.all_eq_true.1 hblank), hnone fun x hx => List.mem_takeWhile_imp hx]
  omega

/-- A row in two lines takes stars of its second line with it. -/
theorem count_star_drop_nextRow (h : nextRow v ≠ 0) :
    (v.drop (nextRow v)).count '*' < v.count '*' := by
  obtain ⟨blanks, k, w, rfl, hblanks, hw⟩ := exists_of_nextRow h
  have hlist : '\n' :: (blanks ++ (stars (k + 1) ++ w)) =
      ('\n' :: (blanks ++ stars (k + 1))) ++ w := by simp
  have hlength : ('\n' :: (blanks ++ stars (k + 1))).length = 1 + blanks.length + (k + 1) := by
    rw [List.length_cons, List.length_append, length_stars]
    omega
  rw [nextRow_stars k hblanks hw, hlist, ← hlength, List.drop_length_add_append, List.count_append]
  have hrest := (List.drop_sublist ((w.take 1).takeWhile isSpaceOrTab).length w).count_le '*'
  have hpos : 0 < ('\n' :: (blanks ++ stars (k + 1))).count '*' := by
    rw [List.count_pos_iff]
    simp [stars]
  omega

/-- After a row the rest has other line ends, unless the row goes on in another line. -/
theorem afterRow_crlf_iff (t : Text) :
    (afterRow (crlf t)).strip = crlf (afterRow t).strip ↔ ¬ InTwoLines t := by
  constructor
  · intro heq h
    obtain ⟨k, spaces, v, rfl, hspaced, hnext⟩ := h.exists_nextRow
    rw [afterRow_crlf_row k hspaced, afterRow_row k hspaced] at heq
    -- The one text has more stars than the other.
    have hcount := congrArg (List.count '*') heq
    rw [count_star_strip, count_star_crlf, count_star_crlf, count_star_strip] at hcount
    exact absurd hcount (count_star_drop_nextRow hnext).ne'
  · intro h
    obtain ⟨k, u, rfl, hu⟩ := exists_stars t
    cases k with
    | zero =>
      show (afterRow (crlf u)).strip = crlf (afterRow u).strip
      rw [afterRow_of_head hu, afterRow_of_head (head?_crlf_of (by decide) hu), strip_crlf]
    | succ k =>
      obtain ⟨spaces, v, rfl, hspaced⟩ := exists_spaced hu
      have hnext : nextRow v = 0 := by
        by_contra hnext
        exact h (inTwoLines_of_nextRow k hspaced hnext)
      rw [afterRow_crlf_row k hspaced, afterRow_row k hspaced, hnext, List.drop_zero, strip_crlf]

/-! ## Comments with a row in two lines -/

/-- The text stands before a closing, or there is none. -/
def StandsBefore (inner closing : Text) : Prop :=
  closing = [] ∧ starClosing inner = 0 ∨
    ∃ j, closing = stars (j + 1) ++ ['/'] ∧ ∀ x ∈ inner.getLast?, x ≠ '*'

/-- What stands between the markers of a block comment. -/
theorem unmark_block (r : Text) :
    ∃ inner closing, r = inner ++ closing ∧ StandsBefore inner closing ∧
      unmark (text "/*" ++ r) = (2, inner, true) := by
  have hunmark : unmark (text "/*" ++ r) = (2, r.take (r.length - starClosing r), true) := rfl
  by_cases hzero : starClosing r = 0
  · refine ⟨r, [], (List.append_nil r).symm, .inl ⟨rfl, hzero⟩, ?_⟩
    rw [hunmark, hzero, Nat.sub_zero, List.take_length]
  · obtain ⟨u, j, rfl, hu⟩ := exists_closing r hzero
    refine ⟨u, _, rfl, .inr ⟨j, rfl, hu⟩, ?_⟩
    rw [hunmark, starClosing_append j hu, List.length_append, Nat.add_sub_cancel, List.take_left]

/-- Only these may begin with a row. -/
theorem exists_of_starred (h : (unmark comment).2.2 = true) : ∃ r, comment = text "/*" ++ r := by
  unfold unmark at h
  split at h
  · cases h
  · next m n hopened =>
    obtain ⟨hm, hopening⟩ := opened?_mem hopened
    simp only [Marker.all, List.mem_cons, List.not_mem_nil, or_false] at hm
    rcases hm with rfl | rfl | rfl | rfl | rfl | rfl | rfl
    case inr.inl =>
      simp only [literal] at hopening
      split at hopening
      · next hstarts => exact exists_of_startsWith hstarts
      · cases hopening
    all_goals cases h

/-- The text up to the stars of the second line ends with a blank. -/
theorem isBlank_getLast?_firstLine (lead : Text) (k : Nat) (spaces : Text)
    (hblanks : ∀ x ∈ blanks, isBlank x = true) :
    ∀ x ∈ (lead ++ firstLine k spaces blanks).getLast?, isBlank x = true := by
  intro x hx
  have hlist : lead ++ firstLine k spaces blanks =
      lead ++ stars (k + 1) ++ spaces ++ '\n' :: blanks := by
    simp [firstLine]
  rw [hlist, List.getLast?_append_of_ne_nil _ (List.cons_ne_nil _ _)] at hx
  rcases List.mem_cons.1 (List.mem_of_mem_getLast? hx) with rfl | hx
  · decide
  · exact hblanks x hx

theorem inTwoLines_strip (hlead : ∀ x ∈ lead, isBlank x = true)
    (hspaces : ∀ x ∈ spaces, isSpaceOrTab x = true) (hblanks : ∀ x ∈ blanks, isBlank x = true) :
    InTwoLines (lead ++ (firstLine k spaces blanks ++ '*' :: rest)).strip := by
  have hhead : ∀ x ∈ (firstLine k spaces blanks ++ '*' :: rest).head?, isBlank x = false := by
    rintro x ⟨⟩
    decide
  have hlast : ∀ x ∈ (firstLine k spaces blanks ++ ['*']).getLast?, isBlank x = false := by
    intro x hx
    rw [List.getLast?_append_of_ne_nil _ (List.cons_ne_nil _ _)] at hx
    cases hx
    decide
  have hlist : firstLine k spaces blanks ++ '*' :: rest =
      firstLine k spaces blanks ++ ['*'] ++ rest := by simp
  refine ⟨k, spaces, blanks, stripEnd rest, ?_, hspaces, hblanks⟩
  rw [strip, stripStart_append_of_blank hlead, stripStart_of_solid hhead, hlist,
    stripEnd_append_of_solid hlast]
  simp

/-- A row whose second line is not the closing stands before it. -/
theorem StandsBefore.exists_rest (h : StandsBefore inner closing)
    (heq : inner ++ closing = first ++ '*' :: rest)
    (hfirst : ∀ x ∈ first.getLast?, isBlank x = true) (hrest : ∀ n, rest ≠ stars n ++ ['/']) :
    ∃ rest, inner = first ++ '*' :: rest := by
  rcases h with ⟨rfl, -⟩ | ⟨j, rfl, -⟩
  · rw [List.append_nil] at heq
    exact ⟨rest, heq⟩
  · have hnot : '*' :: rest ≠ stars (j + 1) ++ ['/'] := by
      intro hclosing
      exact hrest j (List.cons.inj hclosing).2
    rcases List.append_eq_append_iff.1 heq with ⟨a, hfirst', hclosing⟩ | ⟨a, hinner, hclosing⟩
    · -- The closing would begin with the blank before the stars, or be these.
      rcases List.eq_nil_or_concat a with rfl | ⟨a', x, rfl⟩
      · exact absurd hclosing.symm hnot
      · have hblank : isBlank x = true := by
          apply hfirst
          rw [hfirst', List.concat_eq_append, List.getLast?_append_of_ne_nil _ (by simp)]
          simp
        have hmem : x ∈ stars (j + 1) ++ ['/'] := by
          rw [hclosing]
          simp
        rcases List.mem_append.1 hmem with hmem | hmem
        · rw [eq_star_of_mem_stars hmem] at hblank
          cases hblank
        · rw [List.mem_singleton.1 hmem] at hblank
          cases hblank
    · cases a with
      | nil => exact absurd hclosing hnot
      | cons y a =>
        cases (List.cons.inj hclosing).1
        exact ⟨a, hinner⟩

/-- Stars after a blank that go up to a slash at the end are the closing. -/
theorem StandsBefore.not_closing (h : StandsBefore (first ++ '*' :: rest) closing)
    (hfirst : ∀ x ∈ first.getLast?, isBlank x = true) (n : Nat) :
    rest ++ closing ≠ stars n ++ ['/'] := by
  intro heq
  rcases h with ⟨rfl, hzero⟩ | ⟨j, rfl, hlast⟩
  · have hstar : ∀ x ∈ first.getLast?, x ≠ '*' := by
      intro x hx
      exact ne_star_of_isBlank (hfirst x hx)
    rw [List.append_nil] at heq
    have hclosing : starClosing (first ++ '*' :: (stars n ++ ['/'])) = _ :=
      starClosing_append n hstar
    rw [← heq, hzero] at hclosing
    cases hclosing
  · -- The text before the closing would end with stars as well.
    rw [← List.append_assoc] at heq
    have hstars : rest ++ stars (j + 1) = stars n := List.append_cancel_right heq
    obtain ⟨x, hx⟩ : ∃ x, ('*' :: rest).getLast? = some x :=
      Option.isSome_iff_exists.1 (List.getLast?_isSome.2 (List.cons_ne_nil '*' rest))
    apply hlast x
    · rwa [List.getLast?_append_of_ne_nil _ (List.cons_ne_nil '*' rest)]
    · rcases List.mem_cons.1 (List.mem_of_mem_getLast? hx) with rfl | hmem
      · rfl
      · apply eq_star_of_mem_stars (k := n)
        rw [← hstars]
        exact List.mem_append_left _ hmem

theorem hasRow_iff (comment : Text) :
    HasRow comment ↔
      (unmark comment).2.2 = true ∧ InTwoLines (unmark comment).2.1.strip := by
  constructor
  · rintro ⟨lead, k, spaces, blanks, rest, rfl, hlead, hspaces, hblanks, hrest⟩
    obtain ⟨inner, closing, hsplit, hbefore, hunmark⟩ :=
      unmark_block (lead ++ (firstLine k spaces blanks ++ '*' :: rest))
    rw [hunmark]
    rw [← List.append_assoc] at hsplit
    obtain ⟨rest', rfl⟩ := hbefore.exists_rest hsplit.symm
      (isBlank_getLast?_firstLine lead k spaces hblanks) hrest
    refine ⟨rfl, ?_⟩
    rw [List.append_assoc]
    exact inTwoLines_strip hlead hspaces hblanks
  · rintro ⟨hstarred, htwo⟩
    obtain ⟨r, rfl⟩ := exists_of_starred hstarred
    obtain ⟨inner, closing, rfl, hbefore, hunmark⟩ := unmark_block r
    rw [hunmark] at htwo
    obtain ⟨k, spaces, blanks, rest, hstrip, hspaces, hblanks⟩ := htwo
    obtain ⟨w, hinner, -⟩ := strip_append inner
    have hlist : inner =
        inner.takeWhile isBlank ++ firstLine k spaces blanks ++ '*' :: (rest ++ w) := by
      conv_lhs => rw [hinner, hstrip]
      simp
    rw [hlist] at hbefore
    refine ⟨inner.takeWhile isBlank, k, spaces, blanks, rest ++ w ++ closing,
      ?_, ?_, hspaces, hblanks, ?_⟩
    · conv_lhs => rw [hlist]
      simp
    · intro x hx
      exact List.mem_takeWhile_imp hx
    · intro n
      exact hbefore.not_closing (isBlank_getLast?_firstLine _ k spaces hblanks) n

/-- What is told of a comment, less the place. -/
theorem body_eq_afterRow (comment : Text) :
    (body comment true).2 = if (unmark comment).2.2 then (afterRow (unmark comment).2.1.strip).strip
      else (unmark comment).2.1.strip := by
  generalize hunmark : unmark comment = found
  obtain ⟨place, inner, starred⟩ := found
  rw [body_of_unmark hunmark]
  cases starred with
  | false => rfl
  | true => rfl

/-- **Line ends.**  With a carriage return before every line feed a comment has the same body, with
    other line ends, exactly if it has no row of stars in two lines. -/
theorem body_crlf_iff (comment : Text) :
    (body (crlf comment) true).2 = crlf (body comment true).2 ↔ ¬ HasRow comment := by
  rw [hasRow_iff, body_eq_afterRow, body_eq_afterRow, unmark_crlf, strip_crlf]
  by_cases hstarred : (unmark comment).2.2 = true
  · rw [if_pos hstarred, if_pos hstarred, afterRow_crlf_iff]
    simp [hstarred]
  · rw [if_neg hstarred, if_neg hstarred]
    simp [hstarred]

/-- The star of the second line is left in the body. -/
theorem body_crlf_differs :
    '\r' ∉ text "/**\n * 日本語\n */" ∧
    body (text "/**\n * 日本語\n */") true = (7, text "日本語") ∧
    body (crlf (text "/**\n * 日本語\n */")) true = (6, text "* 日本語") ∧
    (body (crlf (text "/**\n * 日本語\n */")) true).2 ≠
      crlf (body (text "/**\n * 日本語\n */") true).2 := by
  decide

end Kousei.Extract
