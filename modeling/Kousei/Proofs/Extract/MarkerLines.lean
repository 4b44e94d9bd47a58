import Kousei.Proofs.Extract.Forms
import Kousei.Proofs.Text.LineEnds

/-! # Markers in one line

    No marker of a comment has a line end in it, and none looks at the line
    ends around it (`Marker.inLine`).  So the same markers are found in a
    comment with other line ends, and between them is the same text with other
    line ends (`unmark_crlf`). -/

namespace Kousei.Extract

open Text

/-! ## Markers -/

variable {s t u quotes comment : Text} {c : Char} {n : Nat}

/-- There are no characters of line ends in the text. -/
def IsLine (t : Text) : Prop := '\r' ∉ t ∧ '\n' ∉ t

instance (t : Text) : Decidable (IsLine t) := inferInstanceAs (Decidable ('\r' ∉ t ∧ '\n' ∉ t))

/-- No line ends within an opening, and which line ends there are after it does
    not matter. -/
structure OpensInLine (opening : Text → Option Nat) : Prop where
  opening_crlf : ∀ t, opening (crlf t) = opening t
  line : ∀ {t n}, opening t = some n → ∃ o u, t = o ++ u ∧ o.length = n ∧ '\n' ∉ o

/-- Nor within a closing. -/
structure ClosesInLine (closing : Text → Nat) : Prop where
  closing_crlf : ∀ t, closing (crlf t) = closing t
  line : ∀ t, ∃ u c, t = u ++ c ∧ c.length = closing t ∧ '\n' ∉ c

theorem startsWith_crlf (h : IsLine s) (t : Text) : startsWith (crlf t) s = startsWith t s :=
  startsWith_breakWith h.1 h.2 _ t

theorem takeWhile_beq_breakWith (hc : IsLine [c]) {x : Char} (hx : x = '\r' ∨ x = '\n') (y : Char)
    (t : Text) : (breakWith x y t).takeWhile (· == c) = t.takeWhile (· == c) := by
  obtain ⟨hreturn, hfeed⟩ := hc
  rw [List.mem_singleton] at hreturn hfeed
  apply takeWhile_breakWith
  · rcases hx with rfl | rfl
    · exact beq_eq_false_iff_ne.2 hreturn
    · exact beq_eq_false_iff_ne.2 hfeed
  · exact beq_eq_false_iff_ne.2 hfeed

theorem head?_crlf_eq_iff (hc : IsLine [c]) : (crlf t).head? = some c ↔ t.head? = some c := by
  constructor
  · intro h
    rcases mem_head?_breakWith h with rfl | ⟨h, -⟩
    · exact absurd (List.mem_singleton.2 rfl) hc.1
    · exact h
  · intro h
    obtain ⟨r, rfl⟩ := List.head?_eq_some_iff.1 h
    have hne : c ≠ '\n' := by
      rintro rfl
      exact hc.2 (List.mem_singleton.2 rfl)
    rw [crlf, breakWith_cons_of_ne hne]
    rfl

theorem exists_of_startsWith (h : startsWith t s = true) : ∃ u, t = s ++ u := by
  obtain ⟨u, hu⟩ := List.isPrefixOf_iff_prefix.1 h
  exact ⟨u, hu.symm⟩

theorem literal_opensInLine (hs : IsLine s) : OpensInLine (literal s) where
  opening_crlf := by
    intro t
    rw [literal, literal, startsWith_crlf hs]
  line := by
    intro t n h
    unfold literal at h
    split at h
    · next hstarts =>
      obtain ⟨u, rfl⟩ := exists_of_startsWith hstarts
      cases h
      exact ⟨s, u, rfl, rfl, hs.2⟩
    · cases h

/-- The letters before the quotes of a literal are in one line. -/
theorem exists_letters (t : Text) :
    ∃ o u, t = o ++ u ∧ o.length = min 2 (t.takeWhile isLiteralLetter).length ∧ '\n' ∉ o := by
  have hprefix := List.takeWhile_prefix (l := t) isLiteralLetter
  have hle := hprefix.length_le
  refine ⟨t.take (min 2 (t.takeWhile isLiteralLetter).length), _,
    (List.take_append_drop _ t).symm, ?_, ?_⟩
  · rw [List.length_take]
    omega
  · intro hfeed
    have hmem : '\n' ∈ t.takeWhile isLiteralLetter := by
      rw [List.prefix_iff_eq_take.1 hprefix]
      exact (List.take_subset_take_left t (Nat.min_le_right _ _)) hfeed
    exact absurd (List.mem_takeWhile_imp hmem) (by decide)

theorem quoteOpening_opensInLine (hquotes : IsLine quotes) : OpensInLine (quoteOpening quotes) where
  opening_crlf := by
    intro t
    obtain ⟨o, u, hsplit, hlength, hfeed⟩ := exists_letters t
    have hrun : (crlf t).takeWhile isLiteralLetter = t.takeWhile isLiteralLetter :=
      takeWhile_breakWith (by decide) (by decide) _ t
    have hdrop : (crlf t).drop o.length = crlf (t.drop o.length) := by
      rw [hsplit, crlf_append_of_not_mem hfeed, List.drop_left, List.drop_left]
    simp only [quoteOpening, hrun, ← hlength, hdrop, startsWith_crlf hquotes]
  line := by
    intro t n h
    obtain ⟨o, u, hsplit, hlength, hfeed⟩ := exists_letters t
    simp only [quoteOpening, ← hlength] at h
    split at h
    · next hstarts =>
      rw [hsplit, List.drop_left] at hstarts
      obtain ⟨v, rfl⟩ := exists_of_startsWith hstarts
      cases h
      refine ⟨o ++ quotes, v, ?_, List.length_append, ?_⟩
      · rw [hsplit, List.append_assoc]
      · rw [List.mem_append]
        exact not_or.2 ⟨hfeed, hquotes.2⟩
    · cases h

theorem runOpening_opensInLine (hc : IsLine [c]) (least : Nat) :
    OpensInLine (runOpening c least) where
  opening_crlf := by
    intro t
    rw [runOpening, runOpening, crlf, takeWhile_beq_breakWith hc (.inl rfl)]
  line := by
    intro t n h
    simp only [runOpening] at h
    split at h
    · cases h
      refine ⟨t.takeWhile (· == c), _, List.takeWhile_append_dropWhile.symm, rfl, ?_⟩
      intro hfeed
      have heq : '\n' = c := by simpa using List.mem_takeWhile_imp hfeed
      exact hc.2 (List.mem_singleton.2 heq)
    · cases h

theorem slashOpening_opensInLine : OpensInLine slashOpening where
  opening_crlf := by
    intro t
    have hrun := runOpening_opensInLine (c := '/') (by decide) 2
    rw [slashOpening, slashOpening, hrun.opening_crlf]
    cases h : runOpening '/' 2 t with
    | none => rfl
    | some run =>
      obtain ⟨o, u, rfl, rfl, hfeed⟩ := hrun.line h
      have hmark : ((crlf u).head? == some '!') = (u.head? == some '!') := by
        rw [Bool.eq_iff_iff, beq_iff_eq, beq_iff_eq, head?_crlf_eq_iff (by decide)]
      rw [crlf_append_of_not_mem hfeed, Option.map_some, Option.map_some, List.drop_left,
        List.drop_left, hmark]
  line := by
    intro t n h
    obtain ⟨run, hrun, hn⟩ := Option.map_eq_some_iff.1 h
    obtain ⟨o, u, rfl, rfl, hfeed⟩ := (runOpening_opensInLine (by decide) 2).line hrun
    rw [List.drop_left] at hn
    split at hn
    · next hmark =>
      obtain ⟨v, rfl⟩ := List.head?_eq_some_iff.1 (beq_iff_eq.1 hmark)
      refine ⟨o ++ ['!'], v, by simp, by simpa using hn, ?_⟩
      rw [List.mem_append]
      exact not_or.2 ⟨hfeed, by decide⟩
    · exact ⟨o, u, rfl, hn, hfeed⟩

theorem unclosed_closesInLine : ClosesInLine unclosed where
  closing_crlf := fun _ => rfl
  line := fun t => ⟨t, [], (List.append_nil t).symm, rfl, List.not_mem_nil⟩

theorem isLine_reverse (h : IsLine s) : IsLine s.reverse := by
  unfold IsLine
  rwa [List.mem_reverse, List.mem_reverse]

theorem closedBy_closesInLine (hs : IsLine s) : ClosesInLine (closedBy s) where
  closing_crlf := by
    intro t
    have hends : endsWith (crlf t) s = endsWith t s := by
      -- From the end the two characters of a line end come the other way around.
      show startsWith (crlf t).reverse s.reverse = startsWith t.reverse s.reverse
      rw [crlf, reverse_breakWith, startsWith_breakWith (isLine_reverse hs).2 (isLine_reverse hs).2]
    rw [closedBy, closedBy, hends]
  line := by
    intro t
    unfold closedBy
    split
    · next hends =>
      obtain ⟨u, hu⟩ := List.isSuffixOf_iff_suffix.1 hends
      exact ⟨u, s, hu.symm, rfl, hs.2⟩
    · exact ⟨t, [], (List.append_nil t).symm, rfl, List.not_mem_nil⟩

theorem starClosing_closesInLine : ClosesInLine starClosing where
  closing_crlf := by
    intro t
    rw [starClosing, starClosing, crlf, reverse_breakWith]
    cases t.reverse with
    | nil => rfl
    | cons c r =>
      by_cases hc : c = '\n'
      · subst hc
        rfl
      · rw [breakWith_cons_of_ne hc]
        by_cases hslash : c = '/'
        · subst hslash
          simp only [takeWhile_beq_breakWith (c := '*') (by decide) (.inr rfl)]
        · split
          · next heq => exact absurd (List.cons.inj heq).1 hslash
          · split
            · next heq => exact absurd (List.cons.inj heq).1 hslash
            · rfl
  line := by
    intro t
    by_cases h : starClosing t = 0
    · exact ⟨t, [], (List.append_nil t).symm, h.symm, List.not_mem_nil⟩
    · obtain ⟨u, k, rfl, hu⟩ := exists_closing t h
      refine ⟨u, stars (k + 1) ++ ['/'], rfl, (starClosing_append k hu).symm, ?_⟩
      intro hfeed
      rcases List.mem_append.1 hfeed with hfeed | hfeed
      · exact absurd (eq_star_of_mem_stars hfeed) (by decide)
      · exact absurd hfeed (by decide)

/-- So it is with every marker. -/
theorem Marker.inLine {m : Marker} (hm : m ∈ Marker.all) :
    OpensInLine m.opening ∧ ClosesInLine m.closing := by
  simp only [Marker.all, List.mem_cons, List.not_mem_nil, or_false] at hm
  rcases hm with rfl | rfl | rfl | rfl | rfl | rfl | rfl
  · exact ⟨literal_opensInLine (by decide), closedBy_closesInLine (by decide)⟩
  · exact ⟨literal_opensInLine (by decide), starClosing_closesInLine⟩
  · exact ⟨quoteOpening_opensInLine (by decide), closedBy_closesInLine (by decide)⟩
  · exact ⟨quoteOpening_opensInLine (by decide), closedBy_closesInLine (by decide)⟩
  · exact ⟨slashOpening_opensInLine, unclosed_closesInLine⟩
  · exact ⟨runOpening_opensInLine (by decide) 1, unclosed_closesInLine⟩
  · exact ⟨runOpening_opensInLine (by decide) 1, unclosed_closesInLine⟩

/-- The marker that is found is one of all, and its opening stands there. -/
theorem opened?_mem {m : Marker} (h : opened? comment = some (m, n)) :
    m ∈ Marker.all ∧ m.opening comment = some n := by
  obtain ⟨m', hm', hopening⟩ := List.exists_of_findSome?_eq_some h
  obtain ⟨n', hn', heq⟩ := Option.map_eq_some_iff.1 hopening
  cases heq
  exact ⟨hm', hn'⟩

/-- The marker that is found does not depend on the line ends. -/
theorem opened?_crlf (comment : Text) : opened? (crlf comment) = opened? comment := by
  have hall : ∀ ms ⊆ Marker.all,
      (ms.findSome? fun m => (m.opening (crlf comment)).map fun n => (m, n)) =
        ms.findSome? fun m => (m.opening comment).map fun n => (m, n) := by
    intro ms hms
    induction ms with
    | nil => rfl
    | cons m ms ih =>
      obtain ⟨hm, hms⟩ := List.cons_subset.1 hms
      rw [List.findSome?_cons, List.findSome?_cons, (Marker.inLine hm).1.opening_crlf, ih hms]
  exact hall _ (List.Subset.refl _)

theorem unmark_of_not_opened (h : opened? comment = none) :
    unmark comment = (0, comment, false) := by
  unfold unmark
  split
  · rfl
  · next hsome =>
    rw [opened?, hsome] at h
    cases h

/-- What stands between the markers has other line ends, and is found at the same place. -/
theorem unmark_crlf (comment : Text) :
    unmark (crlf comment) =
      ((unmark comment).1, crlf (unmark comment).2.1, (unmark comment).2.2) := by
  cases hopened : opened? comment with
  | none =>
    have hcrlf : opened? (crlf comment) = none := by rw [opened?_crlf, hopened]
    rw [unmark_of_not_opened hopened, unmark_of_not_opened hcrlf]
  | some found =>
    obtain ⟨m, n⟩ := found
    obtain ⟨hm, hopening⟩ := opened?_mem hopened
    obtain ⟨hopens, hcloses⟩ := Marker.inLine hm
    obtain ⟨o, u, rfl, rfl, ho⟩ := hopens.line hopening
    obtain ⟨inner, c, rfl, hc, hfeed⟩ := hcloses.line u
    -- The line ends that are written otherwise are all between the markers.
    have hinner : crlf (inner ++ c) = crlf inner ++ c := by
      rw [crlf_append]
      congr 1
      exact breakWith_of_not_mem hfeed _ _
    have hcomment : crlf (o ++ (inner ++ c)) = o ++ (crlf inner ++ c) := by
      rw [crlf_append_of_not_mem ho, hinner]
    have hopened' : opened? (o ++ (crlf inner ++ c)) = some (m, o.length) := by
      rw [← hcomment, opened?_crlf, hopened]
    have hc' : m.closing (crlf inner ++ c) = c.length := by
      rw [← hinner, hcloses.closing_crlf, hc]
    rw [hcomment, unmark_of_opened hopened' hc', unmark_of_opened hopened hc.symm]

end Kousei.Extract
