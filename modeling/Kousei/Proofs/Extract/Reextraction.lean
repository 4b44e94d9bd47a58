import Kousei.Proofs.Extract.Segments

/-! # Segments that are extracted again

    Candidates are sorted before segments are made of them, and no two
    candidates of a document begin at one place, so it does not matter in
    which order they were found.  Candidates may be empty, and then one of them
    may lie within another: they keep apart all the same (`Candidate.Apart`),
    and an empty one gives no segment.

    A segment has neither markers nor blanks at its ends and is Japanese
    enough, so a candidate that is a segment gives that segment
    (`ofCandidate?_toCandidate`).  Both together say that nothing is left to do
    when segments are extracted again (`ofCandidates_again`). -/

namespace Kousei

namespace Candidate

/-- The place is one of the candidate's own. -/
def Covers (c : Candidate) (i : Int) : Prop := c.start ≤ i ∧ i < c.start + c.source.length

/-- The candidates begin at different places, and no place is in both. -/
structure Apart (a b : Candidate) : Prop where
  start_ne : a.start ≠ b.start
  disjoint : ∀ i, a.Covers i → ¬ b.Covers i

variable {a b : Candidate}

theorem Apart.symm (h : a.Apart b) : b.Apart a where
  start_ne := h.start_ne.symm
  disjoint := by
    intro i hb ha
    exact h.disjoint i ha hb

/-- Of two candidates that are apart the one that begins first ends before the
    other begins, unless there is nothing in the other. -/
theorem Apart.before (h : a.Apart b) (hle : a.start ≤ b.start) (hb : b.source ≠ []) :
    a.Before b := by
  have hne := h.start_ne
  have hpos := List.length_pos_iff.2 hb
  have hself : b.Covers b.start := by
    unfold Covers
    omega
  -- Otherwise the second one would begin within the first.
  have hnot : ¬ a.Covers b.start := by
    intro ha
    exact h.disjoint b.start ha hself
  unfold Covers at hnot
  unfold Before
  omega

theorem Before.apart (h : a.Before b) (ha : a.source ≠ []) : a.Apart b := by
  have hpos := List.length_pos_iff.2 ha
  unfold Before at h
  constructor
  · omega
  · intro i hai hbi
    unfold Covers at hai hbi
    omega

end Candidate

namespace Segment

variable {minRatio : Float} {cs ds : List Candidate} {s : Segment} {a : Candidate}

/-! ## The order of the candidates -/

/-- Candidates that are apart keep so when they are sorted. -/
theorem mergeSort_apart (hcs : cs.Pairwise Candidate.Apart) :
    (cs.mergeSort fun a b => a.start ≤ b.start).Pairwise Candidate.Apart :=
  hcs.perm (List.mergeSort_perm cs _).symm fun h => h.symm

/-- Candidates that are apart may be found in any order. -/
theorem ofCandidates_eq_of_perm (h : ds.Perm cs) (hcs : cs.Pairwise Candidate.Apart) :
    ofCandidates minRatio ds = ofCandidates minRatio cs := by
  -- No two of them begin at one place, so the sorted list is strictly sorted.
  have hstrict : (cs.mergeSort fun a b => a.start ≤ b.start).Pairwise
      fun a b => a.start < b.start := by
    apply ((mergeSort_pairwise cs).and (mergeSort_apart hcs)).imp
    rintro a b ⟨hle, hab⟩
    have hne := hab.start_ne
    have hle' : a.start ≤ b.start := by simpa using hle
    omega
  rw [ofCandidates, ofCandidates]
  apply distinct_eq_of_mem_iff (mergeSort_pairwise ds) hstrict
  intro c
  rw [List.mem_mergeSort, List.mem_mergeSort, h.mem_iff]

/-- A candidate that gives a segment is not empty. -/
theorem source_ne_nil_of_ofCandidate? (h : ofCandidate? minRatio a = some s) : a.source ≠ [] := by
  obtain ⟨lead, -, hstands, -, hjapanese⟩ := ofCandidate?_eq_some h
  have hle := hstands.le_length
  have hpos := List.length_pos_iff.2 (text_ne_nil_of_isJapaneseEnough hjapanese)
  intro hnil
  rw [hnil, List.length_nil] at hle
  omega

/-- The segments of sorted candidates that are apart come one after the other. -/
theorem filterMap_mergeSort_pairwise (hcs : cs.Pairwise Candidate.Apart) :
    ((cs.mergeSort fun a b => a.start ≤ b.start).filterMap
      (ofCandidate? minRatio)).Pairwise Before := by
  apply List.pairwise_filterMap.2
  apply ((mergeSort_pairwise cs).and (mergeSort_apart hcs)).imp
  rintro a b ⟨hle, hab⟩ s hs u hu
  exact before_of_ofCandidate? (hab.before hle (source_ne_nil_of_ofCandidate? hu)) hs hu

/-- So none of them is left out. -/
theorem ofCandidates_of_apart (hcs : cs.Pairwise Candidate.Apart) :
    ofCandidates minRatio cs =
      (cs.mergeSort fun a b => a.start ≤ b.start).filterMap (ofCandidate? minRatio) := by
  rw [ofCandidates, distinct_eq_self (filterMap_mergeSort_pairwise hcs)]

theorem mem_ofCandidates_of_apart (hcs : cs.Pairwise Candidate.Apart) :
    s ∈ ofCandidates minRatio cs ↔ ∃ a ∈ cs, ofCandidate? minRatio a = some s := by
  simp only [ofCandidates_of_apart hcs, List.mem_filterMap, List.mem_mergeSort]

/-! ## Segments as candidates -/

/-- The segment as a candidate without markers. -/
def toCandidate (s : Segment) : Candidate := ⟨s.offset, s.text, false⟩

/-- A segment that was extracted is extracted from itself. -/
theorem ofCandidate?_toCandidate (h : ofCandidate? minRatio a = some s) :
    ofCandidate? minRatio s.toCandidate = some s := by
  obtain ⟨-, -, -, htrimmed, hjapanese⟩ := ofCandidate?_eq_some h
  have hbody : Extract.body s.toCandidate.source s.toCandidate.markers = (0, s.text) :=
    Extract.body_of_trimmed htrimmed
  unfold ofCandidate?
  rw [hbody]
  simp only [hjapanese, if_true]
  show some (⟨s.text, s.offset + 0⟩ : Segment) = some s
  rw [Int.add_zero]

/-- All of several segments are extracted from themselves. -/
theorem filterMap_toCandidate {ss : List Segment}
    (h : ∀ s ∈ ss, ofCandidate? minRatio s.toCandidate = some s) :
    (ss.map toCandidate).filterMap (ofCandidate? minRatio) = ss := by
  induction ss with
  | nil => rfl
  | cons s r ih =>
    obtain ⟨hs, hr⟩ := List.forall_mem_cons.1 h
    rw [List.map_cons, List.filterMap_cons_some hs, ih hr]

/-- Segments keep apart as candidates too, since none of them is empty. -/
theorem map_toCandidate_apart (minRatio : Float) (hcs : cs.Pairwise Candidate.Apart) :
    ((ofCandidates minRatio cs).map toCandidate).Pairwise Candidate.Before ∧
      ((ofCandidates minRatio cs).map toCandidate).Pairwise Candidate.Apart := by
  have hbefore : ((ofCandidates minRatio cs).map toCandidate).Pairwise Candidate.Before := by
    rw [List.pairwise_map, ofCandidates_of_apart hcs]
    exact (filterMap_mergeSort_pairwise hcs).imp fun h => h.stop_le
  refine ⟨hbefore, ?_⟩
  apply hbefore.imp_of_mem
  intro a b ha hb hab
  obtain ⟨s, hs, rfl⟩ := List.mem_map.1 ha
  obtain ⟨d, -, hd⟩ := (mem_ofCandidates_of_apart hcs).1 hs
  exact hab.apart (source_ne_nil_of_ofCandidate? (ofCandidate?_toCandidate hd))

/-- **Segments that are extracted again.**  Candidates of which no two begin at one place
    or share one have just the segments that each of them gives, in whatever order they are
    found.  The segments themselves, as candidates without markers and in any order, give
    exactly these segments. -/
theorem ofCandidates_again (minRatio : Float) (cs : List Candidate)
    (hcs : cs.Pairwise Candidate.Apart) :
    (∀ s, s ∈ ofCandidates minRatio cs ↔ ∃ a ∈ cs, ofCandidate? minRatio a = some s) ∧
    (∀ ds, ds.Perm cs → ofCandidates minRatio ds = ofCandidates minRatio cs) ∧
    ∀ ds, ds.Perm ((ofCandidates minRatio cs).map toCandidate) →
      ofCandidates minRatio ds = ofCandidates minRatio cs := by
  refine ⟨?_, ?_, ?_⟩
  · intro s
    exact mem_ofCandidates_of_apart hcs
  · intro ds h
    exact ofCandidates_eq_of_perm h hcs
  · intro ds h
    obtain ⟨hbefore, hapart⟩ := map_toCandidate_apart minRatio hcs
    have hitself : ∀ s ∈ ofCandidates minRatio cs,
        ofCandidate? minRatio s.toCandidate = some s := by
      intro s hs
      obtain ⟨a, -, ha⟩ := (mem_ofCandidates_of_apart hcs).1 hs
      exact ofCandidate?_toCandidate ha
    rw [ofCandidates_eq_of_perm h hapart, ofCandidates_eq_filterMap hbefore,
      filterMap_toCandidate hitself]

/-- Two comments with their markers, and an empty one that lies within the second. -/
def nestedCandidates : List Candidate :=
  [⟨0, "# 文を読む".toList, true⟩, ⟨12, "// 日本語を書く ".toList, true⟩, ⟨14, [], false⟩]

theorem nestedCandidates_apart : nestedCandidates.Pairwise Candidate.Apart := by
  have hfirst : ∀ c ∈ nestedCandidates.tail,
      Candidate.Before ⟨0, "# 文を読む".toList, true⟩ c := by
    unfold Candidate.Before
    decide
  have hempty : Candidate.Apart ⟨12, "// 日本語を書く ".toList, true⟩ ⟨14, [], false⟩ := by
    refine ⟨by decide, ?_⟩
    rintro i - ⟨hlow, hhigh⟩
    change i < 14 + 0 at hhigh
    exact absurd hlow (Int.not_le.2 hhigh)
  apply List.Pairwise.cons
  · intro c hc
    exact (hfirst c hc).apart (by decide)
  · exact List.pairwise_pair.2 hempty

/-- The segments of these candidates, without the markers. -/
def gatheredSegments : List Segment := [⟨"文を読む".toList, 2⟩, ⟨"日本語を書く".toList, 15⟩]

theorem ofCandidates_nestedCandidates : ofCandidates 0.5 nestedCandidates = gatheredSegments := by
  rw [ofCandidates, List.mergeSort_of_pairwise (by decide)]
  decide +kernel

theorem ofCandidates_again_of_nestedCandidates :
    nestedCandidates.Pairwise Candidate.Apart ∧
    ofCandidates 0.5 nestedCandidates.reverse = gatheredSegments ∧
    ofCandidates 0.5 (gatheredSegments.map toCandidate).reverse = gatheredSegments := by
  obtain ⟨-, hany, hagain⟩ := ofCandidates_again 0.5 nestedCandidates nestedCandidates_apart
  rw [ofCandidates_nestedCandidates] at hany hagain
  refine ⟨nestedCandidates_apart, ?_, ?_⟩
  · exact hany _ (List.reverse_perm _)
  · exact hagain _ (List.reverse_perm _)

end Segment

end Kousei
