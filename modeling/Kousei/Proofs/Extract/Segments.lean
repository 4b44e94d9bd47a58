import Kousei.Extract.Segment
import Kousei.Proofs.Extract.Body

/-! # Segments of candidates

    What is promised of the segments that are made of candidates.  Each
    segment is a stretch of the document if each candidate is
    (`ofCandidates_standsIn`), and segments keep apart when candidates do
    (`ofCandidates_pairwise`).

    The order in which candidates are given does not matter, nor does it
    matter if one is given more than once, as long as no two of them begin
    at one place (`ofCandidates_eq_of_mem_iff`). -/

namespace Kousei

/-! ## Places in the document -/

/-- The candidate is a stretch of the document; one that is empty may begin
    anywhere. -/
def Candidate.StandsIn (t : Text) (c : Candidate) : Prop :=
  c.source ≠ [] → ∃ o : Nat, c.start = o ∧ Text.StandsAt c.source t o

/-- The candidate `a` ends before `b` begins. -/
def Candidate.Before (a b : Candidate) : Prop := a.start + a.source.length ≤ b.start

namespace Segment

/-- The segment is a stretch of the document. -/
def StandsIn (t : Text) (s : Segment) : Prop :=
  ∃ o : Nat, s.offset = o ∧ Text.StandsAt s.text t o

/-- The segment `a` begins before `b` and ends before it begins. -/
structure Before (a b : Segment) : Prop where
  offset_lt : a.offset < b.offset
  stop_le : a.stop ≤ b.offset

/-- What is promised of a segment of a document that is not prose. -/
structure Proper (t : Text) (minRatio : Float) (s : Segment) : Prop where
  nonempty : s.text ≠ []
  trimmed : s.text.Trimmed
  japanese : s.text.isJapaneseEnough minRatio = true
  offset_nonneg : 0 ≤ s.offset
  stop_le : s.stop ≤ t.length
  slice : t.sliceInt s.offset s.stop = s.text

namespace StandsIn

variable {t : Text} {s : Segment}

theorem offset_nonneg (h : s.StandsIn t) : 0 ≤ s.offset := by
  obtain ⟨o, ho, -⟩ := h
  omega

theorem stop_le (h : s.StandsIn t) : s.stop ≤ t.length := by
  obtain ⟨o, ho, hs⟩ := h
  have hle := hs.le_length
  unfold stop
  omega

/-- What is cut out of a segment is cut out of the document as well. -/
theorem sliceInt_eq (h : s.StandsIn t) {a b : Int} (ha : 0 ≤ a) (hab : a ≤ b)
    (hb : b ≤ s.text.length) :
    t.sliceInt (s.offset + a) (s.offset + b) = s.text.sliceInt a b := by
  obtain ⟨o, ho, hs⟩ := h
  obtain ⟨a, rfl⟩ := Int.eq_ofNat_of_zero_le ha
  obtain ⟨b, rfl⟩ := Int.eq_ofNat_of_zero_le (Int.le_trans ha hab)
  have hcut := hs.slice_slice (i := a) (j := b) (by omega)
  rw [ho, ← Int.natCast_add, ← Int.natCast_add, Text.sliceInt_natCast, Text.sliceInt_natCast, hcut]

theorem slice (h : s.StandsIn t) : t.sliceInt s.offset s.stop = s.text := by
  have hcut := h.sliceInt_eq (Int.le_refl 0) (Int.natCast_nonneg _) (Int.le_refl s.text.length)
  have hall : s.text.sliceInt 0 s.text.length = s.text := by
    rw [← Int.natCast_zero, Text.sliceInt_natCast, Text.slice_self]
  rwa [Int.add_zero, hall] at hcut

end StandsIn

/-- The segment ends before a stretch of the document begins, or begins where
    that has ended. -/
def Avoids (s : Segment) (start length : Nat) : Prop :=
  s.stop ≤ start ∨ (start : Int) + length ≤ s.offset

theorem Avoids.mono {s : Segment} {start length length' : Nat} (h : s.Avoids start length)
    (hle : length' ≤ length) : s.Avoids start length' := by
  unfold Avoids at h ⊢
  omega

/-! ## One candidate -/

/-- Where a segment stands in its candidate. -/
theorem ofCandidate?_eq_some {minRatio : Float} {c : Candidate} {s : Segment}
    (h : ofCandidate? minRatio c = some s) :
    ∃ lead : Nat, s.offset = c.start + lead ∧ Text.StandsAt s.text c.source lead ∧
      s.text.Trimmed ∧ s.text.isJapaneseEnough minRatio = true := by
  have hstands := Extract.body_standsAt c.source c.markers
  have htrimmed := Extract.body_trimmed c.source c.markers
  unfold ofCandidate? at h
  generalize Extract.body c.source c.markers = b at h hstands htrimmed
  obtain ⟨lead, body⟩ := b
  simp only at h
  split at h
  · next hj =>
    cases h
    exact ⟨lead, rfl, hstands, htrimmed, hj⟩
  · cases h

theorem text_ne_nil_of_isJapaneseEnough {t : Text} {r : Float}
    (h : t.isJapaneseEnough r = true) : t ≠ [] := by
  rintro rfl
  simp [Text.isJapaneseEnough] at h

/-- A segment lies within its candidate. -/
theorem within_of_ofCandidate? {minRatio : Float} {c : Candidate} {s : Segment}
    (h : ofCandidate? minRatio c = some s) :
    c.start ≤ s.offset ∧ s.stop ≤ c.start + c.source.length := by
  obtain ⟨lead, hoff, hstands, -, -⟩ := ofCandidate?_eq_some h
  have hle := hstands.le_length
  unfold stop
  omega

/-- The segment of a stretch of the document is a stretch of the document. -/
theorem standsIn_of_ofCandidate? {t : Text} {minRatio : Float} {c : Candidate} {s : Segment}
    (hc : c.StandsIn t) (h : ofCandidate? minRatio c = some s) : s.StandsIn t := by
  obtain ⟨lead, hoff, hs, -, hj⟩ := ofCandidate?_eq_some h
  -- An empty candidate may begin anywhere, but it has no Japanese in it.
  have hsource : c.source ≠ [] := by
    intro hnil
    have hle := hs.le_length
    have hpos := List.length_pos_iff.2 (text_ne_nil_of_isJapaneseEnough hj)
    rw [hnil, List.length_nil] at hle
    omega
  obtain ⟨o, ho, hsrc⟩ := hc hsource
  exact ⟨o + lead, by omega, hs.trans hsrc⟩

theorem proper_of_ofCandidate? {t : Text} {minRatio : Float} {c : Candidate} {s : Segment}
    (hc : c.StandsIn t) (h : ofCandidate? minRatio c = some s) : s.Proper t minRatio := by
  obtain ⟨-, -, -, htrimmed, hj⟩ := ofCandidate?_eq_some h
  have hs := standsIn_of_ofCandidate? hc h
  exact ⟨text_ne_nil_of_isJapaneseEnough hj, htrimmed, hj, hs.offset_nonneg, hs.stop_le, hs.slice⟩

/-- Segments keep apart when their candidates do. -/
theorem before_of_ofCandidate? {minRatio : Float} {c d : Candidate} {s u : Segment}
    (hcd : c.Before d) (hs : ofCandidate? minRatio c = some s)
    (hu : ofCandidate? minRatio d = some u) : s.Before u := by
  obtain ⟨lead, hoff, hstands, -, hj⟩ := ofCandidate?_eq_some hs
  obtain ⟨lead', hoff', -⟩ := ofCandidate?_eq_some hu
  have hpos := List.length_pos_iff.2 (text_ne_nil_of_isJapaneseEnough hj)
  have hle := hstands.le_length
  unfold Candidate.Before at hcd
  constructor
  · omega
  · unfold stop
    omega

/-! ## All candidates -/

theorem distinct_sublist (ss : List Segment) : (distinct ss).Sublist ss := by
  induction ss with
  | nil => exact List.Sublist.refl _
  | cons s r ih => exact (List.filter_sublist.trans ih).cons_cons s

theorem mem_of_mem_ofCandidates {minRatio : Float} {cs : List Candidate} {s : Segment}
    (h : s ∈ ofCandidates minRatio cs) : ∃ c ∈ cs, ofCandidate? minRatio c = some s := by
  obtain ⟨c, hc, hs⟩ := List.mem_filterMap.1 ((distinct_sublist _).mem h)
  exact ⟨c, List.mem_mergeSort.1 hc, hs⟩

theorem ofCandidates_standsIn {t : Text} {minRatio : Float} {cs : List Candidate}
    (hcs : ∀ c ∈ cs, c.StandsIn t) : ∀ s ∈ ofCandidates minRatio cs, s.StandsIn t := by
  intro s hs
  obtain ⟨c, hc, hcs'⟩ := mem_of_mem_ofCandidates hs
  exact standsIn_of_ofCandidate? (hcs c hc) hcs'

/-- The segments of candidates that stand in the document are proper. -/
theorem ofCandidates_proper {t : Text} {minRatio : Float} {cs : List Candidate}
    (hcs : ∀ c ∈ cs, c.StandsIn t) : ∀ s ∈ ofCandidates minRatio cs, s.Proper t minRatio := by
  intro s hs
  obtain ⟨c, hc, hcs'⟩ := mem_of_mem_ofCandidates hs
  exact proper_of_ofCandidate? (hcs c hc) hcs'

/-- Sorting puts candidates in the order of their beginnings. -/
theorem mergeSort_pairwise (cs : List Candidate) :
    (cs.mergeSort fun a b => a.start ≤ b.start).Pairwise fun a b => a.start ≤ b.start := by
  refine (List.pairwise_mergeSort ?_ ?_ cs).imp fun {a b} hab => of_decide_eq_true hab
  · intro a b c hab hbc
    exact decide_eq_true (Int.le_trans (of_decide_eq_true hab) (of_decide_eq_true hbc))
  · intro a b
    simp only [Bool.or_eq_true, decide_eq_true_eq]
    omega

/-- Candidates that keep apart are in the order of their beginnings. -/
theorem mergeSort_eq_self {cs : List Candidate} (hcs : cs.Pairwise Candidate.Before) :
    cs.mergeSort (fun a b => a.start ≤ b.start) = cs := by
  refine List.mergeSort_of_pairwise (hcs.imp fun {a b} hab => ?_)
  unfold Candidate.Before at hab
  exact decide_eq_true (by omega)

theorem filterMap_ofCandidate?_pairwise {minRatio : Float} {cs : List Candidate}
    (hcs : cs.Pairwise Candidate.Before) :
    (cs.filterMap (ofCandidate? minRatio)).Pairwise Before :=
  List.pairwise_filterMap.2 (hcs.imp fun hab _ hs _ hu => before_of_ofCandidate? hab hs hu)

/-- No segment is left out if each begins after the one before it. -/
theorem distinct_eq_self {ss : List Segment} (hss : ss.Pairwise Before) : distinct ss = ss := by
  induction hss with
  | nil => rfl
  | @cons s r hfirst _ ih =>
    have hlater : ∀ u ∈ r, (u.offset != s.offset) = true := by
      intro u hu
      have hlt := (hfirst u hu).offset_lt
      rw [bne_iff_ne]
      omega
    rw [distinct, ih, List.filter_eq_self.2 hlater]

/-- Candidates that keep apart give one segment each, unless there is too
    little Japanese in them. -/
theorem ofCandidates_eq_filterMap {minRatio : Float} {cs : List Candidate}
    (hcs : cs.Pairwise Candidate.Before) :
    ofCandidates minRatio cs = cs.filterMap (ofCandidate? minRatio) := by
  rw [ofCandidates, mergeSort_eq_self hcs, distinct_eq_self (filterMap_ofCandidate?_pairwise hcs)]

/-- The segments of candidates that keep apart keep apart. -/
theorem ofCandidates_pairwise {minRatio : Float} {cs : List Candidate}
    (hcs : cs.Pairwise Candidate.Before) : (ofCandidates minRatio cs).Pairwise Before := by
  rw [ofCandidates_eq_filterMap hcs]
  exact filterMap_ofCandidate?_pairwise hcs

/-! ## Order and repetition -/

theorem distinct_cons (s : Segment) (ss : List Segment) :
    distinct (s :: ss) = s :: (distinct ss).filter (·.offset != s.offset) := rfl

/-- A segment that comes first anyway may come first once more. -/
theorem distinct_cons_of_eq {s : Segment} {ss us : List Segment}
    (h : distinct us = distinct (s :: ss)) : distinct (s :: us) = distinct (s :: ss) := by
  have hne : (s.offset != s.offset) = false := by simp
  rw [distinct_cons, h, distinct_cons, List.filter_cons, hne, List.filter_filter]
  simp

/-- The same candidate before lists that give the same segments. -/
theorem distinct_filterMap_cons {minRatio : Float} {cs ds : List Candidate} (c : Candidate)
    (h : distinct (cs.filterMap (ofCandidate? minRatio)) =
      distinct (ds.filterMap (ofCandidate? minRatio))) :
    distinct ((c :: cs).filterMap (ofCandidate? minRatio)) =
      distinct ((c :: ds).filterMap (ofCandidate? minRatio)) := by
  cases hseg : ofCandidate? minRatio c with
  | none => rw [List.filterMap_cons_none hseg, List.filterMap_cons_none hseg, h]
  | some s =>
    rw [List.filterMap_cons_some hseg, List.filterMap_cons_some hseg, distinct_cons, distinct_cons, h]

/-- A candidate that comes first anyway may come first once more. -/
theorem distinct_filterMap_cons_of_eq {minRatio : Float} {cs ds : List Candidate} {c : Candidate}
    (h : distinct (cs.filterMap (ofCandidate? minRatio)) =
      distinct ((c :: ds).filterMap (ofCandidate? minRatio))) :
    distinct ((c :: cs).filterMap (ofCandidate? minRatio)) =
      distinct ((c :: ds).filterMap (ofCandidate? minRatio)) := by
  cases hseg : ofCandidate? minRatio c with
  | none => rw [List.filterMap_cons_none hseg, h]
  | some s =>
    rw [List.filterMap_cons_some hseg] at h ⊢
    rw [List.filterMap_cons_some hseg]
    exact distinct_cons_of_eq h

/-- Lists with the same candidates, in the order of their beginnings, begin
    with the same one. -/
theorem head_eq_of_mem_iff {c d : Candidate} {cs ds : List Candidate}
    (hfirst : ∀ x ∈ cs, c.start ≤ x.start) (hfirst' : ∀ x ∈ ds, d.start < x.start)
    (h : ∀ x, x ∈ c :: cs ↔ x ∈ d :: ds) : c = d := by
  rcases List.mem_cons.1 ((h c).1 (List.mem_cons_self ..)) with hc | hc
  · exact hc
  · have hlt := hfirst' c hc
    rcases List.mem_cons.1 ((h d).2 (List.mem_cons_self ..)) with hd | hd
    · exact hd.symm
    · have hle := hfirst d hd
      omega

/-- Of candidates in the order of their beginnings it only matters which
    there are, if no two different ones begin at one place. -/
theorem distinct_eq_of_mem_iff {minRatio : Float} {cs ds : List Candidate}
    (hcs : cs.Pairwise fun a b => a.start ≤ b.start)
    (hds : ds.Pairwise fun a b => a.start < b.start) (h : ∀ c, c ∈ cs ↔ c ∈ ds) :
    distinct (cs.filterMap (ofCandidate? minRatio)) =
      distinct (ds.filterMap (ofCandidate? minRatio)) := by
  induction cs generalizing ds with
  | nil =>
    have hnil : ds = [] :=
      List.eq_nil_iff_forall_not_mem.2 fun d hd => List.not_mem_nil ((h d).2 hd)
    rw [hnil]
  | cons c cs ih =>
    obtain ⟨hfirst, hrest⟩ := List.pairwise_cons.1 hcs
    cases ds with
    | nil => exact absurd ((h c).1 (List.mem_cons_self ..)) List.not_mem_nil
    | cons d ds =>
      obtain ⟨hfirst', hrest'⟩ := List.pairwise_cons.1 hds
      obtain rfl : c = d := head_eq_of_mem_iff hfirst hfirst' h
      by_cases hagain : c ∈ cs
      · -- It was found more than once: the rest of the one list is still all of the other.
        have hsame : ∀ x, x ∈ cs ↔ x ∈ c :: ds := by
          intro x
          rw [← h x]
          constructor
          · exact List.mem_cons_of_mem c
          · intro hx
            rcases List.mem_cons.1 hx with rfl | hx
            · exact hagain
            · exact hx
        exact distinct_filterMap_cons_of_eq (ih hrest hds hsame)
      · -- It is in neither rest: what comes later in the other list begins later.
        have hsame : ∀ x, x ∈ cs ↔ x ∈ ds := by
          intro x
          constructor
          · intro hx
            rcases List.mem_cons.1 ((h x).1 (List.mem_cons_of_mem c hx)) with rfl | hx'
            · exact absurd hx hagain
            · exact hx'
          · intro hx
            rcases List.mem_cons.1 ((h x).2 (List.mem_cons_of_mem c hx)) with rfl | hx'
            · exact absurd (hfirst' x hx) (Int.lt_irrefl _)
            · exact hx'
        exact distinct_filterMap_cons c (ih hrest hrest' hsame)

/-- Candidates give the same segments in whatever order they are found, and
    when some are found again. -/
theorem ofCandidates_eq_of_mem_iff (minRatio : Float) {cs ds : List Candidate}
    (hds : ds.Pairwise Candidate.Before) (hne : ∀ d ∈ ds, d.source ≠ [])
    (h : ∀ c, c ∈ cs ↔ c ∈ ds) : ofCandidates minRatio cs = ofCandidates minRatio ds := by
  have hstrict : ds.Pairwise fun a b => a.start < b.start := by
    refine hds.imp_of_mem fun {a b} ha _ hab => ?_
    have hpos := List.length_pos_iff.2 (hne a ha)
    unfold Candidate.Before at hab
    omega
  have hmem : ∀ c, c ∈ cs.mergeSort (fun a b => a.start ≤ b.start) ↔ c ∈ ds :=
    fun c => List.mem_mergeSort.trans (h c)
  rw [ofCandidates, ofCandidates, mergeSort_eq_self hds]
  exact distinct_eq_of_mem_iff (mergeSort_pairwise cs) hstrict hmem

end Segment

end Kousei
