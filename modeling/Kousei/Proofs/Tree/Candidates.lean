import Kousei.Proofs.Extract.Segments
import Kousei.Tree.Node

/-! # Candidates of syntax trees

    A node is cut out of the document at the characters its bytes stand for,
    so its candidate is a stretch of the document whatever the tree is
    (`walk_standsIn`).  In a tree whose nodes lie within each other,
    one after the other among the nodes below the same one, candidates keep
    apart (`WellNested.candidates_pairwise`): the characters of a place in
    bytes do not go back when the place goes on. -/

namespace Kousei

namespace Text

/-! ## Places in bytes -/

theorem charIndex_mono (t : Text) {a b : Int} (h : a ≤ b) : t.charIndex a ≤ t.charIndex b := by
  induction t generalizing a b with
  | nil =>
    unfold charIndex
    split <;> split <;> omega
  | cons c r ih =>
    have hr := ih (show a - c.utf8Size ≤ b - c.utf8Size by omega)
    unfold charIndex
    split <;> split <;> omega

/-- A stretch of bytes is no longer than the characters between its ends. -/
theorem length_sliceBytes_le (t : Text) (a b : Int) :
    (t.sliceBytes a b).length ≤ t.charIndex b - t.charIndex a := by
  unfold sliceBytes
  rw [length_slice]
  omega

end Text

namespace Node

open Text

variable {grammar : String} {t : Text} {n : Node}

/-! ## Candidates as stretches -/

/-- Every candidate is a node with or without markers. -/
theorem mem_walk {ns : List Node} {c : Candidate} (h : c ∈ walk grammar t ns) :
    ∃ markers m, c = toCandidate t markers m := by
  fun_induction walk grammar t ns with
  | case1 => cases h
  | case2 n r _ ih => exact ih h
  | case3 n r markers _ ih =>
    rcases List.mem_cons.1 h with rfl | h
    · exact ⟨markers, n, rfl⟩
    · exact ih h
  | case4 n r _ ih => exact ih h

theorem toCandidate_standsIn (t : Text) (markers : Bool) (n : Node) :
    (toCandidate t markers n).StandsIn t := by
  intro hne
  refine ⟨t.charIndex n.first, rfl, slice_standsAt _ ?_⟩
  -- Past the end of the document nothing can be cut out.
  have hpos : 0 < (n.source t).length := List.length_pos_iff.2 hne
  unfold source sliceBytes at hpos
  rw [length_slice] at hpos
  omega

/-- The candidates of any trees are stretches of the document. -/
theorem walk_standsIn (grammar : String) (t : Text) (ns : List Node) :
    ∀ c ∈ walk grammar t ns, c.StandsIn t := by
  intro c hc
  obtain ⟨markers, m, rfl⟩ := mem_walk hc
  exact toCandidate_standsIn t markers m

/-! ## Nested trees -/

/-- Each node lies within the one above it, and the nodes below the same one
    come one after the other. -/
inductive WellNested : Node → Prop where
  | mk {kind : String} {first last : Int} {children : List Node} :
      first ≤ last →
      (∀ n ∈ children, first ≤ n.first ∧ n.last ≤ last) →
      children.Pairwise (fun m n => m.last ≤ n.first) →
      (∀ n ∈ children, WellNested n) →
      WellNested (Node.mk kind first last children)

/-- The candidate lies between two places. -/
def Between (a b : Nat) (c : Candidate) : Prop := a ≤ c.start ∧ c.start + c.source.length ≤ b

theorem Between.before {a b a' b' : Nat} {c d : Candidate} (hc : Between a b c)
    (hd : Between a' b' d) (h : b ≤ a') : c.Before d := by
  unfold Between at hc hd
  unfold Candidate.Before
  omega

theorem toCandidate_between (markers : Bool) (h : n.first ≤ n.last) :
    Between (t.charIndex n.first) (t.charIndex n.last) (toCandidate t markers n) := by
  have hle := length_sliceBytes_le t n.first n.last
  have hmono := t.charIndex_mono h
  constructor
  · exact Int.le_refl _
  · change (t.charIndex n.first : Int) + (t.sliceBytes n.first n.last).length ≤ _
    omega

theorem candidatesOf_eq_flatMap (grammar : String) (t : Text) (ns : List Node) :
    candidatesOf grammar t ns = ns.flatMap (candidates grammar t) := by
  induction ns with
  | nil => rw [candidatesOf, List.flatMap_nil]
  | cons n r ih => rw [candidatesOf, List.flatMap_cons, ih]

/-- A walk over one tree finds what the recursion finds in it. -/
theorem walk_singleton (grammar : String) (t : Text) (n : Node) :
    walk grammar t [n] = candidates grammar t n := by
  rw [walk_eq, candidatesOf_eq_flatMap, List.flatMap_singleton]

/-- The candidates of a nested tree lie within it. -/
theorem WellNested.candidates_between (h : n.WellNested) :
    ∀ c ∈ candidates grammar t n, Between (t.charIndex n.first) (t.charIndex n.last) c := by
  induction h with
  | @mk kind first last children hle hin _ _ ih =>
    intro c hc
    rw [candidates_eq] at hc
    split at hc
    · cases hc
    · rw [List.mem_singleton.1 hc]
      exact toCandidate_between _ hle
    · rw [candidatesOf_eq_flatMap] at hc
      obtain ⟨m, hm, hcm⟩ := List.mem_flatMap.1 hc
      obtain ⟨hstart, hstop⟩ := ih m hm c hcm
      have hfirst := t.charIndex_mono (hin m hm).1
      have hlast := t.charIndex_mono (hin m hm).2
      constructor
      · change (t.charIndex first : Int) ≤ _
        omega
      · change _ ≤ (t.charIndex last : Int)
        omega

/-- The candidates of a nested tree keep apart. -/
theorem WellNested.candidates_pairwise (h : n.WellNested) :
    (candidates grammar t n).Pairwise Candidate.Before := by
  induction h with
  | @mk kind first last children hle hin hrow hbelow ih =>
    rw [candidates_eq]
    split
    · exact List.Pairwise.nil
    · exact List.pairwise_singleton _ _
    · rw [candidatesOf_eq_flatMap]
      -- Below one node by induction, below two nodes because the nodes keep apart.
      refine List.pairwise_flatMap.2 ⟨ih, List.Pairwise.imp_of_mem ?_ hrow⟩
      intro m n hm hn hmn c hc d hd
      exact Between.before ((hbelow m hm).candidates_between c hc)
        ((hbelow n hn).candidates_between d hd) (t.charIndex_mono hmn)

theorem WellNested.walk_pairwise (h : n.WellNested) :
    (walk grammar t [n]).Pairwise Candidate.Before := by
  rw [walk_singleton]
  exact h.candidates_pairwise

end Node

end Kousei
