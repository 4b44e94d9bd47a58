import Kousei.Proofs.Tree.Candidates
import Mathlib.Data.List.Basic

/-! # Comments of syntax trees

    In a tree of most languages only the comments are candidates, so what a
    walk finds can be told from the places of the comments alone
    (`walk_eq_map_commentSpans`).  Of the tree it is only asked that no
    comment stands below another: what is below a candidate is not looked at.

    A place in bytes that lies between two characters of the document is the
    place in characters that one expects (`charIndex_byteLength`), whatever
    the characters before it are. -/

namespace Kousei

namespace Text

/-! ## Places between characters -/

theorem byteLength_append (s t : Text) : byteLength (s ++ t) = byteLength s + byteLength t := by
  induction s with
  | nil => simp [byteLength]
  | cons c r ih => simp only [List.cons_append, byteLength, ih, Nat.add_assoc]

/-- The end of the text `s` in bytes is its end in characters. -/
theorem charIndex_byteLength (s t : Text) : (s ++ t).charIndex (byteLength s) = s.length := by
  induction s with
  | nil => cases t <;> rfl
  | cons c r ih =>
    have hpos := c.utf8Size_pos
    have hrest : ((byteLength (c :: r) : Nat) : Int) - c.utf8Size = byteLength r := by
      simp only [byteLength]
      omega
    rw [List.cons_append, charIndex, if_neg (by simp only [byteLength]; omega), hrest, ih,
      List.length_cons, Nat.add_comm]

/-- What stands between two places in bytes. -/
theorem sliceBytes_byteLength (s m t : Text) :
    (s ++ m ++ t).sliceBytes (byteLength s) (byteLength s + byteLength m : Nat) = m := by
  -- Both ends are ends of texts that the document begins with.
  have hfirst : (s ++ m ++ t).charIndex (byteLength s) = s.length := by
    rw [List.append_assoc, charIndex_byteLength]
  have hlast : (s ++ m ++ t).charIndex (byteLength s + byteLength m : Nat) =
      s.length + m.length := by
    rw [← byteLength_append, charIndex_byteLength, List.length_append]
  have hstands : StandsAt m (s ++ m ++ t) s.length := ⟨s, t, rfl, rfl⟩
  rw [sliceBytes, hfirst, hlast, hstands.slice_eq]

end Text

namespace Node

variable {grammar : String} {n : Node}

/-! ## Places of comments -/

mutual

/-- The places in bytes of the comments of a tree, each before those below it. -/
def commentSpans : Node → List (Int × Int)
  | mk k a b cs =>
    if (mk k a b cs).isComment then (a, b) :: commentSpansOf cs else commentSpansOf cs

/-- The places of the comments of several trees. -/
def commentSpansOf : List Node → List (Int × Int)
  | [] => []
  | n :: r => commentSpans n ++ commentSpansOf r

end

theorem commentSpansOf_eq_flatMap (ns : List Node) :
    commentSpansOf ns = ns.flatMap commentSpans := by
  induction ns with
  | nil => rw [commentSpansOf, List.flatMap_nil]
  | cons n r ih => rw [commentSpansOf, List.flatMap_cons, ih]

/-- No comment of the tree stands below another. -/
inductive CommentsApart : Node → Prop where
  | mk {kind : String} {first last : Int} {children : List Node} :
      ((Node.mk kind first last children).isComment = true → commentSpansOf children = []) →
      (∀ n ∈ children, CommentsApart n) →
      CommentsApart (Node.mk kind first last children)

/-- The comment between two places in bytes as a candidate. -/
def spanCandidate (t : Text) (span : Int × Int) : Candidate :=
  ⟨t.charIndex span.1, t.sliceBytes span.1 span.2, true⟩

/-! ## What a walk finds -/

/-- Outside of HTML and Python only comments are candidates. -/
theorem visit_eq (t : Text) (hhtml : grammar ≠ "html") (hpython : grammar ≠ "python") (n : Node) :
    visit grammar t n = if n.isComment then .take true else .descend := by
  have hhtml' : (grammar == "html") = false := beq_eq_false_iff_ne.2 hhtml
  have hpython' : (grammar == "python") = false := beq_eq_false_iff_ne.2 hpython
  unfold visit
  simp only [hhtml', hpython', Bool.false_and, Bool.false_eq_true, ↓reduceIte]

theorem candidates_eq_map_commentSpans (t : Text) (hhtml : grammar ≠ "html")
    (hpython : grammar ≠ "python") (h : n.CommentsApart) :
    candidates grammar t n = n.commentSpans.map (spanCandidate t) := by
  induction h with
  | @mk kind first last children hbelow _ ih =>
    rw [candidates_eq, visit_eq t hhtml hpython, commentSpans]
    by_cases hcomment : (Node.mk kind first last children).isComment
    · -- Nothing below a comment is looked at, and there is no comment there.
      simp only [hcomment, ↓reduceIte, hbelow hcomment]
      rfl
    · simp only [hcomment, Bool.false_eq_true, ↓reduceIte]
      rw [candidatesOf_eq_flatMap, commentSpansOf_eq_flatMap, List.map_flatMap]
      exact List.flatMap_congr ih

/-- A walk finds the comments of the tree. -/
theorem walk_eq_map_commentSpans (t : Text) (hhtml : grammar ≠ "html")
    (hpython : grammar ≠ "python") (h : n.CommentsApart) :
    walk grammar t [n] = n.commentSpans.map (spanCandidate t) := by
  rw [walk_singleton, candidates_eq_map_commentSpans t hhtml hpython h]

end Node

end Kousei
