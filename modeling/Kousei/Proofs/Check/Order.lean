import Mathlib.Data.List.Pairwise
import Mathlib.Data.List.Perm.Basic
import Kousei.Check.Paths

/-! # The order of gathered issues

    Issues are sorted by file and by where they begin, and many of them are tied:
    neither comes before the other.  Sorting leaves tied elements in the order in
    which it finds them (`filter_tied_mergeSort`), and a sorted list is known when
    its tied elements are known (`eq_of_filter_tied`).  So what is gathered from
    several lists does not depend on the order of these, as long as issues of one
    file come from equal lists (`gather_eq_of_perm`). -/

namespace Kousei.Check

/-! ## Stable sorting -/

section Stable

variable {α β : Type} {le : α → α → Bool}

/-- Neither comes before the other. -/
def tied (le : α → α → Bool) (a b : α) : Bool := le a b && le b a

theorem tied_self (htotal : ∀ a b, (le a b || le b a) = true) (a : α) : tied le a a = true := by
  have hself : le a a = true := by
    have h := htotal a a
    rwa [Bool.or_self] at h
  rw [tied, hself, Bool.and_self]

theorem tied_eq_true {a b : α} : tied le a b = true ↔ le a b = true ∧ le b a = true :=
  Bool.and_eq_true_iff

/-- Sorting leaves the elements that are tied with one of them in their order. -/
theorem filter_tied_mergeSort (htrans : ∀ a b c, le a b = true → le b c = true → le a c = true)
    (htotal : ∀ a b, (le a b || le b a) = true) (l : List α) (a : α) :
    (l.mergeSort le).filter (tied le a) = l.filter (tied le a) := by
  have hsorted : (l.filter (tied le a)).Pairwise fun x y => le x y = true := by
    apply List.pairwise_of_forall_mem_list
    intro x hx y hy
    have hxa := (tied_eq_true.1 (List.mem_filter.1 hx).2).2
    have hay := (tied_eq_true.1 (List.mem_filter.1 hy).2).1
    exact htrans x a y hxa hay
  have hsub : (l.filter (tied le a)).Sublist (l.mergeSort le) :=
    List.sublist_mergeSort htrans htotal hsorted List.filter_sublist
  have hkept := hsub.filter (tied le a)
  rw [List.filter_filter] at hkept
  simp only [Bool.and_self] at hkept
  have hlength := ((List.mergeSort_perm l le).filter (tied le a)).length_eq
  exact (hkept.eq_of_length hlength.symm).symm

/-- A sorted list is known when for each element those that are tied with it are
    known in their order. -/
theorem eq_of_filter_tied (htotal : ∀ a b, (le a b || le b a) = true) {l l' : List α}
    (hl : l.Pairwise fun x y => le x y = true) (hl' : l'.Pairwise fun x y => le x y = true)
    (h : ∀ a, l.filter (tied le a) = l'.filter (tied le a)) : l = l' := by
  have hmem {m m' : List α} (h : ∀ a, m.filter (tied le a) = m'.filter (tied le a)) {b : α}
      (hb : b ∈ m) : b ∈ m' := by
    have hkept : b ∈ m.filter (tied le b) := List.mem_filter.2 ⟨hb, tied_self htotal b⟩
    rw [h b] at hkept
    exact (List.mem_filter.1 hkept).1
  -- The first element of a sorted list comes before all of them.
  have hfirst {a : α} {m : List α} (hm : (a :: m).Pairwise fun x y => le x y = true) {b : α}
      (hb : b ∈ a :: m) : le a b = true := by
    rcases List.mem_cons.1 hb with rfl | hb
    · exact (tied_eq_true.1 (tied_self htotal b)).1
    · exact (List.pairwise_cons.1 hm).1 b hb
  induction l generalizing l' with
  | nil =>
    cases l' with
    | nil => rfl
    | cons b r' => cases hmem (fun a => (h a).symm) (List.mem_cons_self (a := b) (l := r'))
  | cons a r ih =>
    cases l' with
    | nil => cases hmem h (List.mem_cons_self (a := a) (l := r))
    | cons b r' =>
      have hab : le a b = true := hfirst hl (hmem (fun a => (h a).symm) List.mem_cons_self)
      have hba : le b a = true := hfirst hl' (hmem h List.mem_cons_self)
      have hheads := h a
      rw [List.filter_cons_of_pos (tied_self htotal a),
        List.filter_cons_of_pos (tied_eq_true.2 ⟨hab, hba⟩)] at hheads
      obtain ⟨rfl, -⟩ := List.cons.inj hheads
      have hrest : r = r' := by
        refine ih (List.pairwise_cons.1 hl).2 (List.pairwise_cons.1 hl').2 fun c => ?_
        have hc := h c
        by_cases hca : tied le c a = true
        · rw [List.filter_cons_of_pos hca, List.filter_cons_of_pos hca] at hc
          exact (List.cons.inj hc).2
        · rwa [List.filter_cons_of_neg hca, List.filter_cons_of_neg hca] at hc
      rw [hrest]

/-- Lists that agree in their tied elements are the same when they are sorted. -/
theorem mergeSort_eq_of_filter_tied
    (htrans : ∀ a b c, le a b = true → le b c = true → le a c = true)
    (htotal : ∀ a b, (le a b || le b a) = true) {l l' : List α}
    (h : ∀ a, l.filter (tied le a) = l'.filter (tied le a)) :
    l.mergeSort le = l'.mergeSort le := by
  refine eq_of_filter_tied htotal (List.pairwise_mergeSort htrans htotal l)
    (List.pairwise_mergeSort htrans htotal l') fun a => ?_
  rw [filter_tied_mergeSort htrans htotal, filter_tied_mergeSort htrans htotal, h a]

/-- What is collected from several places does not depend on their order if all
    places that give something give the same. -/
theorem flatMap_eq_of_perm {f : α → List β} {l l' : List α} (h : l.Perm l')
    (hsame : ∀ x ∈ l, ∀ y ∈ l, f x ≠ [] → f y ≠ [] → f x = f y) :
    l.flatMap f = l'.flatMap f := by
  induction h with
  | nil => rfl
  | cons x hr ih =>
    have hrest := ih fun y hy z hz =>
      hsame y (List.mem_cons_of_mem x hy) z (List.mem_cons_of_mem x hz)
    rw [List.flatMap_cons, List.flatMap_cons, hrest]
  | swap x y r =>
    -- If both give something, it is the same.
    have hswap : f y ++ f x = f x ++ f y := by
      by_cases hx : f x = []
      · rw [hx, List.append_nil, List.nil_append]
      · by_cases hy : f y = []
        · rw [hy, List.append_nil, List.nil_append]
        · rw [hsame x (by simp) y (by simp) hx hy]
    rw [List.flatMap_cons, List.flatMap_cons, List.flatMap_cons, List.flatMap_cons,
      ← List.append_assoc, hswap, List.append_assoc]
  | trans h₁ h₂ ih₁ ih₂ =>
    exact (ih₁ hsame).trans
      (ih₂ fun x hx y hy => hsame x (h₁.mem_iff.2 hx) y (h₁.mem_iff.2 hy))

end Stable

/-! ## Issues -/

/-- The file by which an issue is sorted. -/
abbrev Issue.place (i : Issue) : String := i.file.getD ""

theorem isBefore_iff {a b : Issue} : Issue.isBefore a b = true ↔
    Issue.place a < Issue.place b ∨ Issue.place a = Issue.place b ∧ a.start ≤ b.start := by
  unfold Issue.isBefore
  simp only [Bool.or_eq_true, Bool.and_eq_true, decide_eq_true_eq, beq_iff_eq]

theorem isBefore_trans (a b c : Issue) (hab : Issue.isBefore a b = true)
    (hbc : Issue.isBefore b c = true) : Issue.isBefore a c = true := by
  rw [isBefore_iff] at hab hbc ⊢
  rcases hab with hab | ⟨hab, hstart⟩
  · rcases hbc with hbc | ⟨hbc, -⟩
    · exact .inl (String.lt_trans hab hbc)
    · exact .inl (hbc ▸ hab)
  · rcases hbc with hbc | ⟨hbc, hstart'⟩
    · exact .inl (hab ▸ hbc)
    · exact .inr ⟨hab.trans hbc, Int.le_trans hstart hstart'⟩

theorem isBefore_total (a b : Issue) :
    (Issue.isBefore a b || Issue.isBefore b a) = true := by
  rw [Bool.or_eq_true, isBefore_iff, isBefore_iff]
  rcases Std.lt_trichotomy (Issue.place a) (Issue.place b) with h | h | h
  · exact .inl (.inl h)
  · rcases Int.le_total a.start b.start with hstart | hstart
    · exact .inl (.inr ⟨h, hstart⟩)
    · exact .inr (.inr ⟨h.symm, hstart⟩)
  · exact .inr (.inl h)

/-- Issues that are tied are of one file. -/
theorem place_eq_of_tied {a b : Issue} (h : tied Issue.isBefore a b = true) :
    Issue.place b = Issue.place a := by
  obtain ⟨hab, hba⟩ := tied_eq_true.1 h
  rcases isBefore_iff.1 hab with hlt | ⟨heq, -⟩
  · rcases isBefore_iff.1 hba with hlt' | ⟨heq, -⟩
    · exact absurd hlt' (String.lt_asymm hlt)
    · exact heq
  · exact heq.symm

/-! ## Gathering -/

theorem gather_pairwise (found : List (List Issue)) :
    (gather found).Pairwise fun a b => Issue.isBefore a b = true :=
  List.pairwise_mergeSort isBefore_trans isBefore_total _

theorem gather_perm (found : List (List Issue)) : (gather found).Perm found.flatten :=
  List.mergeSort_perm _ _

/-- What is gathered does not depend on the order of the lists, if lists with issues of
    one file are equal. -/
theorem gather_eq_of_perm {found found' : List (List Issue)} (h : found.Perm found')
    (hsingle : ∀ x ∈ found, ∀ y ∈ found, ∀ i ∈ x, ∀ j ∈ y,
      Issue.place i = Issue.place j → x = y) :
    gather found = gather found' := by
  refine mergeSort_eq_of_filter_tied isBefore_trans isBefore_total fun a => ?_
  rw [List.filter_flatten, List.filter_flatten, ← List.flatMap_def, ← List.flatMap_def]
  refine flatMap_eq_of_perm h fun x hx y hy hxa hya => ?_
  -- What is tied with `a` is of the file of `a`, in `x` as in `y`.
  obtain ⟨i, hi⟩ := List.exists_mem_of_ne_nil _ hxa
  obtain ⟨j, hj⟩ := List.exists_mem_of_ne_nil _ hya
  obtain ⟨hi, hai⟩ := List.mem_filter.1 hi
  obtain ⟨hj, haj⟩ := List.mem_filter.1 hj
  rw [hsingle x hx y hy i hi j hj ((place_eq_of_tied hai).trans (place_eq_of_tied haj).symm)]

end Kousei.Check
