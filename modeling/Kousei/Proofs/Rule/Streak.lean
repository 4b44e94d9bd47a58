import Kousei.Rule.Streak

/-! # Lengths of streaks

    How long the streak is that an element ends can be said of its place
    alone (`runLength`): one, or one more than at the place before if the
    element goes on with what stands there.

    The scanner remembers just this.  After each element it holds that
    element and the length at its place, so what it finds are the places at
    which a streak goes on, in order and with their lengths (`repeats_eq`). -/

namespace Kousei.Streak

variable {α κ : Type}

/-! ## Lengths by places -/

/-- The element at a place with the one before it. -/
def neighbours? (xs : List α) : Nat → Option (α × α)
  | 0 => none
  | i + 1 => xs[i]?.bind fun x => xs[i + 1]?.map fun y => (x, y)

/-- The length of the streak that the element at a place ends, if `follows`
    tells which elements go on with the one before them. -/
def runLength (follows : α → α → Bool) (xs : List α) : Nat → Nat
  | 0 => 1
  | i + 1 =>
    if (neighbours? xs (i + 1)).any fun p => follows p.1 p.2 then runLength follows xs i + 1 else 1

/-- The repeat that ends at a place, if the element there goes on with the one
    before it. -/
def repeatAt? (follows : α → α → Bool) (xs : List α) (i : Nat) : Option (Repeat α) :=
  (neighbours? xs i).bind fun p =>
    if follows p.1 p.2 then some ⟨p.1, p.2, runLength follows xs i⟩ else none

variable {follows : α → α → Bool} {xs : List α} {i : Nat} {x y : α}

theorem neighbours?_succ (hx : xs[i]? = some x) (hy : xs[i + 1]? = some y) :
    neighbours? xs (i + 1) = some (x, y) := by
  simp [neighbours?, hx, hy]

theorem runLength_succ (hx : xs[i]? = some x) (hy : xs[i + 1]? = some y) :
    runLength follows xs (i + 1) = if follows x y then runLength follows xs i + 1 else 1 := by
  simp [runLength, neighbours?_succ hx hy]

theorem repeatAt?_succ (hx : xs[i]? = some x) (hy : xs[i + 1]? = some y) :
    repeatAt? follows xs (i + 1) =
      if follows x y then some ⟨x, y, runLength follows xs i + 1⟩ else none := by
  unfold repeatAt?
  rw [neighbours?_succ hx hy, runLength_succ hx hy, Option.bind_some]
  by_cases hfollows : follows x y
  · simp [hfollows]
  · simp [hfollows]

theorem runLength_pos (i : Nat) : 0 < runLength follows xs i := by
  cases i with
  | zero => exact Nat.one_pos
  | succ i =>
    rw [runLength]
    split
    · exact Nat.succ_pos _
    · exact Nat.one_pos

/-- Two elements are in a streak exactly where one goes on with the other. -/
theorem two_le_runLength_iff (hx : xs[i]? = some x) (hy : xs[i + 1]? = some y) :
    2 ≤ runLength follows xs (i + 1) ↔ follows x y = true := by
  have hpos : 0 < runLength follows xs i := runLength_pos i
  rw [runLength_succ hx hy]
  by_cases hfollows : follows x y
  · simp only [hfollows, ↓reduceIte, iff_true]
    omega
  · simp [hfollows]

/-! ## The scanner -/

variable [DecidableEq κ] {key : α → κ} {linked : α → α → Bool}

/-- Does an element go on with the one before it: linked, and with the same
    key? -/
def goesOn (key : α → κ) (linked : α → α → Bool) (x y : α) : Bool :=
  linked x y && key x == key y

/-- One step of a scanner: whatever it held, it holds the new element after
    it, and if it finds a repeat, then from the element it held. -/
theorem repeats_some_cases (key : α → κ) (linked : α → α → Bool) (s : Streak α κ) (x : α) :
    ∃ n, (∀ r, repeats key linked s (some x :: r) = repeats key linked ⟨some (x, key x), n⟩ r) ∨
      ∃ previous, s.last.map Prod.fst = some previous ∧
        ∀ r, repeats key linked s (some x :: r) =
          ⟨previous, x, n⟩ :: repeats key linked ⟨some (x, key x), n⟩ r := by
  obtain ⟨last, length⟩ := s
  cases last with
  | none => exact ⟨1, .inl fun r => rfl⟩
  | some p =>
    obtain ⟨previous, k⟩ := p
    by_cases hgoes : (linked previous x && k == key x) = true
    · refine ⟨length + 1, .inr ⟨previous, rfl, fun r => ?_⟩⟩
      simp only [repeats, feed, Option.all_some, hgoes, ↓reduceIte]
    · refine ⟨1, .inl fun r => ?_⟩
      simp only [repeats, feed, Option.all_some, hgoes, Bool.false_eq_true, ↓reduceIte]

/-- One step of the scanner that holds the element `x`. -/
theorem repeats_cons (n : Nat) (r : List (Option α)) :
    repeats key linked ⟨some (x, key x), n⟩ (some y :: r) =
      if goesOn key linked x y then
        ⟨x, y, n + 1⟩ :: repeats key linked ⟨some (y, key y), n + 1⟩ r
      else repeats key linked ⟨some (y, key y), 1⟩ r := by
  rw [repeats]
  simp only [Option.all_some, feed, goesOn]
  by_cases hgoes : (linked x y && key x == key y) = true
  · simp only [hgoes, ↓reduceIte]
  · simp only [hgoes, Bool.false_eq_true, ↓reduceIte]

/-- A scanner that holds the element at a place, and the length there, finds
    the repeats at the places that come after it. -/
theorem repeats_drop (hx : xs[i]? = some x) :
    repeats key linked ⟨some (x, key x), runLength (goesOn key linked) xs i⟩
        ((xs.drop (i + 1)).map some) =
      (List.range' (i + 1) (xs.length - (i + 1))).filterMap (repeatAt? (goesOn key linked) xs) := by
  -- By the elements that are left; what the scanner holds moves along with them.
  generalize hr : xs.drop (i + 1) = r
  induction r generalizing i x with
  | nil =>
    have hlength : xs.length ≤ i + 1 := List.drop_eq_nil_iff.1 hr
    rw [Nat.sub_eq_zero_of_le hlength]
    rfl
  | cons y r ih =>
    have hy : xs[i + 1]? = some y := by
      rw [← List.head?_drop, hr]
      rfl
    have hnext : xs.drop (i + 1 + 1) = r := by
      rw [← List.tail_drop, hr]
      rfl
    have hlength : xs.length - (i + 1) = xs.length - (i + 1 + 1) + 1 := by
      have hlt := (List.getElem?_eq_some_iff.1 hy).1
      omega
    have hrest := ih hy hnext
    rw [runLength_succ hx hy] at hrest
    rw [List.map_cons, repeats_cons, hlength, List.range'_succ, List.filterMap_cons,
      repeatAt?_succ hx hy]
    by_cases hgoes : goesOn key linked x y
    · rw [if_pos hgoes] at hrest
      simp only [hgoes, ↓reduceIte, hrest]
    · rw [if_neg hgoes] at hrest
      simp only [hgoes, Bool.false_eq_true, ↓reduceIte, hrest]

/-- **What a scanner finds.**  The repeats of a row without gaps are those at
    the places of its elements, in order. -/
theorem repeats_eq (key : α → κ) (linked : α → α → Bool) (xs : List α) :
    repeats key linked {} (xs.map some) =
      (List.range xs.length).filterMap (repeatAt? (goesOn key linked) xs) := by
  cases xs with
  | nil => rfl
  | cons x r =>
    -- The first element begins a streak, and nothing is found at its place.
    have hfirst : repeats key linked ⟨some (x, key x), runLength (goesOn key linked) (x :: r) 0⟩
          (((x :: r).drop (0 + 1)).map some) =
        (List.range' (0 + 1) ((x :: r).length - (0 + 1))).filterMap
          (repeatAt? (goesOn key linked) (x :: r)) := repeats_drop rfl
    rw [List.range_eq_range', List.length_cons, List.range'_succ, List.filterMap_cons]
    exact hfirst

/-- A repeat is found exactly where an element goes on with the one before it,
    with the length of the streak there. -/
theorem mem_repeats_iff {y : Repeat α} :
    y ∈ repeats key linked {} (xs.map some) ↔
      ∃ i, xs[i]? = some y.previous ∧ xs[i + 1]? = some y.element ∧
        goesOn key linked y.previous y.element = true ∧
        y.length = runLength (goesOn key linked) xs (i + 1) := by
  rw [repeats_eq, List.mem_filterMap]
  constructor
  · rintro ⟨i, hi, hfound⟩
    rw [List.mem_range] at hi
    cases i with
    | zero => cases hfound
    | succ i =>
      have hx : xs[i]? = some xs[i] := List.getElem?_eq_getElem (by omega)
      have hy : xs[i + 1]? = some xs[i + 1] := List.getElem?_eq_getElem hi
      rw [repeatAt?_succ hx hy] at hfound
      by_cases hgoes : goesOn key linked xs[i] xs[i + 1]
      · rw [if_pos hgoes] at hfound
        cases hfound
        exact ⟨i, hx, hy, hgoes, by rw [runLength_succ hx hy, if_pos hgoes]⟩
      · rw [if_neg hgoes] at hfound
        cases hfound
  · rintro ⟨i, hx, hy, hgoes, hlength⟩
    have hi : i + 1 < xs.length := (List.getElem?_eq_some_iff.1 hy).1
    refine ⟨i + 1, List.mem_range.2 hi, ?_⟩
    rw [runLength_succ hx hy, if_pos hgoes] at hlength
    rw [repeatAt?_succ hx hy, if_pos hgoes, ← hlength]

end Kousei.Streak
