import Kousei.Proofs.Tree.Candidates
import Mathlib.Data.List.Basic

/-! # Addresses of candidates

    The node of a tree at an address is found by going down, each number of
    the address being that of a node among those below the one before.  Two
    nodes may look alike, so a node is told by its address.

    A node is passed over, is a candidate, or is neither, and what it is does
    not depend on the order of these questions (`not_isCandidate`).  The
    candidates of a tree are at the addresses with a candidate and nothing
    above that is a candidate or passed over (`mem_addresses_iff`), and they
    come in the order of the document, which is that of the addresses
    (`addresses_pairwise`). -/

namespace Kousei.Node

open Text

variable {grammar : String} {t : Text} {n m : Node} {i : Nat} {p : List Nat}

/-! ## Classes of nodes -/

/-- An element of HTML whose tag has the name of a script or a style. -/
def PassedOver (grammar : String) (t : Text) (n : Node) : Prop :=
  grammar = "html" ∧ n.isRawElement t = true

/-- A text of HTML, a comment of any grammar, or a docstring of Python. -/
def IsCandidate (grammar : String) (t : Text) (n : Node) : Prop :=
  grammar = "html" ∧ n.isHtmlText = true ∨ n.isComment = true ∨
    grammar = "python" ∧ n.isDocstring t = true

instance : Decidable (PassedOver grammar t n) := inferInstanceAs (Decidable (_ ∧ _))

instance : Decidable (IsCandidate grammar t n) := inferInstanceAs (Decidable (_ ∨ _))

/-- A node as a candidate: without markers for a text of HTML, with markers otherwise. -/
def candidate (grammar : String) (t : Text) (n : Node) : Candidate :=
  toCandidate t (!(grammar == "html" && n.isHtmlText)) n

/-- No kind of elements is one of texts or comments. -/
theorem not_isCandidate (h : PassedOver grammar t n) : ¬ IsCandidate grammar t n := by
  obtain ⟨rfl, hraw⟩ := h
  have helement : n.isHtmlElement = true := (Bool.and_eq_true_iff.1 hraw).1
  simp only [isHtmlElement, Bool.or_eq_true, beq_iff_eq] at helement
  rintro (⟨-, htext⟩ | hcomment | ⟨hpython, -⟩)
  · unfold isHtmlText at htext
    rcases helement with (h | h) | h
    all_goals
      rw [h] at htext
      exact absurd htext (by decide)
  · unfold isComment at hcomment
    rcases helement with (h | h) | h
    all_goals
      rw [h] at hcomment
      exact absurd hcomment (by decide)
  · exact absurd hpython (by decide)

theorem passedOver_iff :
    PassedOver grammar t n ↔ (grammar == "html" && n.isRawElement t) = true := by
  rw [PassedOver, Bool.and_eq_true, beq_iff_eq]

theorem isCandidate_iff :
    IsCandidate grammar t n ↔
      ((grammar == "html" && n.isHtmlText) || (n.isComment ||
        (grammar == "python" && n.isDocstring t))) = true := by
  rw [IsCandidate, Bool.or_eq_true, Bool.or_eq_true, Bool.and_eq_true, Bool.and_eq_true,
    beq_iff_eq, beq_iff_eq]

/-- What the walk does at a node, by the class of the node. -/
theorem visit_cases (grammar : String) (t : Text) (n : Node) :
    (PassedOver grammar t n ∧ visit grammar t n = .skip) ∨
    (IsCandidate grammar t n ∧
      visit grammar t n = .take (!(grammar == "html" && n.isHtmlText))) ∨
    (¬ PassedOver grammar t n ∧ ¬ IsCandidate grammar t n ∧ visit grammar t n = .descend) := by
  rw [passedOver_iff, isCandidate_iff]
  unfold visit
  -- Only the answers to the four questions matter.
  generalize (grammar == "html" && n.isRawElement t) = raw
  generalize (grammar == "html" && n.isHtmlText) = htmlText
  generalize n.isComment = comment
  generalize (grammar == "python" && n.isDocstring t) = docstring
  revert raw htmlText comment docstring
  decide

/-! ## The recursion by classes -/

theorem candidates_of_passedOver (h : PassedOver grammar t n) : candidates grammar t n = [] := by
  rcases visit_cases grammar t n with ⟨-, hvisit⟩ | ⟨hcandidate, -⟩ | ⟨hpassed, -⟩
  · rw [candidates_eq, hvisit]
  · exact absurd hcandidate (not_isCandidate h)
  · exact absurd h hpassed

theorem candidates_of_isCandidate (h : IsCandidate grammar t n) :
    candidates grammar t n = [candidate grammar t n] := by
  rcases visit_cases grammar t n with ⟨hpassed, -⟩ | ⟨-, hvisit⟩ | ⟨-, hnone, -⟩
  · exact absurd h (not_isCandidate hpassed)
  · rw [candidates_eq, hvisit, candidate]
  · exact absurd h hnone

theorem candidates_of_neither (hpassed : ¬ PassedOver grammar t n)
    (hnone : ¬ IsCandidate grammar t n) :
    candidates grammar t n = n.children.flatMap (candidates grammar t) := by
  rcases visit_cases grammar t n with ⟨h, -⟩ | ⟨h, -⟩ | ⟨-, -, hvisit⟩
  · exact absurd h hpassed
  · exact absurd h hnone
  · rw [candidates_eq, hvisit, candidatesOf_eq_flatMap]

/-! ## Addresses -/

/-- The node at an address, if the tree has it. -/
def at? (n : Node) : List Nat → Option Node
  | [] => some n
  | i :: p => n.children[i]?.bind (·.at? p)

/-- No node above the address is a candidate or passed over. -/
def Exposed (grammar : String) (t : Text) (root : Node) (p : List Nat) : Prop :=
  ∀ q, q <+: p → q ≠ p → ∀ n, root.at? q = some n →
    ¬ PassedOver grammar t n ∧ ¬ IsCandidate grammar t n

@[simp] theorem at?_nil (n : Node) : n.at? [] = some n := rfl

theorem at?_cons_of_getElem? (h : n.children[i]? = some m) (p : List Nat) :
    n.at? (i :: p) = m.at? p := by
  rw [at?, h, Option.bind_some]

theorem at?_cons_eq_some (h : n.at? (i :: p) = some m) :
    ∃ k, n.children[i]? = some k ∧ k.at? p = some m :=
  Option.bind_eq_some_iff.1 h

/-- Nothing is above the root. -/
theorem exposed_nil (grammar : String) (t : Text) (n : Node) : Exposed grammar t n [] := by
  intro q hq hne
  exact absurd (List.prefix_nil.1 hq) hne

/-- Above an address below a node is the node, and what is above the address there. -/
theorem exposed_cons_iff (h : n.children[i]? = some m) :
    Exposed grammar t n (i :: p) ↔
      (¬ PassedOver grammar t n ∧ ¬ IsCandidate grammar t n) ∧ Exposed grammar t m p := by
  constructor
  · intro hexposed
    refine ⟨hexposed [] List.nil_prefix (List.cons_ne_nil i p).symm n rfl, ?_⟩
    intro q hq hne k hk
    refine hexposed (i :: q) ((List.prefix_cons_inj i).2 hq) ?_ k ?_
    · exact fun heq => hne (List.cons.inj heq).2
    · rwa [at?_cons_of_getElem? h]
  · rintro ⟨hroot, hexposed⟩ q hq hne k hk
    cases q with
    | nil =>
      cases hk
      exact hroot
    | cons j q =>
      obtain ⟨rfl, hprefix⟩ := List.cons_prefix_cons.1 hq
      rw [at?_cons_of_getElem? h] at hk
      exact hexposed q hprefix (fun heq => hne (congrArg _ heq)) k hk

/-! ## Addresses of the candidates -/

mutual

/-- The addresses of the candidates of a tree, in the order in which the recursion finds them. -/
def addresses (grammar : String) (t : Text) : Node → List (List Nat)
  | mk k a b cs =>
    match visit grammar t (mk k a b cs) with
    | .skip => []
    | .take _ => [[]]
    | .descend => addressesOf grammar t 0 cs

/-- Those of several trees next to each other, the first of which has the number `i`. -/
def addressesOf (grammar : String) (t : Text) (i : Nat) : List Node → List (List Nat)
  | [] => []
  | n :: r => (addresses grammar t n).map (i :: ·) ++ addressesOf grammar t (i + 1) r

end

theorem addresses_eq (grammar : String) (t : Text) (n : Node) :
    addresses grammar t n =
      match visit grammar t n with
      | .skip => []
      | .take _ => [[]]
      | .descend => addressesOf grammar t 0 n.children := by
  cases n; rw [addresses, children]

theorem addressesOf_eq_flatMap (grammar : String) (t : Text) (i : Nat) (ns : List Node) :
    addressesOf grammar t i ns =
      (ns.zipIdx i).flatMap fun x => (addresses grammar t x.1).map (x.2 :: ·) := by
  induction ns generalizing i with
  | nil => rfl
  | cons n r ih => rw [addressesOf, List.zipIdx_cons, List.flatMap_cons, ih]

/-- The nodes next to each other, each with its number. -/
theorem flatMap_zipIdx {α : Type} (f : Node → List α) (i : Nat) (ns : List Node) :
    ((ns.zipIdx i).flatMap fun x => f x.1) = ns.flatMap f := by
  have h : ((ns.zipIdx i).map Prod.fst).flatMap f = ns.flatMap f := by rw [List.zipIdx_map_fst]
  rwa [List.flatMap_map] at h

/-- Induction over a tree: from the nodes below a node to the node. -/
@[elab_as_elim]
theorem induction {motive : Node → Prop}
    (step : ∀ n : Node, (∀ m ∈ n.children, motive m) → motive n) (n : Node) : motive n := by
  refine @Node.rec motive (fun ns => ∀ m ∈ ns, motive m) ?_ (List.forall_mem_nil _) ?_ n
  · intro kind first last children ih
    exact step (.mk kind first last children) ih
  · intro n r hn hr
    exact List.forall_mem_cons.2 ⟨hn, hr⟩

/-- The candidates are those at the addresses. -/
theorem map_candidates (grammar : String) (t : Text) (n : Node) :
    (candidates grammar t n).map some =
      (addresses grammar t n).map fun p => (n.at? p).map (candidate grammar t) := by
  induction n using Node.induction with
  | step n ih =>
    rcases visit_cases grammar t n with ⟨hpassed, hvisit⟩ | ⟨htaken, hvisit⟩ | ⟨hno, hnone, hvisit⟩
    · rw [candidates_of_passedOver hpassed, addresses_eq, hvisit]
      rfl
    · rw [candidates_of_isCandidate htaken, addresses_eq, hvisit]
      rfl
    · rw [candidates_of_neither hno hnone, addresses_eq, hvisit]
      simp only [addressesOf_eq_flatMap, List.map_flatMap, List.map_map]
      rw [← flatMap_zipIdx _ 0 n.children]
      refine List.flatMap_congr fun x hx => ?_
      have hchild : n.children[x.2]? = some x.1 := List.mem_zipIdx_iff_getElem?.1 hx
      rw [ih x.1 (List.mem_of_getElem? hchild)]
      refine List.map_congr_left fun p _ => ?_
      rw [Function.comp_apply, at?_cons_of_getElem? hchild]

theorem mem_addressesOf_iff {ns : List Node} :
    p ∈ addressesOf grammar t 0 ns ↔
      ∃ i m q, ns[i]? = some m ∧ q ∈ addresses grammar t m ∧ p = i :: q := by
  rw [addressesOf_eq_flatMap, List.mem_flatMap]
  constructor
  · rintro ⟨⟨m, i⟩, hm, hp⟩
    obtain ⟨q, hq, rfl⟩ := List.mem_map.1 hp
    exact ⟨i, m, q, List.mem_zipIdx_iff_getElem?.1 hm, hq, rfl⟩
  · rintro ⟨i, m, q, hm, hq, rfl⟩
    exact ⟨(m, i), List.mem_zipIdx_iff_getElem?.2 hm, List.mem_map_of_mem hq⟩

/-- A candidate is found exactly at the addresses with a candidate and none above, nor anything
    that is passed over. -/
theorem mem_addresses_iff :
    p ∈ addresses grammar t n ↔
      Exposed grammar t n p ∧ ∃ m, n.at? p = some m ∧ IsCandidate grammar t m := by
  induction n using Node.induction generalizing p with
  | step n ih =>
    have hroot : (Exposed grammar t n [] ∧ ∃ m, n.at? [] = some m ∧ IsCandidate grammar t m) ↔
        IsCandidate grammar t n := by
      simp [exposed_nil]
    -- An address with a number is below the root, which is on the way to it.
    have hbelow {i : Nat} {q : List Nat}
        (h : Exposed grammar t n (i :: q) ∧
          ∃ m, n.at? (i :: q) = some m ∧ IsCandidate grammar t m) :
        ¬ PassedOver grammar t n ∧ ¬ IsCandidate grammar t n :=
      h.1 [] List.nil_prefix (List.cons_ne_nil i q).symm n rfl
    rw [addresses_eq]
    rcases visit_cases grammar t n with ⟨hpassed, hvisit⟩ | ⟨htaken, hvisit⟩ | ⟨hno, hnone, hvisit⟩
    · simp only [hvisit, List.not_mem_nil, false_iff]
      intro h
      cases p with
      | nil => exact not_isCandidate hpassed (hroot.1 h)
      | cons i q => exact (hbelow h).1 hpassed
    · simp only [hvisit, List.mem_singleton]
      constructor
      · rintro rfl
        exact hroot.2 htaken
      · intro h
        cases p with
        | nil => rfl
        | cons i q => exact absurd htaken (hbelow h).2
    · simp only [hvisit, mem_addressesOf_iff]
      constructor
      · rintro ⟨i, m, q, hm, hq, rfl⟩
        obtain ⟨hexposed, hcandidate⟩ := (ih m (List.mem_of_getElem? hm)).1 hq
        rw [exposed_cons_iff hm, at?_cons_of_getElem? hm]
        exact ⟨⟨⟨hno, hnone⟩, hexposed⟩, hcandidate⟩
      · intro h
        cases p with
        | nil => exact absurd (hroot.1 h) hnone
        | cons i q =>
          obtain ⟨hexposed, k, hk, hcandidate⟩ := h
          obtain ⟨m, hm, hmk⟩ := at?_cons_eq_some hk
          rw [exposed_cons_iff hm] at hexposed
          exact ⟨i, m, q, hm, (ih m (List.mem_of_getElem? hm)).2
            ⟨hexposed.2, k, hmk, hcandidate⟩, rfl⟩

theorem pairwise_zipIdx (i : Nat) (ns : List Node) :
    (ns.zipIdx i).Pairwise fun x y => x.2 < y.2 := by
  have h : ((ns.zipIdx i).map Prod.snd).Pairwise (· < ·) := by
    rw [List.zipIdx_map_snd]
    exact List.pairwise_lt_range'
  exact List.pairwise_map.1 h

/-- The candidates come in the order of the document. -/
theorem addresses_pairwise (grammar : String) (t : Text) (n : Node) :
    (addresses grammar t n).Pairwise (· < ·) := by
  induction n using Node.induction with
  | step n ih =>
    rw [addresses_eq]
    split
    · exact List.Pairwise.nil
    · exact List.pairwise_singleton _ _
    · rw [addressesOf_eq_flatMap]
      refine List.pairwise_flatMap.2 ⟨?_, (pairwise_zipIdx 0 n.children).imp ?_⟩
      · intro x hx
        have hchild : n.children[x.2]? = some x.1 := List.mem_zipIdx_iff_getElem?.1 hx
        refine List.pairwise_map.2 ((ih x.1 (List.mem_of_getElem? hchild)).imp ?_)
        exact fun hlt => List.cons_lt_cons_self.2 hlt
      · intro x y hxy p hp q hq
        obtain ⟨p, -, rfl⟩ := List.mem_map.1 hp
        obtain ⟨q, -, rfl⟩ := List.mem_map.1 hq
        exact List.cons_lt_cons_iff.2 (.inl hxy)

end Kousei.Node
