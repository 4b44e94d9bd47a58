import Kousei.Proofs.Tree.Addresses

/-! # Walks with a stack

    A walk needs no recursion: the nodes that are still to be looked at wait
    in a stack, the next one at its end.  A turn takes this node away, and
    puts the nodes below it there if it is neither passed over nor a
    candidate, the first of them at the end.

    What was found, followed by what the recursion finds in the nodes that
    wait, is the same after every turn, and there are fewer nodes in the trees
    that wait (`turn_spec`).  So the walk ends, after as many turns as the
    tree has nodes at most, with what the recursion finds (`run_eq`).  This is
    said once more without a recursion, by the addresses of the candidates, in
    `walk_recursive`. -/

namespace Kousei.Node

variable {grammar : String} {t : Text}

/-- A walk under way: the nodes that wait, the next one last, and what was found so far. -/
structure Stack where
  waiting : List Node
  found : List Candidate

namespace Stack

variable {s s' : Stack}

/-- One turn of the walk, if a node waits. -/
def turn (grammar : String) (t : Text) (s : Stack) : Option Stack :=
  s.waiting.getLast?.map fun n =>
    match visit grammar t n with
    | .skip => ⟨s.waiting.dropLast, s.found⟩
    | .take markers => ⟨s.waiting.dropLast, s.found ++ [toCandidate t markers n]⟩
    | .descend => ⟨s.waiting.dropLast ++ n.children.reverse, s.found⟩

/-- Up to `k` turns of the walk. -/
def run (grammar : String) (t : Text) : Nat → Stack → Stack
  | 0, s => s
  | k + 1, s =>
    match s.turn grammar t with
    | none => s
    | some s' => run grammar t k s'

/-- What the recursion finds in the nodes that wait, in the order in which their turns come. -/
def pending (grammar : String) (t : Text) (s : Stack) : List Candidate :=
  candidatesOf grammar t s.waiting.reverse

theorem totalSize_reverse (ns : List Node) : totalSize ns.reverse = totalSize ns := by
  induction ns with
  | nil => rfl
  | cons n r ih =>
    rw [List.reverse_cons, totalSize_append, ih]
    simp only [totalSize]
    omega

/-- Every tree has a node. -/
theorem eq_nil_of_totalSize {ns : List Node} (h : totalSize ns = 0) : ns = [] := by
  cases ns with
  | nil => rfl
  | cons n r =>
    rw [totalSize, size_eq] at h
    omega

theorem turn_eq_none_iff : s.turn grammar t = none ↔ s.waiting = [] := by
  rw [turn, Option.map_eq_none_iff, List.getLast?_eq_none_iff]

/-- What a turn keeps, and that there is less to be done after it. -/
theorem turn_spec (h : s.turn grammar t = some s') :
    s'.found ++ s'.pending grammar t = s.found ++ s.pending grammar t ∧
      totalSize s'.waiting < totalSize s.waiting := by
  obtain ⟨waiting, found⟩ := s
  rcases List.eq_nil_or_concat waiting with rfl | ⟨rest, n, rfl⟩
  · cases h
  · have hpending : candidatesOf grammar t (rest.concat n).reverse =
        candidates grammar t n ++ candidatesOf grammar t rest.reverse := by
      rw [List.concat_eq_append, List.reverse_append, List.reverse_singleton,
        List.singleton_append, candidatesOf]
    have hsize : totalSize (rest.concat n) = totalSize rest + (1 + totalSize n.children) := by
      rw [List.concat_eq_append, totalSize_append, totalSize, totalSize, size_eq, Nat.add_zero]
    simp only [turn, List.concat_eq_append, List.getLast?_concat, List.dropLast_concat,
      Option.map_some, Option.some.injEq] at h
    have hless : totalSize rest < totalSize rest + (1 + totalSize n.children) := by omega
    simp only [pending, hpending, hsize]
    -- One case for each kind of visit.
    split at h
    case h_1 hvisit =>
      subst h
      rw [candidates_eq, hvisit]
      exact ⟨rfl, hless⟩
    case h_2 markers hvisit =>
      subst h
      rw [candidates_eq, hvisit]
      exact ⟨List.append_assoc .., hless⟩
    case h_3 hvisit =>
      -- What is below the node waits in reverse, so that it comes in the order of the document.
      subst h
      rw [candidates_eq, hvisit, List.reverse_append, List.reverse_reverse, candidatesOf_append,
        totalSize_append, totalSize_reverse]
      exact ⟨rfl, by omega⟩

/-- The walk ends with what the recursion finds. -/
theorem run_eq (k : Nat) (s : Stack) (hk : totalSize s.waiting ≤ k) :
    s.run grammar t k = ⟨[], s.found ++ s.pending grammar t⟩ := by
  -- By the turns that are left; each of them takes one node away at least.
  have hdone {s : Stack} (h : s.waiting = []) : s = ⟨[], s.found ++ s.pending grammar t⟩ := by
    obtain ⟨waiting, found⟩ := s
    obtain rfl : waiting = [] := h
    simp [pending, candidatesOf]
  induction k generalizing s with
  | zero => exact hdone (eq_nil_of_totalSize (Nat.le_zero.1 hk))
  | succ k ih =>
    rw [run]
    cases hturn : s.turn grammar t with
    | none => exact hdone (turn_eq_none_iff.1 hturn)
    | some s' =>
      obtain ⟨hkept, hless⟩ := turn_spec hturn
      rw [← hkept]
      exact ih s' (by omega)

end Stack

/-- **The walk and the recursion.**  A walk with a stack ends, after as many turns as the tree
    has nodes at most, and has found what the recursion finds: nothing in what is passed over,
    a candidate itself, and what is found in the nodes below every other node, in their order.

    So there is one candidate for each address with a candidate and nothing above that is a
    candidate or passed over, and they come in the order of the addresses.  In a nested tree
    they also come in the order of the text and keep apart. -/
theorem walk_recursive (grammar : String) (t : Text) (root : Node) :
    (∀ k, root.size ≤ k →
      Stack.run grammar t k ⟨[root], []⟩ = ⟨[], walk grammar t [root]⟩) ∧
    walk grammar t [root] = candidates grammar t root ∧
    (∀ n, (PassedOver grammar t n → candidates grammar t n = []) ∧
      (IsCandidate grammar t n → candidates grammar t n = [candidate grammar t n]) ∧
      (¬ PassedOver grammar t n → ¬ IsCandidate grammar t n →
        candidates grammar t n = n.children.flatMap (candidates grammar t))) ∧
    (∃ ps : List (List Nat), ps.Pairwise (· < ·) ∧
      (walk grammar t [root]).map some =
        ps.map (fun p => (root.at? p).map (candidate grammar t)) ∧
      ∀ p, p ∈ ps ↔
        Exposed grammar t root p ∧ ∃ n, root.at? p = some n ∧ IsCandidate grammar t n) ∧
    (root.WellNested → (walk grammar t [root]).Pairwise fun c d : Candidate =>
      c.start ≤ d.start ∧ c.start + c.source.length ≤ d.start) := by
  have hwalk := walk_singleton grammar t root
  refine ⟨?_, hwalk, ?_, ?_, ?_⟩
  · intro k hk
    have hsize : totalSize [root] ≤ k := by
      simp only [totalSize]
      omega
    rw [Stack.run_eq k ⟨[root], []⟩ hsize, walk_eq]
    rfl
  · exact fun n => ⟨candidates_of_passedOver, candidates_of_isCandidate, candidates_of_neither⟩
  · refine ⟨addresses grammar t root, addresses_pairwise grammar t root, ?_, ?_⟩
    · rw [hwalk, map_candidates]
    · exact fun p => mem_addresses_iff
  · intro hnested
    refine hnested.walk_pairwise.imp ?_
    intro c d hcd
    unfold Candidate.Before at hcd
    exact ⟨by omega, hcd⟩

/-- A paragraph, a script and a comment; the script holds a text as well. -/
def samplePage : Text := text "<p>文</p><script>文</script><!--文-->"

def sampleScript : Node :=
  .mk "script_element" 10 30 [.mk "start_tag" 10 18 [.mk "tag_name" 11 17 []],
    .mk "raw_text" 18 21 []]

def sampleRemark : Node := .mk "comment" 30 40 []

def samplePageTree : Node :=
  .mk "document" 0 40 [.mk "element" 0 10 [.mk "text" 3 6 []], sampleScript, sampleRemark]

theorem WellNested.leaf (kind : String) {first last : Int} (h : first ≤ last) :
    WellNested (.mk kind first last []) :=
  .mk h (List.forall_mem_nil _) .nil (List.forall_mem_nil _)

theorem samplePageTree_wellNested : samplePageTree.WellNested := by
  have helement : WellNested (.mk "element" 0 10 [.mk "text" 3 6 []]) := by
    refine .mk (by decide) (by decide) (by decide) (List.forall_mem_singleton.2 ?_)
    exact .leaf "text" (by decide)
  have hscript : sampleScript.WellNested := by
    refine .mk (by decide) (by decide) (by decide) ?_
    refine List.forall_mem_cons.2 ⟨?_, List.forall_mem_singleton.2 (.leaf "raw_text" (by decide))⟩
    refine .mk (by decide) (by decide) (by decide) (List.forall_mem_singleton.2 ?_)
    exact .leaf "tag_name" (by decide)
  refine .mk (by decide) (by decide) (by decide) ?_
  exact List.forall_mem_cons.2 ⟨helement, List.forall_mem_cons.2 ⟨hscript,
    List.forall_mem_singleton.2 (.leaf "comment" (by decide))⟩⟩

theorem walk_recursive_of_samplePage :
    samplePageTree.size ≤ 9 ∧
    Stack.run "html" samplePage 9 ⟨[samplePageTree], []⟩ =
      ⟨[], walk "html" samplePage [samplePageTree]⟩ ∧
    PassedOver "html" samplePage sampleScript ∧ candidates "html" samplePage sampleScript = [] ∧
    IsCandidate "html" samplePage sampleRemark ∧
    candidates "html" samplePage sampleRemark = [candidate "html" samplePage sampleRemark] ∧
    ¬ PassedOver "html" samplePage samplePageTree ∧
    ¬ IsCandidate "html" samplePage samplePageTree ∧
    candidates "html" samplePage samplePageTree =
      samplePageTree.children.flatMap (candidates "html" samplePage) ∧
    walk "html" samplePage [samplePageTree] =
      [⟨3, text "文", false⟩, ⟨26, text "<!--文-->", true⟩] ∧
    samplePageTree.WellNested ∧
    (walk "html" samplePage [samplePageTree]).Pairwise fun c d : Candidate =>
      c.start ≤ d.start ∧ c.start + c.source.length ≤ d.start := by
  obtain ⟨hrun, hwalk, hclasses, -, hapart⟩ := walk_recursive "html" samplePage samplePageTree
  have hsize : samplePageTree.size ≤ 9 := by decide
  have hpassed : PassedOver "html" samplePage sampleScript := by decide
  have hremark : IsCandidate "html" samplePage sampleRemark := by decide
  have hno : ¬ PassedOver "html" samplePage samplePageTree := by decide
  have hnone : ¬ IsCandidate "html" samplePage samplePageTree := by decide
  refine ⟨hsize, hrun 9 hsize, hpassed, (hclasses _).1 hpassed, hremark, (hclasses _).2.1 hremark,
    hno, hnone, (hclasses _).2.2 hno hnone, ?_, samplePageTree_wellNested,
    hapart samplePageTree_wellNested⟩
  rw [hwalk]
  decide

end Kousei.Node
