import Mathlib.Data.List.TakeWhile
import Kousei.Proofs.Extract.Pieces
import Kousei.Tree.Node

/-! # Docstrings of syntax trees

    A walk looks at a node if it went on below each node above it
    (`Reached`), and the candidates are the nodes at which it stops
    (`mem_walk_iff`).

    In a tree of Python these are the comments and the literals between three
    quotes.  Which quotes a literal has is told by how its text begins
    (`hasTripleQuotes_of_opens`).  The content of a literal is asked the same
    although it has no quotes of its own: where a literal between single quotes
    says something that begins like one between three, its content is a
    candidate (`walk_python`). -/

namespace Kousei.Node

open Text

variable {grammar : String} {t u : Text} {root n m s : Node} {markers : Bool}

/-! ## Nodes that are looked at -/

/-- The walk from the root looks at the node. -/
inductive Reached (grammar : String) (t : Text) (root : Node) : Node → Prop where
  | root : Reached grammar t root root
  | child {n m : Node} : Reached grammar t root n → visit grammar t n = .descend →
      m ∈ n.children → Reached grammar t root m

/-- The walk from the root takes the node for a candidate. -/
structure Taken (grammar : String) (t : Text) (root m : Node) (markers : Bool) : Prop where
  reached : Reached grammar t root m
  visit : visit grammar t m = .take markers

/-- Below the root the walk looks at what it looks at from one of the next nodes. -/
theorem reached_iff :
    Reached grammar t root m ↔
      m = root ∨ visit grammar t root = .descend ∧ ∃ n ∈ root.children, Reached grammar t n m := by
  constructor
  · intro h
    induction h with
    | root => exact .inl rfl
    | @child k m _ hvisit hm ih =>
      right
      rcases ih with rfl | ⟨hroot, n, hn, hk⟩
      · exact ⟨hvisit, m, hm, .root⟩
      · exact ⟨hroot, n, hn, hk.child hvisit hm⟩
  · rintro (rfl | ⟨hroot, n, hn, hm⟩)
    · exact .root
    · induction hm with
      | root => exact .child .root hroot hn
      | child _ hvisit hm ih => exact ih.child hvisit hm

theorem taken_iff :
    Taken grammar t root m markers ↔
      m = root ∧ visit grammar t root = .take markers ∨
        visit grammar t root = .descend ∧ ∃ n ∈ root.children, Taken grammar t n m markers := by
  constructor
  · rintro ⟨hreached, hvisit⟩
    rcases reached_iff.1 hreached with rfl | ⟨hroot, n, hn, hm⟩
    · exact .inl ⟨rfl, hvisit⟩
    · exact .inr ⟨hroot, n, hn, hm, hvisit⟩
  · rintro (⟨rfl, hvisit⟩ | ⟨hroot, n, hn, hm, hvisit⟩)
    · exact ⟨.root, hvisit⟩
    · exact ⟨reached_iff.2 (.inr ⟨hroot, n, hn, hm⟩), hvisit⟩

/-- The candidates are the nodes that are taken. -/
theorem mem_walk_iff {ns : List Node} {c : Candidate} :
    c ∈ walk grammar t ns ↔
      ∃ root ∈ ns, ∃ m markers, Taken grammar t root m markers ∧ c = toCandidate t markers m := by
  fun_induction walk grammar t ns with
  | case1 => simp
  | case2 n r hvisit ih =>
    have hnone : ¬ ∃ m markers, Taken grammar t n m markers ∧ c = toCandidate t markers m := by
      rintro ⟨m, markers, htaken, -⟩
      rw [taken_iff, hvisit] at htaken
      rcases htaken with ⟨-, h⟩ | ⟨h, -⟩ <;> cases h
    simp only [List.mem_cons, exists_eq_or_imp, hnone, false_or, ih]
  | case3 n r markers hvisit ih =>
    have hroot : (∃ m markers', Taken grammar t n m markers' ∧ c = toCandidate t markers' m) ↔
        c = toCandidate t markers n := by
      constructor
      · rintro ⟨m, markers', htaken, hc⟩
        rw [taken_iff, hvisit] at htaken
        rcases htaken with ⟨rfl, h⟩ | ⟨h, -⟩ <;> cases h
        exact hc
      · rintro hc
        exact ⟨n, markers, ⟨.root, hvisit⟩, hc⟩
    simp only [List.mem_cons, exists_eq_or_imp, hroot, ih]
  | case4 n r hvisit ih =>
    have hchildren : (∃ m markers, Taken grammar t n m markers ∧ c = toCandidate t markers m) ↔
        ∃ k ∈ n.children, ∃ m markers, Taken grammar t k m markers ∧
          c = toCandidate t markers m := by
      constructor
      · rintro ⟨m, markers, htaken, hc⟩
        rw [taken_iff, hvisit] at htaken
        rcases htaken with ⟨-, h⟩ | ⟨-, k, hk, htaken⟩
        · cases h
        · exact ⟨k, hk, m, markers, htaken, hc⟩
      · rintro ⟨k, hk, m, markers, htaken, hc⟩
        exact ⟨m, markers, taken_iff.2 (.inr ⟨hvisit, k, hk, htaken⟩), hc⟩
    simp only [List.mem_cons, List.mem_append, or_and_right, exists_or, exists_eq_left, ih,
      hchildren]

/-! ## Literals -/

/-- The text begins as a literal: with letters and a quote, or with letters and
    three quotes. -/
def Opens (tripled : Bool) (u : Text) : Prop :=
  ∃ letters quote rest, u = letters ++ quote :: rest ∧
    (∀ x ∈ letters, Extract.isLiteralLetter x = true) ∧ (quote = '"' ∨ quote = '\'') ∧
    (tripled = true ↔ [quote, quote] <+: rest)

theorem startsWith_quotes {quote : Char} (hquote : quote = '"' ∨ quote = '\'') (rest : Text) :
    (startsWith (quote :: rest) (text "\"\"\"") || startsWith (quote :: rest) (text "'''")) = true ↔
      [quote, quote] <+: rest := by
  rw [← List.isPrefixOf_iff_prefix, Bool.or_eq_true]
  rcases hquote with rfl | rfl
  · have hother : startsWith ('"' :: rest) (text "'''") = false :=
      Extract.startsWith_cons_of_ne (by decide)
    rw [hother]
    exact or_iff_left Bool.false_ne_true
  · have hother : startsWith ('\'' :: rest) (text "\"\"\"") = false :=
      Extract.startsWith_cons_of_ne (by decide)
    rw [hother]
    exact or_iff_right Bool.false_ne_true

/-- Which quotes these are is told by the beginning. -/
theorem hasTripleQuotes_of_opens {tripled : Bool} (h : Opens tripled u) :
    hasTripleQuotes u = tripled := by
  obtain ⟨letters, quote, rest, rfl, hletters, hquote, htripled⟩ := h
  have hdrop : (letters ++ quote :: rest).dropWhile Extract.isLiteralLetter = quote :: rest := by
    rw [List.dropWhile_append_of_pos hletters]
    rcases hquote with rfl | rfl <;> rfl
  rw [Bool.eq_iff_iff, htripled, hasTripleQuotes, hdrop]
  exact startsWith_quotes hquote rest

theorem hasTripleQuotes_iff : hasTripleQuotes u = true ↔ Opens true u := by
  constructor
  · intro h
    have hsplit : u.takeWhile Extract.isLiteralLetter ++ u.dropWhile Extract.isLiteralLetter = u :=
      List.takeWhile_append_dropWhile
    have hletters : ∀ x ∈ u.takeWhile Extract.isLiteralLetter,
        Extract.isLiteralLetter x = true := by
      intro x hx
      exact List.mem_takeWhile_imp hx
    rcases Bool.or_eq_true_iff.1 h with h | h
    · obtain ⟨rest, hrest⟩ := List.isPrefixOf_iff_prefix.1 h
      refine ⟨_, '"', '"' :: '"' :: rest, ?_, hletters, .inl rfl, iff_of_true rfl ⟨rest, rfl⟩⟩
      exact hsplit.symm.trans (congrArg _ hrest.symm)
    · obtain ⟨rest, hrest⟩ := List.isPrefixOf_iff_prefix.1 h
      refine ⟨_, '\'', '\'' :: '\'' :: rest, ?_, hletters, .inr rfl, iff_of_true rfl ⟨rest, rfl⟩⟩
      exact hsplit.symm.trans (congrArg _ hrest.symm)
  · exact hasTripleQuotes_of_opens

/-! ## The walk over a tree of Python -/

/-- In the tree every literal begins as one, and only literals have contents. -/
inductive LiteralTree (t : Text) : Node → Prop where
  | mk {kind : String} {first last : Int} {children : List Node} :
      (kind = "string" → ∃ tripled, Opens tripled (t.sliceBytes first last)) →
      (kind ≠ "string" → ∀ m ∈ children, m.kind ≠ "string_content") →
      (∀ m ∈ children, LiteralTree t m) →
      LiteralTree t (Node.mk kind first last children)

/-- The walk stops at comments, at literals between three quotes, and at what begins like one
    in a literal. -/
def Qualifies (t : Text) (m : Node) : Prop :=
  m.isComment = true ∨
    (m.kind = "string" ∨ m.kind = "string_content") ∧ Opens true (m.source t)

/-- The node is a literal between single quotes with a content that begins like a literal
    between three. -/
def Loose (t : Text) (s : Node) : Prop :=
  s.kind = "string" ∧ Opens false (s.source t) ∧
    ∃ m ∈ s.children, m.kind = "string_content" ∧ Opens true (m.source t)

/-- The walk takes what qualifies, and goes on below everything else. -/
theorem visit_python (t : Text) (n : Node) :
    visit "python" t n = if n.isComment || n.isDocstring t then .take true else .descend := by
  have hhtml : ("python" == "html") = false := by decide
  unfold visit
  rw [hhtml]
  cases n.isComment <;> cases n.isDocstring t <;> rfl

theorem qualifies_iff : Qualifies t n ↔ (n.isComment || n.isDocstring t) = true := by
  rw [Qualifies, ← hasTripleQuotes_iff, isDocstring, Bool.or_eq_true, Bool.and_eq_true,
    Bool.or_eq_true, beq_iff_eq, beq_iff_eq]

theorem visit_eq_take_iff :
    visit "python" t n = .take markers ↔ markers = true ∧ Qualifies t n := by
  rw [visit_python, qualifies_iff]
  cases n.isComment || n.isDocstring t <;> simp [eq_comm]

theorem visit_eq_descend_iff : visit "python" t n = .descend ↔ ¬ Qualifies t n := by
  rw [visit_python, qualifies_iff]
  cases n.isComment || n.isDocstring t <;> simp

/-- No kind of literals or contents is one of comments. -/
theorem qualifies_iff_opens (h : n.kind = "string" ∨ n.kind = "string_content") :
    Qualifies t n ↔ Opens true (n.source t) := by
  have hcomment : n.isComment = false := by
    unfold isComment
    rcases h with h | h <;> rw [h] <;> decide
  simp [Qualifies, hcomment, h]

/-- A literal between single quotes is none between three. -/
theorem not_opens_true (h : Opens false u) : ¬ Opens true u := by
  intro htrue
  have heq := hasTripleQuotes_of_opens h
  rw [hasTripleQuotes_of_opens htrue] at heq
  cases heq

theorem LiteralTree.of_reached (h : LiteralTree t root) (hreached : Reached grammar t root m) :
    LiteralTree t m := by
  induction hreached with
  | root => exact h
  | child _ _ hm ih =>
    cases ih with
    | mk _ _ hchildren => exact hchildren _ hm

theorem LiteralTree.opens (h : LiteralTree t n) (hkind : n.kind = "string") :
    ∃ tripled, Opens tripled (n.source t) := by
  cases h with
  | mk hopens _ _ => exact hopens hkind

/-- A content is below a literal. -/
theorem LiteralTree.kind_eq (h : LiteralTree t n) (hm : m ∈ n.children)
    (hkind : m.kind = "string_content") : n.kind = "string" := by
  by_contra hne
  cases h with
  | mk _ hcontent _ => exact hcontent hne m hm hkind

/-- The content of a loose literal is taken. -/
theorem Loose.taken (h : Loose t s) (hreached : Reached "python" t root s) :
    ∃ m, Taken "python" t root m true ∧ m.kind = "string_content" := by
  obtain ⟨hkind, hsingle, m, hm, hcontent, htriple⟩ := h
  have hvisit : visit "python" t s = .descend := by
    rw [visit_eq_descend_iff, qualifies_iff_opens (.inl hkind)]
    exact not_opens_true hsingle
  refine ⟨m, ⟨hreached.child hvisit hm, ?_⟩, hcontent⟩
  rw [visit_eq_take_iff, qualifies_iff_opens (.inr hcontent)]
  exact ⟨rfl, htriple⟩

/-- A content that is taken is that of a loose literal. -/
theorem LiteralTree.exists_loose (h : LiteralTree t root) (hroot : root.kind ≠ "string_content")
    (htaken : Taken "python" t root m markers) (hcontent : m.kind = "string_content") :
    ∃ s, Reached "python" t root s ∧ Loose t s := by
  obtain ⟨hreached, hvisit⟩ := htaken
  obtain ⟨-, htriple⟩ := visit_eq_take_iff.1 hvisit
  rw [qualifies_iff_opens (.inr hcontent)] at htriple
  cases hreached with
  | root => exact absurd hcontent hroot
  | @child s _ hs hdescend hm =>
    have hkind := (h.of_reached hs).kind_eq hm hcontent
    obtain ⟨tripled, hopens⟩ := (h.of_reached hs).opens hkind
    -- A literal between three quotes is taken itself, and not looked into.
    rw [visit_eq_descend_iff, qualifies_iff_opens (.inl hkind)] at hdescend
    cases tripled with
    | true => exact absurd hopens hdescend
    | false => exact ⟨s, hs, hkind, hopens, m, hm, hcontent, htriple⟩

/-- **Docstrings.**  In a tree of Python the candidates are the nodes looked at that qualify, and
    none of them is the content of a literal exactly if no literal looked at is loose. -/
theorem walk_python (h : LiteralTree t root) (hroot : root.kind ≠ "string_content") :
    (∀ c, c ∈ walk "python" t [root] ↔
      ∃ m, Reached "python" t root m ∧ Qualifies t m ∧ c = toCandidate t true m) ∧
    ((∀ m markers, Taken "python" t root m markers → m.kind ≠ "string_content") ↔
      ∀ s, Reached "python" t root s → ¬ Loose t s) := by
  constructor
  · intro c
    rw [mem_walk_iff]
    constructor
    · rintro ⟨n, hn, m, markers, ⟨hreached, hvisit⟩, rfl⟩
      obtain rfl := List.mem_singleton.1 hn
      obtain ⟨rfl, hqualifies⟩ := visit_eq_take_iff.1 hvisit
      exact ⟨m, hreached, hqualifies, rfl⟩
    · rintro ⟨m, hreached, hqualifies, rfl⟩
      exact ⟨root, List.mem_singleton_self root, m, true,
        ⟨hreached, visit_eq_take_iff.2 ⟨rfl, hqualifies⟩⟩, rfl⟩
  · constructor
    · intro hnone s hreached hloose
      obtain ⟨m, htaken, hcontent⟩ := hloose.taken hreached
      exact hnone m true htaken hcontent
    · intro hnone m markers htaken hcontent
      obtain ⟨s, hreached, hloose⟩ := h.exists_loose hroot htaken hcontent
      exact hnone s hreached hloose

/-! ### Trees of two documents -/

theorem LiteralTree.of_ne {kind : String} {first last : Int} {children : List Node}
    (hkind : kind ≠ "string") (hcontent : ∀ m ∈ children, m.kind ≠ "string_content")
    (hchildren : ∀ m ∈ children, LiteralTree t m) :
    LiteralTree t (.mk kind first last children) :=
  .mk (fun h => absurd h hkind) (fun _ => hcontent) hchildren

/-- A literal with nothing but its quotes and its content below it. -/
theorem LiteralTree.of_leaves {first last : Int} {children : List Node} {tripled : Bool}
    (hopens : Opens tripled (t.sliceBytes first last))
    (hleaves : ∀ m ∈ children, m.kind ≠ "string" ∧ m.children = []) :
    LiteralTree t (.mk "string" first last children) := by
  refine .mk (fun _ => ⟨tripled, hopens⟩) (fun h => absurd rfl h) ?_
  rintro ⟨kind, a, b, below⟩ hm
  obtain ⟨hkind, hbelow⟩ := hleaves _ hm
  obtain rfl : below = [] := hbelow
  exact .of_ne hkind (List.forall_mem_nil _) (List.forall_mem_nil _)

/-- A literal between single quotes and one between three. -/
def sampleText : Text := text "r'a'; \"\"\"文\"\"\""

def sampleTree : Node :=
  .mk "module" 0 15
    [.mk "string" 0 4
      [.mk "string_start" 0 2 [], .mk "string_content" 2 3 [], .mk "string_end" 3 4 []],
     .mk "string" 6 15
      [.mk "string_start" 6 9 [], .mk "string_content" 9 12 [], .mk "string_end" 12 15 []]]

theorem walk_python_of_sampleTree :
    LiteralTree sampleText sampleTree ∧ sampleTree.kind ≠ "string_content" ∧
    (∀ c, c ∈ walk "python" sampleText [sampleTree] ↔
      ∃ m, Reached "python" sampleText sampleTree m ∧ Qualifies sampleText m ∧
        c = toCandidate sampleText true m) ∧
    ((∀ m markers, Taken "python" sampleText sampleTree m markers → m.kind ≠ "string_content") ↔
      ∀ s, Reached "python" sampleText sampleTree s → ¬ Loose sampleText s) := by
  have hsingle : Opens false (sampleText.sliceBytes 0 4) :=
    ⟨['r'], '\'', text "a'", by decide, by decide, .inr rfl, by decide⟩
  have htriple : Opens true (sampleText.sliceBytes 6 15) :=
    ⟨[], '"', text "\"\"文\"\"\"", by decide, by decide, .inl rfl, by decide⟩
  have htree : LiteralTree sampleText sampleTree := by
    refine .of_ne (by decide) (by simp [kind]) ?_
    refine List.forall_mem_cons.2 ⟨.of_leaves hsingle ?_, List.forall_mem_cons.2
      ⟨.of_leaves htriple ?_, List.forall_mem_nil _⟩⟩
    · simp [kind, children]
    · simp [kind, children]
  have hroot : sampleTree.kind ≠ "string_content" := by decide
  exact ⟨htree, hroot, walk_python htree hroot⟩

/-- A literal between single quotes that says what one between three does. -/
def looseText : Text := text "'\"\"\"日本語\"\"\"'"

def looseTree : Node :=
  .mk "module" 0 17
    [.mk "string" 0 17
      [.mk "string_start" 0 1 [], .mk "string_content" 1 16 [], .mk "string_end" 16 17 []]]

/-- Its content is the candidate. -/
theorem content_of_looseTree :
    LiteralTree looseText looseTree ∧ looseTree.kind ≠ "string_content" ∧
    walk "python" looseText [looseTree] = [⟨1, text "\"\"\"日本語\"\"\"", true⟩] ∧
    ∃ m, Taken "python" looseText looseTree m true ∧ m.kind = "string_content" := by
  have hsingle : Opens false (looseText.sliceBytes 0 17) :=
    ⟨[], '\'', text "\"\"\"日本語\"\"\"'", by decide, by decide, .inr rfl, by decide⟩
  refine ⟨?_, by decide, ?_, ?_⟩
  · refine .of_ne (by decide) (by simp [kind]) ?_
    refine List.forall_mem_cons.2 ⟨.of_leaves hsingle ?_, List.forall_mem_nil _⟩
    simp [kind, children]
  · rw [walk_eq]
    decide
  · refine ⟨.mk "string_content" 1 16 [], ⟨?_, by decide⟩, rfl⟩
    refine (Reached.root.child (by decide) (List.mem_singleton_self _)).child (by decide) ?_
    simp [children]

end Kousei.Node
