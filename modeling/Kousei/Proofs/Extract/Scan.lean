import Kousei.Extract.Language
import Kousei.Proofs.Extract.Segments

/-! # Scanning

    A lexeme stands in the document at the place that is counted for it, and
    lexemes follow each other without overlap, so the same holds of the
    candidates that are made of them (`scanner?_standsIn`,
    `scanner?_pairwise`).

    Which lexemes a document has is found out piece by piece: what the lexer
    reads at the head of a text is the first of them, and the rest of the
    text is scanned on its own (`scan_plain`, `scan_read`).  For the comments
    among them it does not matter that plain neighbours are joined
    (`codeCandidates_eq`). -/

namespace Kousei.Extract

open Text

/-! ## Places of lexemes -/

/-- Each lexeme stands at its place, after any text that comes first. -/
theorem located_standsAt (pre : Text) (xs : List Lexeme) :
    ∀ p ∈ located pre.length xs, StandsAt p.2.text (pre ++ xs.flatMap Lexeme.text) p.1 := by
  induction xs generalizing pre with
  | nil => intro p hp; cases hp
  | cons x r ih =>
    intro p hp
    rw [List.flatMap_cons]
    rcases List.mem_cons.1 hp with rfl | hp
    · exact ⟨pre, r.flatMap Lexeme.text, by rw [List.append_assoc], rfl⟩
    · rw [← List.append_assoc]
      exact ih (pre ++ x.text) p (by rwa [List.length_append])

theorem le_of_mem_located {start : Nat} {xs : List Lexeme} :
    ∀ p ∈ located start xs, start ≤ p.1 := by
  induction xs generalizing start with
  | nil => intro p hp; cases hp
  | cons x r ih =>
    intro p hp
    rcases List.mem_cons.1 hp with rfl | hp
    · exact Nat.le_refl _
    · have hle := ih p hp
      omega

theorem mem_of_mem_located {start : Nat} {xs : List Lexeme} {p : Nat × Lexeme}
    (h : p ∈ located start xs) : p.2 ∈ xs := by
  induction xs generalizing start with
  | nil => cases h
  | cons x r ih =>
    rcases List.mem_cons.1 h with rfl | h
    · exact List.mem_cons_self ..
    · exact List.mem_cons_of_mem x (ih h)

/-- Each lexeme ends before the next one begins. -/
theorem located_pairwise (start : Nat) (xs : List Lexeme) :
    (located start xs).Pairwise fun p q => p.1 + p.2.text.length ≤ q.1 := by
  induction xs generalizing start with
  | nil => exact List.Pairwise.nil
  | cons x r ih => exact List.Pairwise.cons (fun q hq => le_of_mem_located q hq) (ih _)

/-! ## Candidates that are lexemes -/

/-- A choice of candidates among the lexemes takes each as it stands. -/
def TakesLexemes (choose : Nat × Lexeme → Option Candidate) : Prop :=
  ∀ p c, choose p = some c → c.start = (p.1 : Int) ∧ c.source = p.2.text

theorem takesLexemes_commentCandidate? : TakesLexemes commentCandidate? := by
  intro ⟨i, kind, t⟩ c h
  cases kind <;> simp only [commentCandidate?, reduceCtorEq, Option.some.injEq] at h
  subst h
  exact ⟨rfl, rfl⟩

theorem takesLexemes_markupCandidate? : TakesLexemes markupCandidate? := by
  intro ⟨i, kind, t⟩ c h
  cases kind <;> simp only [markupCandidate?, reduceCtorEq, Option.some.injEq] at h <;>
    (subst h; exact ⟨rfl, rfl⟩)

variable {choose : Nat × Lexeme → Option Candidate}

theorem TakesLexemes.standsIn (hc : TakesLexemes choose) (lexer : Lexer) (t : Text) :
    ∀ c ∈ (located 0 (lexemes lexer t)).filterMap choose, c.StandsIn t := by
  intro c h _
  obtain ⟨p, hp, hpc⟩ := List.mem_filterMap.1 h
  obtain ⟨hstart, hsource⟩ := hc p c hpc
  have hstands := located_standsAt [] (lexemes lexer t) p hp
  rw [List.nil_append, flatMap_lexemes, ← hsource] at hstands
  exact ⟨p.1, hstart, hstands⟩

theorem TakesLexemes.pairwise (hc : TakesLexemes choose) (xs : List Lexeme) :
    ((located 0 xs).filterMap choose).Pairwise Candidate.Before := by
  -- Lexemes keep apart, and a candidate is as long as the lexeme it is.
  refine List.pairwise_filterMap.2 ((located_pairwise 0 xs).imp ?_)
  intro p q hpq c hpc d hqd
  obtain ⟨hstart, hsource⟩ := hc p c hpc
  obtain ⟨hstart', -⟩ := hc q d hqd
  unfold Candidate.Before
  rw [hstart, hsource, hstart']
  omega

theorem markupCandidates_pairwise (lexer : Lexer) (t : Text) :
    (markupCandidates lexer t).Pairwise Candidate.Before :=
  takesLexemes_markupCandidate?.pairwise (lexemes lexer t)

/-- A language is scanned for its comments, or for its comments and the text
    between the markup. -/
theorem scanner?_eq_some {language : String} {candidates : Text → List Candidate}
    (h : scanner? language = some candidates) :
    ∃ lexer, candidates = codeCandidates lexer ∨ candidates = markupCandidates lexer := by
  unfold scanner? at h
  split at h <;> cases h
  case h_9 => exact ⟨htmlLexer, .inr rfl⟩
  case h_10 => exact ⟨latexLexer, .inr rfl⟩
  all_goals exact ⟨_, .inl rfl⟩

theorem scanner?_standsIn {language : String} {candidates : Text → List Candidate}
    (h : scanner? language = some candidates) (t : Text) : ∀ c ∈ candidates t, c.StandsIn t := by
  obtain ⟨lexer, rfl | rfl⟩ := scanner?_eq_some h
  · exact takesLexemes_commentCandidate?.standsIn lexer t
  · exact takesLexemes_markupCandidate?.standsIn lexer t

theorem scanner?_pairwise {language : String} {candidates : Text → List Candidate}
    (h : scanner? language = some candidates) (t : Text) :
    (candidates t).Pairwise Candidate.Before := by
  obtain ⟨lexer, rfl | rfl⟩ := scanner?_eq_some h
  · exact takesLexemes_commentCandidate?.pairwise (lexemes lexer t)
  · exact markupCandidates_pairwise lexer t

/-! ## Lexemes piece by piece -/

variable {lexer : Lexer} {lexers : List Lexer} {before : Option Char} {t : Text}

theorem Lexer.firstOf_nil : Lexer.firstOf [] before t = none := rfl

theorem Lexer.firstOf_of_none (h : lexer before t = none) :
    Lexer.firstOf (lexer :: lexers) before t = Lexer.firstOf lexers before t := by
  rw [Lexer.firstOf, List.findSome?_cons, h]
  rfl

theorem Lexer.firstOf_of_some {x : Kind × Nat} (h : lexer before t = some x) :
    Lexer.firstOf (lexer :: lexers) before t = some x := by
  rw [Lexer.firstOf, List.findSome?_cons, h]

theorem Lexer.at_of_none {kind : Kind} {length : Text → Option Nat} (h : length t = none) :
    Lexer.at kind length before t = none := by
  rw [Lexer.at, h]
  rfl

theorem Lexer.at_of_some {kind : Kind} {length : Text → Option Nat} {n : Nat}
    (h : length t = some n) : Lexer.at kind length before t = some (kind, n) := by
  rw [Lexer.at, h]
  rfl

theorem scan_plain {c : Char} {r : Text} (h : lexer before (c :: r) = none) :
    scan lexer before (c :: r) = ⟨.plain, [c]⟩ :: scan lexer (some c) r := by
  rw [scan, h]

/-- What the lexer reads at the head of a text is the first lexeme. -/
theorem scan_read {kind : Kind} {n : Nat} (ht : t ≠ []) (hn : 0 < n)
    (h : lexer before t = some (kind, n)) :
    scan lexer before t = ⟨kind, t.take n⟩ :: scan lexer (t.take n).getLast? (t.drop n) := by
  obtain ⟨c, r, rfl⟩ := List.exists_cons_of_ne_nil ht
  obtain ⟨n, rfl⟩ := Nat.exists_eq_add_of_lt hn
  rw [scan, h, Nat.zero_add, List.take_succ_cons, List.drop_succ_cons, List.getLast?_cons]
  rfl

theorem scan_read_append {kind : Kind} {s r : Text} (hs : s ≠ [])
    (h : lexer before (s ++ r) = some (kind, s.length)) :
    scan lexer before (s ++ r) = ⟨kind, s⟩ :: scan lexer s.getLast? r := by
  rw [scan_read (List.append_ne_nil_of_left_ne_nil hs r) (List.length_pos_iff.2 hs) h,
    List.take_left, List.drop_left]

theorem located_append (start : Nat) (xs ys : List Lexeme) :
    located start (xs ++ ys) =
      located start xs ++ located (start + (xs.flatMap Lexeme.text).length) ys := by
  induction xs generalizing start with
  | nil => rfl
  | cons x r ih =>
    simp only [List.cons_append, located, ih, List.flatMap_cons, List.length_append,
      Nat.add_assoc]

/-- Joining plain neighbours changes no comment. -/
theorem comments_located_joinPlain (start : Nat) (xs : List Lexeme) :
    (located start (joinPlain xs)).filterMap commentCandidate? =
      (located start xs).filterMap commentCandidate? := by
  fun_induction joinPlain xs generalizing start with
  | case1 => rfl
  | case2 a r b more hjoin ih =>
    -- The joined lexeme is as long as the two, so the rest begins where it did.
    have hrest := ih (start + a.length)
    rw [hjoin] at hrest
    simp only [located, commentCandidate?, List.filterMap_cons, List.length_append,
      ← Nat.add_assoc] at hrest ⊢
    exact hrest
  | case3 a r _ ih =>
    simp only [located, commentCandidate?, List.filterMap_cons]
    exact ih _
  | case4 x r _ ih => simp only [located, List.filterMap_cons, ih]

/-- The candidates of source code, before plain neighbours are joined. -/
theorem codeCandidates_eq (lexer : Lexer) (t : Text) :
    codeCandidates lexer t = (located 0 (scan lexer none t)).filterMap commentCandidate? :=
  comments_located_joinPlain 0 (scan lexer none t)

/-- No comment is empty. -/
theorem codeCandidates_ne_nil (lexer : Lexer) (t : Text) :
    ∀ c ∈ codeCandidates lexer t, c.source ≠ [] := by
  intro c hc
  obtain ⟨p, hp, hpc⟩ := List.mem_filterMap.1 hc
  obtain ⟨-, hsource⟩ := takesLexemes_commentCandidate? p c hpc
  rw [hsource]
  exact lexemes_ne_nil lexer t p.2 (mem_of_mem_located hp)

end Kousei.Extract
