import Kousei.Extract.Segment

/-! # Lexers

    A document is read from left to right as a row of lexemes.  At each
    place a lexer says whether a comment, or something to pass over, begins
    there and how long it is; the characters at which nothing begins are
    plain, and neighbours among them are one lexeme.

    The lexemes of a text are a partition of it: put together they are the
    text again (`flatMap_lexemes`), and none is empty (`lexemes_ne_nil`).
    Which of them are candidates depends on the document: in source code the
    comments are, in markup the plain text is too. -/

namespace Kousei.Extract

open Text

/-! ## Lexemes -/

/-- What a lexeme is to the extraction of prose. -/
inductive Kind where
  /-- Characters at which nothing begins. -/
  | plain
  /-- A comment with its markers. -/
  | comment
  /-- A string literal, a tag, a command, a formula. -/
  | skipped
  deriving DecidableEq, Repr

structure Lexeme where
  kind : Kind
  text : Text
  deriving DecidableEq, Repr

/-- What begins at the head of a text and how many characters it has, given
    the character before it.  A length of zero counts as one. -/
abbrev Lexer : Type := Option Char → Text → Option (Kind × Nat)

/-- The first of several lexers that finds something. -/
def Lexer.firstOf (lexers : List Lexer) : Lexer :=
  fun before t => lexers.findSome? fun lexer => lexer before t

/-- A lexer that does not look at the character before. -/
def Lexer.at (kind : Kind) (length : Text → Option Nat) : Lexer :=
  fun _ t => (length t).map fun n => (kind, n)

/-- The lexemes of a text, every plain character on its own. -/
def scan (lexer : Lexer) (before : Option Char) : Text → List Lexeme
  | [] => []
  | c :: r =>
    match lexer before (c :: r) with
    | none => ⟨.plain, [c]⟩ :: scan lexer (some c) r
    | some (kind, n) =>
      let inner := r.take (n - 1)
      ⟨kind, c :: inner⟩ :: scan lexer (some (inner.getLast?.getD c)) (r.drop (n - 1))
termination_by t => t.length
decreasing_by
  · simp
  · simp only [List.length_drop, List.length_cons]; omega

/-- Neighbouring plain lexemes as one. -/
def joinPlain : List Lexeme → List Lexeme
  | [] => []
  | ⟨.plain, a⟩ :: r =>
    match joinPlain r with
    | ⟨.plain, b⟩ :: more => ⟨.plain, a ++ b⟩ :: more
    | rest => ⟨.plain, a⟩ :: rest
  | x :: r => x :: joinPlain r

/-- The lexemes of a text. -/
def lexemes (lexer : Lexer) (t : Text) : List Lexeme := joinPlain (scan lexer none t)

/-! ## Partition -/

theorem flatMap_scan (lexer : Lexer) (before : Option Char) (t : Text) :
    (scan lexer before t).flatMap Lexeme.text = t := by
  fun_induction scan lexer before t with
  | case1 => rfl
  | case2 _ c r _ ih => simp [ih]
  | case3 _ c r kind n _ inner ih => simp [ih, inner, List.take_append_drop]

theorem flatMap_joinPlain (xs : List Lexeme) :
    (joinPlain xs).flatMap Lexeme.text = xs.flatMap Lexeme.text := by
  fun_induction joinPlain xs with
  | case1 => rfl
  | case2 a r b more h ih => simp [← ih, h]
  | case3 a r _ ih => simpa using ih
  | case4 x r _ ih => simp [ih]

/-- The lexemes put together are the text. -/
theorem flatMap_lexemes (lexer : Lexer) (t : Text) :
    (lexemes lexer t).flatMap Lexeme.text = t := by
  rw [lexemes, flatMap_joinPlain, flatMap_scan]

theorem scan_ne_nil (lexer : Lexer) (before : Option Char) (t : Text) :
    ∀ x ∈ scan lexer before t, x.text ≠ [] := by
  fun_induction scan lexer before t with
  | case1 => simp
  | case2 _ c r _ ih => simpa using ih
  | case3 _ c r kind n _ inner ih => simpa using ih

theorem joinPlain_ne_nil {xs : List Lexeme} (h : ∀ x ∈ xs, x.text ≠ []) :
    ∀ x ∈ joinPlain xs, x.text ≠ [] := by
  fun_induction joinPlain xs with
  | case1 => simp
  | case2 a r b more hj ih =>
    have ih' := ih fun x hx => h x (List.mem_cons_of_mem _ hx)
    rw [hj] at ih'
    have ha : a ≠ [] := h ⟨.plain, a⟩ (List.mem_cons_self ..)
    intro x hx
    rcases List.mem_cons.1 hx with rfl | hx
    · simp [ha]
    · exact ih' x (List.mem_cons_of_mem _ hx)
  | case3 a r _ ih =>
    intro x hx
    rcases List.mem_cons.1 hx with rfl | hx
    · exact h _ (List.mem_cons_self ..)
    · exact ih (fun x hx => h x (List.mem_cons_of_mem _ hx)) x hx
  | case4 y r _ ih =>
    intro x hx
    rcases List.mem_cons.1 hx with rfl | hx
    · exact h _ (List.mem_cons_self ..)
    · exact ih (fun x hx => h x (List.mem_cons_of_mem _ hx)) x hx

/-- No lexeme is empty. -/
theorem lexemes_ne_nil (lexer : Lexer) (t : Text) : ∀ x ∈ lexemes lexer t, x.text ≠ [] :=
  joinPlain_ne_nil (scan_ne_nil lexer none t)

/-! ## Candidates -/

/-- The lexemes with the places at which they begin. -/
def located (start : Nat) : List Lexeme → List (Nat × Lexeme)
  | [] => []
  | x :: r => (start, x) :: located (start + x.text.length) r

/-- A comment as a candidate. -/
def commentCandidate? : Nat × Lexeme → Option Candidate
  | (start, ⟨.comment, t⟩) => some ⟨start, t, true⟩
  | _ => none

/-- A comment or a stretch of plain text as a candidate. -/
def markupCandidate? : Nat × Lexeme → Option Candidate
  | (start, ⟨.comment, t⟩) => some ⟨start, t, true⟩
  | (start, ⟨.plain, t⟩) => some ⟨start, t, false⟩
  | (_, ⟨.skipped, _⟩) => none

/-- The candidates of source code: its comments. -/
def codeCandidates (lexer : Lexer) (t : Text) : List Candidate :=
  (located 0 (lexemes lexer t)).filterMap commentCandidate?

/-- The candidates of markup: its comments and the text between the markup. -/
def markupCandidates (lexer : Lexer) (t : Text) : List Candidate :=
  (located 0 (lexemes lexer t)).filterMap markupCandidate?

/-! ## Parts that lexers share -/

/-- The number of characters up to the first `close` and with it. -/
def through? (close t : Text) : Option Nat := (find? close t).map (· + close.length)

/-- A stretch from `opening` through the next `close`. -/
def enclosed? (opening close t : Text) : Option Nat :=
  if t.startsWith opening then
    (through? close (t.drop opening.length)).map (· + opening.length)
  else none

/-- The rest of the line after `opening`. -/
def restOfLine? (opening t : Text) : Option Nat :=
  if t.startsWith opening then some (t.takeWhile (· != '\n')).length else none

/-- Which characters may stand inside the quotes of a string literal. -/
structure QuoteStyle where
  quote : Char
  /-- May a line feed stand there? -/
  lineFeed : Bool := false
  /-- May a line feed stand there after a backslash? -/
  escapedLineFeed : Bool := true

/-- The number of characters up to the closing quote and with it, none if
    something that may not stand inside comes first.  A backslash takes the
    next character with it. -/
def closeQuote? (style : QuoteStyle) : Text → Option Nat
  | [] => none
  | '\\' :: c :: r =>
    if c = '\n' && !style.escapedLineFeed then none else (closeQuote? style r).map (· + 2)
  | c :: r =>
    if c = style.quote then some 1
    else if c = '\\' || (c = '\n' && !style.lineFeed) then none
    else (closeQuote? style r).map (· + 1)

/-- A string literal. -/
def quoted? (style : QuoteStyle) : Text → Option Nat
  | [] => none
  | c :: r => if c = style.quote then (closeQuote? style r).map (· + 1) else none

end Kousei.Extract
