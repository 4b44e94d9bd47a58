import Kousei.Proofs.Extract.Literals
import Kousei.Proofs.Extract.Pieces
import Kousei.Proofs.Tree.Comments

/-! # Documents with slash comments

    What a document of C, of JavaScript and of their like is written as: a
    row of pieces of code, closed literals and comments (`Document`).  Such
    a document is scanned into just these pieces (`scan_render`): nothing
    begins inside a literal or a comment but its end, and no comment is
    missed.

    The candidates are therefore the comments, and each is what stands
    between its places in bytes (`codeCandidates_render`). -/

namespace Kousei.Extract

open Text

/-! ## The written form -/

/-- Languages that have literals and comments in common. -/
inductive SlashFamily where
  | javascript
  | c
  deriving DecidableEq, Repr

namespace SlashFamily

def languages : SlashFamily → List String
  | javascript => ["javascript", "javascriptreact", "typescript", "typescriptreact"]
  | c => ["c", "cpp"]

/-- The characters that begin a literal. -/
def quotes : SlashFamily → List Char
  | javascript => ['"', '\'', '\x60']
  | c => ['"', '\'']

def lexer : SlashFamily → Lexer
  | javascript => javascriptLexer
  | c => cLexer

end SlashFamily

/-- The closed literals of a family with their quotes. -/
inductive Literal : SlashFamily → Text → Prop where
  | double {f : SlashFamily} {b : Text} : LiteralBody '"' false b →
      Literal f ('"' :: b ++ ['"'])
  | single {b : Text} : LiteralBody '\'' false b →
      Literal .javascript ('\'' :: b ++ ['\''])
  | back {b : Text} : LiteralBody '\x60' true b →
      Literal .javascript ('\x60' :: b ++ ['\x60'])
  | char {x : Char} : x ≠ '\'' → x ≠ '\\' → x ≠ '\n' → Literal .c ['\'', x, '\'']
  | escapedChar {x : Char} : Literal .c ['\'', '\\', x, '\'']

/-- A piece of a document. -/
inductive Item where
  | code (t : Text)
  /-- A literal with its quotes. -/
  | literal (t : Text)
  /-- A comment after two slashes. -/
  | line (body : Text)
  /-- A comment between slash-star and star-slash. -/
  | block (body : Text)
  deriving DecidableEq, Repr

namespace Item

def text : Item → Text
  | code t => t
  | literal t => t
  | line body => '/' :: '/' :: body
  | block body => '/' :: '*' :: body ++ ['*', '/']

def kind : Item → Kind
  | code _ => .plain
  | literal _ => .skipped
  | line _ | block _ => .comment

/-- The candidate that the item is, if it is a comment. -/
def candidate? : Nat × Item → Option Candidate
  | (start, line body) => some ⟨start, (line body).text, true⟩
  | (start, block body) => some ⟨start, (block body).text, true⟩
  | (_, code _) | (_, literal _) => none

end Item

instance : Items Item := ⟨Item.text, Item.kind, Item.candidate?⟩

/-- May the item stand before the others?  Code holds no quotes and no slash
    that begins a comment, and a line comment ends with its line. -/
def Item.Fits (f : SlashFamily) (rest : List Item) : Item → Prop
  | code t => (∀ x ∈ t, x ∉ f.quotes) ∧
      ∀ a b, t = a ++ '/' :: b → ∀ x, (b ++ render rest).head? = some x → x ≠ '/' ∧ x ≠ '*'
  | literal t => Literal f t
  | line body => '\n' ∉ body ∧ ∀ x, (render rest).head? = some x → x = '\n'
  | block body => ¬ ['*', '/'] <:+: body

/-- Each item may stand before the rest of the document. -/
abbrev Document (f : SlashFamily) : List Item → Prop := Row (Item.Fits f)

/-- The places in bytes of the comments, if the first item begins at `start`. -/
def byteSpans (start : Nat) : List Item → List (Int × Int)
  | [] => []
  | i :: r =>
    let stop := start + byteLength i.text
    if i.kind = .comment then ((start : Int), (stop : Int)) :: byteSpans stop r
    else byteSpans stop r

/-! ## What the parts of a lexer read -/

variable {before : Option Char}

theorem charLiteral?_of_ne {x : Char} {r : Text} (h : x ≠ '\'') : charLiteral? (x :: r) = none := by
  unfold charLiteral?
  split
  · next heq => exact absurd (List.cons.inj heq).1 h
  · next heq => exact absurd (List.cons.inj heq).1 h
  · rfl

/-- A slash that neither a slash nor a star follows begins no comment. -/
theorem slashComment_none (before : Option Char) {x : Char} {r : Text}
    (h : x = '/' → ∀ y, r.head? = some y → y ≠ '/' ∧ y ≠ '*') :
    slashComment before (x :: r) = none := by
  -- Both openings are a slash and one of the characters that do not follow it.
  have hopening (y : Char) (hy : y = '/' ∨ y = '*') : startsWith (x :: r) ['/', y] = false := by
    rw [Bool.eq_false_iff]
    intro hstarts
    obtain ⟨u, hu⟩ := List.isPrefixOf_iff_prefix.1 hstarts
    simp only [List.cons_append, List.nil_append, List.cons.injEq] at hu
    obtain ⟨rfl, rfl⟩ := hu
    obtain ⟨hslash, hstar⟩ := h rfl y rfl
    rcases hy with rfl | rfl
    · exact hslash rfl
    · exact hstar rfl
  have hline : restOfLine? (text "//") (x :: r) = none := by
    show (if startsWith (x :: r) ['/', '/'] then _ else none) = none
    rw [hopening '/' (.inl rfl)]
    rfl
  have hblock : enclosed? (text "/*") (text "*/") (x :: r) = none := by
    show (if startsWith (x :: r) ['/', '*'] then _ else none) = none
    rw [hopening '*' (.inr rfl)]
    rfl
  rw [slashComment, Lexer.firstOf_of_none (Lexer.at_of_none hline),
    Lexer.firstOf_of_none (Lexer.at_of_none hblock), Lexer.firstOf_nil]

theorem slashComment_line {body rest : Text} (hbody : '\n' ∉ body)
    (hrest : ∀ x, rest.head? = some x → x = '\n') :
    slashComment before ((Item.line body).text ++ rest) =
      some (.comment, (Item.line body).text.length) := by
  have hopening : '\n' ∉ ['/', '/'] := by decide
  have hline : restOfLine? (text "//") ((Item.line body).text ++ rest) =
      some (Item.line body).text.length := restOfLine?_append hopening hbody hrest
  rw [slashComment, Lexer.firstOf_of_some (Lexer.at_of_some hline)]

theorem slashComment_block {body rest : Text} (hbody : ¬ ['*', '/'] <:+: body) :
    slashComment before ((Item.block body).text ++ rest) =
      some (.comment, (Item.block body).text.length) := by
  have hstar : '/' ∉ ['*'] := by decide
  have hline : restOfLine? (text "//") ((Item.block body).text ++ rest) = none := rfl
  have hblock : enclosed? (text "/*") (text "*/") ((Item.block body).text ++ rest) =
      some (Item.block body).text.length :=
    enclosed?_append (find?_append_of_not_isInfix hstar hbody)
  rw [slashComment, Lexer.firstOf_of_none (Lexer.at_of_none hline),
    Lexer.firstOf_of_some (Lexer.at_of_some hblock)]

/-! ## What a lexer reads -/

/-- At a character of code nothing begins. -/
theorem lexer_code (f : SlashFamily) {x : Char} {r : Text} (hx : x ∉ f.quotes)
    (h : x = '/' → ∀ y, r.head? = some y → y ≠ '/' ∧ y ≠ '*') :
    f.lexer before (x :: r) = none := by
  have hslash := slashComment_none before h
  cases f with
  | javascript =>
    simp only [SlashFamily.quotes, List.mem_cons, List.not_mem_nil, or_false, not_or] at hx
    obtain ⟨hdouble, hsingle, hback⟩ := hx
    rw [SlashFamily.lexer, javascriptLexer,
      Lexer.firstOf_of_none (Lexer.at_of_none (quoted?_of_ne hdouble)),
      Lexer.firstOf_of_none (Lexer.at_of_none (quoted?_of_ne hsingle)),
      Lexer.firstOf_of_none (Lexer.at_of_none (quoted?_of_ne hback)),
      Lexer.firstOf_of_none hslash, Lexer.firstOf_nil]
  | c =>
    simp only [SlashFamily.quotes, List.mem_cons, List.not_mem_nil, or_false, not_or] at hx
    obtain ⟨hdouble, hsingle⟩ := hx
    rw [SlashFamily.lexer, cLexer,
      Lexer.firstOf_of_none (Lexer.at_of_none (quoted?_of_ne hdouble)),
      Lexer.firstOf_of_none (Lexer.at_of_none (charLiteral?_of_ne hsingle)),
      Lexer.firstOf_of_none hslash, Lexer.firstOf_nil]

/-- At a slash no literal begins. -/
theorem lexer_slash (f : SlashFamily) {r : Text} {x : Kind × Nat}
    (h : slashComment before ('/' :: r) = some x) : f.lexer before ('/' :: r) = some x := by
  cases f with
  | javascript =>
    rw [SlashFamily.lexer, javascriptLexer, Lexer.firstOf_of_none (Lexer.at_of_none rfl),
      Lexer.firstOf_of_none (Lexer.at_of_none rfl), Lexer.firstOf_of_none (Lexer.at_of_none rfl),
      Lexer.firstOf_of_some h]
  | c =>
    rw [SlashFamily.lexer, cLexer, Lexer.firstOf_of_none (Lexer.at_of_none rfl),
      Lexer.firstOf_of_none (Lexer.at_of_none rfl), Lexer.firstOf_of_some h]

/-- A closed literal is read up to its end. -/
theorem lexer_literal {f : SlashFamily} {s rest : Text} (h : Literal f s) :
    f.lexer before (s ++ rest) = some (.skipped, s.length) := by
  cases h with
  | double hb =>
    have hread := quoted?_of_literalBody ⟨'"', false, true⟩ rest (by decide) hb nofun
    cases f with
    | javascript =>
      rw [SlashFamily.lexer, javascriptLexer, Lexer.firstOf_of_some (Lexer.at_of_some hread)]
    | c => rw [SlashFamily.lexer, cLexer, Lexer.firstOf_of_some (Lexer.at_of_some hread)]
  | single hb =>
    have hread := quoted?_of_literalBody ⟨'\'', false, true⟩ rest (by decide) hb nofun
    rw [SlashFamily.lexer, javascriptLexer, Lexer.firstOf_of_none (Lexer.at_of_none rfl),
      Lexer.firstOf_of_some (Lexer.at_of_some hread)]
  | back hb =>
    have hread := quoted?_of_literalBody ⟨'\x60', true, true⟩ rest (by decide) hb nofun
    rw [SlashFamily.lexer, javascriptLexer, Lexer.firstOf_of_none (Lexer.at_of_none rfl),
      Lexer.firstOf_of_none (Lexer.at_of_none rfl),
      Lexer.firstOf_of_some (Lexer.at_of_some hread)]
  | @char x hquote hback hfeed =>
    have hread : charLiteral? (['\'', x, '\''] ++ rest) = some 3 := by
      show charLiteral? ('\'' :: x :: '\'' :: rest) = some 3
      rw [charLiteral?]
      · simp [hquote, hback, hfeed]
      · intro _ hx
        exact absurd hx hback
    rw [SlashFamily.lexer, cLexer, Lexer.firstOf_of_none (Lexer.at_of_none rfl),
      Lexer.firstOf_of_some (Lexer.at_of_some hread)]
    rfl
  | @escapedChar x =>
    have hread : charLiteral? (['\'', '\\', x, '\''] ++ rest) = some 4 := rfl
    rw [SlashFamily.lexer, cLexer, Lexer.firstOf_of_none (Lexer.at_of_none rfl),
      Lexer.firstOf_of_some (Lexer.at_of_some hread)]
    rfl

/-! ## Scanning a document -/

theorem Literal.ne_nil {f : SlashFamily} {s : Text} (h : Literal f s) : s ≠ [] := by
  cases h <;> exact List.cons_ne_nil _ _

/-- An item is read as one piece. -/
theorem Item.Fits.reads {f : SlashFamily} {i : Item} {r : List Item} (h : i.Fits f r) :
    f.lexer.Reads before (render r) (lexeme i) := by
  cases i with
  | code t =>
    obtain ⟨hquotes, hslash⟩ := h
    refine .plain fun x u hsuffix last => lexer_code f ?_ fun hx y hy => ?_
    · exact hquotes x (hsuffix.subset (List.mem_cons_self ..))
    · obtain ⟨a, ha⟩ := hsuffix
      have ht : t = a ++ '/' :: u := by rw [← hx, ha]; rfl
      exact hslash a u ht y hy
  | literal t => exact .whole Kind.noConfusion h.ne_nil (lexer_literal h)
  | line body =>
    obtain ⟨hbody, hfollow⟩ := h
    exact .whole Kind.noConfusion (List.cons_ne_nil _ _)
      (lexer_slash f (slashComment_line hbody hfollow))
  | block body =>
    exact .whole Kind.noConfusion (List.cons_ne_nil _ _) (lexer_slash f (slashComment_block h))

theorem lexer_readsRows (f : SlashFamily) :
    f.lexer.ReadsRows (Item.Fits f) (fun _ _ => True) (fun _ => True) where
  reads h _ _ _ := h.reads
  next _ _ _ _ := trivial
  unread _ _ hnot := absurd trivial hnot

/-- A document is scanned into the lexemes of its items. -/
theorem scan_render {f : SlashFamily} {items : List Item} (h : Document f items) :
    scan f.lexer none (render items) = (items.map lexeme).flatMap Lexeme.split :=
  ((lexer_readsRows f).scan_iff none h trivial).2 fun _ _ => trivial

/-! ## Candidates of a document -/

theorem chosenBy : Items.ChosenBy Item commentCandidate? where
  takes := takesLexemes_commentCandidate?
  chosen := fun (start, i) => by cases i <;> rfl

theorem candidate?_eq (start : Nat) (i : Item) :
    Items.candidate? (start, i) =
      if i.kind = .comment then some ⟨start, i.text, true⟩ else none := by
  cases i <;> rfl

/-- The comments among the items are the stretches between their places in
    bytes, after any text that comes first. -/
theorem comments_placed (pre : Text) (items : List Item) :
    (placed pre.length items).filterMap Items.candidate? =
      (byteSpans (byteLength pre) items).map (Node.spanCandidate (pre ++ render items)) := by
  -- By the items, with those that are done already as part of `pre`: places in
  -- the whole document do not change when an item is moved over.
  induction items generalizing pre with
  | nil => rfl
  | cons i r ih =>
    have hrest := ih (pre ++ i.text)
    have hwhole : pre ++ i.text ++ render r = pre ++ render (i :: r) := by
      rw [List.append_assoc]
      rfl
    rw [byteLength_append, List.length_append, hwhole] at hrest
    rw [placed, List.filterMap_cons, candidate?_eq, byteSpans]
    by_cases hcomment : i.kind = .comment
    · have hspan : Node.spanCandidate (pre ++ render (i :: r))
          ((byteLength pre : Int), ((byteLength pre + byteLength i.text : Nat) : Int)) =
            ⟨pre.length, i.text, true⟩ := by
        rw [Node.spanCandidate, ← hwhole, sliceBytes_byteLength, List.append_assoc,
          charIndex_byteLength]
      rw [if_pos hcomment, if_pos hcomment, List.map_cons, hspan, ← hrest]
      rfl
    · rw [if_neg hcomment, if_neg hcomment, ← hrest]
      rfl

/-- The candidates of a document are its comments. -/
theorem codeCandidates_render {f : SlashFamily} {items : List Item} (h : Document f items) :
    codeCandidates f.lexer (render items) =
      (byteSpans 0 items).map (Node.spanCandidate (render items)) :=
  (codeCandidates_of_scan chosenBy (scan_render h)).trans (comments_placed [] items)

theorem scanned_render {f : SlashFamily} {items : List Item} (h : Document f items)
    {language : String} (hl : language ∈ f.languages) (minRatio : Float) :
    scanned (render items) language minRatio =
      Segment.ofCandidates minRatio
        ((byteSpans 0 items).map (Node.spanCandidate (render items))) := by
  have hscanner : scanner? language = some (codeCandidates f.lexer) := by
    cases f <;> simp only [SlashFamily.languages, List.mem_cons, List.not_mem_nil, or_false] at hl
    · rcases hl with rfl | rfl | rfl | rfl <;> rfl
    · rcases hl with rfl | rfl <;> rfl
  rw [scanned, hscanner, ← codeCandidates_render h]

end Kousei.Extract
