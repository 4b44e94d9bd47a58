import Mathlib.Data.List.Infix
import Kousei.Proofs.Extract.SlashComments

/-! # Documents of Rust

    A document of Rust is written in code, string literals and comments
    (`Document`).  A literal may go on for several lines, but the lexer is
    that of C and takes no line feed in a literal unless a backslash stands
    before it.  The quote that opens such a literal is read as code, and what
    the literal holds as code and comments.

    All items are read as what they are exactly if there is no such literal
    (`scan_whole_iff`), and those before the first one are in any case. -/

namespace Kousei.Extract.Rust

open Text

/-! ## The written form -/

/-- A piece of a document. -/
inductive Item where
  | code (t : Text)
  /-- A string literal, which may have line feeds in it. -/
  | quoted (body : Text)
  /-- A comment after two slashes. -/
  | line (body : Text)
  /-- A comment between slash-star and star-slash. -/
  | block (body : Text)
  deriving DecidableEq, Repr

namespace Item

def text : Item → Text
  | code t => t
  | quoted body => '"' :: body ++ ['"']
  | line body => '/' :: '/' :: body
  | block body => '/' :: '*' :: body ++ ['*', '/']

def kind : Item → Kind
  | code _ => .plain
  | quoted _ => .skipped
  | line _ | block _ => .comment

/-- The candidate that the item is, if it is a comment. -/
def candidate? : Nat × Item → Option Candidate
  | (start, line body) => some ⟨start, (line body).text, true⟩
  | (start, block body) => some ⟨start, (block body).text, true⟩
  | (_, code _) | (_, quoted _) => none

/-- Is the item read as a whole?  A literal is unless it has a line feed that
    no backslash stands before. -/
def isWhole : Item → Bool
  | quoted body => decide (LiteralBody '"' false body)
  | code _ | line _ | block _ => true

end Item

instance : Items Item := ⟨Item.text, Item.kind, Item.candidate?⟩

/-- May the item stand before the others?  Code holds no quotes and no slash
    that begins a comment, a line comment ends with its line, and there are no
    comments in comments. -/
def Item.Fits (rest : List Item) : Item → Prop
  | code t => (∀ x ∈ t, x ∉ SlashFamily.c.quotes) ∧
      ∀ u ∈ t.tails, u ≠ [] → ¬ ['/', '/'] <+: u ++ render rest ∧ ¬ ['/', '*'] <+: u ++ render rest
  | quoted body => LiteralBody '"' true body
  | line body => '\n' ∉ body ∧ ∀ x ∈ (render rest).head?, x = '\n'
  | block body => ¬ ['/', '*'] <:+: body ∧ ¬ ['*', '/'] <:+: body

instance (rest : List Item) : (i : Item) → Decidable (i.Fits rest)
  | .code t => inferInstanceAs (Decidable ((∀ x ∈ t, x ∉ SlashFamily.c.quotes) ∧
      ∀ u ∈ t.tails, u ≠ [] →
        ¬ ['/', '/'] <+: u ++ render rest ∧ ¬ ['/', '*'] <+: u ++ render rest))
  | .quoted body => inferInstanceAs (Decidable (LiteralBody '"' true body))
  | .line body =>
    inferInstanceAs (Decidable ('\n' ∉ body ∧ ∀ x ∈ (render rest).head?, x = '\n'))
  | .block body => inferInstanceAs (Decidable (¬ ['/', '*'] <:+: body ∧ ¬ ['*', '/'] <:+: body))

/-- Each item may stand before the rest of the document. -/
abbrev Document : List Item → Prop := Row Item.Fits

/-! ## Reading an item -/

variable {before : Option Char} {rest t body : Text} {i : Item} {items a r : List Item}

/-- A slash in code is followed by nothing that would make it begin a comment. -/
theorem Item.Fits.slash_apart (h : (Item.code t).Fits r) {x : Char} {u : Text}
    (hu : x :: u <:+ t) (hx : x = '/') :
    ∀ y, (u ++ render r).head? = some y → y ≠ '/' ∧ y ≠ '*' := by
  obtain ⟨-, hapart⟩ := h
  obtain ⟨hslash, hstar⟩ := hapart (x :: u) ((List.mem_tails ..).2 hu) (List.cons_ne_nil x u)
  intro y hy
  obtain ⟨v, hv⟩ := List.head?_eq_some_iff.1 hy
  have hprefix : ['/', y] <+: x :: u ++ render r := ⟨v, by
    show '/' :: y :: v = x :: (u ++ render r)
    rw [hv, hx]⟩
  constructor
  · rintro rfl
    exact hslash hprefix
  · rintro rfl
    exact hstar hprefix

theorem rustLexer_quoted (h : LiteralBody '"' false body) :
    rustLexer before ((Item.quoted body).text ++ rest) =
      some (.skipped, (Item.quoted body).text.length) :=
  lexer_literal (f := .c) (.double h)

/-- An item is read as a whole unless it is a literal with a bare line feed. -/
theorem Item.Fits.reads (h : i.Fits r) (hwhole : i.isWhole = true) :
    rustLexer.Reads before (render r) (lexeme i) := by
  cases i with
  | code t =>
    refine .plain fun x u hu last => ?_
    have hx : x ∉ SlashFamily.c.quotes := h.1 x (hu.subset (List.mem_cons_self ..))
    exact lexer_code .c hx fun hslash => h.slash_apart hu hslash
  | quoted body =>
    have hbody : LiteralBody '"' false body := by simpa [Item.isWhole] using hwhole
    exact .whole Kind.noConfusion (List.cons_ne_nil _ _) (rustLexer_quoted hbody)
  | line body =>
    obtain ⟨hbody, hfollow⟩ := h
    exact .whole Kind.noConfusion (List.cons_ne_nil _ _)
      (lexer_slash .c (slashComment_line hbody hfollow))
  | block body =>
    obtain ⟨-, hbody⟩ := h
    exact .whole Kind.noConfusion (List.cons_ne_nil _ _) (lexer_slash .c (slashComment_block hbody))

/-- The quote of a literal with a bare line feed is read as code. -/
theorem Item.Fits.unread (h : i.Fits r) (hbroken : i.isWhole = false) :
    i.kind ≠ .plain ∧
      ∃ c t, i.text ++ render r = c :: t ∧ ∀ before, rustLexer before (c :: t) = none := by
  cases i with
  | code t => simp [Item.isWhole] at hbroken
  | quoted body =>
    have hbody : ¬ LiteralBody '"' false body := by simpa [Item.isWhole] using hbroken
    refine ⟨Kind.noConfusion, '"', body ++ '"' :: render r, by simp [Item.text], fun before => ?_⟩
    have hdouble : quoted? ⟨'"', false, true⟩ ('"' :: (body ++ '"' :: render r)) = none := by
      rw [quoted?, if_pos rfl, closeQuote?_of_bareLineFeed ⟨'"', false, true⟩ _ rfl h hbody]
      rfl
    have hslash : slashComment before ('"' :: (body ++ '"' :: render r)) = none :=
      slashComment_none before fun hx => absurd hx (by decide)
    rw [rustLexer, cLexer, Lexer.firstOf_of_none (Lexer.at_of_none hdouble),
      Lexer.firstOf_of_none (Lexer.at_of_none (charLiteral?_of_ne (by decide))),
      Lexer.firstOf_of_none hslash, Lexer.firstOf_nil]
  | line body => simp [Item.isWhole] at hbroken
  | block body => simp [Item.isWhole] at hbroken

/-! ## Reading a document -/

theorem rustLexer_readsRows :
    rustLexer.ReadsRows Item.Fits (fun _ _ => True) (fun i => i.isWhole = true) where
  reads h _ _ hwhole := h.reads hwhole
  next _ _ _ _ := trivial
  unread h _ hbroken := h.unread (eq_false_of_ne_true hbroken)

theorem chosenBy : Items.ChosenBy Item commentCandidate? where
  takes := takesLexemes_commentCandidate?
  chosen := fun (start, i) => by cases i <;> rfl

theorem scanned_rust (t : Text) (minRatio : Float) :
    scanned t "rust" minRatio = Segment.ofCandidates minRatio (codeCandidates rustLexer t) := rfl

/-- The comments before the first literal with a bare line feed are the first
    candidates. -/
theorem candidates_isPrefix (h : Document (a ++ r)) (hwhole : ∀ i ∈ a, i.isWhole = true) :
    candidates a <+: codeCandidates rustLexer (render (a ++ r)) := by
  obtain ⟨last, hlast⟩ := rustLexer_readsRows.scan_append none h trivial hwhole
  rw [codeCandidates_eq, hlast, located_append, List.filterMap_append, comments_located_split,
    filterMap_located_map_lexeme chosenBy]
  exact List.prefix_append _ _

/-- **Documents of Rust.**  The items of a document are read as what they are
    exactly if no literal has a line feed that no backslash stands before.  Then
    the segments are those of its comments, and none reaches into the code or
    into a literal.  If there is such a literal, this holds of the items before
    it. -/
theorem scan_whole_iff (items : List Item) (h : Document items) :
    (scan rustLexer none (render items) = (items.map lexeme).flatMap Lexeme.split ↔
        ∀ i ∈ items, i.isWhole = true) ∧
      ((∀ i ∈ items, i.isWhole = true) → ∀ minRatio : Float,
        scanned (render items) "rust" minRatio =
            Segment.ofCandidates minRatio (candidates items) ∧
          ∀ s ∈ scanned (render items) "rust" minRatio, ∀ p ∈ placed 0 items,
            Items.candidate? p = none → s.Avoids p.1 (Items.text p.2).length) ∧
      ∀ a r, items = a ++ r → (∀ i ∈ a, i.isWhole = true) →
        candidates a <+: codeCandidates rustLexer (render items) := by
  have hiff := rustLexer_readsRows.scan_iff none h trivial
  refine ⟨hiff, fun hwhole minRatio => ?_, fun a r hitems ha => ?_⟩
  · rw [scanned_rust, codeCandidates_of_scan chosenBy (hiff.2 hwhole)]
    exact ⟨rfl, fun s hs p hp hnone => avoids_of_placed chosenBy hs hp hnone⟩
  · subst hitems
    exact candidates_isPrefix h ha

/-- Comment signs in literals, an escaped line feed, and quotes in comments. -/
def sampleItems : List Item :=
  [.line (text "! 説明 \"引用\""), .code (text "\nlet a = "), .quoted (text "// \\\" 文字"),
   .quoted (text "次の\\\n// 行"), .code (text " / b; "), .block (text "* 注 //\n *"), .quoted []]

theorem scan_whole_iff_of_sampleItems :
    Document sampleItems ∧ (∀ i ∈ sampleItems, i.isWhole = true) ∧
      (scanned (render sampleItems) "rust" 0.1).map Segment.text =
        [text "説明 \"引用\"", text "注 //"] := by
  have hdocument : Document sampleItems := by decide +kernel
  have hwhole : ∀ i ∈ sampleItems, i.isWhole = true := by decide +kernel
  refine ⟨hdocument, hwhole, ?_⟩
  rw [((scan_whole_iff sampleItems hdocument).2.1 hwhole 0.1).1,
    Segment.ofCandidates_eq_filterMap (candidates_pairwise chosenBy sampleItems)]
  decide +kernel

/-- A comment is found in a literal of two lines. -/
theorem comment_in_second_line :
    Document [.quoted (text "\n// 日本語")] ∧ candidates [Item.quoted (text "\n// 日本語")] = [] ∧
      scanned (render [Item.quoted (text "\n// 日本語")]) "rust" 0.1 = [⟨text "日本語\"", 5⟩] ∧
      Segment.ofCandidates 0.1 (candidates [Item.quoted (text "\n// 日本語")]) = [] := by
  decide +kernel

end Kousei.Extract.Rust
