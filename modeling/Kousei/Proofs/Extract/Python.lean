import Kousei.Extract.Language
import Kousei.Proofs.Extract.Literals
import Kousei.Proofs.Extract.Pieces

/-! # Documents of Python

    A document of Python is written in code, comments, literals of one line
    and literals between three quotes (`Document`).  A literal of one line may
    go on in the next one after a backslash, but such a literal is not read as
    one.  All items of a document are read as what they are exactly if there is
    none (`scan_render_iff`). -/

namespace Kousei.Extract.Python

open Text

/-! ## The written form -/

/-- The characters that literals are quoted with. -/
def quotes : List Char := ['"', '\'']

/-- A piece of a document. -/
inductive Item where
  | code (t : Text)
  | comment (body : Text)
  /-- A literal between two quotes. -/
  | quoted (quote : Char) (body : Text)
  /-- A literal between quotes that are written three times. -/
  | tripled (quote : Char) (body : Text)
  deriving DecidableEq, Repr

namespace Item

def text : Item → Text
  | code t => t
  | comment body => '#' :: body
  | quoted quote body => quote :: body ++ [quote]
  | tripled quote body => [quote, quote, quote] ++ body ++ [quote, quote, quote]

def kind : Item → Kind
  | code _ => .plain
  | comment _ | tripled .. => .comment
  | quoted .. => .skipped

/-- The candidate that the item is: a comment, or a literal that is read as
    one. -/
def candidate? : Nat × Item → Option Candidate
  | (start, comment body) => some ⟨start, (comment body).text, true⟩
  | (start, tripled quote body) => some ⟨start, (tripled quote body).text, true⟩
  | (_, code _) | (_, quoted ..) => none

def isLiteral : Item → Bool
  | code _ | comment _ => false
  | quoted .. | tripled .. => true

/-- Does a literal of one line go on in the next one? -/
def continues : Item → Bool
  | quoted _ body => body.contains '\n'
  | code _ | comment _ | tripled .. => false

end Item

instance : Items Item := ⟨Item.text, Item.kind, Item.candidate?⟩

/-- May the item stand before the others?  A space comes before a literal, code
    after it, and a comment ends with its line. -/
def Item.Fits (rest : List Item) : Item → Prop
  | code t => (∀ x ∈ t, x ∉ '#' :: quotes) ∧
      ∀ i ∈ rest.head?, i.isLiteral = true → t.getLast? = some ' '
  | comment body => '\n' ∉ body ∧ ∀ x ∈ (render rest).head?, x = '\n'
  | quoted quote body => quote ∈ quotes ∧ LiteralBody quote false body ∧
      ∀ i ∈ rest.head?, i.kind = .plain
  | tripled quote body => quote ∈ quotes ∧ '\\' ∉ body ∧ quote ∉ body ∧
      ∀ i ∈ rest.head?, i.kind = .plain

instance (rest : List Item) : (i : Item) → Decidable (i.Fits rest)
  | .code t => inferInstanceAs (Decidable ((∀ x ∈ t, x ∉ '#' :: quotes) ∧
      ∀ i ∈ rest.head?, i.isLiteral = true → t.getLast? = some ' '))
  | .comment body =>
    inferInstanceAs (Decidable ('\n' ∉ body ∧ ∀ x ∈ (render rest).head?, x = '\n'))
  | .quoted quote body => inferInstanceAs (Decidable (quote ∈ quotes ∧
      LiteralBody quote false body ∧ ∀ i ∈ rest.head?, i.kind = .plain))
  | .tripled quote body => inferInstanceAs (Decidable (quote ∈ quotes ∧ '\\' ∉ body ∧
      quote ∉ body ∧ ∀ i ∈ rest.head?, i.kind = .plain))

/-- Each item may stand before the rest of the document. -/
abbrev Document : List Item → Prop := Row Item.Fits

/-! ## Letters before quotes -/

variable {before : Option Char} {rest t body : Text} {x q d : Char} {i j : Item}
  {items r : List Item}

theorem ne_of_mem_quotes : ∀ q ∈ quotes, q ≠ '\\' ∧ q ≠ '#' ∧ q ≠ '\n' := by decide

theorem isLiteral_of_plain (h : j.kind = .plain) : j.isLiteral = false := by
  cases j with
  | code t => rfl
  | comment body => cases h
  | quoted q body => cases h
  | tripled q body => cases h

/-- What comes before a literal is code that ends with a space. -/
theorem Item.Fits.before_literal (h : i.Fits r) (hrest : Document r) (hj : j ∈ r.head?)
    (hliteral : j.isLiteral = true) : ∃ t, i = .code t ∧ t.getLast? = some ' ' := by
  obtain ⟨r, rfl⟩ := List.head?_eq_some_iff.1 hj
  have hfits := (row_cons.1 hrest).1
  cases i with
  | code t => exact ⟨t, rfl, h.2 j rfl hliteral⟩
  | comment body =>
    obtain ⟨-, hfollow⟩ := h
    cases j with
    | code t => cases hliteral
    | comment body => cases hliteral
    | quoted q body => exact absurd (hfollow q rfl) (ne_of_mem_quotes q hfits.1).2.2
    | tripled q body => exact absurd (hfollow q rfl) (ne_of_mem_quotes q hfits.1).2.2
  | quoted q body => exact absurd hliteral (by rw [isLiteral_of_plain (h.2.2 j rfl)]; decide)
  | tripled q body => exact absurd hliteral (by rw [isLiteral_of_plain (h.2.2.2 j rfl)]; decide)

/-- No quote comes after literal letters at the beginning of a text. -/
def LettersApart (t : Text) : Prop :=
  ∀ a b, t = a ++ b → (∀ x ∈ a, isLiteralLetter x = true) → ∀ x ∈ b.head?, x ∉ quotes

/-- What begins with no literal has no quote after the letters at its
    beginning. -/
theorem lettersApart_render (h : Document items) (hfirst : ∀ i ∈ items.head?, i.isLiteral = false) :
    LettersApart (render items) := by
  induction h with
  | nil =>
    intro a b hab _ x hx
    obtain ⟨-, rfl⟩ := List.append_eq_nil_iff.1 hab.symm
    cases hx
  | @cons i r hfits hrest ih =>
    intro a b hab hletters
    cases i with
    | code t =>
      -- Letters that are all of the code have no space at their end.
      have hpast (u : Text) (ha : a = t ++ u) (hb : render r = u ++ b) :
          ∀ x ∈ b.head?, x ∉ quotes := by
        subst ha
        refine ih (fun j hj => ?_) u b hb fun x hx => hletters x (List.mem_append_right t hx)
        refine Bool.eq_false_iff.2 fun hliteral => ?_
        have hspace := List.mem_of_getLast? (hfits.2 j hj hliteral)
        exact absurd (hletters ' ' (List.mem_append_left u hspace)) (by decide)
      change t ++ render r = a ++ b at hab
      rcases List.append_eq_append_iff.1 hab with ⟨u, ha, hb⟩ | ⟨c, ht, hb⟩
      · exact hpast u ha hb
      · cases c with
        | nil =>
          rw [List.append_nil] at ht
          exact hpast [] (by rw [ht, List.append_nil]) hb.symm
        | cons y c =>
          rintro x hx
          rw [hb] at hx
          cases hx
          have hy := hfits.1 y (by rw [ht]; exact List.mem_append_right a (List.mem_cons_self ..))
          exact (List.ne_and_not_mem_of_not_mem_cons hy).2
    | comment body =>
      cases a with
      | nil =>
        rw [List.nil_append] at hab
        rw [← hab]
        rintro x hx
        cases hx
        decide
      | cons y a =>
        obtain ⟨rfl, -⟩ := List.cons.inj hab
        exact absurd (hletters '#' (List.mem_cons_self ..)) (by decide)
    | quoted q body => cases hfirst _ rfl
    | tripled q body => cases hfirst _ rfl

/-! ## What the lexer reads -/

/-- Where no quote stands nothing between three quotes begins. -/
theorem enclosed?_quotes (hq : q ∈ quotes) (h : ∀ x ∈ t.head?, x ∉ quotes) :
    enclosed? [q, q, q] [q, q, q] t = none := by
  refine enclosed?_of_not_startsWith ?_
  cases t with
  | nil => rfl
  | cons x t =>
    refine startsWith_cons_of_ne ?_
    rintro rfl
    exact h x rfl hq

theorem tripleQuoted?_of_lettersApart (h : LettersApart t) : tripleQuoted? t = none := by
  -- The letters that are passed over are some of those at the beginning.
  have hletters : ∀ x ∈ t.take (min 2 (t.takeWhile isLiteralLetter).length),
      isLiteralLetter x = true := by
    intro x hx
    have hhead : t.take (min 2 (t.takeWhile isLiteralLetter).length) <+:
        t.takeWhile isLiteralLetter := by
      refine List.prefix_of_prefix_length_le (List.take_prefix _ _) (List.takeWhile_prefix _) ?_
      exact Nat.le_trans (List.length_take_le _ _) (Nat.min_le_right _ _)
    exact List.all_eq_true.1 List.all_takeWhile x (hhead.subset hx)
  have hquote := h _ _ (List.take_append_drop _ t).symm hletters
  have hdouble := enclosed?_quotes (q := '"') (by decide) hquote
  have hsingle := enclosed?_quotes (q := '\'') (by decide) hquote
  show ((enclosed? ['"', '"', '"'] ['"', '"', '"'] _).or
    (enclosed? ['\'', '\'', '\''] ['\'', '\'', '\''] _)).map _ = none
  rw [hdouble, hsingle]
  rfl

theorem docstring_of_none (h : tripleQuoted? t = none) : docstring before t = none := by
  rw [docstring, h, Option.map_none, ite_self]

theorem pythonLexer_code (hx : x ∉ '#' :: quotes) (h : LettersApart (x :: t)) :
    pythonLexer before (x :: t) = none := by
  simp only [quotes, List.mem_cons, List.not_mem_nil, or_false, not_or] at hx
  obtain ⟨hsign, hdouble, hsingle⟩ := hx
  have hcomment : restOfLine? (text "#") (x :: t) = none :=
    restOfLine?_of_not_startsWith (startsWith_cons_of_ne hsign)
  rw [pythonLexer, Lexer.firstOf_of_none (docstring_of_none (tripleQuoted?_of_lettersApart h)),
    Lexer.firstOf_of_none (Lexer.at_of_none (quoted?_of_ne hdouble)),
    Lexer.firstOf_of_none (Lexer.at_of_none (quoted?_of_ne hsingle)),
    Lexer.firstOf_of_none (Lexer.at_of_none hcomment), Lexer.firstOf_nil]

theorem pythonLexer_comment (hbody : '\n' ∉ body) (hrest : ∀ x ∈ rest.head?, x = '\n') :
    pythonLexer before ('#' :: body ++ rest) = some (.comment, ('#' :: body).length) := by
  have hopening : '\n' ∉ ['#'] := by decide
  have hread : restOfLine? (text "#") ('#' :: body ++ rest) = some ('#' :: body).length :=
    restOfLine?_append hopening hbody hrest
  rw [pythonLexer, Lexer.firstOf_of_none (docstring_of_none rfl),
    Lexer.firstOf_of_none (Lexer.at_of_none rfl), Lexer.firstOf_of_none (Lexer.at_of_none rfl),
    Lexer.firstOf_of_some (Lexer.at_of_some hread)]

/-- A quote that is not the first of three is read as that of a literal of one
    line. -/
theorem pythonLexer_quote (hq : q ∈ quotes) (h : tripleQuoted? (q :: t) = none) :
    pythonLexer before (q :: t) =
      (quoted? ⟨q, false, false⟩ (q :: t)).map fun n => (.skipped, n) := by
  have hother {d : Char} (hd : d ≠ q) : quoted? ⟨d, false, false⟩ (q :: t) = none :=
    quoted?_of_ne hd.symm
  have hcomment : restOfLine? (text "#") (q :: t) = none :=
    restOfLine?_of_not_startsWith (startsWith_cons_of_ne (ne_of_mem_quotes q hq).2.1)
  have hlast (f : Text → Option Nat) :
      Lexer.firstOf [.at .skipped f, .at .comment (restOfLine? (text "#"))] before (q :: t) =
        (f (q :: t)).map fun n => (.skipped, n) := by
    cases hread : f (q :: t) with
    | none =>
      rw [Lexer.firstOf_of_none (Lexer.at_of_none hread),
        Lexer.firstOf_of_none (Lexer.at_of_none hcomment)]
      rfl
    | some n =>
      rw [Lexer.firstOf_of_some (Lexer.at_of_some hread)]
      rfl
  rw [pythonLexer, Lexer.firstOf_of_none (docstring_of_none h)]
  simp only [quotes, List.mem_cons, List.not_mem_nil, or_false] at hq
  rcases hq with rfl | rfl
  · cases hread : quoted? ⟨'"', false, false⟩ ('"' :: t) with
    | none =>
      rw [Lexer.firstOf_of_none (Lexer.at_of_none hread), hlast, hother (by decide)]
    | some n =>
      rw [Lexer.firstOf_of_some (Lexer.at_of_some hread)]
      rfl
  · rw [Lexer.firstOf_of_none (Lexer.at_of_none (hother (by decide))), hlast]

/-- Without letters before it a literal begins with its quotes. -/
theorem tripleQuoted?_of_not_letter (hx : isLiteralLetter x = false) :
    tripleQuoted? (x :: t) = (enclosed? ['"', '"', '"'] ['"', '"', '"'] (x :: t)).or
      (enclosed? ['\'', '\'', '\''] ['\'', '\'', '\''] (x :: t)) := by
  have hnone : (x :: t).takeWhile isLiteralLetter = [] := by rw [List.takeWhile_cons, hx]; rfl
  have hzero : (fun n : Nat => 0 + n) = id := funext Nat.zero_add
  rw [tripleQuoted?, hnone]
  show ((enclosed? ['"', '"', '"'] ['"', '"', '"'] (x :: t)).or
    (enclosed? ['\'', '\'', '\''] ['\'', '\'', '\''] (x :: t))).map (fun n => 0 + n) = _
  rw [hzero, Option.map_id, id_eq]

/-- Three quotes at the beginning of a literal are the same. -/
theorem tripleQuoted?_of_quote (hq : q ∈ quotes) :
    tripleQuoted? (q :: t) = enclosed? [q, q, q] [q, q, q] (q :: t) := by
  have hother {d : Char} (hd : q ≠ d) : enclosed? [d, d, d] [d, d, d] (q :: t) = none :=
    enclosed?_of_not_startsWith (startsWith_cons_of_ne hd)
  simp only [quotes, List.mem_cons, List.not_mem_nil, or_false] at hq
  rcases hq with rfl | rfl
  · rw [tripleQuoted?_of_not_letter (by decide), hother (d := '\'') (by decide), Option.or_none]
  · rw [tripleQuoted?_of_not_letter (by decide), hother (d := '"') (by decide), Option.none_or]

/-- The quote of a literal of one line is not the first of three. -/
theorem tripleQuoted?_quoted (hq : q ∈ quotes) (hbody : LiteralBody q false body)
    (hrest : ∀ x ∈ rest.head?, x ∉ quotes) :
    tripleQuoted? (q :: (body ++ q :: rest)) = none := by
  rw [tripleQuoted?_of_quote hq]
  refine enclosed?_of_not_startsWith (Bool.eq_false_iff.2 fun hstarts => ?_)
  obtain ⟨u, hu⟩ := List.isPrefixOf_iff_prefix.1 hstarts
  obtain ⟨-, hu⟩ := List.cons.inj hu
  cases hbody with
  | nil =>
    -- The third would be what follows the literal.
    have hthird : q :: u = rest := (List.cons.inj hu).2
    exact hrest q (by rw [← hthird]; rfl) hq
  | plain hne _ _ _ => exact hne (List.cons.inj hu).1.symm
  | escaped _ => exact (ne_of_mem_quotes q hq).1 (List.cons.inj hu).1

theorem pythonLexer_tripled (hbefore : before.any isNameChar = false) (hq : q ∈ quotes)
    (hbody : q ∉ body) :
    pythonLexer before ((Item.tripled q body).text ++ rest) =
      some (.comment, (Item.tripled q body).text.length) := by
  have hread : enclosed? [q, q, q] [q, q, q] ((Item.tripled q body).text ++ rest) =
      some (Item.tripled q body).text.length :=
    enclosed?_append (find?_append_of_not_mem hbody)
  have hdocstring : docstring before ((Item.tripled q body).text ++ rest) =
      some (.comment, (Item.tripled q body).text.length) := by
    rw [docstring, hbefore, if_neg Bool.false_ne_true]
    show (tripleQuoted? (q :: _)).map _ = _
    rw [tripleQuoted?_of_quote hq]
    exact congrArg (Option.map _) hread
  rw [pythonLexer, Lexer.firstOf_of_some hdocstring]

/-! ## Reading an item -/

/-- After a literal no quote comes at once. -/
theorem head?_render (h : Document r) (hnext : ∀ j ∈ r.head?, j.kind = .plain) :
    ∀ x ∈ (render r).head?, x ∉ quotes :=
  lettersApart_render h (fun j hj => isLiteral_of_plain (hnext j hj)) [] _ rfl
    (List.forall_mem_nil _)

/-- What is left of code that may stand before a row may stand before it. -/
theorem Item.Fits.of_suffix (h : (Item.code t).Fits r) {u : Text} (hu : x :: u <:+ t) :
    (Item.code (x :: u)).Fits r := by
  obtain ⟨hplain, hspace⟩ := h
  refine ⟨fun y hy => hplain y (hu.subset hy), fun j hj hliteral => ?_⟩
  obtain ⟨a, rfl⟩ := hu
  rw [← hspace j hj hliteral, List.getLast?_append_of_ne_nil _ (List.cons_ne_nil x u)]

/-- An item is read as a whole unless it is a literal of one line that goes on
    in the next one. -/
theorem Item.Fits.reads (h : i.Fits r) (hrest : Document r) (hends : i.continues = false)
    (hbefore : i.isLiteral = true → before.any isNameChar = false) :
    pythonLexer.Reads before (render r) (lexeme i) := by
  cases i with
  | code t =>
    refine .plain fun x u hu last => pythonLexer_code ?_ ?_
    · exact h.1 x (hu.subset (List.mem_cons_self ..))
    · -- The code that is left is the first item of a document too.
      have hdocument : Document (.code (x :: u) :: r) := .cons (h.of_suffix hu) hrest
      exact lettersApart_render hdocument fun i hi => by cases hi; rfl
  | comment body =>
    exact .whole Kind.noConfusion (List.cons_ne_nil _ _) (pythonLexer_comment h.1 h.2)
  | quoted q body =>
    obtain ⟨hq, hbody, hnext⟩ := h
    have hfeed : '\n' ∉ body := by simpa [Item.continues] using hends
    have hnone := tripleQuoted?_quoted hq hbody (head?_render hrest hnext)
    have hread := quoted?_of_literalBody ⟨q, false, false⟩ (render r) (ne_of_mem_quotes q hq).1
      hbody fun _ => hfeed
    have hlist : q :: body ++ [q] ++ render r = q :: (body ++ q :: render r) := by simp
    refine .whole Kind.noConfusion (List.cons_ne_nil _ _) ?_
    rw [hlist] at hread
    show pythonLexer before (q :: body ++ [q] ++ render r) = some (.skipped, _)
    rw [hlist, pythonLexer_quote hq hnone, hread]
    rfl
  | tripled q body =>
    obtain ⟨hq, -, hbody, -⟩ := h
    exact .whole Kind.noConfusion (List.cons_ne_nil _ _)
      (pythonLexer_tripled (hbefore rfl) hq hbody)

/-- The quote of a literal that goes on in the next line is read as code. -/
theorem Item.Fits.unread (h : i.Fits r) (hrest : Document r) (hcontinues : i.continues = true) :
    i.kind ≠ .plain ∧
      ∃ x t, i.text ++ render r = x :: t ∧ ∀ before, pythonLexer before (x :: t) = none := by
  cases i with
  | code t => cases hcontinues
  | comment body => cases hcontinues
  | quoted q body =>
    obtain ⟨hq, hbody, hnext⟩ := h
    have hfeed : '\n' ∈ body := by simpa [Item.continues] using hcontinues
    have hnone := tripleQuoted?_quoted hq hbody (head?_render hrest hnext)
    have hclose :=
      closeQuote?_of_lineFeed ⟨q, false, false⟩ (q :: render r) rfl rfl hbody hfeed
    refine ⟨Kind.noConfusion, q, body ++ q :: render r, by simp [Item.text], fun before => ?_⟩
    rw [pythonLexer_quote hq hnone, quoted?, if_pos rfl, hclose]
    rfl
  | tripled q body => cases hcontinues

/-! ## Reading a document -/

/-- Before a literal comes no character of a name. -/
theorem Item.Fits.next_before (h : i.Fits r) (hrest : Document r) (hj : j ∈ r.head?)
    (hliteral : j.isLiteral = true) : (i.text.getLast?.or before).any isNameChar = false := by
  obtain ⟨t, rfl, hspace⟩ := h.before_literal hrest hj hliteral
  rw [Item.text, hspace]
  rfl

/-- The lexer is ready for an item if that is no literal after a name. -/
theorem pythonLexer_readsRows : pythonLexer.ReadsRows Item.Fits
    (fun before items => ∀ i ∈ items.head?, i.isLiteral = true → before.any isNameChar = false)
    (fun i => i.continues = false) where
  reads h hrest hready hends := h.reads hrest hends (hready _ rfl)
  next h hrest _ _ := fun _ hj => h.next_before hrest hj
  unread h hrest hcontinues := h.unread hrest (eq_true_of_ne_false hcontinues)

theorem chosenBy : Items.ChosenBy Item commentCandidate? where
  takes := takesLexemes_commentCandidate?
  chosen := fun (start, i) => by cases i <;> rfl

theorem scanned_python (t : Text) (minRatio : Float) :
    scanned t "python" minRatio =
      Segment.ofCandidates minRatio (codeCandidates pythonLexer t) := rfl

/-- **Documents of Python.**  The items of a document are read as what they are
    exactly if no literal of one line goes on in the next one.  Then the segments
    are those of its comments and of the literals between three quotes, and none
    reaches into the code or into a literal of one line. -/
theorem scan_render_iff (items : List Item) (h : Document items) :
    (scan pythonLexer none (render items) = (items.map lexeme).flatMap Lexeme.split ↔
        ∀ i ∈ items, i.continues = false) ∧
      ((∀ i ∈ items, i.continues = false) → ∀ minRatio : Float,
        scanned (render items) "python" minRatio =
            Segment.ofCandidates minRatio (candidates items) ∧
          ∀ s ∈ scanned (render items) "python" minRatio, ∀ p ∈ placed 0 items,
            Items.candidate? p = none → s.Avoids p.1 (Items.text p.2).length) := by
  have hiff := pythonLexer_readsRows.scan_iff none h fun _ _ _ => rfl
  refine ⟨hiff, fun hends minRatio => ?_⟩
  rw [scanned_python, codeCandidates_of_scan chosenBy (hiff.2 hends)]
  exact ⟨rfl, fun s hs p hp hnone => avoids_of_placed chosenBy hs hp hnone⟩

/-- Literals with quotes, number signs and escapes in them. -/
def sampleItems : List Item :=
  [.tripled '"' (text "説明 '''\n# 二行目"), .code (text "\nf = "), .quoted '\'' (text "# \\' \""),
   .code (text " or "), .quoted '"' [], .code (text "  "), .comment (text " 注 \"\"\""),
   .code (text "\nur = "), .quoted '"' (text "日本語")]

theorem scan_render_iff_of_sampleItems :
    Document sampleItems ∧ (∀ i ∈ sampleItems, i.continues = false) ∧
      (scanned (render sampleItems) "python" 0.1).map Segment.text =
        [text "説明 '''\n# 二行目", text "注 \"\"\""] := by
  have hdocument : Document sampleItems := by decide +kernel
  have hends : ∀ i ∈ sampleItems, i.continues = false := by decide +kernel
  refine ⟨hdocument, hends, ?_⟩
  rw [((scan_render_iff sampleItems hdocument).2 hends 0.1).1,
    Segment.ofCandidates_eq_filterMap (candidates_pairwise chosenBy sampleItems)]
  decide +kernel

/-- A comment is found in a literal that goes on in the next line. -/
theorem comment_in_literal :
    Document [.quoted '"' (text "\\\n# 日本語")] ∧
      candidates [Item.quoted '"' (text "\\\n# 日本語")] = [] ∧
      scanned (render [Item.quoted '"' (text "\\\n# 日本語")]) "python" 0.1 =
        [⟨text "日本語\"", 5⟩] ∧
      Segment.ofCandidates 0.1 (candidates [Item.quoted '"' (text "\\\n# 日本語")]) = [] := by
  decide +kernel

end Kousei.Extract.Python
