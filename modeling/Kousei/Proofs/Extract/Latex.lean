import Kousei.Extract.Language
import Kousei.Proofs.Extract.Pieces

/-! # Documents of LaTeX

    A document of LaTeX is prose between symbols that are written with a
    backslash, formulas between dollar signs, and comments (`Document`).  A
    backslash belongs to the character after it, so after a pair of
    backslashes a formula or a comment may follow.

    A formula or a comment is only seen where no backslash stands before it.
    So the candidates of a document are its prose and its comments exactly
    if none of these follows a pair of backslashes at once
    (`candidates_render_iff`). -/

namespace Kousei.Extract.Latex

open Text

variable {before : Option Char} {body rest t : Text} {x c : Char}

/-! ## What begins at a character -/

/-- The characters at which markup begins. -/
def specials : List Char := ['\\', '%', '$', '\x7b', '\x7d']

theorem percentComment_of_ne (h : x ≠ '%') : percentComment before (x :: t) = none := by
  unfold percentComment
  split
  · rfl
  · have hline : restOfLine? (text "%") (x :: t) = none :=
      restOfLine?_of_not_startsWith (startsWith_cons_of_ne h)
    rw [hline]
    rfl

theorem startsWith_append_of_not {a b : Text} (h : t.startsWith a = false) :
    t.startsWith (a ++ b) = false := by
  rw [Bool.eq_false_iff] at h ⊢
  intro hstarts
  exact h (List.isPrefixOf_iff_prefix.2
    ((List.prefix_append a b).trans (List.isPrefixOf_iff_prefix.1 hstarts)))

/-- Every environment begins with the same command. -/
theorem formulaEnvironment?_of_not_startsWith (h : t.startsWith (text "\\begin\x7b") = false) :
    formulaEnvironment? t = none := by
  have hnone (name : Text) : named? (text "\\begin\x7b") name t = none := by
    have hliteral (last : Text) : literal (text "\\begin\x7b" ++ name ++ last) t = none := by
      rw [literal, List.append_assoc, startsWith_append_of_not h]
      rfl
    rw [named?, hliteral, hliteral]
    rfl
  rw [formulaEnvironment?, List.findSome?_eq_none_iff]
  intro name _
  rw [hnone]
  rfl

theorem dollarFormula_of_ne (h : x ≠ '$') : dollarFormula before (x :: t) = none := by
  unfold dollarFormula
  split
  · next heq => exact absurd (List.cons.inj heq).1 h
  · rfl

theorem structureCommand?_of_ne (h : x ≠ '\\') : structureCommand? (x :: t) = none := by
  unfold structureCommand?
  split
  · next heq => exact absurd (List.cons.inj heq).1 h
  · rfl

theorem commandName?_of_ne (h : x ≠ '\\') : commandName? (x :: t) = none := by
  unfold commandName?
  split
  · next heq => exact absurd (List.cons.inj heq).1 h
  · rfl

theorem enclosed?_of_ne {close needle : Text} (h : x ≠ c) :
    enclosed? (c :: needle) close (x :: t) = none :=
  enclosed?_of_not_startsWith (startsWith_cons_of_ne h)

/-- Only a comment, a formula in dollar signs or a brace begins at a character
    that is no backslash. -/
theorem latexLexer_of_ne (hback : x ≠ '\\') :
    latexLexer before (x :: t) =
      Lexer.firstOf [percentComment, .at .skipped (enclosed? (text "$$") (text "$$")),
        dollarFormula, .at .skipped brace?] before (x :: t) := by
  have hbegin := formulaEnvironment?_of_not_startsWith (t := x :: t) (startsWith_cons_of_ne hback)
  have hround : enclosed? (text "\\(") (text "\\)") (x :: t) = none := enclosed?_of_ne hback
  have hsquare : enclosed? (text "\\[") (text "\\]") (x :: t) = none := enclosed?_of_ne hback
  simp only [latexLexer, Lexer.firstOf, Lexer.at, List.findSome?_cons, List.findSome?_nil, hbegin,
    hround, hsquare, structureCommand?_of_ne hback, commandName?_of_ne hback, Option.map_none]

/-- At a character that is not special nothing begins. -/
theorem latexLexer_of_not_special (hx : x ∉ specials) : latexLexer before (x :: t) = none := by
  simp only [specials, List.mem_cons, List.not_mem_nil, or_false, not_or] at hx
  obtain ⟨hback, hpercent, hdollar, hopen, hclose⟩ := hx
  have hdisplay : enclosed? (text "$$") (text "$$") (x :: t) = none := enclosed?_of_ne hdollar
  have hbrace : brace? (x :: t) = none := by simp [brace?, hopen, hclose]
  rw [latexLexer_of_ne hback, Lexer.firstOf_of_none (percentComment_of_ne hpercent),
    Lexer.firstOf_of_none (Lexer.at_of_none hdisplay),
    Lexer.firstOf_of_none (dollarFormula_of_ne hdollar),
    Lexer.firstOf_of_none (Lexer.at_of_none hbrace), Lexer.firstOf_nil]

/-- A percent sign after a backslash begins nothing. -/
theorem latexLexer_percent : latexLexer (some '\\') ('%' :: t) = none := by
  rw [latexLexer_of_ne (by decide), Lexer.firstOf_of_none rfl,
    Lexer.firstOf_of_none (Lexer.at_of_none rfl), Lexer.firstOf_of_none rfl,
    Lexer.firstOf_of_none (Lexer.at_of_none rfl), Lexer.firstOf_nil]

/-- A single dollar sign after a backslash begins nothing. -/
theorem latexLexer_dollar (hx : x ≠ '$') : latexLexer (some '\\') ('$' :: x :: t) = none := by
  have hdisplay : enclosed? (text "$$") (text "$$") ('$' :: x :: t) = none := by
    refine enclosed?_of_not_startsWith ?_
    show ('$' == '$' && startsWith (x :: t) ['$']) = false
    rw [startsWith_cons_of_ne hx]
    rfl
  rw [latexLexer_of_ne (by decide), Lexer.firstOf_of_none rfl,
    Lexer.firstOf_of_none (Lexer.at_of_none hdisplay), Lexer.firstOf_of_none rfl,
    Lexer.firstOf_of_none (Lexer.at_of_none rfl), Lexer.firstOf_nil]

/-! ## What is read -/

/-- All names of structure commands begin with a letter. -/
theorem structureCommand?_of_not_letter (hc : isCommandLetter c = false) :
    structureCommand? ('\\' :: c :: t) = none := by
  have hletters : ∀ name ∈ structureNames, name.head?.any isCommandLetter = true := by
    decide +kernel
  have hnone : structureNames.find? (fun name => startsWith (c :: t) name) = none := by
    rw [List.find?_eq_none]
    intro name hname hstarts
    obtain ⟨u, hu⟩ := List.isPrefixOf_iff_prefix.1 hstarts
    have hhead := hletters name hname
    cases name with
    | nil => cases hhead
    | cons l name =>
      obtain ⟨rfl, -⟩ := List.cons.inj hu
      rw [List.head?_cons, Option.any_some, hc] at hhead
      cases hhead
  rw [structureCommand?, hnone]
  rfl

/-- A backslash is read with the character after it, unless a command or a
    formula begins there. -/
theorem latexLexer_pair (hc : isCommandLetter c = false) (hround : c ≠ '(') (hsquare : c ≠ '[') :
    latexLexer before ('\\' :: c :: t) = some (.skipped, 2) := by
  have hbegin : formulaEnvironment? ('\\' :: c :: t) = none := by
    refine formulaEnvironment?_of_not_startsWith ?_
    have hne : c ≠ 'b' := by
      rintro rfl
      cases hc
    show ('\\' == '\\' && startsWith (c :: t) (text "begin\x7b")) = false
    rw [show text "begin\x7b" = 'b' :: text "egin\x7b" from rfl, startsWith_cons_of_ne hne]
    rfl
  have hopening {d : Char} (hd : c ≠ d) (close : Text) :
      enclosed? ['\\', d] close ('\\' :: c :: t) = none := by
    refine enclosed?_of_not_startsWith ?_
    show ('\\' == '\\' && startsWith (c :: t) [d]) = false
    rw [startsWith_cons_of_ne hd]
    rfl
  have hname : commandName? ('\\' :: c :: t) = some 2 := by
    rw [commandName?, hc]
    rfl
  have hround' : enclosed? (text "\\(") (text "\\)") ('\\' :: c :: t) = none := hopening hround _
  have hsquare' : enclosed? (text "\\[") (text "\\]") ('\\' :: c :: t) = none := hopening hsquare _
  rw [latexLexer, Lexer.firstOf_of_none (percentComment_of_ne (by decide)),
    Lexer.firstOf_of_none (Lexer.at_of_none hbegin), Lexer.firstOf_of_none (Lexer.at_of_none rfl),
    Lexer.firstOf_of_none (dollarFormula_of_ne (by decide)),
    Lexer.firstOf_of_none (Lexer.at_of_none hround'),
    Lexer.firstOf_of_none (Lexer.at_of_none hsquare'),
    Lexer.firstOf_of_none (Lexer.at_of_none (structureCommand?_of_not_letter hc)),
    Lexer.firstOf_of_some (Lexer.at_of_some hname)]

theorem throughDollar?_append {last : Char} (hlast : last ≠ '\\') (hdollar : '$' ∉ body)
    (hback : '\\' ∉ body) : throughDollar? last (body ++ '$' :: rest) = some (body.length + 1) := by
  induction body generalizing last with
  | nil => simp [throughDollar?, hlast]
  | cons x body ih =>
    obtain ⟨hx, hdollar⟩ := List.ne_and_not_mem_of_not_mem_cons hdollar
    obtain ⟨hx', hback⟩ := List.ne_and_not_mem_of_not_mem_cons hback
    rw [List.cons_append, throughDollar?, ih hx'.symm hdollar hback, if_neg]
    · rfl
    · intro h
      simp [hx.symm] at h

/-- A formula is read up to its second dollar sign. -/
theorem latexLexer_formula (hbefore : before ≠ some '\\') (hne : body ≠ []) (hdollar : '$' ∉ body)
    (hback : '\\' ∉ body) :
    latexLexer before ('$' :: body ++ ['$'] ++ rest) =
      some (.skipped, ('$' :: body ++ ['$']).length) := by
  have hlist : '$' :: body ++ ['$'] ++ rest = '$' :: (body ++ '$' :: rest) := by simp
  have hdisplay : enclosed? (text "$$") (text "$$") ('$' :: (body ++ '$' :: rest)) = none := by
    obtain ⟨x, body, rfl⟩ := List.exists_cons_of_ne_nil hne
    refine enclosed?_of_not_startsWith ?_
    show ('$' == '$' && startsWith (x :: (body ++ '$' :: rest)) ['$']) = false
    rw [startsWith_cons_of_ne (List.ne_and_not_mem_of_not_mem_cons hdollar).1.symm]
    rfl
  have hread : dollarFormula before ('$' :: (body ++ '$' :: rest)) =
      some (.skipped, ('$' :: body ++ ['$']).length) := by
    rw [dollarFormula, if_neg (by simpa using hbefore),
      throughDollar?_append (by decide) hdollar hback, List.length_append, List.length_cons]
    rfl
  rw [hlist, latexLexer_of_ne (by decide), Lexer.firstOf_of_none (percentComment_of_ne (by decide)),
    Lexer.firstOf_of_none (Lexer.at_of_none hdisplay), Lexer.firstOf_of_some hread]

/-- A comment is read up to the end of its line. -/
theorem latexLexer_comment (hbefore : before ≠ some '\\') (hbody : '\n' ∉ body)
    (hrest : ∀ x, rest.head? = some x → x = '\n') :
    latexLexer before ('%' :: body ++ rest) = some (.comment, ('%' :: body).length) := by
  have hread : percentComment before ('%' :: body ++ rest) =
      some (.comment, ('%' :: body).length) := by
    have hopening : '\n' ∉ ['%'] := by decide
    have hline : restOfLine? (text "%") ('%' :: body ++ rest) = some ('%' :: body).length :=
      restOfLine?_append hopening hbody hrest
    rw [percentComment, if_neg (by simpa using hbefore), hline]
    rfl
  rw [latexLexer, Lexer.firstOf_of_some hread]

/-! ## The written form -/

/-- A piece of a document. -/
inductive Item where
  | prose (t : Text)
  /-- A backslash with the character after it. -/
  | symbol (c : Char)
  /-- A formula between two dollar signs. -/
  | formula (body : Text)
  /-- A comment after a percent sign. -/
  | comment (body : Text)
  deriving DecidableEq, Repr

/-- The characters that are written with a backslash. -/
def symbols : List Char := ['\\', '%', '$', '&', '#', '_']

namespace Item

def text : Item → Text
  | prose t => t
  | symbol c => ['\\', c]
  | formula body => '$' :: body ++ ['$']
  | comment body => '%' :: body

def kind : Item → Kind
  | prose _ => .plain
  | symbol _ | formula _ => .skipped
  | comment _ => .comment

/-- The candidate that the item is: prose as it stands, or a comment. -/
def candidate? : Nat × Item → Option Candidate
  | (start, prose t) => some ⟨start, t, false⟩
  | (start, comment body) => some ⟨start, (comment body).text, true⟩
  | (_, symbol _) | (_, formula _) => none

/-- Is the item only seen where no backslash stands before it? -/
def looksBack : Item → Bool
  | prose _ | symbol _ => false
  | formula _ | comment _ => true

end Item

instance : Items Item := ⟨Item.text, Item.kind, Item.candidate?⟩

/-- May the item stand before the others?  There is always markup between two
    pieces of prose, and a comment ends with its line. -/
def Item.Fits (rest : List Item) : Item → Prop
  | prose t => t ≠ [] ∧ (∀ x ∈ t, x ∉ specials) ∧ ∀ i ∈ rest.head?, i.kind ≠ .plain
  | symbol c => c ∈ symbols
  | formula body => body ≠ [] ∧ '$' ∉ body ∧ '\\' ∉ body
  | comment body => '\n' ∉ body ∧ ∀ x ∈ (render rest).head?, x = '\n'

instance (rest : List Item) : (i : Item) → Decidable (i.Fits rest)
  | .prose t => inferInstanceAs
      (Decidable (t ≠ [] ∧ (∀ x ∈ t, x ∉ specials) ∧ ∀ i ∈ rest.head?, i.kind ≠ .plain))
  | .symbol c => inferInstanceAs (Decidable (c ∈ symbols))
  | .formula body => inferInstanceAs (Decidable (body ≠ [] ∧ '$' ∉ body ∧ '\\' ∉ body))
  | .comment body =>
    inferInstanceAs (Decidable ('\n' ∉ body ∧ ∀ x ∈ (render rest).head?, x = '\n'))

/-- Each item may stand before the rest of the document. -/
abbrev Document : List Item → Prop := Row Item.Fits

/-- Neither a formula nor a comment follows a pair of backslashes at once. -/
def PairsApart (items : List Item) : Prop :=
  items.IsChain fun i j => i = .symbol '\\' → j.looksBack = false

instance (items : List Item) : Decidable (PairsApart items) :=
  inferInstanceAs (Decidable (items.IsChain fun i j => i = .symbol '\\' → j.looksBack = false))

/-! ## Reading an item -/

variable {i : Item} {items r : List Item}

theorem Item.Fits.text_ne_nil (h : i.Fits r) : i.text ≠ [] := by
  cases i with
  | prose t => exact h.1
  | symbol c => exact List.cons_ne_nil _ _
  | formula body => exact List.cons_ne_nil _ _
  | comment body => exact List.cons_ne_nil _ _

theorem Item.Fits.reads (h : i.Fits r) (hbefore : before = some '\\' → i.looksBack = false) :
    latexLexer.Reads before (render r) (lexeme i) := by
  have hseen (hback : i.looksBack = true) : before ≠ some '\\' := by
    intro hb
    rw [hbefore hb] at hback
    cases hback
  cases i with
  | prose t =>
    obtain ⟨-, hplain, -⟩ := h
    exact .plain fun c u hsuffix _ =>
      latexLexer_of_not_special (hplain c (hsuffix.subset (List.mem_cons_self ..)))
  | symbol c =>
    have hsymbols : ∀ c ∈ symbols, isCommandLetter c = false ∧ c ≠ '(' ∧ c ≠ '[' := by decide
    obtain ⟨hletter, hround, hsquare⟩ := hsymbols c h
    exact .whole Kind.noConfusion (List.cons_ne_nil _ _) (latexLexer_pair hletter hround hsquare)
  | formula body =>
    obtain ⟨hne, hdollar, hback⟩ := h
    exact .whole Kind.noConfusion (List.cons_ne_nil _ _)
      (latexLexer_formula (hseen rfl) hne hdollar hback)
  | comment body =>
    obtain ⟨hbody, hfollow⟩ := h
    exact .whole Kind.noConfusion (List.cons_ne_nil _ _)
      (latexLexer_comment (hseen rfl) hbody hfollow)

/-- After a backslash a formula or a comment is not seen. -/
theorem Item.Fits.unread (h : i.Fits r) (hback : i.looksBack = true) :
    ∃ c t, i.text ++ render r = c :: t ∧ latexLexer (some '\\') (c :: t) = none := by
  cases i with
  | prose t => cases hback
  | symbol c => cases hback
  | formula body =>
    obtain ⟨hne, hdollar, -⟩ := h
    obtain ⟨x, body, rfl⟩ := List.exists_cons_of_ne_nil hne
    exact ⟨'$', _, rfl, latexLexer_dollar (List.ne_and_not_mem_of_not_mem_cons hdollar).1.symm⟩
  | comment body => exact ⟨'%', _, rfl, latexLexer_percent⟩

/-- What is left to read does not begin with a plain lexeme after a character
    that is no backslash, unless prose is left. -/
theorem head?_scan_render (h : Document r) (hmarkup : ∀ i ∈ r.head?, i.kind ≠ .plain)
    (hbefore : before ≠ some '\\') {y : Lexeme}
    (hy : (scan latexLexer before (render r)).head? = some y) : y.kind ≠ .plain := by
  cases h with
  | nil =>
    rw [render, List.flatMap_nil, scan] at hy
    cases hy
  | @cons i r hfits _ =>
    have hkind : (lexeme i).kind ≠ .plain := hmarkup i rfl
    have hread := scan_reads (hfits.reads fun hb => absurd hb hbefore)
    rw [render_cons, show Items.text i = (lexeme i).text from rfl, hread, Lexeme.split,
      if_neg hkind] at hy
    cases hy
    exact hkind

/-- No formula and no comment follows an item that ends with a backslash, if
    that is no pair of backslashes. -/
theorem Item.Fits.next_looksBack (h : i.Fits r) (hne : i ≠ .symbol '\\')
    (hlast : i.text.getLast? = some '\\') {j : Item} (hj : j ∈ r.head?) :
    j.looksBack = false := by
  obtain ⟨r, rfl⟩ := List.head?_eq_some_iff.1 hj
  cases i with
  | prose t =>
    obtain ⟨-, hplain, -⟩ := h
    exact absurd (by decide) (hplain '\\' (List.mem_of_getLast? hlast))
  | symbol c =>
    cases hlast
    exact absurd rfl hne
  | formula body =>
    rw [Item.text, List.getLast?_append] at hlast
    cases hlast
  | comment body =>
    -- The line of the comment ends, and the next item begins with a line feed.
    obtain ⟨-, hfollow⟩ := h
    cases j with
    | prose t => rfl
    | symbol c => rfl
    | formula body => exact absurd (hfollow '$' rfl) (by decide)
    | comment body => exact absurd (hfollow '%' rfl) (by decide)

/-! ## Candidates of a document -/

theorem chosenBy : Items.ChosenBy Item markupCandidate? where
  takes := takesLexemes_markupCandidate?
  chosen := fun (start, i) => by cases i <;> rfl

theorem start_of_candidate? {p : Nat × Item} {d : Candidate}
    (h : Items.candidate? p = some d) : d.start = p.1 := by
  obtain ⟨start, i⟩ := p
  cases i <;> cases h <;> rfl

/-- Two rows that begin with the same item have the same candidates if their
    rests have. -/
theorem candidates_cons_iff (start : Nat) (xs : List Lexeme) :
    (located start (lexeme i :: xs)).filterMap markupCandidate? =
        (placed start (i :: r)).filterMap Items.candidate? ↔
      (located (start + i.text.length) xs).filterMap markupCandidate? =
        (placed (start + i.text.length) r).filterMap Items.candidate? := by
  rw [located, placed, List.filterMap_cons, List.filterMap_cons, chosenBy.chosen (start, i)]
  cases Items.candidate? (start, i) with
  | none => rfl
  | some d => exact List.cons_inj_right d

/-- A formula or a comment right after a pair of backslashes is read as plain
    text, so a candidate begins where there should be none. -/
theorem candidates_ne_of_looksBack {start : Nat} (h : i.Fits r) (hback : i.looksBack = true) :
    (located start (joinPlain (scan latexLexer (some '\\') (render (i :: r))))).filterMap
        markupCandidate? ≠
      (placed start (i :: r)).filterMap Items.candidate? := by
  obtain ⟨c, t, htext, hnone⟩ := h.unread hback
  obtain ⟨u, more, hjoin⟩ := joinPlain_plain_cons [c] (scan latexLexer (some c) t)
  rw [render_cons, show Items.text i = i.text from rfl, htext, scan_plain hnone, hjoin]
  intro heq
  have hmem : (⟨start, [c] ++ u, false⟩ : Candidate) ∈
      (placed start (i :: r)).filterMap Items.candidate? := by
    rw [← heq]
    exact List.mem_cons_self ..
  obtain ⟨p, hp, hpc⟩ := List.mem_filterMap.1 hmem
  rcases List.mem_cons.1 hp with rfl | hp
  · cases i with
    | prose t => cases hback
    | symbol c => cases hback
    | formula body => cases hpc
    | comment body => cases hpc
  · have hlater : start + i.text.length ≤ p.1 := le_of_mem_placed p hp
    have hstart := start_of_candidate? hpc
    have hpos := List.length_pos_iff.2 h.text_ne_nil
    simp only at hstart
    omega

/-- The candidates of what is left to read are those of the items exactly if
    no formula and no comment follows a pair of backslashes at once. -/
theorem candidates_scan_iff (h : Document items)
    (hbefore : before = some '\\' → ∀ j ∈ items.head?, j.looksBack = false) (start : Nat) :
    (located start (joinPlain (scan latexLexer before (render items)))).filterMap
        markupCandidate? =
      (placed start items).filterMap Items.candidate? ↔ PairsApart items := by
  induction h generalizing before start with
  | nil => exact iff_of_true (by rw [render, List.flatMap_nil, scan]; rfl) .nil
  | @cons i r hfits hrest ih =>
    have hread := scan_reads (hfits.reads fun hb => hbefore hb i rfl)
    have hlast : i.text.getLast?.or before = i.text.getLast? := by
      rw [List.getLast?_eq_some_getLast hfits.text_ne_nil]
      rfl
    rw [show (lexeme i).text = i.text from rfl, hlast] at hread
    have hjoin : joinPlain (scan latexLexer before (render (i :: r))) =
        lexeme i :: joinPlain (scan latexLexer i.text.getLast? (render r)) := by
      rw [render_cons, show Items.text i = i.text from rfl, hread]
      refine joinPlain_split_append hfits.text_ne_nil fun hkind y hy => ?_
      cases i with
      | prose t =>
        obtain ⟨-, hplain, hnext⟩ := hfits
        refine head?_scan_render hrest hnext (fun hb => ?_) hy
        exact absurd (by decide) (hplain '\\' (List.mem_of_getLast? hb))
      | symbol c => cases hkind
      | formula body => cases hkind
      | comment body => cases hkind
    rw [hjoin, candidates_cons_iff, PairsApart, List.isChain_cons]
    by_cases hapart : ∀ j ∈ r.head?, i = .symbol '\\' → j.looksBack = false
    · refine (ih (fun hl j hj => ?_) _).trans (and_iff_right hapart).symm
      by_cases hi : i = .symbol '\\'
      · exact hapart j hj hi
      · exact hfits.next_looksBack hi hl hj
    · refine iff_of_false ?_ fun hchain => hapart hchain.1
      simp only [not_forall] at hapart
      obtain ⟨j, hj, rfl, hback⟩ := hapart
      obtain ⟨r, rfl⟩ := List.head?_eq_some_iff.1 hj
      exact candidates_ne_of_looksBack (row_cons.1 hrest).1 (eq_true_of_ne_false hback)

theorem markupCandidates_render_iff (h : Document items) :
    markupCandidates latexLexer (render items) = candidates items ↔ PairsApart items :=
  have hstart : none = some '\\' → ∀ j ∈ items.head?, j.looksBack = false := fun hb => nomatch hb
  candidates_scan_iff h hstart 0

theorem scanned_latex (t : Text) (minRatio : Float) :
    scanned t "latex" minRatio =
      Segment.ofCandidates minRatio (markupCandidates latexLexer t) := rfl

/-- **Escapes in pairs.**  The candidates of a document are its prose and its
    comments exactly if no formula and no comment follows a pair of backslashes
    at once.  Then no prose and no comment is missed, and no segment reaches
    into a formula. -/
theorem candidates_render_iff (items : List Item) (h : Document items) :
    (markupCandidates latexLexer (render items) = candidates items ↔ PairsApart items) ∧
      (PairsApart items → ∀ minRatio : Float,
        scanned (render items) "latex" minRatio =
            (candidates items).filterMap (Segment.ofCandidate? minRatio) ∧
          ∀ s ∈ scanned (render items) "latex" minRatio, ∀ p ∈ placed 0 items,
            Items.candidate? p = none → s.Avoids p.1 (Items.text p.2).length) := by
  refine ⟨markupCandidates_render_iff h, fun hapart minRatio => ?_⟩
  have hcandidates := (markupCandidates_render_iff h).2 hapart
  have hbefore : (candidates items).Pairwise Candidate.Before := candidates_pairwise chosenBy items
  rw [scanned_latex, hcandidates]
  exact ⟨Segment.ofCandidates_eq_filterMap hbefore,
    fun s hs p hp hnone => avoids_of_placed chosenBy hs hp hnone⟩

/-- Symbols, formulas and comments side by side.  Some of them follow a
    backslash, though none a pair of backslashes. -/
def sampleItems : List Item :=
  [.prose (text "一行"), .symbol '\\', .prose (text "二行"), .formula (text "x"), .formula (text "y%"),
   .symbol '\\', .symbol '$', .formula (text "z"), .symbol '%', .comment (text "注\\"),
   .prose (text "\n三行")]

theorem candidates_render_iff_of_sampleItems :
    Document sampleItems ∧ PairsApart sampleItems ∧
      markupCandidates latexLexer (render sampleItems) = candidates sampleItems ∧
      (scanned (render sampleItems) "latex" 0.1).map Segment.text =
        [text "一行", text "二行", text "注\\", text "三行"] := by
  have hdocument : Document sampleItems := by decide +kernel
  have hapart : PairsApart sampleItems := by decide +kernel
  obtain ⟨hiff, hscanned⟩ := candidates_render_iff sampleItems hdocument
  refine ⟨hdocument, hapart, hiff.2 hapart, ?_⟩
  rw [(hscanned hapart 0.1).1]
  decide +kernel

/-- A formula that follows a pair of backslashes is taken for prose. -/
theorem formula_after_pair :
    Document [.symbol '\\', .formula (text "x"), .prose (text "日本語")] ∧
      candidates [Item.symbol '\\', .formula (text "x"), .prose (text "日本語")] =
        [⟨5, text "日本語", false⟩] ∧
      markupCandidates latexLexer
          (render [Item.symbol '\\', .formula (text "x"), .prose (text "日本語")]) =
        [⟨2, text "$x$日本語", false⟩] ∧
      scanned (render [Item.symbol '\\', .formula (text "x"), .prose (text "日本語")]) "latex" 0.1 =
        [⟨text "$x$日本語", 2⟩] := by
  decide +kernel

end Kousei.Extract.Latex
