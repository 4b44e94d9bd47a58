import Kousei.Proofs.Extract.Pieces

/-! # Documents of HTML

    A document of HTML is written in prose, comments, tags, and elements whose
    content is no prose (`Document`), and read as just these
    (`lexemes_render`).  An angle bracket in a quoted value ends no tag, and
    what stands in an element before its end tag begins nothing.

    The candidates are therefore the prose and the comments, and no segment
    reaches into a tag or such an element (`scanned_html_render`). -/

namespace Kousei.Extract.Html

open Text

/-! ## The written form -/

/-- The characters that values are quoted with. -/
def quotes : List Char := ['"', '\'']

/-- A piece of what a tag holds. -/
inductive Piece where
  | plain (t : Text)
  /-- A value between two quotes. -/
  | value (quote : Char) (t : Text)
  deriving DecidableEq, Repr

namespace Piece

def text : Piece → Text
  | plain t => t
  | value quote t => quote :: t ++ [quote]

/-- Angle brackets and quotes only stand in quoted values. -/
def Fits : Piece → Prop
  | plain t => ∀ x ∈ t, x ∉ '<' :: '>' :: quotes
  | value quote t => quote ∈ quotes ∧ quote ∉ t

instance : (p : Piece) → Decidable p.Fits
  | plain t => inferInstanceAs (Decidable (∀ x ∈ t, x ∉ '<' :: '>' :: quotes))
  | value quote t => inferInstanceAs (Decidable (quote ∈ quotes ∧ quote ∉ t))

end Piece

/-- A piece of a document. -/
inductive Item where
  | prose (t : Text)
  | comment (body : Text)
  | tag (closing : Bool) (name : Text) (attributes : List Piece)
  /-- An element whose content is no prose.  Its end tag may write the name in
      another way, and hold blanks after it. -/
  | element (name attributes content endName blanks : Text)
  deriving DecidableEq, Repr

/-- What a tag holds: its name, perhaps after a slash, and its attributes. -/
def held (closing : Bool) (name : Text) (attributes : List Piece) : List Piece :=
  .plain (if closing then ['/'] else []) :: .plain name :: attributes

/-- An end tag. -/
def endTag (name blanks : Text) : Text := text "</" ++ name ++ blanks ++ ['>']

namespace Item

def text : Item → Text
  | prose t => t
  | comment body => Kousei.text "<!--" ++ body ++ Kousei.text "-->"
  | tag closing name attributes => '<' :: (held closing name attributes).flatMap Piece.text ++ ['>']
  | element name attributes content endName blanks =>
    '<' :: name ++ (attributes ++ '>' :: content) ++ endTag endName blanks

def kind : Item → Kind
  | prose _ => .plain
  | comment _ => .comment
  | tag .. | element .. => .skipped

/-- The candidate that the item is: prose as it stands, or a comment. -/
def candidate? : Nat × Item → Option Candidate
  | (start, prose t) => some ⟨start, t, false⟩
  | (start, comment body) => some ⟨start, (comment body).text, true⟩
  | (_, tag ..) | (_, element ..) => none

/-- Is the item written as such an item is?  Blanks separate a name from what
    follows it, and names are the same in capitals. -/
def Fits : Item → Prop
  | prose t => t ≠ [] ∧ '<' ∉ t
  | comment body => ¬ Kousei.text "-->" <:+: body
  | tag _ name attributes => (∀ x ∈ name, x.isAlphanum = true) ∧
      (∀ n ∈ rawNames, ¬ n <+: name.map Char.toLower) ∧ (∀ p ∈ attributes, p.Fits) ∧
      ∀ x ∈ (attributes.flatMap Piece.text).head?, isBlank x = true
  | element name attributes content endName blanks => name.map Char.toLower ∈ rawNames ∧
      '<' ∉ attributes ∧ (∀ x ∈ attributes.head?, isBlank x = true) ∧
      ¬ Kousei.text "</" <:+: content ∧ endName.map Char.toLower = name.map Char.toLower ∧
      ∀ x ∈ blanks, isBlank x = true

instance : (i : Item) → Decidable i.Fits
  | prose t => inferInstanceAs (Decidable (t ≠ [] ∧ '<' ∉ t))
  | comment body => inferInstanceAs (Decidable (¬ Kousei.text "-->" <:+: body))
  | tag _ name attributes => inferInstanceAs (Decidable ((∀ x ∈ name, x.isAlphanum = true) ∧
      (∀ n ∈ rawNames, ¬ n <+: name.map Char.toLower) ∧ (∀ p ∈ attributes, p.Fits) ∧
      ∀ x ∈ (attributes.flatMap Piece.text).head?, isBlank x = true))
  | element name attributes content endName blanks => inferInstanceAs (Decidable
      (name.map Char.toLower ∈ rawNames ∧ '<' ∉ attributes ∧
      (∀ x ∈ attributes.head?, isBlank x = true) ∧ ¬ Kousei.text "</" <:+: content ∧
      endName.map Char.toLower = name.map Char.toLower ∧ ∀ x ∈ blanks, isBlank x = true))

end Item

instance : Items Item := ⟨Item.text, Item.kind, Item.candidate?⟩

/-- Every item is written as it should be, and there is always markup between
    two pieces of prose. -/
structure Document (items : List Item) : Prop where
  fits : ∀ i ∈ items, i.Fits
  apart : items.IsChain fun i j => i.kind = .plain → j.kind ≠ .plain

/-! ## Names -/

variable {before : Option Char} {name rest t u : Text} {y : Char}

/-- The code points of closed ranges. -/
def codePoints (ranges : List (Nat × Nat)) : List Nat :=
  ranges.flatMap fun r => List.range' r.1 (r.2 + 1 - r.1)

/-- What holds of each character of closed ranges, one by one. -/
theorem of_inRanges {ranges : List (Nat × Nat)} {P : Char → Prop} (h : inRanges ranges y = true)
    (hall : ∀ n ∈ codePoints ranges, P (Char.ofNat n)) : P y := by
  obtain ⟨r, hr, hin⟩ := List.any_eq_true.1 h
  simp only [Bool.and_eq_true, decide_eq_true_eq] at hin
  have hmem : y.toNat ∈ codePoints ranges :=
    List.mem_flatMap.2 ⟨r, hr, List.mem_range'_1.2 (by omega)⟩
  have hy := hall _ hmem
  rwa [Char.ofNat_toNat] at hy

/-- A name may end before the character: it belongs to no word, nor does it
    make a tag a comment. -/
structure EndsName (y : Char) : Prop where
  no_word : isWordChar y = false
  no_case : ∀ n ∈ rawNames, ∀ l ∈ n, isCaseOf l y = false
  ne_bang : y ≠ '!'

instance (y : Char) : Decidable (EndsName y) :=
  decidable_of_iff
    (isWordChar y = false ∧ (∀ n ∈ rawNames, ∀ l ∈ n, isCaseOf l y = false) ∧ y ≠ '!')
    ⟨fun ⟨hword, hcase, hbang⟩ => ⟨hword, hcase, hbang⟩,
      fun h => ⟨h.no_word, h.no_case, h.ne_bang⟩⟩

theorem endsName_of_isBlank (h : isBlank y = true) : EndsName y :=
  of_inRanges h (by decide +kernel)

/-- A blank or the angle bracket follows a name. -/
theorem exists_endsName (rest : Text) (h : ∀ x ∈ t.head?, isBlank x = true) :
    ∃ y u, t ++ '>' :: rest = y :: u ∧ EndsName y := by
  cases t with
  | nil => exact ⟨'>', rest, rfl, by decide +kernel⟩
  | cons y t => exact ⟨y, t ++ '>' :: rest, rfl, endsName_of_isBlank (h y rfl)⟩

theorem inRanges_of_bounds (low high : Char) {ranges : List (Nat × Nat)}
    (hmem : (low.toNat, high.toNat) ∈ ranges) (hlow : low.val ≤ y.val) (hhigh : y.val ≤ high.val) :
    inRanges ranges y = true :=
  List.any_eq_true.2 ⟨_, hmem, Bool.and_eq_true_iff.2
    ⟨decide_eq_true (UInt32.le_iff_toNat_le.1 hlow),
      decide_eq_true (UInt32.le_iff_toNat_le.1 hhigh)⟩⟩

theorem inRanges_of_isAlphanum (h : y.isAlphanum = true) :
    inRanges [(0x30, 0x39), (0x41, 0x5A), (0x61, 0x7A)] y = true := by
  obtain hletter | hdigit := Bool.or_eq_true_iff.1 h
  · obtain hupper | hlower := Bool.or_eq_true_iff.1 hletter
    · obtain ⟨hlow, hhigh⟩ := of_decide_eq_true hupper
      exact inRanges_of_bounds 'A' 'Z' (by decide) hlow hhigh
    · obtain ⟨hlow, hhigh⟩ := Bool.and_eq_true_iff.1 hlower
      exact inRanges_of_bounds 'a' 'z' (by decide)
        (of_decide_eq_true hlow) (of_decide_eq_true hhigh)
  · obtain ⟨hlow, hhigh⟩ := Bool.and_eq_true_iff.1 hdigit
    exact inRanges_of_bounds '0' '9' (by decide)
      (of_decide_eq_true hlow) (of_decide_eq_true hhigh)

/-- ASCII letters are cases of their small letters only. -/
theorem lowerChar_of_isAlphanum (h : y.isAlphanum = true) :
    lowerChar y = y.toLower ∧ y ≠ '\u017F' ∧ y ≠ '\u0131' :=
  of_inRanges (P := fun y => lowerChar y = y.toLower ∧ y ≠ '\u017F' ∧ y ≠ '\u0131')
    (inRanges_of_isAlphanum h) (by decide +kernel)

theorem isAlphanum_of_toLower (h : y.toLower.isAlphanum = true) : y.isAlphanum = true := by
  by_cases hupper : y.isUpper = true
  · show ((y.isUpper || y.isLower) || y.isDigit) = true
    rw [hupper, Bool.true_or, Bool.true_or]
  · have hrange : ¬('A'.val ≤ y.val ∧ y.val ≤ 'Z'.val) := fun h => hupper (decide_eq_true h)
    have hsame : y.toLower = y := dif_neg hrange
    rwa [hsame] at h

theorem startsWithName_append_cons {n : Text} (hname : ∀ x ∈ name, x.isAlphanum = true)
    (hy : ∀ l ∈ n, isCaseOf l y = false) :
    startsWithName n (name ++ y :: u) = n.isPrefixOf (name.map Char.toLower) := by
  induction n generalizing name with
  | nil => rfl
  | cons l n ih =>
    obtain ⟨hl, hn⟩ := List.forall_mem_cons.1 hy
    cases name with
    | nil =>
      -- The written name is too short, and the character after it is no letter.
      show (isCaseOf l y && startsWithName n u) = false
      rw [hl, Bool.false_and]
    | cons c name =>
      obtain ⟨hc, hrest⟩ := List.forall_mem_cons.1 hname
      obtain ⟨hlower, hlong, hdotless⟩ := lowerChar_of_isAlphanum hc
      show (isCaseOf l c && startsWithName n (name ++ y :: u)) =
        (l == c.toLower && n.isPrefixOf (name.map Char.toLower))
      have hcase : isCaseOf l c = (l == c.toLower) := by
        rw [isCaseOf, hlower, beq_eq_false_iff_ne.2 hlong, beq_eq_false_iff_ne.2 hdotless,
          Bool.and_false, Bool.and_false, Bool.or_false, Bool.or_false, Bool.beq_comm]
      rw [hcase, ih hrest hn]

/-- Where no name of an element begins none is found. -/
theorem rawName?_eq_none (hname : ∀ x ∈ name, x.isAlphanum = true) (hy : EndsName y)
    (hraw : ∀ n ∈ rawNames, ¬ n <+: name.map Char.toLower) : rawName? (name ++ y :: u) = none := by
  refine List.findSome?_eq_none_iff.2 fun n hn => ?_
  have hstarts : startsWithName n (name ++ y :: u) = false := by
    rw [startsWithName_append_cons hname (hy.no_case n hn), Bool.eq_false_iff]
    exact fun h => hraw n hn (List.isPrefixOf_iff_prefix.1 h)
  rw [hstarts]
  rfl

/-- The name of an element has no other characters than ASCII letters. -/
theorem isAlphanum_of_rawName (hraw : name.map Char.toLower ∈ rawNames) :
    ∀ x ∈ name, x.isAlphanum = true := by
  have hletters : ∀ n ∈ rawNames, ∀ x ∈ n, x.isAlphanum = true := by decide
  exact fun x hx => isAlphanum_of_toLower (hletters _ hraw _ (List.mem_map_of_mem hx))

/-- The name of an element is found as it is written. -/
theorem rawName?_eq_some (hraw : name.map Char.toLower ∈ rawNames) (hy : EndsName y) :
    rawName? (name ++ y :: u) = some name := by
  have hstarts : ∀ n ∈ rawNames,
      startsWithName n (name ++ y :: u) = n.isPrefixOf (name.map Char.toLower) := fun n hn =>
    startsWithName_append_cons (isAlphanum_of_rawName hraw) (hy.no_case n hn)
  have hread {n : Text} (hn : n = name.map Char.toLower) :
      (if n.isPrefixOf n && !((name ++ y :: u).drop n.length).head?.any isWordChar then
        some ((name ++ y :: u).take n.length) else none) = some name := by
    have hlength : n.length = name.length := by rw [hn, List.length_map]
    have hself : n.isPrefixOf n = true := List.isPrefixOf_iff_prefix.2 List.prefix_rfl
    rw [hlength, List.drop_left, List.take_left, List.head?_cons, Option.any_some,
      hy.no_word, hself]
    rfl
  -- Neither of the two names begins with the other.
  rcases List.mem_cons.1 hraw with h | h
  · rw [rawName?, rawNames, List.findSome?_cons, hstarts _ (by decide), h, hread h.symm]
  · rw [List.mem_singleton] at h
    rw [rawName?, rawNames, List.findSome?_cons, hstarts _ (by decide), List.findSome?_cons,
      hstarts _ (by decide), h, hread h.symm]
    rfl

/-! ## Tags -/

/-- Outside of quoted values a tag goes on until its angle bracket. -/
theorem closeTag?_plain (h : ∀ x ∈ t, x ∉ '<' :: '>' :: quotes) :
    closeTag? .outside (t ++ rest) = (closeTag? .outside rest).map (· + t.length) := by
  induction t with
  | nil => exact Option.map_id'.symm
  | cons x t ih =>
    obtain ⟨hx, ht⟩ := List.forall_mem_cons.1 h
    simp only [quotes, List.mem_cons, List.not_mem_nil, or_false, not_or] at hx
    obtain ⟨-, hangle, hdouble, hsingle⟩ := hx
    rw [List.cons_append, closeTag?, if_neg hangle, if_neg (by simp [hdouble, hsingle]), ih ht,
      Option.map_map]
    rfl

/-- A quoted value goes on until its quote. -/
theorem closeTag?_value {q : Char} (h : q ∉ t) :
    closeTag? (.inside q) (t ++ q :: rest) =
      (closeTag? .outside rest).map (· + (t.length + 1)) := by
  induction t with
  | nil => rw [List.nil_append, closeTag?, if_pos rfl]; rfl
  | cons x t ih =>
    obtain ⟨hx, ht⟩ := List.ne_and_not_mem_of_not_mem_cons h
    rw [List.cons_append, closeTag?, if_neg hx.symm, ih ht, Option.map_map]
    rfl

theorem closeTag?_piece {p : Piece} (h : p.Fits) :
    closeTag? .outside (p.text ++ rest) = (closeTag? .outside rest).map (· + p.text.length) := by
  cases p with
  | plain t => exact closeTag?_plain h
  | value q t =>
    obtain ⟨hq, ht⟩ := h
    have hquote : ∀ q ∈ quotes, q ≠ '>' ∧ (q = '"' || q = '\'') = true := by decide
    obtain ⟨hangle, hopens⟩ := hquote q hq
    have hlist : (Piece.value q t).text ++ rest = q :: (t ++ q :: rest) := by simp [Piece.text]
    have hlength : (Piece.value q t).text.length = t.length + 1 + 1 := by simp [Piece.text]
    rw [hlist, hlength, closeTag?, if_neg hangle, if_pos hopens, closeTag?_value ht, Option.map_map]
    rfl

/-- A tag goes on over all that it holds. -/
theorem closeTag?_pieces {pieces : List Piece} (rest : Text) (h : ∀ p ∈ pieces, p.Fits) :
    closeTag? .outside (pieces.flatMap Piece.text ++ '>' :: rest) =
      some ((pieces.flatMap Piece.text).length + 1) := by
  induction pieces with
  | nil => rfl
  | cons p r ih =>
    obtain ⟨hp, hr⟩ := List.forall_mem_cons.1 h
    rw [List.flatMap_cons, List.append_assoc, closeTag?_piece hp, ih hr, Option.map_some,
      List.length_append]
    congr 1
    omega

/-- What a tag holds may stand in one. -/
theorem fits_held (closing : Bool) {attributes : List Piece}
    (hname : ∀ x ∈ name, x.isAlphanum = true) (hattributes : ∀ p ∈ attributes, p.Fits) :
    ∀ p ∈ held closing name attributes, p.Fits := by
  have hmarks : ∀ x ∈ '<' :: '>' :: quotes, x.isAlphanum = false := by decide
  refine List.forall_mem_cons.2 ⟨?_, List.forall_mem_cons.2 ⟨fun x hx hmark => ?_, hattributes⟩⟩
  · cases closing <;> decide
  · have hno := hmarks x hmark
    rw [hname x hx] at hno
    cases hno

/-! ## Elements -/

/-- No end tag begins in a text that has no slash after an angle bracket. -/
theorem throughEndTag?_append (h : ¬ ['<', '/'] <:+: t) :
    throughEndTag? name (t ++ '<' :: rest) =
      (throughEndTag? name ('<' :: rest)).map (· + t.length) := by
  induction t with
  | nil => exact Option.map_id'.symm
  | cons x t ih =>
    -- Were there an angle bracket, its slash would be in the text as well, for what
    -- comes after the text is a bracket again.
    have hnot : startsWith (x :: (t ++ '<' :: rest)) ['<', '/'] = false := by
      refine Bool.eq_false_iff.2 fun hstarts => ?_
      obtain ⟨u, hu⟩ := List.isPrefixOf_iff_prefix.1 hstarts
      obtain ⟨rfl, htail⟩ := List.cons.inj hu
      cases t with
      | nil => cases htail
      | cons y t =>
        obtain ⟨rfl, -⟩ := List.cons.inj htail
        exact h ⟨[], t, rfl⟩
    have hnone : endTag? name (x :: (t ++ '<' :: rest)) = none := by
      rw [endTag?, show startsWith _ (text "</") = false from hnot]
      rfl
    have hrest := ih fun hin => h (hin.trans (List.suffix_cons x t).isInfix)
    rw [List.cons_append, throughEndTag?, hnone, hrest, Option.map_map]
    rfl

theorem map_lowerChar (h : ∀ x ∈ t, x.isAlphanum = true) :
    t.map lowerChar = t.map Char.toLower :=
  List.map_congr_left fun x hx => (lowerChar_of_isAlphanum (h x hx)).1

/-- An end tag is found in whatever case it writes the name. -/
theorem endTag?_endTag {endName blanks : Text} (rest : Text)
    (hraw : name.map Char.toLower ∈ rawNames)
    (hend : endName.map Char.toLower = name.map Char.toLower)
    (hblanks : ∀ x ∈ blanks, isBlank x = true) :
    endTag? name (endTag endName blanks ++ rest) = some (endTag endName blanks).length := by
  have hlength : endName.length = name.length := by
    rw [← List.length_map Char.toLower, hend, List.length_map]
  -- The two names need only be alike in small letters.
  have hlower : endName.map lowerChar = name.map lowerChar := by
    rw [map_lowerChar (isAlphanum_of_rawName hraw), map_lowerChar, hend]
    exact isAlphanum_of_rawName (hend ▸ hraw)
  have hlist : endTag endName blanks ++ rest =
      text "</" ++ (endName ++ (blanks ++ '>' :: rest)) := by
    simp [endTag]
  have hstarts :
      startsWith (text "</" ++ (endName ++ (blanks ++ '>' :: rest))) (text "</") = true :=
    List.isPrefixOf_iff_prefix.2 (List.prefix_append _ _)
  have hafter : (text "</" ++ (endName ++ (blanks ++ '>' :: rest))).drop 2 =
      endName ++ (blanks ++ '>' :: rest) := rfl
  have hblank : (blanks ++ '>' :: rest).takeWhile isBlank = blanks := by
    rw [List.takeWhile_append_of_pos hblanks, List.takeWhile_cons_of_neg (by decide),
      List.append_nil]
  rw [hlist, endTag?, hstarts]
  simp only [← List.drop_drop, hafter, ← hlength, List.take_left, List.drop_left, hblank, hlower]
  have hsame : (name.map lowerChar == name.map lowerChar) = true := beq_self_eq_true _
  rw [List.head?_cons, if_pos (by rw [hsame]; rfl)]
  simp only [endTag, List.length_append]
  rfl

/-- An angle bracket that is no slash's does not begin an end tag. -/
theorem not_infix_append {a : Text} (ha : '<' ∉ a) (ht : ¬ ['<', '/'] <:+: t) :
    ¬ ['<', '/'] <:+: a ++ t := by
  induction a with
  | nil => exact ht
  | cons x a ih =>
    obtain ⟨hx, ha⟩ := List.ne_and_not_mem_of_not_mem_cons ha
    rw [List.cons_append, List.infix_cons_iff, List.cons_prefix_cons]
    exact fun h => h.elim (fun h => hx h.1) (ih ha)

/-- An element is read through its end tag. -/
theorem rawElement?_element {attributes content endName blanks : Text} (rest : Text)
    (h : (Item.element name attributes content endName blanks).Fits) :
    rawElement? ((Item.element name attributes content endName blanks).text ++ rest) =
      some (Item.element name attributes content endName blanks).text.length := by
  obtain ⟨hraw, hangle, hblank, hcontent, hend, hblanks⟩ := h
  have hlist : (Item.element name attributes content endName blanks).text ++ rest =
      '<' :: (name ++ (attributes ++ '>' :: content ++ (endTag endName blanks ++ rest))) := by
    simp [Item.text]
  have hname :
      rawName? (name ++ (attributes ++ '>' :: content ++ (endTag endName blanks ++ rest))) =
        some name := by
    obtain ⟨y, u, hcons, hy⟩ :=
      exists_endsName (content ++ (endTag endName blanks ++ rest)) hblank
    rw [List.append_assoc, List.cons_append, hcons]
    exact rawName?_eq_some hraw hy
  have hthrough :
      throughEndTag? name (attributes ++ '>' :: content ++ (endTag endName blanks ++ rest)) =
        some ((endTag endName blanks).length + (attributes ++ '>' :: content).length) := by
    have hno : ¬ ['<', '/'] <:+: attributes ++ '>' :: content :=
      not_infix_append hangle (not_infix_append (a := ['>']) (by decide) hcontent)
    have hread := endTag?_endTag rest hraw hend hblanks
    have hcons : endTag endName blanks ++ rest =
        '<' :: ('/' :: endName ++ blanks ++ '>' :: rest) := by
      simp [endTag, text]
    rw [hcons] at hread ⊢
    rw [throughEndTag?_append hno, throughEndTag?, hread]
    rfl
  rw [hlist, rawElement?, hname]
  show ((throughEndTag? name ((name ++ _).drop name.length)).bind fun n =>
    some (1 + name.length + n)) = _
  rw [List.drop_left, hthrough, Option.bind_some]
  simp only [Item.text, List.length_append, List.length_cons]
  congr 1
  omega

/-! ## What the lexer reads -/

theorem htmlLexer_of_ne (h : y ≠ '<') : htmlLexer before (y :: t) = none := by
  have hcomment : enclosed? (text "<!--") (text "-->") (y :: t) = none :=
    enclosed?_of_not_startsWith (startsWith_cons_of_ne h)
  have helement : rawElement? (y :: t) = none := by
    unfold rawElement?
    split
    · next heq => exact absurd (List.cons.inj heq).1 h
    · rfl
  have htag : tag? (y :: t) = none := by
    unfold tag?
    split
    · next heq => exact absurd (List.cons.inj heq).1 h
    · rfl
  rw [htmlLexer, Lexer.firstOf_of_none (Lexer.at_of_none hcomment),
    Lexer.firstOf_of_none (Lexer.at_of_none helement),
    Lexer.firstOf_of_none (Lexer.at_of_none htag), Lexer.firstOf_nil]

theorem htmlLexer_comment {body : Text} (h : (Item.comment body).Fits) :
    htmlLexer before ((Item.comment body).text ++ rest) =
      some (.comment, (Item.comment body).text.length) := by
  have hdash : '>' ∉ ['-', '-'] := by decide
  have hread : enclosed? (text "<!--") (text "-->") ((Item.comment body).text ++ rest) =
      some (Item.comment body).text.length :=
    enclosed?_append (find?_append_of_not_isInfix hdash h)
  rw [htmlLexer, Lexer.firstOf_of_some (Lexer.at_of_some hread)]

/-- What opens no comment is read as an element or else as a tag. -/
theorem htmlLexer_angle (hy : y ≠ '!') :
    htmlLexer before ('<' :: y :: t) =
      Lexer.firstOf [.at .skipped rawElement?, .at .skipped tag?] before ('<' :: y :: t) := by
  have hcomment : enclosed? (text "<!--") (text "-->") ('<' :: y :: t) = none := by
    refine enclosed?_of_not_startsWith ?_
    show ('<' == '<' && startsWith (y :: t) ['!', '-', '-']) = false
    rw [startsWith_cons_of_ne hy]
    rfl
  rw [htmlLexer, Lexer.firstOf_of_none (Lexer.at_of_none hcomment)]

theorem ne_of_isAlphanum (h : y.isAlphanum = true) : y ≠ '!' := by
  rintro rfl
  exact absurd h (by decide)

theorem htmlLexer_element {attributes content endName blanks : Text}
    (h : (Item.element name attributes content endName blanks).Fits) :
    htmlLexer before ((Item.element name attributes content endName blanks).text ++ rest) =
      some (.skipped, (Item.element name attributes content endName blanks).text.length) := by
  have hread := rawElement?_element rest h
  have hname := isAlphanum_of_rawName h.1
  cases name with
  | nil => exact absurd h.1 (by decide)
  | cons y r =>
    refine (htmlLexer_angle (ne_of_isAlphanum (hname y (List.mem_cons_self ..)))).trans ?_
    exact Lexer.firstOf_of_some (Lexer.at_of_some hread)

/-- After its angle bracket a tag goes on with neither a comment nor the name of
    an element. -/
theorem exists_of_tag {closing : Bool} {attributes : List Piece} (rest : Text)
    (h : (Item.tag closing name attributes).Fits) :
    ∃ y u, (held closing name attributes).flatMap Piece.text ++ '>' :: rest = y :: u ∧ y ≠ '!' ∧
      rawName? (y :: u) = none := by
  obtain ⟨hname, hraw, -, hblank⟩ := h
  obtain ⟨y, u, hcons, hy⟩ := exists_endsName rest hblank
  have hnone : rawName? (name ++ y :: u) = none := rawName?_eq_none hname hy hraw
  have hheld : (held closing name attributes).flatMap Piece.text ++ '>' :: rest =
      (if closing then ['/'] else []) ++ (name ++ y :: u) := by
    simp [held, Piece.text, hcons]
  -- No name begins with a slash; without one the name itself comes next, or what
  -- follows it.
  cases closing with
  | true =>
    have hempty : ∀ x ∈ ([] : Text), x.isAlphanum = true := List.forall_mem_nil _
    have hslash : EndsName '/' := by decide +kernel
    exact ⟨'/', name ++ y :: u, hheld, by decide, rawName?_eq_none hempty hslash (by decide)⟩
  | false =>
    rw [hheld]
    cases name with
    | nil => exact ⟨y, u, rfl, hy.ne_bang, hnone⟩
    | cons x r =>
      exact ⟨x, r ++ y :: u, rfl, ne_of_isAlphanum (hname x (List.mem_cons_self ..)), hnone⟩

theorem htmlLexer_tag {closing : Bool} {attributes : List Piece}
    (h : (Item.tag closing name attributes).Fits) :
    htmlLexer before ((Item.tag closing name attributes).text ++ rest) =
      some (.skipped, (Item.tag closing name attributes).text.length) := by
  obtain ⟨y, u, hcons, hy, hnone⟩ := exists_of_tag rest h
  have hclose := closeTag?_pieces rest (fits_held closing h.1 h.2.2.1)
  have hlist : (Item.tag closing name attributes).text ++ rest = '<' :: y :: u := by
    rw [← hcons]
    simp [Item.text]
  have helement : rawElement? ('<' :: y :: u) = none := by
    rw [rawElement?, hnone]
    rfl
  have htag : tag? ('<' :: y :: u) = some (Item.tag closing name attributes).text.length := by
    rw [tag?, ← hcons, hclose]
    simp [Item.text]
  rw [hlist, htmlLexer_angle hy, Lexer.firstOf_of_none (Lexer.at_of_none helement),
    Lexer.firstOf_of_some (Lexer.at_of_some htag)]

/-! ## Reading a document -/

variable {items : List Item}

theorem Item.Fits.text_ne_nil {i : Item} (h : i.Fits) : i.text ≠ [] := by
  cases i with
  | prose t => exact h.1
  | comment body => exact List.cons_ne_nil _ _
  | tag closing name attributes => exact List.cons_ne_nil _ _
  | element name attributes content endName blanks => exact List.cons_ne_nil _ _

/-- An item is read as one piece wherever it stands. -/
theorem Item.Fits.reads {i : Item} (h : i.Fits) (before : Option Char) (rest : Text) :
    htmlLexer.Reads before rest (lexeme i) := by
  cases i with
  | prose t =>
    refine .plain fun c r hsuffix _ => htmlLexer_of_ne ?_
    rintro rfl
    exact h.2 (hsuffix.subset (List.mem_cons_self ..))
  | comment body => exact .whole Kind.noConfusion h.text_ne_nil (htmlLexer_comment h)
  | tag closing name attributes => exact .whole Kind.noConfusion h.text_ne_nil (htmlLexer_tag h)
  | element name attributes content endName blanks =>
    exact .whole Kind.noConfusion h.text_ne_nil (htmlLexer_element h)

/-- The lexemes of a document are its items. -/
theorem lexemes_render (h : Document items) :
    lexemes htmlLexer (render items) = items.map lexeme :=
  lexemes_of_reads (fun i hi => (h.fits i hi).reads) (fun i hi => (h.fits i hi).text_ne_nil) h.apart

theorem chosenBy : Items.ChosenBy Item markupCandidate? where
  takes := takesLexemes_markupCandidate?
  chosen := fun (start, i) => by cases i <;> rfl

theorem scanned_html (t : Text) (minRatio : Float) :
    scanned t "html" minRatio = Segment.ofCandidates minRatio (markupCandidates htmlLexer t) := rfl

/-- **Documents of HTML.**  The segments of a document are those of its prose
    and its comments, and none reaches into a tag, into a value that is quoted
    in one, or into an element whose content is no prose. -/
theorem scanned_html_render (items : List Item) (h : Document items) (minRatio : Float) :
    scanned (render items) "html" minRatio = Segment.ofCandidates minRatio (candidates items) ∧
      ∀ s ∈ scanned (render items) "html" minRatio, ∀ p ∈ placed 0 items,
        Items.candidate? p = none → s.Avoids p.1 (Items.text p.2).length := by
  rw [scanned_html, markupCandidates_of_lexemes chosenBy (lexemes_render h)]
  exact ⟨rfl, fun s hs p hp hnone => avoids_of_placed chosenBy hs hp hnone⟩

/-- A document with brackets in quoted values, capitals in names, and prose that
    is none. -/
def sampleItems : List Item :=
  [.comment (text "注 > 釈"), .prose (text "本文"),
   .tag false (text "a")
     [.plain (text " title="), .value '"' (text "題 > <!--"), .plain (text " id="),
      .value '\'' (text "\">")],
   .prose (text "見出し > "), .tag true (text "a") [],
   .element (text "SCRIPT") (text " async") (text "\"日本語\" < 1 <!--") (text "Script") (text " \n"),
   .element (text "style") [] (text "日本語") (text "style") [], .prose (text "終わり")]

theorem scanned_html_render_of_sampleItems :
    Document sampleItems ∧
      (scanned (render sampleItems) "html" 0.1).map Segment.text =
        [text "注 > 釈", text "本文", text "見出し >", text "終わり"] := by
  have hdocument : Document sampleItems := ⟨by decide +kernel, by decide +kernel⟩
  refine ⟨hdocument, ?_⟩
  rw [(scanned_html_render sampleItems hdocument 0.1).1,
    Segment.ofCandidates_eq_filterMap (candidates_pairwise chosenBy sampleItems)]
  decide +kernel

end Kousei.Extract.Html
