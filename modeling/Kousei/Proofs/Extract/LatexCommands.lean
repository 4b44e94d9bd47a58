import Mathlib.Data.List.Find
import Kousei.Proofs.Encoding.Share
import Kousei.Proofs.Extract.Latex

/-! # Structure commands of LaTeX

    A structure command is written with its arguments, and none of them is
    prose.  It is read to its end, or further where it opens an environment
    that holds a formula, unless its name is one of four that go on with a
    name which is tried first (`shadowedNames`).  Of these only the shorter
    name is read, and its other letters are the beginning of a segment
    (`command_avoided`). -/

namespace Kousei.Extract.Latex

open Text

/-! ## The written form -/

/-- A structure command with all that belongs to it. -/
structure Command where
  name : Text
  starred : Bool
  /-- The arguments in square brackets, without their brackets. -/
  options : List Text
  /-- The argument in braces, without its braces. -/
  argument : Text
  name_mem : name ∈ structureNames
  options_closed : ∀ o ∈ options, ']' ∉ o
  argument_closed : '\x7d' ∉ argument

/-- The arguments in square brackets as they are written. -/
def bracketed (options : List Text) : Text := options.flatMap fun o => ['['] ++ o ++ [']']

namespace Command

def star (c : Command) : Text := if c.starred then ['*'] else []

def braced (c : Command) : Text := ['\x7b'] ++ c.argument ++ ['\x7d']

/-- What is written after the name. -/
def arguments (c : Command) : Text := c.star ++ (bracketed c.options ++ c.braced)

def text (c : Command) : Text := '\\' :: (c.name ++ c.arguments)

end Command

/-! ## Names -/

/-- The names that go on with one which is tried before them, as that name and
    the letters that are left over. -/
def shadowedParts : List (Text × Text) :=
  [("cite", "p"), ("cite", "t"), ("include", "graphics"), ("bibliography", "style")].map
    fun p => (text p.1, text p.2)

def shadowedNames : List Text := shadowedParts.map fun p => p.1 ++ p.2

example : shadowedNames = ["citep", "citet", "includegraphics", "bibliographystyle"].map text := by
  decide

theorem isCommandLetter_of_mem : ∀ name ∈ structureNames, ∀ x ∈ name, isCommandLetter x = true := by
  decide +kernel

/-- A name is read as the first that it begins with. -/
theorem find?_structureNames :
    ∀ name ∈ structureNames, name ∉ shadowedNames →
      structureNames.find? (fun n => startsWith name n) = some name := by
  decide +kernel

theorem find?_shadowedParts :
    ∀ p ∈ shadowedParts, structureNames.find? (fun n => startsWith (p.1 ++ p.2) n) = some p.1 := by
  decide +kernel

/-- Both parts of a shadowed name begin with a letter. -/
theorem head_shadowedParts :
    ∀ p ∈ shadowedParts, ∃ y ∈ ['c', 'i', 'b'], ∃ z ∈ ['p', 't', 'g', 's'],
      p.1 = y :: p.1.tail ∧ p.2 = z :: p.2.tail := by
  intro p hp
  simp only [shadowedParts, List.map_cons, List.map_nil, List.mem_cons, List.not_mem_nil,
    or_false] at hp
  rcases hp with rfl | rfl | rfl | rfl
  · exact ⟨'c', by decide, 'p', by decide, rfl, rfl⟩
  · exact ⟨'c', by decide, 't', by decide, rfl, rfl⟩
  · exact ⟨'i', by decide, 'g', by decide, rfl, rfl⟩
  · exact ⟨'b', by decide, 's', by decide, rfl, rfl⟩

variable {before : Option Char} {name rest t : Text} {y : Char}

/-- No name goes beyond the letters of a text. -/
theorem startsWith_append_cons {n : Text} (hn : y ∉ n) :
    startsWith (name ++ y :: rest) n = startsWith name n := by
  rw [Bool.eq_iff_iff, startsWith, startsWith, List.isPrefixOf_iff_prefix,
    List.isPrefixOf_iff_prefix]
  refine ⟨fun h => ?_, fun h => h.trans (List.prefix_append name _)⟩
  obtain hlt | hle := Nat.lt_or_ge name.length n.length
  · have hshort : name ++ [y] <+: n := by
      refine List.prefix_of_prefix_length_le ⟨rest, by simp⟩ h ?_
      rw [List.length_append]
      exact hlt
    exact absurd (hshort.subset (List.mem_append_right name (List.mem_cons_self ..))) hn
  · exact List.prefix_of_prefix_length_le h (List.prefix_append name _) hle

theorem find?_append_cons (hy : isCommandLetter y = false) :
    structureNames.find? (fun n => startsWith (name ++ y :: rest) n) =
      structureNames.find? (fun n => startsWith name n) := by
  refine List.find?_congr fun n hn => startsWith_append_cons fun hmem => ?_
  have hletter := isCommandLetter_of_mem n hn y hmem
  rw [hy] at hletter
  cases hletter

/-! ## Arguments -/

theorem brackets_of_ne (h : y ≠ '[') : brackets (y :: t) = 0 := by
  rw [brackets, enclosed?_of_ne h]

theorem brackets_bracketed {options : List Text} (hoptions : ∀ o ∈ options, ']' ∉ o)
    (hy : y ≠ '[') : brackets (bracketed options ++ y :: rest) = (bracketed options).length := by
  induction options with
  | nil => exact brackets_of_ne hy
  | cons o r ih =>
    obtain ⟨ho, hr⟩ := List.forall_mem_cons.1 hoptions
    have hread : enclosed? ['['] [']'] (['['] ++ o ++ [']'] ++ (bracketed r ++ y :: rest)) =
        some (['['] ++ o ++ [']']).length :=
      enclosed?_append (find?_append_of_not_mem ho)
    have hlength : 0 < (['['] ++ o ++ [']']).length ∧ (['['] ++ o ++ [']']).length ≤
        (['['] ++ o ++ [']'] ++ (bracketed r ++ y :: rest)).length := by
      simp only [List.length_append, List.length_singleton]
      omega
    rw [bracketed, List.flatMap_cons, ← bracketed, List.append_assoc, brackets, hread]
    dsimp only
    rw [if_pos hlength, List.drop_left, ih hr, ← List.length_append]

theorem braces_braced (c : Command) (rest : Text) :
    braces (c.braced ++ rest) = c.braced.length := by
  have hread : enclosed? ['\x7b'] ['\x7d'] (c.braced ++ rest) = some c.braced.length :=
    enclosed?_append (find?_append_of_not_mem c.argument_closed)
  rw [braces, hread]
  rfl

theorem braces_of_ne (h : y ≠ '\x7b') : braces (y :: t) = 0 := by
  rw [braces, enclosed?_of_ne h]
  rfl

/-- After the name come a star, an opening bracket or an opening brace. -/
theorem Command.arguments_eq_cons (c : Command) :
    ∃ y r, c.arguments = y :: r ∧ y ∈ ['*', '[', '\x7b'] := by
  unfold Command.arguments Command.star bracketed Command.braced
  cases c.starred with
  | true => exact ⟨'*', _, rfl, by decide⟩
  | false =>
    cases c.options with
    | nil => exact ⟨'\x7b', _, rfl, by decide⟩
    | cons o r => exact ⟨'[', _, rfl, by decide⟩

/-! ## Environments -/

theorem literal_eq_some {s : Text} {n : Nat} (h : literal s t = some n) :
    s <+: t ∧ n = s.length := by
  unfold literal at h
  split at h
  · next hs =>
    cases h
    exact ⟨List.isPrefixOf_iff_prefix.1 hs, rfl⟩
  · cases h

/-- The name of an environment stands between braces, with or without a star. -/
theorem named?_eq_some {command : Text} {n : Nat} (h : named? command name t = some n) :
    ∃ q, command ++ q ++ ['\x7d'] <+: t ∧ n = (command ++ q ++ ['\x7d']).length := by
  rcases Option.or_eq_some_iff.1 h with h | ⟨-, h⟩
  · exact ⟨name, literal_eq_some h⟩
  · refine ⟨name ++ ['*'], ?_⟩
    rw [List.append_assoc command, List.append_assoc name, ← List.append_assoc command]
    exact literal_eq_some h

theorem formulaEnvironment?_eq_some {n : Nat} (h : formulaEnvironment? t = some n) :
    ∃ q, text "\\begin\x7b" ++ q ++ ['\x7d'] <+: t ∧
      (text "\\begin\x7b" ++ q ++ ['\x7d']).length ≤ n := by
  obtain ⟨name, -, hname⟩ := List.exists_of_findSome?_eq_some h
  obtain ⟨start, hstart, hname⟩ := Option.bind_eq_some_iff.1 hname
  obtain ⟨m, -, hm⟩ := Option.bind_eq_some_iff.1 hname
  cases hm
  obtain ⟨q, hq, rfl⟩ := named?_eq_some hstart
  exact ⟨q, hq, Nat.le_add_right _ _⟩

theorem takeWhile_append_cons {p : Char → Bool} {u v : Text} (hu : ∀ x ∈ u, p x = true)
    (hy : p y = false) : (u ++ y :: v).takeWhile p = u := by
  rw [List.takeWhile_append_of_pos hu, List.takeWhile_cons, hy]
  exact List.append_nil u

/-- What is closed before a text is closed is not longer. -/
theorem length_le_of_append_eq {a b : Text} {z : Char} {u v : Text} (ha : z ∉ a)
    (h : b ++ z :: u = a ++ z :: v) : a.length ≤ b.length := by
  apply Nat.le_of_not_lt
  intro hlt
  have hz : (a ++ z :: v)[b.length]? = some z := by
    rw [← h]
    simp
  rw [List.getElem?_append_left hlt] at hz
  exact ha (List.mem_of_getElem? hz)

/-! ## Reading a command -/

/-- A command is read with the star, the brackets and the braces that follow
    its name. -/
theorem structureCommand?_append {s o a : Text}
    (hname : structureNames.find? (fun n => startsWith (name ++ (s ++ (o ++ (a ++ rest)))) n) =
      some name)
    (hstar : star (s ++ (o ++ (a ++ rest))) = s.length)
    (hbrackets : brackets (o ++ (a ++ rest)) = o.length) (hbraces : braces (a ++ rest) = a.length) :
    structureCommand? ('\\' :: (name ++ (s ++ (o ++ (a ++ rest))))) =
      some (name.length + s.length + o.length + a.length + 1) := by
  have hafterStar : (name ++ (s ++ (o ++ (a ++ rest)))).drop (name.length + s.length) =
      o ++ (a ++ rest) := by
    rw [← List.drop_drop, List.drop_left, List.drop_left]
  have hafterBrackets : (name ++ (s ++ (o ++ (a ++ rest)))).drop
      (name.length + s.length + o.length) = a ++ rest := by
    rw [← List.drop_drop, hafterStar, List.drop_left]
  rw [structureCommand?, hname, Option.bind_eq_bind, Option.bind_some]
  simp only [List.drop_left, hstar, hafterStar, hbrackets, hafterBrackets, hbraces]
  rfl

/-- What begins with a backslash and a letter is read as a structure command,
    unless an environment begins there. -/
theorem latexLexer_structure {n : Nat} (hy : isCommandLetter y = true)
    (hbegin : formulaEnvironment? ('\\' :: y :: t) = none)
    (hread : structureCommand? ('\\' :: y :: t) = some n) :
    latexLexer before ('\\' :: y :: t) = some (.skipped, n) := by
  -- Other formulas are opened by a backslash and a character that is no letter.
  have hopening {d : Char} (hd : isCommandLetter d = false) (close : Text) :
      enclosed? ['\\', d] close ('\\' :: y :: t) = none := by
    have hne : y ≠ d := by
      rintro rfl
      rw [hy] at hd
      cases hd
    refine enclosed?_of_not_startsWith ?_
    show ('\\' == '\\' && startsWith (y :: t) [d]) = false
    rw [startsWith_cons_of_ne hne]
    rfl
  have hround : enclosed? (text "\\(") (text "\\)") ('\\' :: y :: t) = none :=
    hopening (by decide) _
  have hsquare : enclosed? (text "\\[") (text "\\]") ('\\' :: y :: t) = none :=
    hopening (by decide) _
  rw [latexLexer, Lexer.firstOf_of_none (percentComment_of_ne (by decide)),
    Lexer.firstOf_of_none (Lexer.at_of_none hbegin), Lexer.firstOf_of_none (Lexer.at_of_none rfl),
    Lexer.firstOf_of_none (dollarFormula_of_ne (by decide)),
    Lexer.firstOf_of_none (Lexer.at_of_none hround),
    Lexer.firstOf_of_none (Lexer.at_of_none hsquare),
    Lexer.firstOf_of_some (Lexer.at_of_some hread)]

namespace Command

variable (c : Command) {post : Text}

theorem name_eq_cons : ∃ y r, c.name = y :: r ∧ isCommandLetter y = true := by
  have hhead : ∀ name ∈ structureNames, name.head?.any isCommandLetter = true := by decide +kernel
  have hname := hhead c.name c.name_mem
  cases hc : c.name with
  | nil =>
    rw [hc] at hname
    cases hname
  | cons y r =>
    rw [hc] at hname
    exact ⟨y, r, rfl, hname⟩

theorem head_arguments : ∃ y r, c.arguments = y :: r ∧ isCommandLetter y = false := by
  have hletters : ∀ y ∈ ['*', '[', '\x7b'], isCommandLetter y = false := by decide
  obtain ⟨y, r, hcons, hy⟩ := c.arguments_eq_cons
  exact ⟨y, r, hcons, hletters y hy⟩

/-- A name that no other is tried before is read with all its arguments. -/
theorem structureCommand?_text (hname : c.name ∉ shadowedNames) (post : Text) :
    structureCommand? (c.text ++ post) = some c.text.length := by
  have hlist : c.text ++ post =
      '\\' :: (c.name ++ (c.star ++ (bracketed c.options ++ (c.braced ++ post)))) := by
    simp [text, arguments]
  have hfind : structureNames.find?
      (fun n => startsWith (c.name ++ (c.star ++ (bracketed c.options ++ (c.braced ++ post)))) n) =
        some c.name := by
    obtain ⟨y, r, hcons, hy⟩ := c.head_arguments
    rw [show c.star ++ (bracketed c.options ++ (c.braced ++ post)) = c.arguments ++ post by
      simp [arguments], hcons, List.cons_append, find?_append_cons hy]
    exact find?_structureNames c.name c.name_mem hname
  have hstar : Extract.star (c.star ++ (bracketed c.options ++ (c.braced ++ post))) =
      c.star.length := by
    unfold star
    cases c.starred with
    | true => rfl
    | false =>
      cases c.options with
      | nil => rfl
      | cons o r => rfl
  have hbrackets : brackets (bracketed c.options ++ (c.braced ++ post)) =
      (bracketed c.options).length :=
    brackets_bracketed c.options_closed (by decide)
  rw [hlist, structureCommand?_append hfind hstar hbrackets (braces_braced c post)]
  simp only [text, arguments, List.length_cons, List.length_append, Nat.add_assoc]

/-- Only one name opens an environment, which is named in the braces after
    it. -/
theorem begin_of_formulaEnvironment? {n : Nat}
    (h : formulaEnvironment? (c.text ++ post) = some n) :
    c.name = Kousei.text "begin" ∧
      ∃ q u, c.arguments ++ post = '\x7b' :: (q ++ '\x7d' :: u) ∧
        c.name.length + q.length + 3 ≤ n := by
  obtain ⟨q, ⟨u, hu⟩, hn⟩ := formulaEnvironment?_eq_some h
  obtain ⟨y, r, hcons, hy⟩ := c.head_arguments
  have hbegin : Kousei.text "begin" ++ '\x7b' :: (q ++ '\x7d' :: u) =
      c.name ++ y :: (r ++ post) := by
    have hlist : c.text ++ post = '\\' :: (c.name ++ y :: (r ++ post)) := by
      simp [text, hcons]
    have hlist' : Kousei.text "\\begin\x7b" ++ q ++ ['\x7d'] ++ u =
        '\\' :: (Kousei.text "begin" ++ '\x7b' :: (q ++ '\x7d' :: u)) := by
      rw [List.append_assoc, List.append_assoc]
      rfl
    rw [hlist, hlist'] at hu
    exact (List.cons.inj hu).2
  -- The letters at the beginning are the name on both sides.
  have hname : Kousei.text "begin" = c.name := by
    have hletters := congrArg (List.takeWhile isCommandLetter) hbegin
    rwa [takeWhile_append_cons (isCommandLetter_of_mem _ (by decide)) (by decide),
      takeWhile_append_cons (isCommandLetter_of_mem _ c.name_mem) hy] at hletters
  rw [hname, List.append_cancel_left_eq] at hbegin
  refine ⟨hname.symm, q, u, by rw [hcons, hbegin]; rfl, ?_⟩
  rw [← hname]
  simp only [List.length_append, List.length_singleton] at hn
  have hlength : (Kousei.text "\\begin\x7b").length = (Kousei.text "begin").length + 2 := rfl
  omega

/-- An environment that a command opens is not shorter than the command. -/
theorem length_le_of_formulaEnvironment? {n : Nat}
    (h : formulaEnvironment? (c.text ++ post) = some n) : c.text.length ≤ n := by
  obtain ⟨-, q, u, hbrace, hn⟩ := c.begin_of_formulaEnvironment? h
  -- Neither a star nor a bracket comes before the brace.
  have harguments : c.arguments = '\x7b' :: (c.argument ++ ['\x7d']) := by
    unfold arguments star bracketed braced at hbrace ⊢
    cases hstarred : c.starred with
    | true =>
      rw [hstarred] at hbrace
      cases hbrace
    | false =>
      cases hoptions : c.options with
      | nil => rfl
      | cons o r =>
        rw [hstarred, hoptions] at hbrace
        cases hbrace
  rw [harguments, List.cons_append, List.append_assoc] at hbrace
  have hle := length_le_of_append_eq c.argument_closed (List.cons.inj hbrace).2.symm
  simp only [text, harguments, List.length_append, List.length_cons, List.length_nil]
  omega

/-- A command whose name no other is tried before is read to its end at
    least. -/
theorem exists_latexLexer (hname : c.name ∉ shadowedNames) (before : Option Char) (post : Text) :
    ∃ n, c.text.length ≤ n ∧ latexLexer before (c.text ++ post) = some (.skipped, n) := by
  cases hbegin : formulaEnvironment? (c.text ++ post) with
  | some n =>
    refine ⟨n, c.length_le_of_formulaEnvironment? hbegin, ?_⟩
    have hcomment : percentComment before (c.text ++ post) = none :=
      percentComment_of_ne (by decide)
    rw [latexLexer, Lexer.firstOf_of_none hcomment, Lexer.firstOf_of_some (Lexer.at_of_some hbegin)]
  | none =>
    have hread := c.structureCommand?_text hname post
    obtain ⟨y, r, hcons, hy⟩ := c.name_eq_cons
    have hlist : c.text ++ post = '\\' :: y :: (r ++ c.arguments ++ post) := by
      simp [text, hcons]
    rw [hlist] at hbegin hread ⊢
    exact ⟨_, Nat.le_refl _, latexLexer_structure hy hbegin hread⟩

/-- Of a name that goes on with one which is tried before it only that one is
    read. -/
theorem latexLexer_shadowed (before : Option Char) {p : Text × Text} (hp : p ∈ shadowedParts)
    (hname : c.name = p.1 ++ p.2)
    (post : Text) :
    latexLexer before ('\\' :: p.1 ++ (p.2 ++ (c.arguments ++ post))) =
      some (.skipped, ('\\' :: p.1).length) := by
  have hlist : c.text ++ post = '\\' :: p.1 ++ (p.2 ++ (c.arguments ++ post)) := by
    simp [text, hname]
  have hbegin : formulaEnvironment? (c.text ++ post) = none := by
    cases hsome : formulaEnvironment? (c.text ++ post) with
    | none => rfl
    | some n =>
      obtain ⟨hc, -⟩ := c.begin_of_formulaEnvironment? hsome
      have hmem : c.name ∈ shadowedNames := by
        rw [hname]
        exact List.mem_map_of_mem hp
      rw [hc] at hmem
      exact absurd hmem (by decide)
  have hfind :
      structureNames.find? (fun n => startsWith (p.1 ++ (p.2 ++ (c.arguments ++ post))) n) =
        some p.1 := by
    obtain ⟨y, r, hcons, hy⟩ := c.head_arguments
    rw [hcons, ← List.append_assoc, List.cons_append, find?_append_cons hy]
    exact find?_shadowedParts p hp
  obtain ⟨y, hy, z, hz, hfirst, hsecond⟩ := head_shadowedParts p hp
  have hread : structureCommand? ('\\' :: p.1 ++ (p.2 ++ (c.arguments ++ post))) =
      some ('\\' :: p.1).length := by
    have hplain : ∀ z ∈ ['p', 't', 'g', 's'], z ≠ '*' ∧ z ≠ '[' ∧ z ≠ '\x7b' := by decide
    obtain ⟨hstar, hbracket, hbrace⟩ := hplain z hz
    rw [hsecond] at hfind ⊢
    refine structureCommand?_append (s := []) (o := []) (a := []) hfind ?_
      (brackets_of_ne hbracket) (braces_of_ne hbrace)
    show (if some z == some '*' then 1 else 0) = 0
    rw [if_neg (by simpa using hstar)]
  have hletter : ∀ y ∈ ['c', 'i', 'b'], isCommandLetter y = true := by decide
  rw [hlist] at hbegin
  rw [hfirst] at hbegin hread ⊢
  exact latexLexer_structure (hletter y hy) hbegin hread

end Command

/-! ## Segments of a document with a command -/

variable {pre : Text}

/-- The text before a command is read character by character. -/
theorem scan_before (hpre : ∀ x ∈ pre, x ∉ specials) (t : Text) :
    ∃ last, scan latexLexer none (pre ++ t) =
      (⟨.plain, pre⟩ : Lexeme).split ++ scan latexLexer last t :=
  ⟨_, scan_reads (.plain fun c _ hsuffix _ =>
    latexLexer_of_not_special (hpre c (hsuffix.subset (List.mem_cons_self ..))))⟩

/-- No segment reaches into a command that is read to its end. -/
theorem avoids_command {c : Command} (hname : c.name ∉ shadowedNames)
    (hpre : ∀ x ∈ pre, x ∉ specials) {post : Text} {minRatio : Float} {s : Segment}
    (hs : s ∈ scanned (pre ++ (c.text ++ post)) "latex" minRatio) :
    s.Avoids pre.length c.text.length := by
  obtain ⟨last, hscan⟩ := scan_before hpre (c.text ++ post)
  obtain ⟨n, hn, hread⟩ := c.exists_latexLexer hname last post
  have hne : c.text ++ post ≠ [] := List.cons_ne_nil _ _
  have hpos : 0 < c.text.length := Nat.succ_pos _
  rw [scan_read hne (Nat.lt_of_lt_of_le hpos hn) hread] at hscan
  have hmem := mem_located_lexemes hscan Kind.noConfusion
  rw [flatMap_split] at hmem
  have havoids := avoids_of_located takesLexemes_markupCandidate? hs hmem rfl
  refine havoids.mono ?_
  rw [List.length_take, List.length_append]
  omega

/-! ## The ratio zero -/

theorem zero_le_share {k l : Nat} (hkl : k ≤ l) (hpos : 0 < l) (hl : l < 2 ^ 53) :
    (0 : Float) ≤ Float.ofNat k / Float.ofNat l := by
  obtain rfl | hk := Nat.eq_zero_or_pos k
  · obtain ⟨s, hs⟩ := Encoding.zero_div_ofNat hpos
    rw [hs]
    cases s <;> decide +kernel
  · obtain ⟨m, d, r, hr, -, -, hunpack⟩ := Encoding.unpack_div hk hkl hl
    change decide ((0 : Float).toModel.unpack.le _ = true) = true
    rw [hunpack]
    by_cases hlt : r < 2 ^ 53
    · rw [if_pos hlt]
      rfl
    · rw [if_neg hlt]
      rfl

/-- Any text of a size that occurs is Japanese enough for the ratio zero. -/
theorem isJapaneseEnough_zero (ht : t ≠ []) (hlength : t.length < 2 ^ 53) :
    t.isJapaneseEnough 0 = true := by
  have hempty : t.isEmpty = false := by
    rw [Bool.eq_false_iff]
    exact fun h => ht (List.isEmpty_iff.1 h)
  have hcount : t.countP isJapanese ≤ t.length := List.countP_le_length
  have hshare := zero_le_share hcount (List.length_pos_iff.2 ht) hlength
  rw [isJapaneseEnough, japaneseRatio, hempty]
  exact decide_eq_true hshare

/-- A stretch of plain text that begins with no blank begins a segment. -/
theorem ofCandidate?_zero (start : Int) (hy : isBlank y = false)
    (hlength : (y :: t).length < 2 ^ 53) :
    ∃ s, Segment.ofCandidate? 0 ⟨start, y :: t, false⟩ = some s ∧ s.offset = start := by
  have hlead : (y :: t).takeWhile isBlank = [] := by rw [List.takeWhile_cons, hy]; rfl
  have hne : strip (y :: t) ≠ [] := by
    intro hnil
    obtain ⟨w, hw, hblank⟩ := strip_append (y :: t)
    rw [hlead, hnil, List.nil_append, List.nil_append] at hw
    rw [← hw, List.all_cons, hy] at hblank
    cases hblank
  have hle : (strip (y :: t)).length ≤ (y :: t).length := by
    have := (strip_standsAt (y :: t)).le_length
    omega
  have hbody : body (y :: t) false = (0, strip (y :: t)) := by
    show stripAt 0 (y :: t) = _
    rw [stripAt, hlead]
    rfl
  refine ⟨⟨strip (y :: t), start⟩, ?_, rfl⟩
  rw [Segment.ofCandidate?, hbody]
  simp only [isJapaneseEnough_zero hne (by omega), ↓reduceIte]
  simp

/-- What is left over of a shadowed name begins a segment, if no ratio is asked
    for. -/
theorem exists_segment_of_shadowed {c : Command} {p : Text × Text} (hp : p ∈ shadowedParts)
    (hname : c.name = p.1 ++ p.2) (hpre : ∀ x ∈ pre, x ∉ specials) {post : Text}
    (hlength : (pre ++ (c.text ++ post)).length < 2 ^ 53) :
    ∃ s ∈ scanned (pre ++ (c.text ++ post)) "latex" 0,
      s.offset = pre.length + ('\\' :: p.1).length := by
  obtain ⟨-, -, z, hz, -, hsecond⟩ := head_shadowedParts p hp
  have hletters : ∀ z ∈ ['p', 't', 'g', 's'], z ∉ specials ∧ isBlank z = false := by decide
  obtain ⟨hspecial, hblank⟩ := hletters z hz
  have hlist : c.text ++ post = '\\' :: p.1 ++ (z :: (p.2.tail ++ (c.arguments ++ post))) := by
    rw [Command.text, hname, hsecond]
    simp
  -- The letters that are left over begin a plain lexeme after the shorter name.
  obtain ⟨u, hplain⟩ : ∃ u, (pre.length + ('\\' :: p.1).length, ⟨.plain, z :: u⟩) ∈
      located 0 (lexemes latexLexer (pre ++ (c.text ++ post))) := by
    obtain ⟨last, hscan⟩ := scan_before hpre (c.text ++ post)
    have hread := c.latexLexer_shadowed last hp hname post
    rw [show p.2 ++ (c.arguments ++ post) = z :: (p.2.tail ++ (c.arguments ++ post)) from
      congrArg (· ++ (c.arguments ++ post)) hsecond] at hread
    rw [hlist, scan_read_append (List.cons_ne_nil _ _) hread,
      scan_plain (latexLexer_of_not_special hspecial)] at hscan
    obtain ⟨u, more, hjoin⟩ := joinPlain_plain_cons [z]
      (scan latexLexer (some z) (p.2.tail ++ (c.arguments ++ post)))
    refine ⟨u, ?_⟩
    rw [hlist, lexemes, hscan, joinPlain_append_of_ne Kind.noConfusion, hjoin, located_append,
      flatMap_joinPlain, flatMap_split, Nat.zero_add]
    exact List.mem_append_right _ (List.mem_cons_of_mem _ (List.mem_cons_self ..))
  have hsmall : (z :: u).length < 2 ^ 53 := by
    have hstands := located_standsAt [] (lexemes latexLexer (pre ++ (c.text ++ post))) _ hplain
    rw [List.nil_append, flatMap_lexemes] at hstands
    exact Nat.lt_of_le_of_lt (Nat.le_trans (Nat.le_add_left _ _) hstands.le_length) hlength
  obtain ⟨s, hs, hoffset⟩ :=
    ofCandidate?_zero (pre.length + ('\\' :: p.1).length : Nat) hblank hsmall
  refine ⟨s, ?_, hoffset⟩
  rw [scanned_latex, Segment.ofCandidates_eq_filterMap (markupCandidates_pairwise latexLexer _)]
  exact List.mem_filterMap.2 ⟨_, List.mem_filterMap.2 ⟨_, hplain, rfl⟩, hs⟩

/-- **Masked commands.**  No segment reaches into a structure command, whatever
    comes after it, if its name goes on with no other that is tried before it.
    If it does, a segment begins within the command when no ratio is asked
    for. -/
theorem command_avoided (c : Command) (pre post : Text) (hpre : ∀ x ∈ pre, x ∉ specials) :
    (c.name ∉ shadowedNames → ∀ minRatio : Float,
      ∀ s ∈ scanned (pre ++ c.text ++ post) "latex" minRatio,
        s.Avoids pre.length c.text.length) ∧
    (c.name ∈ shadowedNames → (pre ++ c.text ++ post).length < 2 ^ 53 →
      ∃ s ∈ scanned (pre ++ c.text ++ post) "latex" 0, ¬ s.Avoids pre.length c.text.length) := by
  rw [List.append_assoc]
  refine ⟨fun hname minRatio s hs => avoids_command hname hpre hs, fun hname hlength => ?_⟩
  obtain ⟨p, hp, hparts⟩ := List.mem_map.1 hname
  obtain ⟨s, hs, hoffset⟩ := exists_segment_of_shadowed hp hparts.symm hpre hlength
  refine ⟨s, hs, ?_⟩
  have hwithin : ('\\' :: p.1).length < c.text.length := by
    obtain ⟨y, r, hcons, -⟩ := c.arguments_eq_cons
    simp only [Command.text, ← hparts, hcons, List.length_cons, List.length_append]
    omega
  have hpos : 0 < ('\\' :: p.1).length := Nat.succ_pos _
  have hstop : s.offset ≤ s.stop := by
    unfold Segment.stop
    omega
  unfold Segment.Avoids
  omega

/-- A command with all that may belong to one. -/
def sampleCommand : Command where
  name := text "cite"
  starred := true
  options := [text "図", text "p. 5"]
  argument := text "鍵"
  name_mem := by decide
  options_closed := by decide
  argument_closed := by decide

/-- A command whose name goes on with another. -/
def shadowedCommand : Command where
  name := text "citep"
  starred := false
  options := []
  argument := text "日本語"
  name_mem := by decide
  options_closed := by decide
  argument_closed := by decide

theorem command_avoided_of_sampleCommand :
    sampleCommand.text = text "\\cite*[図][p. 5]\x7b鍵\x7d" ∧
      sampleCommand.name ∉ shadowedNames ∧ shadowedCommand.name ∈ shadowedNames ∧
      (∀ minRatio : Float, ∀ s ∈ scanned (text "本文" ++ sampleCommand.text ++ text "。後") "latex"
        minRatio, s.Avoids 2 sampleCommand.text.length) ∧
      ∃ s ∈ scanned (text "本文" ++ shadowedCommand.text ++ text "。後") "latex" 0,
        ¬ s.Avoids 2 shadowedCommand.text.length := by
  have hplain : ∀ x ∈ text "本文", x ∉ specials := by decide +kernel
  have hread : sampleCommand.name ∉ shadowedNames := by decide +kernel
  have hshadowed : shadowedCommand.name ∈ shadowedNames := by decide +kernel
  refine ⟨by decide +kernel, hread, hshadowed, ?_, ?_⟩
  · exact (command_avoided sampleCommand _ _ hplain).1 hread
  · exact (command_avoided shadowedCommand _ _ hplain).2 hshadowed (by decide +kernel)

/-- The argument of a shadowed command is reported as prose. -/
theorem argument_of_shadowedCommand :
    shadowedCommand.text = text "\\citep\x7b日本語\x7d" ∧
      scanned shadowedCommand.text "latex" 0.1 = [⟨text "日本語", 7⟩] ∧
      ¬ ∀ s ∈ scanned shadowedCommand.text "latex" 0.1,
        s.Avoids 0 shadowedCommand.text.length := by
  have hscanned : scanned shadowedCommand.text "latex" 0.1 = [⟨text "日本語", 7⟩] := by
    rw [scanned_latex, Segment.ofCandidates_eq_filterMap (markupCandidates_pairwise latexLexer _)]
    decide +kernel
  refine ⟨by decide +kernel, hscanned, fun hall => ?_⟩
  have havoids := hall ⟨text "日本語", 7⟩ (by rw [hscanned]; exact List.mem_cons_self ..)
  revert havoids
  unfold Segment.Avoids
  decide +kernel

end Kousei.Extract.Latex
