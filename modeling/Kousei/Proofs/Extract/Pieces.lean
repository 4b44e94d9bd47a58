import Mathlib.Data.List.Chain
import Kousei.Proofs.Extract.Scan

/-! # Documents in pieces

    A document is often known by the pieces it was written in.  If a lexer
    reads each piece as one lexeme where it stands (`Lexer.Reads`), scanning
    gives the pieces back, plain ones character by character (`scan_reads`),
    and joining plain neighbours puts the plain pieces together again
    (`joinPlain_split_append`).

    Every language has its own items (`Items`), which may stand in a row as the
    language has it (`Row`).  Of a lexer it is enough to know how it reads one
    item before the others (`Lexer.ReadsRows`): then the items of a row are
    read as what they are exactly if each of them is one that is read whole
    (`Lexer.ReadsRows.scan_iff`).

    What is found in the document is then told from the items: candidates are
    among them (`Items.ChosenBy`), and an item that is no candidate is avoided
    by every segment (`avoids_of_placed`). -/

namespace Kousei.Extract

open Text

/-! ## Deciding -/

/-- What is to hold of each character of a text is decided for those
    characters, not for all that there are. -/
instance decidableForallChar (p : Char → Prop) [DecidablePred p] (t : List Char) :
    Decidable (∀ x ∈ t, p x) := List.decidableBAll p t

instance decidableForallCharOption (p : Char → Prop) [DecidablePred p] :
    (o : Option Char) → Decidable (∀ x ∈ o, p x)
  | none => isTrue fun _ hx => nomatch hx
  | some c => decidable_of_iff (p c) ⟨fun hc _ hx => Option.mem_some.1 hx ▸ hc, fun h => h c rfl⟩

/-! ## Searching -/

variable {needle body rest : Text}

theorem find?_of_isPrefix {t : Text} (h : needle <+: t) : find? needle t = some 0 := by
  cases t with
  | nil =>
    rw [List.prefix_nil.1 h]
    rfl
  | cons c r => rw [find?, startsWith, List.isPrefixOf_iff_prefix.2 h, if_pos rfl]

/-- What stands nowhere in `body` and does not begin in it either is found
    after it. -/
theorem find?_append (h : ∀ b, b <:+ body → b ≠ [] → ¬ needle <+: b ++ needle ++ rest) :
    find? needle (body ++ needle ++ rest) = some body.length := by
  induction body with
  | nil => exact find?_of_isPrefix ⟨rest, by rw [List.nil_append]⟩
  | cons x body ih =>
    have hnot : startsWith (x :: body ++ needle ++ rest) needle = false :=
      Bool.eq_false_iff.2 fun hstarts =>
        h (x :: body) List.suffix_rfl (List.cons_ne_nil _ _) (List.isPrefixOf_iff_prefix.1 hstarts)
    have hrest := ih fun b hb => h b (hb.trans (List.suffix_cons x body))
    rw [List.cons_append, List.cons_append] at hnot ⊢
    rw [find?, hnot, hrest]
    rfl

/-- A text is found after characters other than its first. -/
theorem find?_append_of_not_mem {c : Char} (h : c ∉ body) :
    find? (c :: needle) (body ++ c :: needle ++ rest) = some body.length := by
  refine find?_append fun b hb hne hstarts => ?_
  obtain ⟨x, b, rfl⟩ := List.exists_cons_of_ne_nil hne
  obtain ⟨u, hu⟩ := hstarts
  obtain ⟨rfl, -⟩ := List.cons.inj hu
  exact h (hb.subset (List.mem_cons_self ..))

/-- A text whose last character it has only once is found after a text that it
    does not stand in. -/
theorem find?_append_of_not_isInfix {z : Char} (hz : z ∉ needle)
    (h : ¬ needle ++ [z] <:+: body) :
    find? (needle ++ [z]) (body ++ (needle ++ [z]) ++ rest) = some body.length := by
  refine find?_append fun b hb hne hstarts => ?_
  have hpos := List.length_pos_iff.2 hne
  rw [List.append_assoc] at hstarts
  obtain hlt | hle := Nat.lt_or_ge needle.length b.length
  · have hin : needle ++ [z] <+: b :=
      List.prefix_of_prefix_length_le hstarts (List.prefix_append b _) (by
        rw [List.length_append, List.length_singleton]
        exact hlt)
    exact h (hin.isInfix.trans hb.isInfix)
  · -- Its last character would be one of those that come before the last.
    obtain ⟨u, hu⟩ := hstarts
    have hlast : (b ++ (needle ++ [z] ++ rest))[needle.length]? = some z := by
      rw [← hu]
      simp
    rw [List.getElem?_append_right hle, List.append_assoc,
      List.getElem?_append_left (by omega)] at hlast
    exact hz (List.mem_of_getElem? hlast)

/-! ## Parts of lexers -/

theorem startsWith_cons_of_ne {x c : Char} {r : Text} (h : x ≠ c) :
    startsWith (x :: r) (c :: needle) = false := by
  rw [startsWith, List.isPrefixOf_cons_cons, beq_eq_false_iff_ne.2 h.symm, Bool.false_and]

variable {opening close : Text}

/-- A stretch that is closed where it was found to be. -/
theorem enclosed?_append (h : find? close (body ++ close ++ rest) = some body.length) :
    enclosed? opening close (opening ++ body ++ close ++ rest) =
      some (opening ++ body ++ close).length := by
  have hstarts : startsWith (opening ++ (body ++ close ++ rest)) opening = true :=
    List.isPrefixOf_iff_prefix.2 (List.prefix_append opening _)
  have hlist : opening ++ body ++ close ++ rest = opening ++ (body ++ close ++ rest) := by
    simp only [List.append_assoc]
  rw [hlist, enclosed?, hstarts, if_pos rfl, List.drop_left, through?, h]
  simp only [Option.map_some, List.length_append, Option.some.injEq]
  omega

theorem enclosed?_of_not_startsWith {t : Text} (h : t.startsWith opening = false) :
    enclosed? opening close t = none := by
  rw [enclosed?, h]
  rfl

/-- The rest of a line ends before the next line feed. -/
theorem restOfLine?_append (hopening : '\n' ∉ opening) (hbody : '\n' ∉ body)
    (hrest : ∀ x, rest.head? = some x → x = '\n') :
    restOfLine? opening (opening ++ body ++ rest) = some (opening ++ body).length := by
  have hstarts : startsWith (opening ++ body ++ rest) opening = true := by
    rw [List.append_assoc]
    exact List.isPrefixOf_iff_prefix.2 (List.prefix_append opening _)
  have hline : ∀ x ∈ opening ++ body, (x != '\n') = true := by
    rintro x hx
    rw [bne_iff_ne]
    rintro rfl
    exact (List.mem_append.1 hx).elim hopening hbody
  have hend : rest.takeWhile (· != '\n') = [] := by
    cases rest with
    | nil => rfl
    | cons x r => rw [hrest x rfl]; rfl
  rw [restOfLine?, hstarts, if_pos rfl, List.takeWhile_append_of_pos hline, hend, List.append_nil]

theorem restOfLine?_of_not_startsWith {t : Text} (h : t.startsWith opening = false) :
    restOfLine? opening t = none := by
  rw [restOfLine?, h]
  rfl

/-! ## Reading a piece -/

variable {lexer : Lexer} {before : Option Char} {x : Lexeme} {xs ys : List Lexeme}

/-- A lexeme as scanning gives it: every character of a plain one is on its
    own. -/
def Lexeme.split (x : Lexeme) : List Lexeme :=
  if x.kind = .plain then x.text.map fun c => ⟨.plain, [c]⟩ else [x]

theorem flatMap_split (x : Lexeme) : x.split.flatMap Lexeme.text = x.text := by
  unfold Lexeme.split
  split
  · simp [List.flatMap_map]
  · exact List.flatMap_singleton ..

/-- The lexer reads a piece that stands between the character `before` and the
    text `rest`: nothing begins at a character of a plain piece, and any other
    piece is read up to its end. -/
inductive Lexer.Reads (lexer : Lexer) (before : Option Char) (rest : Text) : Lexeme → Prop where
  | plain {t : Text} :
      (∀ c r, c :: r <:+ t → ∀ last, lexer last (c :: (r ++ rest)) = none) →
      Reads lexer before rest ⟨.plain, t⟩
  | whole {kind : Kind} {t : Text} : kind ≠ .plain → t ≠ [] →
      lexer before (t ++ rest) = some (kind, t.length) → Reads lexer before rest ⟨kind, t⟩

/-- A piece that is read comes first, and the scan goes on after it. -/
theorem scan_reads (h : lexer.Reads before rest x) :
    scan lexer before (x.text ++ rest) =
      x.split ++ scan lexer (x.text.getLast?.or before) rest := by
  cases h with
  | @plain t hnone =>
    show scan lexer before (t ++ rest) =
      (t.map fun c => ⟨.plain, [c]⟩) ++ scan lexer (t.getLast?.or before) rest
    induction t generalizing before with
    | nil => rfl
    | cons c t ih =>
      have hlast : (c :: t).getLast?.or before = t.getLast?.or (some c) := by
        rw [List.getLast?_cons]
        cases t.getLast? <;> rfl
      rw [List.cons_append, scan_plain (hnone c t List.suffix_rfl before),
        ih fun d r hd => hnone d r (hd.trans (List.suffix_cons c t)), hlast]
      rfl
  | @whole kind t hkind hne hread =>
    rw [Lexeme.split, if_neg hkind, scan_read_append hne hread, List.getLast?_eq_some_getLast hne]
    rfl

/-! ## Joining plain pieces -/

theorem joinPlain_cons_of_ne {y : Lexeme} (h : y.kind ≠ .plain) :
    joinPlain (y :: ys) = y :: joinPlain ys := by
  obtain ⟨kind, t⟩ := y
  cases kind with
  | plain => exact absurd rfl h
  | comment => rfl
  | skipped => rfl

/-- A plain lexeme that comes first is the beginning of the first one. -/
theorem joinPlain_plain_cons (a : Text) (ys : List Lexeme) :
    ∃ u more, joinPlain (⟨.plain, a⟩ :: ys) = ⟨.plain, a ++ u⟩ :: more := by
  rw [joinPlain]
  split
  · next b more _ => exact ⟨b, more, rfl⟩
  · exact ⟨[], _, by rw [List.append_nil]⟩

/-- Nothing is joined across a lexeme that is not plain. -/
theorem joinPlain_append_of_ne {y : Lexeme} (h : y.kind ≠ .plain) :
    joinPlain (xs ++ y :: ys) = joinPlain xs ++ y :: joinPlain ys := by
  fun_induction joinPlain xs with
  | case1 => exact joinPlain_cons_of_ne h
  | case2 a r b more hjoin ih =>
    rw [List.cons_append, joinPlain, ih, hjoin]
    rfl
  | case3 a r hjoin ih =>
    rw [List.cons_append, joinPlain, ih]
    split
    · next b more heq =>
      -- The first lexeme after `a` is that of `r`, or `y` if `r` has none.
      rcases hr : joinPlain r with _ | ⟨z, zs⟩
      · rw [hr] at heq
        rw [(List.cons.inj heq).1] at h
        exact absurd rfl h
      · rw [hr] at heq
        obtain ⟨rfl, rfl⟩ := List.cons.inj heq
        exact absurd hr (hjoin b zs)
    · rfl
  | case4 z r hz ih =>
    have hkind : z.kind ≠ .plain := fun hplain => hz z.text (by rw [← hplain])
    rw [List.cons_append, joinPlain_cons_of_ne hkind, ih]
    rfl

/-- A piece is put together from its characters if no plain one follows. -/
theorem joinPlain_split_append (hne : x.text ≠ [])
    (hys : x.kind = .plain → ∀ y, ys.head? = some y → y.kind ≠ .plain) :
    joinPlain (x.split ++ ys) = x :: joinPlain ys := by
  obtain ⟨kind, t⟩ := x
  by_cases hkind : kind = .plain
  · subst hkind
    show joinPlain ((t.map fun c => ⟨.plain, [c]⟩) ++ ys) = ⟨.plain, t⟩ :: joinPlain ys
    have hhead : ∀ b more, joinPlain ys ≠ ⟨.plain, b⟩ :: more := by
      intro b more hjoin
      cases ys with
      | nil => cases hjoin
      | cons y r =>
        have hy := hys rfl y rfl
        rw [joinPlain_cons_of_ne hy] at hjoin
        rw [(List.cons.inj hjoin).1] at hy
        exact hy rfl
    induction t with
    | nil => exact absurd rfl hne
    | cons c t ih =>
      rw [List.map_cons, List.cons_append, joinPlain]
      cases t with
      | nil =>
        rw [List.map_nil, List.nil_append]
        split
        · next b more hjoin => exact absurd hjoin (hhead b more)
        · rfl
      | cons d t =>
        rw [ih (List.cons_ne_nil d t) fun _ => hys rfl]
        rfl
  · rw [Lexeme.split, if_neg hkind, List.singleton_append]
    exact joinPlain_cons_of_ne hkind

/-- Pieces of which no two plain ones are neighbours are put together again. -/
theorem joinPlain_flatMap_split (hne : ∀ x ∈ xs, x.text ≠ [])
    (hapart : xs.IsChain fun x y => x.kind = .plain → y.kind ≠ .plain) :
    joinPlain (xs.flatMap Lexeme.split) = xs := by
  induction xs with
  | nil => rfl
  | cons x r ih =>
    obtain ⟨hx, hr⟩ := List.forall_mem_cons.1 hne
    obtain ⟨hnext, hchain⟩ := List.isChain_cons.1 hapart
    rw [List.flatMap_cons, joinPlain_split_append hx, ih hr hchain]
    intro hplain y hy
    cases r with
    | nil => cases hy
    | cons z r =>
      have hz := hnext z rfl hplain
      rw [List.flatMap_cons, Lexeme.split, if_neg hz] at hy
      cases hy
      exact hz

/-! ## Documents -/

/-- The items that the documents of a language are written in. -/
class Items (ι : Type) where
  text : ι → Text
  kind : ι → Kind
  /-- The candidate that an item is at the place where it begins. -/
  candidate? : Nat × ι → Option Candidate

section Documents

variable {ι : Type} [Items ι]

/-- The lexeme that an item is to be read as. -/
def lexeme (i : ι) : Lexeme := ⟨Items.kind i, Items.text i⟩

/-- The text of a document. -/
def render (items : List ι) : Text := items.flatMap Items.text

/-- The items of a document with the places at which their texts begin. -/
def placed (start : Nat) : List ι → List (Nat × ι)
  | [] => []
  | i :: r => (start, i) :: placed (start + (Items.text i).length) r

/-- The candidates that the items of a document are. -/
def candidates (items : List ι) : List Candidate := (placed 0 items).filterMap Items.candidate?

theorem render_cons (i : ι) (r : List ι) : render (i :: r) = Items.text i ++ render r :=
  List.flatMap_cons

theorem le_of_mem_placed {start : Nat} {items : List ι} :
    ∀ p ∈ placed start items, start ≤ p.1 := by
  induction items generalizing start with
  | nil => exact List.forall_mem_nil _
  | cons i r ih =>
    intro p hp
    rcases List.mem_cons.1 hp with rfl | hp
    · exact Nat.le_refl _
    · exact Nat.le_trans (Nat.le_add_right _ _) (ih p hp)

theorem located_map_lexeme (start : Nat) (items : List ι) :
    located start (items.map lexeme) = (placed start items).map fun p => (p.1, lexeme p.2) := by
  induction items generalizing start with
  | nil => rfl
  | cons i r ih =>
    rw [List.map_cons, located, ih]
    rfl

end Documents

/-! ## Items in a row -/

section Row

variable {ι : Type} {fits : List ι → ι → Prop}

/-- Each item may stand before those that follow it. -/
inductive Row (fits : List ι → ι → Prop) : List ι → Prop where
  | nil : Row fits []
  | cons {i : ι} {r : List ι} : fits r i → Row fits r → Row fits (i :: r)

theorem row_cons {i : ι} {r : List ι} : Row fits (i :: r) ↔ fits r i ∧ Row fits r := by
  constructor
  · rintro (_ | ⟨hfits, hrest⟩)
    exact ⟨hfits, hrest⟩
  · exact fun ⟨hfits, hrest⟩ => .cons hfits hrest

/-- Items that may stand anywhere are a row. -/
theorem row_of_forall {p : ι → Prop} {items : List ι} (h : ∀ i ∈ items, p i) :
    Row (fun _ => p) items := by
  induction items with
  | nil => exact .nil
  | cons i r ih =>
    obtain ⟨hi, hr⟩ := List.forall_mem_cons.1 h
    exact .cons hi (ih hr)

instance decidableRow [∀ r i, Decidable (fits r i)] : (items : List ι) → Decidable (Row fits items)
  | [] => isTrue .nil
  | i :: r =>
    have := decidableRow r
    decidable_of_iff (fits r i ∧ Row fits r) row_cons.symm

end Row

/-! ## Reading a row -/

/-- How a lexer reads the items of rows.  If the character before an item is
    one it is `ready` for, an item that is `whole` is read as what it is, and
    the lexer is ready for the next one.  Of another item, the first character
    is read as a plain one, though the item is not plain. -/
structure Lexer.ReadsRows {ι : Type} [Items ι] (lexer : Lexer) (fits : List ι → ι → Prop)
    (ready : Option Char → List ι → Prop) (whole : ι → Prop) : Prop where
  reads {before : Option Char} {i : ι} {r : List ι} : fits r i → Row fits r →
    ready before (i :: r) → whole i → lexer.Reads before (render r) (lexeme i)
  next {before : Option Char} {i : ι} {r : List ι} : fits r i → Row fits r →
    ready before (i :: r) → whole i → ready ((Items.text i).getLast?.or before) r
  unread {i : ι} {r : List ι} : fits r i → Row fits r → ¬ whole i → Items.kind i ≠ .plain ∧
    ∃ c t, Items.text i ++ render r = c :: t ∧ ∀ before, lexer before (c :: t) = none

namespace Lexer.ReadsRows

variable {ι : Type} [Items ι] {fits : List ι → ι → Prop} {ready : Option Char → List ι → Prop}
  {whole : ι → Prop} {a r items : List ι}

/-- Items that are read whole are the first lexemes of what they begin. -/
theorem scan_append (hlexer : lexer.ReadsRows fits ready whole) (before : Option Char)
    (h : Row fits (a ++ r)) (hready : ready before (a ++ r)) (hwhole : ∀ i ∈ a, whole i) :
    ∃ last, scan lexer before (render (a ++ r)) =
      (a.map lexeme).flatMap Lexeme.split ++ scan lexer last (render r) := by
  induction a generalizing before with
  | nil => exact ⟨before, rfl⟩
  | cons i a ih =>
    obtain ⟨hfits, hrest⟩ := row_cons.1 h
    obtain ⟨hi, ha⟩ := List.forall_mem_cons.1 hwhole
    obtain ⟨last, hlast⟩ := ih _ hrest (hlexer.next hfits hrest hready hi) ha
    have hread := scan_reads (hlexer.reads hfits hrest hready hi)
    refine ⟨last, ?_⟩
    rw [List.map_cons, List.flatMap_cons, List.append_assoc, ← hlast]
    exact (congrArg (scan lexer before) (render_cons i (a ++ r))).trans hread

/-- The items of a row are read as what they are exactly if all of them are
    read whole. -/
theorem scan_iff (hlexer : lexer.ReadsRows fits ready whole) (before : Option Char)
    (h : Row fits items) (hready : ready before items) :
    scan lexer before (render items) = (items.map lexeme).flatMap Lexeme.split ↔
      ∀ i ∈ items, whole i := by
  induction h generalizing before with
  | nil => exact iff_of_true (by rw [render, List.flatMap_nil, scan]; rfl) (List.forall_mem_nil _)
  | @cons i r hfits hrest ih =>
    rw [render_cons, List.map_cons, List.flatMap_cons, List.forall_mem_cons]
    by_cases hi : whole i
    · have hread := scan_reads (hlexer.reads hfits hrest hready hi)
      rw [show Items.text i = (lexeme i).text from rfl, hread, List.append_cancel_left_eq]
      exact (ih _ (hlexer.next hfits hrest hready hi)).trans (and_iff_right hi).symm
    · -- The first lexeme is a character on its own.
      refine iff_of_false ?_ fun hall => hi hall.1
      obtain ⟨hkind, c, t, htext, hnone⟩ := hlexer.unread hfits hrest hi
      rw [htext, scan_plain (hnone before), Lexeme.split,
        if_neg (show (lexeme i).kind ≠ .plain from hkind)]
      exact fun heq => hkind (congrArg Lexeme.kind (List.cons.inj heq).1).symm

end Lexer.ReadsRows

/-- Items that are read wherever they stand are the lexemes of their text. -/
theorem lexemes_of_reads {ι : Type} [Items ι] {items : List ι}
    (hreads : ∀ i ∈ items, ∀ before rest, lexer.Reads before rest (lexeme i))
    (hne : ∀ i ∈ items, Items.text i ≠ [])
    (hapart : items.IsChain fun i j => Items.kind i = .plain → Items.kind j ≠ .plain) :
    lexemes lexer (render items) = items.map lexeme := by
  have hrows : lexer.ReadsRows (fun _ i => ∀ before rest, lexer.Reads before rest (lexeme i))
      (fun _ (_ : List ι) => True) (fun _ => True) :=
    ⟨fun hi _ _ _ => hi _ _, fun _ _ _ _ => trivial, fun _ _ hnot => absurd trivial hnot⟩
  have hscan := (hrows.scan_iff none (row_of_forall hreads) trivial).2 fun _ _ => trivial
  rw [lexemes, hscan, joinPlain_flatMap_split]
  · exact List.forall_mem_map.2 hne
  · exact (List.isChain_map _).2 hapart

/-! ## Candidates among the pieces -/

/-- The characters of plain pieces are no comments. -/
theorem comments_located_split (start : Nat) (xs : List Lexeme) :
    (located start (xs.flatMap Lexeme.split)).filterMap commentCandidate? =
      (located start xs).filterMap commentCandidate? := by
  have hsplit (start : Nat) (x : Lexeme) :
      (located start x.split).filterMap commentCandidate? =
        (located start [x]).filterMap commentCandidate? := by
    obtain ⟨kind, t⟩ := x
    cases kind with
    | plain =>
      show (located start (t.map fun c => ⟨.plain, [c]⟩)).filterMap commentCandidate? = []
      induction t generalizing start with
      | nil => rfl
      | cons c t ih => exact ih _
    | comment => rfl
    | skipped => rfl
  induction xs generalizing start with
  | nil => rfl
  | cons x r ih =>
    rw [List.flatMap_cons, located_append, List.filterMap_append, hsplit, flatMap_split, ih,
      ← List.filterMap_append]
    rfl

variable {choose : Nat × Lexeme → Option Candidate}

/-- No segment reaches into a piece that is no candidate. -/
theorem avoids_of_located (hc : TakesLexemes choose) {minRatio : Float} {s : Segment}
    (hs : s ∈ Segment.ofCandidates minRatio ((located 0 xs).filterMap choose)) {p : Nat × Lexeme}
    (hp : p ∈ located 0 xs) (hnone : choose p = none) : s.Avoids p.1 p.2.text.length := by
  obtain ⟨c, hcs, hsegment⟩ := Segment.mem_of_mem_ofCandidates hs
  obtain ⟨q, hq, hqc⟩ := List.mem_filterMap.1 hcs
  obtain ⟨hstart, hsource⟩ := hc q c hqc
  obtain ⟨hlow, hhigh⟩ := Segment.within_of_ofCandidate? hsegment
  -- The candidate is one of the pieces that come before or after this one.
  have hpairs := located_pairwise 0 xs
  obtain ⟨first, last, hall⟩ := List.append_of_mem hp
  rw [hall] at hq hpairs
  obtain ⟨-, hlater, hearlier⟩ := List.pairwise_append.1 hpairs
  have hapart : q.1 + q.2.text.length ≤ p.1 ∨ p.1 + p.2.text.length ≤ q.1 := by
    rcases List.mem_append.1 hq with hq | hq
    · exact .inl (hearlier q hq p (List.mem_cons_self ..))
    · rcases List.mem_cons.1 hq with rfl | hq
      · rw [hnone] at hqc
        cases hqc
      · exact .inr ((List.pairwise_cons.1 hlater).1 q hq)
  rw [hstart, hsource] at hhigh
  rw [hstart] at hlow
  unfold Segment.Avoids
  omega

/-- A lexeme that is not plain stays where it was read. -/
theorem mem_located_lexemes {t : Text} {y : Lexeme} (hscan : scan lexer none t = xs ++ y :: ys)
    (hy : y.kind ≠ .plain) :
    ((xs.flatMap Lexeme.text).length, y) ∈ located 0 (lexemes lexer t) := by
  rw [lexemes, hscan, joinPlain_append_of_ne hy, located_append, flatMap_joinPlain, Nat.zero_add]
  exact List.mem_append_right _ (List.mem_cons_self ..)

/-! ## Candidates among the items -/

/-- The candidates among lexemes are those among the items that are read as
    them. -/
structure Items.ChosenBy (ι : Type) [Items ι] (choose : Nat × Lexeme → Option Candidate) :
    Prop where
  takes : TakesLexemes choose
  chosen (p : Nat × ι) : choose (p.1, lexeme p.2) = Items.candidate? p

section Chosen

variable {ι : Type} [Items ι] {items : List ι}

theorem filterMap_located_map_lexeme (hc : Items.ChosenBy ι choose) (start : Nat)
    (items : List ι) :
    (located start (items.map lexeme)).filterMap choose =
      (placed start items).filterMap Items.candidate? := by
  rw [located_map_lexeme, List.filterMap_map]
  exact congrArg (List.filterMap · _) (funext hc.chosen)

theorem candidates_pairwise (hc : Items.ChosenBy ι choose) (items : List ι) :
    (candidates items).Pairwise Candidate.Before := by
  rw [candidates, ← filterMap_located_map_lexeme hc]
  exact hc.takes.pairwise _

/-- The candidates of source code whose items were read. -/
theorem codeCandidates_of_scan (hc : Items.ChosenBy ι commentCandidate?) {t : Text}
    (h : scan lexer none t = (items.map lexeme).flatMap Lexeme.split) :
    codeCandidates lexer t = candidates items := by
  rw [codeCandidates_eq, h, comments_located_split]
  exact filterMap_located_map_lexeme hc 0 items

/-- The candidates of a markup document whose items were read. -/
theorem markupCandidates_of_lexemes (hc : Items.ChosenBy ι markupCandidate?) {t : Text}
    (h : lexemes lexer t = items.map lexeme) : markupCandidates lexer t = candidates items := by
  rw [markupCandidates, h]
  exact filterMap_located_map_lexeme hc 0 items

/-- No segment reaches into an item that is no candidate. -/
theorem avoids_of_placed (hc : Items.ChosenBy ι choose) {minRatio : Float} {s : Segment}
    (hs : s ∈ Segment.ofCandidates minRatio (candidates items)) {p : Nat × ι}
    (hp : p ∈ placed 0 items) (hnone : Items.candidate? p = none) :
    s.Avoids p.1 (Items.text p.2).length := by
  rw [candidates, ← filterMap_located_map_lexeme hc] at hs
  have hmem : (p.1, lexeme p.2) ∈ located 0 (items.map lexeme) := by
    rw [located_map_lexeme]
    exact List.mem_map_of_mem hp
  exact avoids_of_located hc.takes hs hmem ((hc.chosen p).trans hnone)

end Chosen

end Kousei.Extract
