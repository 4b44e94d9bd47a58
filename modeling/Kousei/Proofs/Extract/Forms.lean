import Kousei.Proofs.Extract.Pieces
import Kousei.Proofs.Extract.Stars

/-! # Written comments

    A comment is written in one of a few forms: an opening, blanks, what it
    says, blanks, a closing (`Form`).  Whatever it says, and whatever signs of
    comments are in that, just this is read of it, at its own place
    (`body_written`).

    In every form the marker that is found is the one it was written with, so
    that what stands between the markers is known (`Form.unmark_write`).  In
    a block comment a row of stars is taken away after that.  The row may take
    blanks with it, which would be stripped anyway (`stripAt_drop`). -/

namespace Kousei.Extract

open Text

/-! ## Forms -/

/-- A form in which a comment is written. -/
inductive Form where
  /-- Two slashes or more, perhaps with an exclamation mark. -/
  | slashes (more : Nat) (exclaimed : Bool)
  /-- A run of number signs or of percent signs. -/
  | signs (sign : Char) (more : Nat)
  /-- A comment of HTML. -/
  | angles
  /-- A literal between three quotes, with letters before it. -/
  | quotes (letters : Text) (quote : Char)
  /-- A block comment that opens with any number of stars more, and closes with
      any number more. -/
  | block (more closing : Nat)
  /-- A block comment whose first line holds stars only, and whose text begins
      after the stars of another line. -/
  | row (first : Nat) (spaces blanks : Text) (more closing : Nat)
  deriving DecidableEq, Repr

namespace Form

/-- The marker that opens the comment. -/
def mark : Form → Text
  | slashes more exclaimed => List.replicate (more + 2) '/' ++ if exclaimed then ['!'] else []
  | signs sign more => List.replicate (more + 1) sign
  | angles => text "<!--"
  | quotes letters quote => letters ++ [quote, quote, quote]
  | block .. | row .. => text "/*"

/-- The row of stars after the marker of a block comment. -/
def lead : Form → Text
  | block more _ => stars more
  | row first spaces blanks more _ =>
    stars first ++ spaces ++ '\n' :: blanks ++ stars (more + 1)
  | _ => []

def opening (form : Form) : Text := form.mark ++ form.lead

def closing : Form → Text
  | slashes .. | signs .. => []
  | angles => text "-->"
  | quotes _ quote => [quote, quote, quote]
  | block _ closing | row _ _ _ _ closing => stars (closing + 1) ++ ['/']

/-- May a comment that says this be written in the form?  Stars that the text
    begins with could not be told from those of the opening. -/
def Fits (said : Text) : Form → Prop
  | slashes .. | angles => True
  | signs sign _ => sign = '#' ∨ sign = '%'
  | quotes letters quote => letters.length ≤ 2 ∧ (∀ x ∈ letters, isLiteralLetter x = true) ∧
      (quote = '"' ∨ quote = '\'')
  | block .. => said.head? ≠ some '*'
  | row first spaces blanks _ _ => (∀ x ∈ spaces, isSpaceOrTab x = true) ∧
      (∀ x ∈ blanks, isBlank x = true) ∧ (first = 0 → said.head? ≠ some '*')

/-- A comment written in the form, with blanks around what it says. -/
def write (form : Form) (w said w' : Text) : Text :=
  form.opening ++ (w ++ said ++ w' ++ form.closing)

end Form

/-! ## Blanks around what is said -/

section padded

variable {said w w' lead : Text} {place n : Nat}

theorem isBlank_head (hw : ∀ x ∈ w, isBlank x = true) (hne : w ≠ []) (t : Text) :
    ∀ x ∈ (w ++ t).head?, isBlank x = true := by
  intro x hx
  cases w with
  | nil => exact absurd rfl hne
  | cons y r =>
    cases hx
    exact hw x (List.mem_cons_self ..)

/-- What is said is found between the blanks around it. -/
theorem stripAt_padded (hsaid : Trimmed said) (hne : said ≠ []) (hw : ∀ x ∈ w, isBlank x = true)
    (hw' : ∀ x ∈ w', isBlank x = true) :
    stripAt place (w ++ said ++ w') = (place + w.length, said) := by
  have hrun : (w ++ (said ++ w')).takeWhile isBlank = w := by
    apply takeWhile_run hw
    obtain ⟨y, r, rfl⟩ := List.exists_cons_of_ne_nil hne
    exact hsaid.head
  rw [stripAt, hsaid.strip_append hw hw', List.append_assoc, hrun]

/-- It does not matter how many of the blanks before it are dropped first. -/
theorem stripAt_drop (hsaid : Trimmed said) (hne : said ≠ []) (hw : ∀ x ∈ w, isBlank x = true)
    (hlow : lead.length ≤ n) (hhigh : n ≤ lead.length + w.length) :
    stripAt (place + n) ((lead ++ (w ++ said)).drop n) =
      (place + (lead.length + w.length), said) := by
  obtain ⟨i, rfl⟩ := Nat.exists_eq_add_of_le hlow
  have hi : i ≤ w.length := by omega
  have hdrop : (lead ++ (w ++ said)).drop (lead.length + i) = w.drop i ++ said ++ [] := by
    rw [← List.drop_drop, List.drop_left, List.drop_append_of_le_length hi, List.append_nil]
  have hrest : ∀ x ∈ w.drop i, isBlank x = true := by
    intro x hx
    exact hw x (List.mem_of_mem_drop hx)
  rw [hdrop, stripAt_padded hsaid hne hrest (List.forall_mem_nil _), List.length_drop]
  congr 1
  omega

end padded

/-! ## The marker that is found -/

section unmark

variable {t comment : Text} {m : Marker} {n : Nat}

/-- The first marker whose opening stands at the head of a comment, and the
    length of the opening. -/
def opened? (comment : Text) : Option (Marker × Nat) :=
  Marker.all.findSome? fun m => (m.opening comment).map fun n => (m, n)

/-- It is the first one if none of those before it stands there. -/
theorem opened?_eq_some (ms ms' : List Marker) (hall : Marker.all = ms ++ m :: ms')
    (hnone : ∀ m' ∈ ms, m'.opening comment = none) (hsome : m.opening comment = some n) :
    opened? comment = some (m, n) := by
  have hbefore : (ms.findSome? fun m => (m.opening comment).map fun n => (m, n)) = none := by
    rw [List.findSome?_eq_none_iff]
    intro m' hm'
    rw [hnone m' hm', Option.map_none]
  rw [opened?, hall, List.findSome?_append, hbefore, List.findSome?_cons, hsome]
  rfl

/-- What stands between an opening and a closing that are found. -/
theorem unmark_of_opened {opening inner closing : Text}
    (hopened : opened? (opening ++ (inner ++ closing)) = some (m, opening.length))
    (hclosing : m.closing (inner ++ closing) = closing.length) :
    unmark (opening ++ (inner ++ closing)) = (opening.length, inner, m.starred) := by
  unfold unmark
  split
  · next hnone =>
    rw [opened?, hnone] at hopened
    cases hopened
  · next m' n' hsome =>
    rw [opened?, hsome] at hopened
    cases hopened
    simp [hclosing]

theorem literal_of_head {c : Char} (s : Text) (h : ∀ x ∈ t.head?, x ≠ c) :
    literal (c :: s) t = none := by
  cases t with
  | nil => rfl
  | cons x r =>
    rw [literal, startsWith_cons_of_ne (h x rfl)]
    rfl

theorem runOpening_replicate {c : Char} {least : Nat} (hle : least ≤ n)
    (ht : ∀ x ∈ t.head?, x ≠ c) :
    runOpening c least (List.replicate n c ++ t) = some n := by
  have hrun : (List.replicate n c ++ t).takeWhile (· == c) = List.replicate n c := by
    apply takeWhile_run
    · intro x hx
      simp [List.eq_of_mem_replicate hx]
    · intro x hx
      simp [ht x hx]
  simp [runOpening, hrun, hle]

theorem slashOpening_eq (more : Nat) (exclaimed : Bool) (ht : ∀ x ∈ t.head?, isBlank x = true) :
    slashOpening ((Form.slashes more exclaimed).mark ++ t) =
      some (Form.slashes more exclaimed).mark.length := by
  have hne {y : Char} (hy : isBlank y = false) : ∀ x ∈ t.head?, x ≠ y := by
    rintro x hx rfl
    rw [ht x hx] at hy
    cases hy
  have hdrop (u : Text) : (List.replicate (more + 2) '/' ++ u).drop (more + 2) = u :=
    List.drop_left' List.length_replicate
  cases exclaimed with
  | true =>
    have hrun : runOpening '/' 2 (List.replicate (more + 2) '/' ++ '!' :: t) = some (more + 2) := by
      apply runOpening_replicate (by omega)
      rintro x hx rfl
      cases hx
    show slashOpening (List.replicate (more + 2) '/' ++ ['!'] ++ t) = _
    rw [List.append_assoc, slashOpening, List.singleton_append, hrun, Option.map_some, hdrop]
    simp [Form.mark]
  | false =>
    have hrun : runOpening '/' 2 (List.replicate (more + 2) '/' ++ t) = some (more + 2) := by
      apply runOpening_replicate (by omega)
      exact hne (by decide)
    have hmark : (t.head? == some '!') = false := by
      rw [beq_eq_false_iff_ne]
      intro hmark
      exact hne (y := '!') (by decide) '!' hmark rfl
    show slashOpening (List.replicate (more + 2) '/' ++ [] ++ t) = _
    rw [List.append_nil, slashOpening, hrun, Option.map_some, hdrop, hmark]
    simp [Form.mark]

theorem quoteOpening_eq (quotes letters : Text) (hletters : ∀ x ∈ letters, isLiteralLetter x = true)
    (hlength : letters.length ≤ 2) (ht : ∀ x ∈ t.head?, isLiteralLetter x = false) :
    quoteOpening quotes (letters ++ t) =
      if startsWith t quotes then some (letters.length + quotes.length) else none := by
  have hrun : (letters ++ t).takeWhile isLiteralLetter = letters := takeWhile_run hletters ht
  simp [quoteOpening, hrun, Nat.min_eq_right hlength]

theorem closedBy_append (s t : Text) : closedBy s (t ++ s) = s.length := by
  have hends : endsWith (t ++ s) s = true := List.isSuffixOf_iff_suffix.2 (List.suffix_append t s)
  rw [closedBy, hends, if_pos rfl]

namespace Form

/-- The marker that the form is read by. -/
def marker : Form → Marker
  | slashes .. => ⟨slashOpening, unclosed, false⟩
  | signs sign _ => ⟨runOpening sign 1, unclosed, false⟩
  | angles => ⟨literal (text "<!--"), closedBy (text "-->"), false⟩
  | quotes _ quote => ⟨quoteOpening [quote, quote, quote], closedBy [quote, quote, quote], false⟩
  | block .. | row .. => ⟨literal (text "/*"), starClosing, true⟩

variable {form : Form} {w said w' : Text}

/-- A literal begins with one of its letters or with its quote. -/
theorem head?_quotes_ne {letters : Text} {quote y : Char}
    (hletters : ∀ x ∈ letters, isLiteralLetter x = true) (hy : isLiteralLetter y = false)
    (hquote : quote ≠ y) : ∀ x ∈ (letters ++ (quote :: t)).head?, x ≠ y := by
  intro x hx
  cases letters with
  | nil =>
    cases hx
    exact hquote
  | cons z r =>
    cases hx
    rintro rfl
    have hletter := hletters x List.mem_cons_self
    rw [hy] at hletter
    cases hletter

/-- No marker before that of its quotes opens a literal. -/
theorem opened?_quotes {letters : Text} {quote : Char} (h : (quotes letters quote).Fits said)
    (t : Text) :
    opened? ((quotes letters quote).mark ++ t) =
      some ((quotes letters quote).marker, (quotes letters quote).mark.length) := by
  obtain ⟨hlength, hletters, hquote⟩ := h
  have hletter : isLiteralLetter quote = false := by
    rcases hquote with rfl | rfl <;> decide
  have hquotes : ∀ x ∈ ([quote, quote, quote] ++ t).head?, isLiteralLetter x = false := by
    intro x hx
    cases hx
    exact hletter
  have hangle (s : Text) : literal ('<' :: s) (letters ++ ([quote, quote, quote] ++ t)) = none := by
    refine literal_of_head s (head?_quotes_ne hletters (by decide) ?_)
    rcases hquote with rfl | rfl <;> decide
  have hslash (s : Text) : literal ('/' :: s) (letters ++ ([quote, quote, quote] ++ t)) = none := by
    refine literal_of_head s (head?_quotes_ne hletters (by decide) ?_)
    rcases hquote with rfl | rfl <;> decide
  show opened? (letters ++ [quote, quote, quote] ++ t) =
    some (_, (letters ++ [quote, quote, quote]).length)
  rw [List.append_assoc, List.length_append]
  rcases hquote with rfl | rfl
  · refine opened?_eq_some (Marker.all.take 2) (Marker.all.drop 3) rfl ?_ ?_
    · simp only [Marker.all, List.take, List.forall_mem_cons]
      exact ⟨hangle _, hslash _, List.forall_mem_nil _⟩
    · exact quoteOpening_eq _ letters hletters hlength hquotes
  · refine opened?_eq_some (Marker.all.take 3) (Marker.all.drop 4) rfl ?_ ?_
    · simp only [Marker.all, List.take, List.forall_mem_cons]
      refine ⟨hangle _, hslash _, ?_, List.forall_mem_nil _⟩
      exact quoteOpening_eq _ letters hletters hlength hquotes
    · exact quoteOpening_eq _ letters hletters hlength hquotes

/-- The marker that is found is the one the comment was written with: what
    follows it cannot make it longer. -/
theorem opened?_mark (h : form.Fits said)
    (ht : form.lead = [] → ∀ x ∈ t.head?, isBlank x = true) :
    opened? (form.mark ++ t) = some (form.marker, form.mark.length) := by
  have hne (hlead : form.lead = []) {y : Char} (hy : isBlank y = false) : ∀ x ∈ t.head?, x ≠ y := by
    rintro x hx rfl
    rw [ht hlead x hx] at hy
    cases hy
  cases form with
  | slashes more exclaimed =>
    refine opened?_eq_some (Marker.all.take 4) (Marker.all.drop 5) rfl ?_
      (slashOpening_eq more exclaimed (ht rfl))
    simp only [mark, Marker.all, List.take, List.forall_mem_cons]
    exact ⟨rfl, rfl, rfl, rfl, List.forall_mem_nil _⟩
  | signs sign more =>
    have hread (hsign : isBlank sign = false) :
        runOpening sign 1 (List.replicate (more + 1) sign ++ t) =
          some (List.replicate (more + 1) sign).length := by
      rw [List.length_replicate]
      exact runOpening_replicate (Nat.le_add_left 1 more) (hne rfl hsign)
    obtain rfl | rfl := h
    · refine opened?_eq_some (Marker.all.take 5) (Marker.all.drop 6) rfl ?_
        (hread (by decide))
      simp only [mark, Marker.all, List.take, List.forall_mem_cons]
      exact ⟨rfl, rfl, rfl, rfl, rfl, List.forall_mem_nil _⟩
    · refine opened?_eq_some (Marker.all.take 6) [] rfl ?_ (hread (by decide))
      simp only [mark, Marker.all, List.take, List.forall_mem_cons]
      exact ⟨rfl, rfl, rfl, rfl, rfl, rfl, List.forall_mem_nil _⟩
  | angles => rfl
  | quotes letters quote => exact opened?_quotes h t
  | block more closing => rfl
  | row first spaces blanks more closing => rfl

/-- The closing is found at the end, for there are no signs of it before. -/
theorem closing_append (form : Form) (ht : ∀ x ∈ t.getLast?, isBlank x = true) :
    form.marker.closing (t ++ form.closing) = form.closing.length := by
  have hstar : ∀ x ∈ t.getLast?, x ≠ '*' := by
    intro x hx
    exact ne_star_of_isBlank (ht x hx)
  cases form with
  | slashes more exclaimed => rfl
  | signs sign more => rfl
  | angles => exact closedBy_append _ t
  | quotes letters quote => exact closedBy_append _ t
  | block more closing => exact starClosing_append closing hstar
  | row first spaces blanks more closing => exact starClosing_append closing hstar

/-- What stands between the markers of a written comment. -/
theorem unmark_write (h : form.Fits said) (hw : ∀ x ∈ w, isBlank x = true) (hne : w ≠ [])
    (hw' : ∀ x ∈ w', isBlank x = true) (hne' : w' ≠ []) :
    unmark (form.write w said w') =
      (form.mark.length, form.lead ++ (w ++ said ++ w'), form.marker.starred) := by
  have hlist : form.write w said w' =
      form.mark ++ (form.lead ++ (w ++ said ++ w') ++ form.closing) := by
    simp only [write, opening, List.append_assoc]
  rw [hlist]
  apply unmark_of_opened
  · apply opened?_mark h
    intro hlead
    simp only [hlead, List.nil_append, List.append_assoc]
    exact isBlank_head hw hne _
  · apply closing_append
    intro x hx
    -- The last character before the closing is one of the blanks.
    rw [← List.append_assoc, List.getLast?_append_of_ne_nil _ hne'] at hx
    exact hw' x (List.mem_of_mem_getLast? hx)

end Form

end unmark

/-! ## The row that is taken away -/

section row

variable {w said w' spaces blanks : Text} {place : Nat}

/-- A row is taken away with no more than the blanks after it. -/
theorem unstar_padded (pre row : Text) (hsaid : Trimmed said) (hne : said ≠ [])
    (hw : ∀ x ∈ w, isBlank x = true) (hw' : ∀ x ∈ w', isBlank x = true)
    (hpre : ∀ x ∈ pre, isBlank x = true)
    (hrow : row.head? = some '*') (hlow : row.length ≤ starLength (row ++ (w ++ said)))
    (hhigh : starLength (row ++ (w ++ said)) ≤ row.length + w.length) :
    unstar (stripAt place (pre ++ row ++ (w ++ said ++ w'))) =
      (place + ((pre ++ row).length + w.length), said) := by
  have htrimmed : Trimmed (row ++ (w ++ said)) := by
    constructor
    · intro x hx
      rw [List.head?_append, hrow] at hx
      cases hx
      decide
    · intro x hx
      rw [← List.append_assoc, List.getLast?_append_of_ne_nil _ hne] at hx
      exact hsaid.last x hx
  have hne' : row ++ (w ++ said) ≠ [] := by
    rintro hnil
    obtain ⟨rfl, -⟩ := List.append_eq_nil_iff.1 hnil
    cases hrow
  have hlist : pre ++ row ++ (w ++ said ++ w') = pre ++ (row ++ (w ++ said)) ++ w' := by
    simp only [List.append_assoc]
  rw [hlist, stripAt_padded htrimmed hne' hpre hw', unstar, stripAt_drop hsaid hne hw hlow hhigh,
    List.length_append]
  congr 1
  omega

theorem isBlank_of_isSpaceOrTab {x : Char} (h : isSpaceOrTab x = true) : isBlank x = true := by
  simp only [isSpaceOrTab, Bool.or_eq_true, beq_iff_eq] at h
  rcases h with rfl | rfl <;> decide

/-- A text that begins with no blank begins with neither a space nor a tab. -/
theorem isSpaceOrTab_head {t : Text} (h : ∀ x ∈ t.head?, isBlank x = false) :
    ∀ x ∈ t.head?, isSpaceOrTab x = false := by
  intro x hx
  rw [Bool.eq_false_iff]
  intro hspace
  have hblank := h x hx
  rw [isBlank_of_isSpaceOrTab hspace] at hblank
  cases hblank

/-- Where no stars stand nothing is taken away. -/
theorem unstar_of_head (hsaid : Trimmed said) (hstar : ∀ x ∈ said.head?, x ≠ '*') :
    unstar (place, said) = (place, said) := by
  simp [unstar, starLength_of_head hstar, stripAt, hsaid.strip, hsaid.takeWhile_isBlank]

/-- Stars in one line: the row ends within the blanks after them. -/
theorem starLength_line (k : Nat) (hsaid : Trimmed said) (hstar : ∀ x ∈ said.head?, x ≠ '*')
    (hw : ∀ x ∈ w, isBlank x = true) :
    (stars (k + 1)).length ≤ starLength (stars (k + 1) ++ (w ++ said)) ∧
      starLength (stars (k + 1) ++ (w ++ said)) ≤ (stars (k + 1)).length + w.length := by
  -- The spaces and tabs among the blanks go with the stars, and no more stars come.
  obtain ⟨u, v, hsplit, hu, hv⟩ := exists_run isSpaceOrTab w
  have hblank : ∀ x ∈ v, isBlank x = true := by
    intro x hx
    exact hw x (by rw [hsplit]; exact List.mem_append_right u hx)
  have hnext : ∀ x ∈ (v ++ said).head?, isSpaceOrTab x = false := by
    cases v with
    | nil => exact isSpaceOrTab_head hsaid.head
    | cons y r => exact hv
  have hnone : ∀ x ∈ (u ++ (v ++ said)).head?, x ≠ '*' := by
    rw [← List.append_assoc, ← hsplit]
    cases w with
    | nil => exact hstar
    | cons y r =>
      intro x hx
      cases hx
      exact ne_star_of_isBlank (hw y (List.mem_cons_self ..))
  have hlength : starLength (stars (k + 1) ++ (w ++ said)) = k + 1 + u.length := by
    rw [hsplit, List.append_assoc, starLength_row k ⟨hu, hnone, hnext⟩,
      nextRow_of_blank hblank hsaid.head hstar, Nat.add_zero]
  rw [hlength, hsplit, length_stars, List.length_append]
  omega

/-- Stars in two lines: the row ends after at most one of the blanks that follow. -/
theorem starLength_lines {first more : Nat} {row : Text} (said : Text)
    (hrow : row = stars (first + 1) ++ spaces ++ '\n' :: blanks ++ stars (more + 1))
    (hspaces : ∀ x ∈ spaces, isSpaceOrTab x = true) (hblanks : ∀ x ∈ blanks, isBlank x = true)
    (hw : ∀ x ∈ w, isBlank x = true) (hne : w ≠ []) :
    row.length ≤ starLength (row ++ (w ++ said)) ∧
      starLength (row ++ (w ++ said)) ≤ row.length + w.length := by
  have hpos := List.length_pos_iff.2 hne
  have hstar : ∀ x ∈ (w ++ said).head?, x ≠ '*' := by
    intro x hx
    exact ne_star_of_isBlank (isBlank_head hw hne said x hx)
  have hlist : row ++ (w ++ said) =
      stars (first + 1) ++ (spaces ++ '\n' :: (blanks ++ (stars (more + 1) ++ (w ++ said)))) := by
    simp [hrow]
  have hone : (((w ++ said).take 1).takeWhile isSpaceOrTab).length ≤ 1 := by
    have hle := (List.takeWhile_prefix (l := (w ++ said).take 1) isSpaceOrTab).length_le
    rw [List.length_take] at hle
    omega
  rw [hlist, starLength_row first (spaced_feed hspaces _), nextRow_stars more hblanks hstar]
  simp only [hrow, List.length_append, List.length_cons, length_stars]
  omega

/-- A row in one line, after blanks. -/
theorem unstar_line (pre : Text) (k : Nat) (hsaid : Trimmed said) (hne : said ≠ [])
    (hstar : said.head? ≠ some '*') (hw : ∀ x ∈ w, isBlank x = true)
    (hw' : ∀ x ∈ w', isBlank x = true) (hpre : ∀ x ∈ pre, isBlank x = true) :
    unstar (stripAt place (pre ++ stars (k + 1) ++ (w ++ said ++ w'))) =
      (place + ((pre ++ stars (k + 1)).length + w.length), said) := by
  have hhead : ∀ x ∈ said.head?, x ≠ '*' := by
    rintro x hx rfl
    exact hstar hx
  obtain ⟨hlow, hhigh⟩ := starLength_line k hsaid hhead hw
  exact unstar_padded pre _ hsaid hne hw hw' hpre rfl hlow hhigh

end row

/-! ## What is read of a written comment -/

section written

variable {form : Form} {w said w' : Text}

theorem Form.lead_eq_nil (h : form.marker.starred = false) : form.lead = [] := by
  cases form with
  | slashes | signs | angles | quotes => rfl
  | block | row => cases h

/-- The row of a block comment is taken away, and the blanks with it. -/
theorem Form.unstar_lead (place : Nat) (hstarred : form.marker.starred = true) (h : form.Fits said)
    (hsaid : Trimmed said) (hne : said ≠ []) (hw : ∀ x ∈ w, isBlank x = true) (hw0 : w ≠ [])
    (hw' : ∀ x ∈ w', isBlank x = true) :
    unstar (stripAt place (form.lead ++ (w ++ said ++ w'))) =
      (place + (form.lead.length + w.length), said) := by
  cases form with
  | slashes | signs | angles | quotes => cases hstarred
  | block more closing =>
    cases more with
    | zero =>
      have hhead : ∀ x ∈ said.head?, x ≠ '*' := by
        rintro x hx rfl
        exact h hx
      show unstar (stripAt place (w ++ said ++ w')) = (place + (0 + w.length), said)
      rw [stripAt_padded hsaid hne hw hw', unstar_of_head hsaid hhead, Nat.zero_add]
    | succ more => exact unstar_line [] more hsaid hne h hw hw' (List.forall_mem_nil _)
  | row first spaces blanks more closing =>
    obtain ⟨hspaces, hblanks, hfirst⟩ := h
    cases first with
    | zero =>
      -- The spaces and the line end are stripped, and one row of stars is left.
      refine unstar_line (spaces ++ '\n' :: blanks) more hsaid hne (hfirst rfl) hw hw' ?_
      intro x hx
      rcases List.mem_append.1 hx with hx | hx
      · exact isBlank_of_isSpaceOrTab (hspaces x hx)
      · rcases List.mem_cons.1 hx with rfl | hx
        · decide
        · exact hblanks x hx
    | succ first =>
      obtain ⟨hlow, hhigh⟩ := starLength_lines said rfl hspaces hblanks hw hw0
      exact unstar_padded [] _ hsaid hne hw hw' (List.forall_mem_nil _) rfl hlow hhigh

/-- **Written comments.**  Of a comment in any form just what it says is read, at its own
    place, whatever that is. -/
theorem body_written (h : form.Fits said) (hsaid : Trimmed said) (hne : said ≠ [])
    (hw : ∀ x ∈ w, isBlank x = true) (hw0 : w ≠ []) (hw' : ∀ x ∈ w', isBlank x = true)
    (hw0' : w' ≠ []) :
    body (form.write w said w') true = (form.opening.length + w.length, said) := by
  have hlength : form.opening.length = form.mark.length + form.lead.length := List.length_append
  rw [body_of_unmark (form.unmark_write h hw hw0 hw' hw0'), hlength, Nat.add_assoc]
  split
  · next hstarred => exact Form.unstar_lead _ hstarred h hsaid hne hw hw0 hw'
  · next hplain =>
    rw [Form.lead_eq_nil (Bool.eq_false_iff.2 hplain), List.nil_append,
      stripAt_padded hsaid hne hw hw', List.length_nil, Nat.zero_add]

/-- A comment with a row in two lines. -/
def sampleRow : Form := .row 1 (text " \t") (text "  ") 0 1

/-- Signs of other comments, and a line that could be part of a row. -/
def sampleSaid : Text := text "*/ // 日本語\n * \"\"\" --> #!"

theorem body_written_of_sampleSaid :
    sampleRow.write (text "\n") sampleSaid (text "\r\n ") =
      text "/** \t\n  *\n*/ // 日本語\n * \"\"\" --> #!\r\n **/" ∧
    sampleRow.Fits sampleSaid ∧ Trimmed sampleSaid ∧
    body (sampleRow.write (text "\n") sampleSaid (text "\r\n ")) true = (10, sampleSaid) := by
  have hfits : sampleRow.Fits sampleSaid := ⟨by decide, by decide, by decide⟩
  have htrimmed : Trimmed sampleSaid := ⟨by decide, by decide⟩
  refine ⟨by decide, hfits, htrimmed, ?_⟩
  exact body_written hfits htrimmed (by decide) (by decide) (by decide) (by decide) (by decide)

end written

end Kousei.Extract
