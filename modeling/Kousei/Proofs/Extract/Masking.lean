import Mathlib.Data.List.Pairwise
import Mathlib.Data.Nat.Find
import Kousei.Proofs.Extract.Heads

/-! # Masking

    The markup of a document is found from left to right: at the first place
    where the lexer finds something, and then at the first place after that
    where it finds something again (`Finds`).  There is one list of things that
    are found so (`finds_unique`), and the candidates are the comments among
    them and the text in between (`markupCandidates_eq_masked`).

    No text is lost and none is there twice: each place of the document is in
    one candidate or in one thing that is passed over (`cover_masked`).  That
    rests on the lexer, which never finds nothing and never goes back
    (`Lexer.Advances`). -/

namespace Kousei.Extract

open Text

/-! ## What is found -/

/-- Something that was found at a place of a document. -/
structure Match where
  start : Nat
  length : Nat
  kind : Kind
  deriving DecidableEq, Repr

namespace Match

def stop (m : Match) : Nat := m.start + m.length

/-- Is it passed over? -/
def discarded (m : Match) : Bool := m.kind != .comment

/-- Is the place in it? -/
def covers (p : Nat) (m : Match) : Bool := m.start ≤ p && p < m.stop

end Match

/-- What the lexer finds at a place of a text. -/
def Lexer.readAt (lexer : Lexer) (t : Text) (i : Nat) : Option (Kind × Nat) :=
  lexer (t.take i).getLast? (t.drop i)

/-- These are found from left to right, from the place on. -/
inductive Finds (lexer : Lexer) (t : Text) : Nat → List Match → Prop where
  | done {i : Nat} : (∀ j, i ≤ j → lexer.readAt t j = none) → Finds lexer t i []
  | next {i j n : Nat} {kind : Kind} {ms : List Match} :
      i ≤ j → (∀ l, i ≤ l → l < j → lexer.readAt t l = none) →
      lexer.readAt t j = some (kind, n) → Finds lexer t (j + n) ms →
      Finds lexer t i (⟨j, n, kind⟩ :: ms)

variable {lexer : Lexer} {t : Text} {i j n p : Nat} {kind : Kind} {ms ms' : List Match}

/-- There is only one list of them. -/
theorem finds_unique (h : Finds lexer t i ms) (h' : Finds lexer t i ms') : ms = ms' := by
  induction h generalizing ms' with
  | done hnone =>
    cases h' with
    | done => rfl
    | next hij _ hread _ =>
      rw [hnone _ hij] at hread
      cases hread
  | @next i j n kind ms hij hnone hread _ ih =>
    cases h' with
    | done hnone' =>
      rw [hnone' j hij] at hread
      cases hread
    | @next _ j' n' kind' ms' hij' hnone' hread' hrest' =>
      -- Neither place can come before the other.
      rcases Nat.lt_trichotomy j j' with hlt | rfl | hlt
      · rw [hnone' j hij hlt] at hread
        cases hread
      · rw [hread] at hread'
        cases hread'
        rw [ih hrest']
      · rw [hnone j' hij' hlt] at hread'
        cases hread'

/-- What a lexer finds lies within the text. -/
theorem Lexer.Advances.readAt (h : lexer.Advances) (hread : lexer.readAt t j = some (kind, n)) :
    kind ≠ .plain ∧ 0 < n ∧ j + n ≤ t.length := by
  obtain ⟨hkind, hpos, hle⟩ := h hread
  rw [List.length_drop] at hle
  exact ⟨hkind, hpos, by omega⟩

theorem exists_finds (h : lexer.Advances) (t : Text) (i : Nat) : ∃ ms, Finds lexer t i ms := by
  induction hrest : t.length - i using Nat.strong_induction_on generalizing i with
  | h rest ih =>
    by_cases hnone : ∀ j, i ≤ j → lexer.readAt t j = none
    · exact ⟨[], .done hnone⟩
    · have hsome : ∃ j, i ≤ j ∧ lexer.readAt t j ≠ none := by
        simpa only [not_forall, exists_prop] using hnone
      -- The first place comes first.
      obtain ⟨hij, hread⟩ := Nat.find_spec hsome
      obtain ⟨⟨kind, n⟩, hread⟩ := Option.ne_none_iff_exists'.1 hread
      obtain ⟨-, hpos, hle⟩ := h.readAt hread
      obtain ⟨ms, hms⟩ := ih _ (by omega) (Nat.find hsome + n) rfl
      refine ⟨_, .next hij ?_ hread hms⟩
      intro l hil hl
      by_contra hne
      exact Nat.find_min hsome hl ⟨hil, hne⟩

/-! ## The text in between -/

/-- The text from one place to another, if there is any. -/
def between (t : Text) (i j : Nat) : List Candidate :=
  if i < j then [⟨i, t.slice i j, false⟩] else []

/-- A comment, which is not passed over. -/
def Match.candidates (t : Text) (m : Match) : List Candidate :=
  if m.discarded then [] else [⟨m.start, t.slice m.start m.stop, true⟩]

/-- The text that is left from a place on, and the comments in it. -/
def masked (t : Text) (i : Nat) : List Match → List Candidate
  | [] => between t i t.length
  | m :: ms => between t i m.start ++ m.candidates t ++ masked t m.stop ms

theorem length_slice_of_le (hj : j ≤ t.length) : (t.slice i j).length = j - i := by
  rw [length_slice, Nat.min_eq_left hj]

/-- Where nothing is found, the text is scanned as plain text. -/
theorem scan_between (hij : i ≤ j) (hj : j ≤ t.length)
    (hnone : ∀ l, i ≤ l → l < j → lexer.readAt t l = none) :
    scan lexer (t.take i).getLast? (t.drop i) =
      (t.slice i j).map (fun c => ⟨.plain, [c]⟩) ++ scan lexer (t.take j).getLast? (t.drop j) := by
  induction hrest : j - i generalizing i with
  | zero =>
    obtain rfl : i = j := by omega
    rw [slice_eq_nil t (Nat.le_refl i)]
    rfl
  | succ d ih =>
    have hlt : i < t.length := by omega
    have hdrop : t.drop i = t[i] :: t.drop (i + 1) := List.drop_eq_getElem_cons hlt
    have hlast : (t.take (i + 1)).getLast? = some t[i] := by
      rw [List.take_succ_eq_append_getElem hlt, List.getLast?_concat]
    have hslice : t.slice i j = t[i] :: t.slice (i + 1) j := by
      have hlt' : i < (t.take j).length := by
        rw [List.length_take_of_le hj]
        omega
      rw [Text.slice, Text.slice, List.drop_eq_getElem_cons hlt', List.getElem_take]
    have hplain : lexer (t.take i).getLast? (t[i] :: t.drop (i + 1)) = none := by
      rw [← hdrop]
      exact hnone i (Nat.le_refl i) (by omega)
    have hnext := ih (i := i + 1) (by omega) (fun l hl => hnone l (by omega)) (by omega)
    rw [hlast] at hnext
    rw [hdrop, scan_plain hplain, hslice, hnext]
    rfl

/-- What is found is the next lexeme. -/
theorem scan_readAt (h : lexer.Advances) (hread : lexer.readAt t j = some (kind, n)) :
    scan lexer (t.take j).getLast? (t.drop j) =
      ⟨kind, t.slice j (j + n)⟩ :: scan lexer (t.take (j + n)).getLast? (t.drop (j + n)) := by
  obtain ⟨-, hpos, hle⟩ := h.readAt hread
  have hne : t.drop j ≠ [] := by
    rw [Ne, List.drop_eq_nil_iff]
    omega
  have hslice : (t.drop j).take n = t.slice j (j + n) := by
    rw [Text.slice, List.take_drop]
  have hlast : ((t.drop j).take n).getLast? = (t.take (j + n)).getLast? := by
    have hne' : (t.drop j).take n ≠ [] := by
      rw [← List.length_pos_iff, List.length_take, List.length_drop]
      omega
    rw [List.take_add, List.getLast?_append_of_ne_nil _ hne']
  rw [scan_read hne hpos hread, hlast, hslice, List.drop_drop]

/-- Plain characters in a row are one candidate. -/
theorem candidates_map_append (hij : i ≤ j) (hj : j ≤ t.length) (ys : List Lexeme)
    (hys : ∀ y, ys.head? = some y → y.kind ≠ .plain) :
    (located i (joinPlain ((t.slice i j).map (fun c => ⟨.plain, [c]⟩) ++ ys))).filterMap
        markupCandidate? =
      between t i j ++ (located j (joinPlain ys)).filterMap markupCandidate? := by
  have hlength := length_slice_of_le (i := i) hj
  unfold between
  split
  · next hlt =>
    have hne : t.slice i j ≠ [] := by
      rw [← List.length_pos_iff]
      omega
    have hjoin := joinPlain_split_append (x := ⟨.plain, t.slice i j⟩) hne fun _ => hys
    have hstart : i + (t.slice i j).length = j := by omega
    rw [Lexeme.split, if_pos rfl] at hjoin
    rw [hjoin, located, hstart]
    rfl
  · next hlt =>
    obtain rfl : i = j := by omega
    rw [slice_eq_nil t (Nat.le_refl i)]
    rfl

theorem candidates_eq_masked (h : lexer.Advances) (hi : i ≤ t.length)
    (hfinds : Finds lexer t i ms) :
    (located i (joinPlain (scan lexer (t.take i).getLast? (t.drop i)))).filterMap markupCandidate? =
      masked t i ms := by
  induction hfinds with
  | done hnone =>
    have hplain := scan_between hi (Nat.le_refl t.length) fun l hl _ => hnone l hl
    rw [List.drop_length, scan] at hplain
    rw [hplain, candidates_map_append hi (Nat.le_refl _) [] fun y hy => by cases hy]
    exact List.append_nil _
  | @next i j n kind ms hij hnone hread hrest ih =>
    obtain ⟨hkind, hpos, hle⟩ := h.readAt hread
    have hj : j ≤ t.length := by omega
    have hstart : j + (t.slice j (j + n)).length = j + n := by
      rw [length_slice_of_le hle, Nat.add_sub_cancel_left]
    have hmasked : masked t i (⟨j, n, kind⟩ :: ms) =
        between t i j ++ (Match.candidates t ⟨j, n, kind⟩ ++ masked t (j + n) ms) :=
      List.append_assoc ..
    rw [scan_between hij hj hnone, scan_readAt h hread, candidates_map_append hij hj,
      joinPlain_cons_of_ne hkind, located, hstart, hmasked, ← ih hle]
    · cases kind with
      | plain => exact absurd rfl hkind
      | comment => rfl
      | skipped => rfl
    · intro y hy
      cases hy
      exact hkind

/-- The candidates of markup are the comments that are found and the text in between. -/
theorem markupCandidates_eq_masked (h : lexer.Advances) (hfinds : Finds lexer t 0 ms) :
    markupCandidates lexer t = masked t 0 ms :=
  candidates_eq_masked h (Nat.zero_le _) hfinds

/-! ## Nothing is lost -/

/-- Is the place in the candidate? -/
def covers (p : Nat) (c : Candidate) : Bool := c.start ≤ p && p < c.start + c.source.length

/-- In how many of the things that are passed over and of the candidates a place is. -/
def cover (p : Nat) (ms : List Match) (cs : List Candidate) : Nat :=
  (ms.filter Match.discarded).countP (Match.covers p) + cs.countP (covers p)

theorem cover_append (p : Nat) (ms ms' : List Match) (cs cs' : List Candidate) :
    cover p (ms ++ ms') (cs ++ cs') = cover p ms cs + cover p ms' cs' := by
  simp only [cover, List.filter_append, List.countP_append]
  omega

theorem covers_slice (hij : i ≤ j) (hj : j ≤ t.length) (markers : Bool) (p : Nat) :
    covers p ⟨i, t.slice i j, markers⟩ = true ↔ i ≤ p ∧ p < j := by
  simp only [covers, length_slice_of_le hj, Bool.and_eq_true, decide_eq_true_eq]
  omega

theorem cover_between (hij : i ≤ j) (hj : j ≤ t.length) (p : Nat) :
    cover p [] (between t i j) = if i ≤ p ∧ p < j then 1 else 0 := by
  unfold between
  split
  · show 0 + List.countP (covers p) [⟨i, t.slice i j, false⟩] = _
    rw [List.countP_singleton, Nat.zero_add]
    simp only [covers_slice hij hj]
  · rw [if_neg (by omega)]
    rfl

/-- What is found is either passed over or a candidate. -/
theorem cover_candidates (m : Match) (hm : m.stop ≤ t.length) (p : Nat) :
    cover p [m] (m.candidates t) = if m.start ≤ p ∧ p < m.stop then 1 else 0 := by
  have hle : m.start ≤ m.stop := Nat.le_add_right m.start m.length
  cases hdiscarded : m.discarded with
  | true =>
    simp [cover, Match.candidates, hdiscarded, List.countP_singleton, Match.covers]
  | false =>
    have hcovers := covers_slice hle hm true p
    simp [cover, Match.candidates, hdiscarded, List.countP_singleton, hcovers]

/-- From a place on, each place is in one of them. -/
theorem cover_masked (h : lexer.Advances) (hi : i ≤ t.length) (hfinds : Finds lexer t i ms)
    (p : Nat) : cover p ms (masked t i ms) = if i ≤ p ∧ p < t.length then 1 else 0 := by
  induction hfinds with
  | done hnone => exact cover_between hi (Nat.le_refl _) p
  | @next i j n kind ms hij hnone hread hrest ih =>
    obtain ⟨-, -, hle⟩ := h.readAt hread
    let m : Match := ⟨j, n, kind⟩
    calc cover p (m :: ms) (masked t i (m :: ms))
      _ = cover p [] (between t i j) + cover p [m] (m.candidates t) +
            cover p ms (masked t (j + n) ms) := by
        rw [← cover_append, ← cover_append]
        rfl
      _ = (if i ≤ p ∧ p < j then 1 else 0) + (if j ≤ p ∧ p < j + n then 1 else 0) +
            (if j + n ≤ p ∧ p < t.length then 1 else 0) := by
        rw [cover_between hij (by omega), cover_candidates m hle, ih hle]
        rfl
      _ = if i ≤ p ∧ p < t.length then 1 else 0 := by
        split_ifs <;> omega

/-! ## Masking -/

/-- What is to hold of the things that are found in a text and of its candidates. -/
structure Masking (t : Text) (ms : List Match) (cs : List Candidate) : Prop where
  /-- Nothing that is found is empty. -/
  length_pos : ∀ m ∈ ms, 0 < m.length
  /-- Each ends before the next one begins. -/
  matches_apart : ms.Pairwise fun m m' => m.stop ≤ m'.start
  /-- No candidate is empty. -/
  source_ne_nil : ∀ c ∈ cs, c.source ≠ []
  /-- Each ends before the next one begins. -/
  candidates_apart : cs.Pairwise Candidate.Before
  /-- A candidate is the text at its place. -/
  standsAt : ∀ c ∈ cs, ∃ o : Nat, c.start = o ∧ StandsAt c.source t o
  /-- Each place of the text, and no other place, is in one candidate or in one thing
      that is passed over. -/
  covered_once : ∀ p, cover p ms cs = if p < t.length then 1 else 0
  /-- A place that is in nothing that is passed over is in one candidate. -/
  unmasked : ∀ p < t.length, (∀ m ∈ ms, m.discarded = true → m.covers p = false) →
    ∃! c, c ∈ cs ∧ covers p c = true

namespace Finds

theorem le_start (hfinds : Finds lexer t i ms) : ∀ m ∈ ms, i ≤ m.start := by
  induction hfinds with
  | done => exact List.forall_mem_nil _
  | next hij _ _ _ ih =>
    refine List.forall_mem_cons.2 ⟨hij, ?_⟩
    intro m hm
    have hle := ih m hm
    omega

theorem length_pos (h : lexer.Advances) (hfinds : Finds lexer t i ms) :
    ∀ m ∈ ms, 0 < m.length := by
  induction hfinds with
  | done => exact List.forall_mem_nil _
  | next _ _ hread _ ih => exact List.forall_mem_cons.2 ⟨(h.readAt hread).2.1, ih⟩

theorem pairwise (hfinds : Finds lexer t i ms) : ms.Pairwise fun m m' => m.stop ≤ m'.start := by
  induction hfinds with
  | done => exact List.Pairwise.nil
  | next _ _ _ hrest ih => exact List.pairwise_cons.2 ⟨hrest.le_start, ih⟩

end Finds

/-- Candidates that keep apart have no place in common. -/
theorem eq_of_covers {cs : List Candidate} {c d : Candidate} (hcs : cs.Pairwise Candidate.Before)
    (hc : c ∈ cs) (hd : d ∈ cs) (hpc : covers p c = true) (hpd : covers p d = true) : c = d := by
  have hapart : cs.Pairwise fun a b => ¬ (covers p a = true ∧ covers p b = true) := by
    refine hcs.imp ?_
    rintro a b hbefore ⟨ha, hb⟩
    simp only [covers, Bool.and_eq_true, decide_eq_true_eq] at ha hb
    unfold Candidate.Before at hbefore
    omega
  have hsymm : Std.Symm fun a b => ¬ (covers p a = true ∧ covers p b = true) := by
    constructor
    intro a b hab hba
    exact hab hba.symm
  by_contra hne
  exact hapart.forall hc hd hne ⟨hpc, hpd⟩

theorem source_ne_nil (lexer : Lexer) (t : Text) :
    ∀ c ∈ markupCandidates lexer t, c.source ≠ [] := by
  intro c hc
  obtain ⟨x, hx, hxc⟩ := List.mem_filterMap.1 hc
  obtain ⟨-, hsource⟩ := takesLexemes_markupCandidate? x c hxc
  rw [hsource]
  exact lexemes_ne_nil lexer t x.2 (mem_of_mem_located hx)

theorem masking_of_finds (h : lexer.Advances) (hfinds : Finds lexer t 0 ms) :
    Masking t ms (markupCandidates lexer t) := by
  have honce (p : Nat) :
      cover p ms (markupCandidates lexer t) = if p < t.length then 1 else 0 := by
    rw [markupCandidates_eq_masked h hfinds, cover_masked h (Nat.zero_le _) hfinds]
    simp
  have hapart := markupCandidates_pairwise lexer t
  constructor
  case length_pos => exact hfinds.length_pos h
  case matches_apart => exact hfinds.pairwise
  case source_ne_nil => exact source_ne_nil lexer t
  case candidates_apart => exact hapart
  case covered_once => exact honce
  case standsAt =>
    intro c hc
    exact takesLexemes_markupCandidate?.standsIn lexer t c hc (source_ne_nil lexer t c hc)
  case unmasked =>
    intro p hp hnone
    have hzero : (ms.filter Match.discarded).countP (Match.covers p) = 0 := by
      rw [List.countP_eq_zero]
      intro m hm
      obtain ⟨hm, hdiscarded⟩ := List.mem_filter.1 hm
      rw [hnone m hm hdiscarded]
      exact Bool.false_ne_true
    have hone := honce p
    rw [cover, hzero, if_pos hp, Nat.zero_add] at hone
    obtain ⟨c, hc, hpc⟩ := List.countP_pos_iff.1 (Nat.lt_of_lt_of_eq Nat.one_pos hone.symm)
    refine ⟨c, ⟨hc, hpc⟩, ?_⟩
    rintro d ⟨hd, hpd⟩
    exact eq_of_covers hapart hd hc hpd hpc

theorem exists_masking (h : lexer.Advances) (t : Text) :
    ∃ ms, (∀ ms', Finds lexer t 0 ms' ↔ ms' = ms) ∧ Masking t ms (markupCandidates lexer t) := by
  obtain ⟨ms, hms⟩ := exists_finds h t 0
  refine ⟨ms, ?_, masking_of_finds h hms⟩
  intro ms'
  constructor
  · intro h'
    exact finds_unique h' hms
  · rintro rfl
    exact hms

/-- **Masking.**  In HTML and in LaTeX just one list of things is found from left to right in a
    text, and these and the candidates lose no text and have none twice. -/
theorem markup_masking (t : Text) :
    (∃ ms, (∀ ms', Finds htmlLexer t 0 ms' ↔ ms' = ms) ∧
      Masking t ms (markupCandidates htmlLexer t)) ∧
    (∃ ms, (∀ ms', Finds latexLexer t 0 ms' ↔ ms' = ms) ∧
      Masking t ms (markupCandidates latexLexer t)) :=
  ⟨exists_masking htmlLexer_advances t, exists_masking latexLexer_advances t⟩

end Kousei.Extract
