import Kousei.Extract.Html
import Kousei.Extract.Latex
import Kousei.Proofs.Extract.Body
import Kousei.Proofs.Extract.Pieces

/-! # What a lexer reads

    A lexer says how long the thing is that begins at the head of a text.  For
    the lexers of markup this is never nothing, never more than there is, and
    never plain text (`Lexer.Advances`), so scanning goes on after it and never
    back.

    A lexer is made of parts, and each part is seen to read a head of its text
    from the way it searches (`IsHead`). -/

namespace Kousei.Extract

open Text

/-- There is a head of the text that is as long, and it is not empty. -/
def IsHead (t : Text) (n : Nat) : Prop := 0 < n ∧ n ≤ t.length

/-- What the lexer finds is a head of the text and not plain. -/
def Lexer.Advances (lexer : Lexer) : Prop :=
  ∀ ⦃before t kind n⦄, lexer before t = some (kind, n) → kind ≠ .plain ∧ IsHead t n

section advances

variable {lexer : Lexer} {lexers : List Lexer} {kind : Kind} {length : Text → Option Nat}

theorem Lexer.advances_firstOf (h : ∀ lexer ∈ lexers, lexer.Advances) :
    (Lexer.firstOf lexers).Advances := by
  intro before t kind n hfound
  obtain ⟨lexer, hlexer, hread⟩ := List.exists_of_findSome?_eq_some hfound
  exact h lexer hlexer hread

theorem Lexer.advances_at (hkind : kind ≠ .plain) (h : ∀ t n, length t = some n → IsHead t n) :
    (Lexer.at kind length).Advances := by
  intro before t kind' n hfound
  obtain ⟨m, hm, heq⟩ := Option.map_eq_some_iff.1 hfound
  cases heq
  exact ⟨hkind, h t _ hm⟩

end advances

variable {t name command opening close : Text} {c before : Char} {n : Nat}

/-! ## Parts that lexers share -/

/-- What is left after something that was read ends where the text does. -/
theorem add_le_length {m : Nat} (hm : m ≤ t.length) (hn : n ≤ (t.drop m).length) :
    m + n ≤ t.length := by
  rw [List.length_drop] at hn
  omega

theorem isHead_add {m : Nat} (hm : m ≤ t.length) (h : IsHead (t.drop m) n) : IsHead t (m + n) :=
  ⟨Nat.add_pos_right m h.1, add_le_length hm h.2⟩

theorem isHead_one (c : Char) (r : Text) : IsHead (c :: r) 1 :=
  ⟨Nat.one_pos, Nat.succ_le_succ (Nat.zero_le _)⟩

theorem isHead_cons (h : IsHead t n) : IsHead (c :: t) (n + 1) := by
  obtain ⟨hpos, hle⟩ := h
  constructor
  · omega
  · rw [List.length_cons]
    omega

theorem length_le_of_startsWith (h : startsWith t opening = true) : opening.length ≤ t.length :=
  (List.isPrefixOf_iff_prefix.1 h).length_le

theorem through?_isHead (hclose : close ≠ []) (h : through? close t = some n) : IsHead t n := by
  obtain ⟨i, hi, rfl⟩ := Option.map_eq_some_iff.1 h
  have hpos := List.length_pos_iff.2 hclose
  have hle := (find?_isPrefix hi).length_le
  rw [List.length_drop] at hle
  constructor <;> omega

theorem enclosed?_isHead (hclose : close ≠ []) (h : enclosed? opening close t = some n) :
    IsHead t n := by
  unfold enclosed? at h
  split at h
  · next hstarts =>
    obtain ⟨i, hi, rfl⟩ := Option.map_eq_some_iff.1 h
    rw [Nat.add_comm]
    exact isHead_add (length_le_of_startsWith hstarts) (through?_isHead hclose hi)
  · cases h

theorem restOfLine?_isHead (hc : c ≠ '\n') (h : restOfLine? (c :: opening) t = some n) :
    IsHead t n := by
  unfold restOfLine? at h
  split at h
  · next hstarts =>
    cases h
    obtain ⟨r, rfl⟩ := List.isPrefixOf_iff_prefix.1 hstarts
    refine ⟨?_, (List.takeWhile_prefix _).length_le⟩
    have hkept : (c != '\n') = true := bne_iff_ne.2 hc
    rw [List.cons_append, List.takeWhile_cons_of_pos (p := (· != '\n')) hkept]
    exact Nat.succ_pos _
  · cases h

theorem literal_isHead (hname : name ≠ []) (h : literal name t = some n) : IsHead t n := by
  refine ⟨?_, literal_le h⟩
  unfold literal at h
  split at h
  · cases h
    exact List.length_pos_iff.2 hname
  · cases h

/-! ## HTML -/

theorem endTag?_isHead (h : endTag? name t = some n) : IsHead t n := by
  simp only [endTag?] at h
  split at h
  · next hfound =>
    cases h
    simp only [Bool.and_eq_true, beq_iff_eq] at hfound
    obtain ⟨r, hr⟩ := List.head?_eq_some_iff.1 hfound.2
    have hlength := congrArg List.length hr
    simp only [List.length_drop, List.length_cons] at hlength
    constructor <;> omega
  · cases h

theorem throughEndTag?_isHead (h : throughEndTag? name t = some n) : IsHead t n := by
  induction t generalizing n with
  | nil => cases h
  | cons c r ih =>
    rcases Option.or_eq_some_iff.1 h with h | ⟨-, h⟩
    · exact endTag?_isHead h
    · obtain ⟨m, hm, rfl⟩ := Option.map_eq_some_iff.1 h
      exact isHead_cons (ih hm)

theorem rawElement?_isHead (h : rawElement? t = some n) : IsHead t n := by
  unfold rawElement? at h
  split at h
  · next r =>
    obtain ⟨name, -, h⟩ := Option.bind_eq_some_iff.1 h
    obtain ⟨m, hm, h⟩ := Option.bind_eq_some_iff.1 h
    cases h
    obtain ⟨hpos, hle⟩ := throughEndTag?_isHead hm
    simp only [IsHead, List.length_cons, List.length_drop] at hle ⊢
    omega
  · cases h

theorem closeTag?_isHead {state : TagState} (h : closeTag? state t = some n) : IsHead t n := by
  induction t generalizing state n with
  | nil => cases state <;> cases h
  | cons c r ih =>
    cases state with
    | outside =>
      simp only [closeTag?] at h
      split at h
      · cases h
        exact isHead_one c r
      · split at h
        · obtain ⟨m, hm, rfl⟩ := Option.map_eq_some_iff.1 h
          exact isHead_cons (ih hm)
        · obtain ⟨m, hm, rfl⟩ := Option.map_eq_some_iff.1 h
          exact isHead_cons (ih hm)
    | inside q =>
      obtain ⟨m, hm, rfl⟩ := Option.map_eq_some_iff.1 h
      exact isHead_cons (ih hm)

theorem tag?_isHead (h : tag? t = some n) : IsHead t n := by
  unfold tag? at h
  split at h
  · obtain ⟨m, hm, rfl⟩ := Option.map_eq_some_iff.1 h
    exact isHead_cons (closeTag?_isHead hm)
  · cases h

theorem htmlLexer_advances : htmlLexer.Advances := by
  apply Lexer.advances_firstOf
  simp only [List.forall_mem_cons]
  refine ⟨?_, ?_, ?_, List.forall_mem_nil _⟩
  · exact Lexer.advances_at (by decide) fun t n h => enclosed?_isHead (by decide) h
  · exact Lexer.advances_at (by decide) fun t n h => rawElement?_isHead h
  · exact Lexer.advances_at (by decide) fun t n h => tag?_isHead h

/-! ## LaTeX -/

theorem percentComment_advances : Lexer.Advances percentComment := by
  intro before t kind n h
  unfold percentComment at h
  split at h
  · cases h
  · obtain ⟨m, hm, heq⟩ := Option.map_eq_some_iff.1 h
    cases heq
    exact ⟨by decide, restOfLine?_isHead (by decide) hm⟩

theorem named?_isHead (hcommand : command ≠ []) (h : named? command name t = some n) :
    IsHead t n := by
  rcases Option.or_eq_some_iff.1 h with h | ⟨-, h⟩
  · exact literal_isHead (by simp [hcommand]) h
  · exact literal_isHead (by simp [hcommand]) h

theorem throughEnd?_isHead (h : throughEnd? name t = some n) : IsHead t n := by
  induction t generalizing n with
  | nil => cases h
  | cons c r ih =>
    rcases Option.or_eq_some_iff.1 h with h | ⟨-, h⟩
    · exact named?_isHead (by decide) h
    · obtain ⟨m, hm, rfl⟩ := Option.map_eq_some_iff.1 h
      exact isHead_cons (ih hm)

theorem formulaEnvironment?_isHead (h : formulaEnvironment? t = some n) : IsHead t n := by
  obtain ⟨name, -, h⟩ := List.exists_of_findSome?_eq_some h
  obtain ⟨start, hstart, h⟩ := Option.bind_eq_some_iff.1 h
  obtain ⟨m, hm, h⟩ := Option.bind_eq_some_iff.1 h
  cases h
  exact isHead_add (named?_isHead (by decide) hstart).2 (throughEnd?_isHead hm)

theorem throughDollar?_isHead (h : throughDollar? before t = some n) : IsHead t n := by
  induction t generalizing before n with
  | nil => cases h
  | cons c r ih =>
    unfold throughDollar? at h
    split at h
    · cases h
      exact isHead_one _ _
    · obtain ⟨m, hm, rfl⟩ := Option.map_eq_some_iff.1 h
      exact isHead_cons (ih hm)

theorem dollarFormula_advances : Lexer.Advances dollarFormula := by
  intro before t kind n h
  unfold dollarFormula at h
  split at h
  · split at h
    · cases h
    · obtain ⟨m, hm, heq⟩ := Option.map_eq_some_iff.1 h
      cases heq
      exact ⟨by decide, isHead_cons (throughDollar?_isHead hm)⟩
  · cases h

theorem star_le (t : Text) : star t ≤ t.length := by
  unfold star
  split
  · next h =>
    obtain ⟨r, rfl⟩ := List.head?_eq_some_iff.1 (beq_iff_eq.1 h)
    exact Nat.succ_le_succ (Nat.zero_le _)
  · exact Nat.zero_le _

theorem brackets_le (t : Text) : brackets t ≤ t.length := by
  fun_induction brackets t with
  | case1 => exact Nat.zero_le _
  | case2 t n _ hn ih =>
    rw [List.length_drop] at ih
    omega
  | case3 => exact Nat.zero_le _

theorem braces_le (t : Text) : braces t ≤ t.length := by
  unfold braces
  cases h : enclosed? ['\x7b'] ['\x7d'] t with
  | none => exact Nat.zero_le _
  | some n => exact (enclosed?_isHead (by decide) h).2

theorem structureCommand?_isHead (h : structureCommand? t = some n) : IsHead t n := by
  unfold structureCommand? at h
  split at h
  · next r =>
    obtain ⟨name, hname, h⟩ := Option.bind_eq_some_iff.1 h
    cases h
    have hle := length_le_of_startsWith (List.find?_some hname)
    -- What each part reads is within what the parts before it leave.
    have hstar := add_le_length hle (star_le _)
    have hbrackets := add_le_length hstar (brackets_le _)
    have hbraces := add_le_length hbrackets (braces_le _)
    exact ⟨Nat.succ_pos _, Nat.succ_le_succ hbraces⟩
  · cases h

theorem commandName?_isHead (h : commandName? t = some n) : IsHead t n := by
  unfold commandName? at h
  split at h
  · next c r =>
    simp only at h
    split at h
    · cases h
      have hletters := (List.takeWhile_prefix (l := r) isCommandLetter).length_le
      have hstar := star_le (r.drop (r.takeWhile isCommandLetter).length)
      rw [List.length_drop] at hstar
      simp only [IsHead, List.length_cons]
      omega
    · cases h
      simp only [IsHead, List.length_cons]
      omega
  · cases h

theorem brace?_isHead (h : brace? t = some n) : IsHead t n := by
  unfold brace? at h
  split at h
  · split at h
    · cases h
      exact isHead_one _ _
    · cases h
  · cases h

theorem latexLexer_advances : latexLexer.Advances := by
  have hskipped : Kind.skipped ≠ .plain := by decide
  apply Lexer.advances_firstOf
  simp only [List.forall_mem_cons]
  refine ⟨percentComment_advances, ?_, ?_, dollarFormula_advances, ?_, ?_, ?_, ?_, ?_,
    List.forall_mem_nil _⟩
  · exact Lexer.advances_at hskipped fun t n h => formulaEnvironment?_isHead h
  · exact Lexer.advances_at hskipped fun t n h => enclosed?_isHead (by decide) h
  · exact Lexer.advances_at hskipped fun t n h => enclosed?_isHead (by decide) h
  · exact Lexer.advances_at hskipped fun t n h => enclosed?_isHead (by decide) h
  · exact Lexer.advances_at hskipped fun t n h => structureCommand?_isHead h
  · exact Lexer.advances_at hskipped fun t n h => commandName?_isHead h
  · exact Lexer.advances_at hskipped fun t n h => brace?_isHead h

end Kousei.Extract
