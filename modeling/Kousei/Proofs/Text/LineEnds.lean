import Kousei.Proofs.Extract.Pieces
import Kousei.Proofs.Text.Blanks

/-! # Line ends

    A text may have a carriage return before each of its line feeds (`crlf`).
    Both are blanks, so stripping does not depend on which line ends a text
    has (`strip_crlf`).

    Read from its end a text has the two characters the other way around.  So
    what is shown is shown for any two characters in the place of a line feed
    (`breakWith`), and used from both ends. -/

namespace Kousei

namespace Text

variable {x y : Char} {s t w : Text}

/-! ## Other line ends -/

/-- The text with two characters in the place of every line feed. -/
def breakWith (x y : Char) (t : Text) : Text :=
  t.flatMap fun c => if c = '\n' then [x, y] else [c]

/-- The text with a carriage return before every line feed. -/
def crlf (t : Text) : Text := breakWith '\r' '\n' t

theorem breakWith_append (x y : Char) (s t : Text) :
    breakWith x y (s ++ t) = breakWith x y s ++ breakWith x y t := List.flatMap_append

theorem breakWith_feed (x y : Char) (t : Text) :
    breakWith x y ('\n' :: t) = x :: y :: breakWith x y t := rfl

theorem breakWith_cons_of_ne {c : Char} (h : c ≠ '\n') (x y : Char) (t : Text) :
    breakWith x y (c :: t) = c :: breakWith x y t := by
  simp [breakWith, h]

theorem crlf_append (s t : Text) : crlf (s ++ t) = crlf s ++ crlf t := breakWith_append _ _ s t

theorem breakWith_of_not_mem (h : '\n' ∉ t) (x y : Char) : breakWith x y t = t := by
  induction t with
  | nil => rfl
  | cons c r ih =>
    obtain ⟨hc, hr⟩ := List.ne_and_not_mem_of_not_mem_cons h
    rw [breakWith_cons_of_ne hc.symm, ih hr]

theorem crlf_append_of_not_mem (h : '\n' ∉ s) (t : Text) : crlf (s ++ t) = s ++ crlf t := by
  rw [crlf_append]
  congr 1
  exact breakWith_of_not_mem h _ _

/-- From its end a text with other line ends has the two characters the other way
    around. -/
theorem reverse_breakWith (x y : Char) (t : Text) :
    (breakWith x y t).reverse = breakWith y x t.reverse := by
  induction t with
  | nil => rfl
  | cons c r ih =>
    rw [List.reverse_cons, breakWith_append, ← ih]
    by_cases hc : c = '\n' <;> simp [breakWith, hc]

/-- A run in which no line ends is the same. -/
theorem takeWhile_breakWith {p : Char → Bool} (hx : p x = false) (hfeed : p '\n' = false)
    (y : Char) (t : Text) : (breakWith x y t).takeWhile p = t.takeWhile p := by
  induction t with
  | nil => rfl
  | cons c r ih =>
    by_cases hc : c = '\n'
    · subst hc
      simp [breakWith_feed, hx, hfeed]
    · rw [breakWith_cons_of_ne hc, List.takeWhile_cons, List.takeWhile_cons, ih]

/-- So is a beginning. -/
theorem startsWith_breakWith (hx : x ∉ s) (hfeed : '\n' ∉ s) (y : Char) (t : Text) :
    startsWith (breakWith x y t) s = startsWith t s := by
  induction s generalizing t with
  | nil => simp [startsWith]
  | cons a s ih =>
    obtain ⟨hxa, hxs⟩ := List.ne_and_not_mem_of_not_mem_cons hx
    obtain ⟨hfeeda, hfeeds⟩ := List.ne_and_not_mem_of_not_mem_cons hfeed
    cases t with
    | nil => rfl
    | cons c r =>
      by_cases hc : c = '\n'
      · subst hc
        rw [breakWith_feed, Extract.startsWith_cons_of_ne hxa, Extract.startsWith_cons_of_ne hfeeda]
      · rw [breakWith_cons_of_ne hc]
        show (a == c && startsWith (breakWith x y r) s) = (a == c && startsWith r s)
        rw [ih hxs hfeeds]

theorem mem_head?_breakWith {c : Char} (h : c ∈ (breakWith x y t).head?) :
    c = x ∨ c ∈ t.head? ∧ c ≠ '\n' := by
  cases t with
  | nil => cases h
  | cons z r =>
    by_cases hz : z = '\n'
    · subst hz
      cases h
      exact .inl rfl
    · rw [breakWith_cons_of_ne hz] at h
      cases h
      exact .inr ⟨rfl, hz⟩

/-- What holds of a carriage return, and of the first character of a text, holds of
    its first character with other line ends. -/
theorem head?_crlf_of {P : Char → Prop} (hreturn : P '\r') (h : ∀ x ∈ t.head?, P x) :
    ∀ x ∈ (crlf t).head?, P x := by
  intro x hx
  rcases mem_head?_breakWith hx with rfl | ⟨hx, -⟩
  · exact hreturn
  · exact h x hx

/-! ## Blanks -/

theorem isBlank_crlf (hw : ∀ x ∈ w, isBlank x = true) : ∀ x ∈ crlf w, isBlank x = true := by
  intro x hx
  obtain ⟨c, hc, hxc⟩ := List.mem_flatMap.1 hx
  split at hxc
  · rcases List.mem_pair.1 hxc with rfl | rfl <;> decide
  · rw [List.mem_singleton.1 hxc]
    exact hw c hc

/-- A line ends with a blank, so what does not begin with a blank begins with no
    line end. -/
theorem head?_breakWith (h : ∀ c ∈ t.head?, isBlank c = false) (x y : Char) :
    (breakWith x y t).head? = t.head? := by
  cases t with
  | nil => rfl
  | cons c r =>
    have hc : c ≠ '\n' := by
      rintro rfl
      exact absurd (h '\n' rfl) (by decide)
    rw [breakWith_cons_of_ne hc]
    rfl

theorem Trimmed.crlf (h : Trimmed s) : Trimmed s.crlf := by
  constructor
  · intro c hc
    rw [Text.crlf, head?_breakWith h.head] at hc
    exact h.head c hc
  · intro c hc
    rw [Text.crlf, ← List.head?_reverse, reverse_breakWith,
      head?_breakWith h.reverse.head] at hc
    exact h.reverse.head c hc

/-- Stripping does not depend on the line ends. -/
theorem strip_crlf (t : Text) : t.crlf.strip = t.strip.crlf := by
  obtain ⟨w, hw, hblank⟩ := strip_append t
  have hfirst : ∀ x ∈ t.takeWhile isBlank, isBlank x = true := by
    intro x hx
    exact List.mem_takeWhile_imp hx
  conv_lhs => rw [hw, crlf_append, crlf_append]
  exact (strip_trimmed t).crlf.strip_append (isBlank_crlf hfirst)
    (isBlank_crlf (List.all_eq_true.1 hblank))

end Text

end Kousei
