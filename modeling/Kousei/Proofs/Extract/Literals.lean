import Kousei.Extract.Lexer

/-! # String literals

    What may stand between the quotes of a string literal (`LiteralBody`).
    The closing quote is the one after it, unless there is a line feed in it
    that the lexer does not take, on its own or after a backslash: then the
    quote that comes first opens nothing. -/

namespace Kousei.Extract

open Text

/-- What stands between the quotes of a literal: characters other than the
    quote, and backslashes each with the character after it. -/
inductive LiteralBody (quote : Char) (lineFeed : Bool) : Text → Prop where
  | nil : LiteralBody quote lineFeed []
  | plain {x : Char} {b : Text} : x ≠ quote → x ≠ '\\' → (x = '\n' → lineFeed = true) →
      LiteralBody quote lineFeed b → LiteralBody quote lineFeed (x :: b)
  | escaped {x : Char} {b : Text} : LiteralBody quote lineFeed b →
      LiteralBody quote lineFeed ('\\' :: x :: b)

section

variable {quote : Char} {lineFeed : Bool} {x : Char} {b : Text}

theorem not_literalBody_backslash : ¬ LiteralBody quote lineFeed ['\\'] := by
  intro h
  cases h with
  | plain _ hback => exact hback rfl

theorem literalBody_escaped :
    LiteralBody quote lineFeed ('\\' :: x :: b) ↔ LiteralBody quote lineFeed b := by
  refine ⟨fun h => ?_, .escaped⟩
  cases h with
  | plain _ hback => exact absurd rfl hback
  | escaped hb => exact hb

theorem literalBody_cons (h : x ≠ '\\') :
    LiteralBody quote lineFeed (x :: b) ↔
      x ≠ quote ∧ (x = '\n' → lineFeed = true) ∧ LiteralBody quote lineFeed b := by
  refine ⟨fun hb => ?_, fun ⟨hquote, hfeed, hb⟩ => .plain hquote h hfeed hb⟩
  cases hb with
  | plain hquote _ hfeed hb => exact ⟨hquote, hfeed, hb⟩
  | escaped hb => exact absurd rfl h

instance decidableLiteralBody (quote : Char) (lineFeed : Bool) :
    (b : Text) → Decidable (LiteralBody quote lineFeed b)
  | [] => isTrue .nil
  | [x] =>
    have : Decidable (LiteralBody quote lineFeed []) := isTrue .nil
    if h : x = '\\' then isFalse (h ▸ not_literalBody_backslash)
    else decidable_of_iff _ (literalBody_cons h).symm
  | x :: y :: b =>
    have := decidableLiteralBody quote lineFeed b
    have := decidableLiteralBody quote lineFeed (y :: b)
    if h : x = '\\' then decidable_of_iff _ (h ▸ literalBody_escaped).symm
    else decidable_of_iff _ (literalBody_cons h).symm

end

variable {style : QuoteStyle} {b : Text}

/-- The closing quote is the one after the body. -/
theorem closeQuote?_of_literalBody (rest : Text) (hquote : style.quote ≠ '\\')
    (h : LiteralBody style.quote style.lineFeed b)
    (hescaped : style.escapedLineFeed = false → '\n' ∉ b) :
    closeQuote? style (b ++ style.quote :: rest) = some (b.length + 1) := by
  induction h with
  | nil =>
    -- The quote itself is no backslash, so it is not taken for an escape.
    rw [List.nil_append, closeQuote?]
    · rw [if_pos rfl]
      rfl
    · intro x r hx
      exact absurd hx hquote
  | @plain x b hne hback hfeed _ ih =>
    -- It neither closes the literal nor breaks it off.
    have hplain : (x = '\\' || (x = '\n' && !style.lineFeed)) = false := by
      rw [decide_eq_false hback, Bool.false_or]
      by_cases hx : x = '\n'
      · rw [hfeed hx, Bool.not_true, Bool.and_false]
      · rw [decide_eq_false hx, Bool.false_and]
    rw [List.cons_append, closeQuote?]
    · rw [if_neg hne, if_neg (by rw [hplain]; exact Bool.false_ne_true),
        ih fun hstyle hmem => hescaped hstyle (List.mem_cons_of_mem x hmem)]
      rfl
    · intro y r hy
      exact absurd hy hback
  | @escaped x b _ ih =>
    have hread : (x = '\n' && !style.escapedLineFeed) = false := by
      cases hstyle : style.escapedLineFeed with
      | true => exact Bool.and_false _
      | false =>
        have hx : x ≠ '\n' := by
          rintro rfl
          exact hescaped hstyle (List.mem_cons_of_mem _ (List.mem_cons_self ..))
        rw [decide_eq_false hx, Bool.false_and]
    have hrest := ih fun hstyle hmem =>
      hescaped hstyle (List.mem_cons_of_mem _ (List.mem_cons_of_mem x hmem))
    rw [List.cons_append, List.cons_append, closeQuote?, hread, hrest]
    rfl

/-- A line feed after a backslash breaks a literal off that may not hold one. -/
theorem closeQuote?_of_lineFeed (style : QuoteStyle) {b : Text} (rest : Text)
    (hline : style.lineFeed = false) (hescaped : style.escapedLineFeed = false)
    (h : LiteralBody style.quote style.lineFeed b) (hfeed : '\n' ∈ b) :
    closeQuote? style (b ++ rest) = none := by
  induction h with
  | nil => cases hfeed
  | @plain x b hne hback hx _ ih =>
    have hx' : x ≠ '\n' := by
      intro hfeed
      rw [hx hfeed] at hline
      cases hline
    have hb : '\n' ∈ b := (List.mem_cons.1 hfeed).resolve_left hx'.symm
    rw [List.cons_append, closeQuote?]
    · rw [if_neg hne, ih hb, Option.map_none, ite_self]
    · intro y r hy
      exact absurd hy hback
  | @escaped x b _ ih =>
    -- The pair is either the one that is not read, or it is passed over.
    rw [List.cons_append, List.cons_append, closeQuote?]
    by_cases hx : x = '\n'
    · rw [decide_eq_true hx, hescaped]
      rfl
    · have hb : '\n' ∈ b := by
        simpa [Ne.symm hx] using hfeed
      rw [ih hb, Option.map_none, ite_self]

/-- A line feed that no backslash stands before breaks a literal off that may
    not hold one. -/
theorem closeQuote?_of_bareLineFeed (style : QuoteStyle) {b : Text} (rest : Text)
    (hline : style.lineFeed = false) (h : LiteralBody style.quote true b)
    (hbare : ¬ LiteralBody style.quote false b) :
    closeQuote? style (b ++ rest) = none := by
  induction h with
  | nil => exact absurd .nil hbare
  | @plain x b hne hback _ _ ih =>
    rw [List.cons_append, closeQuote?]
    · by_cases hx : x = '\n'
      · rw [if_neg hne, if_pos (by simp [hx, hline])]
      · -- The line feed comes later, and the characters before it are passed over.
        have hlater : ¬ LiteralBody style.quote false b := fun hb =>
          hbare (.plain hne hback (fun hfeed => absurd hfeed hx) hb)
        rw [if_neg hne, ih hlater, Option.map_none, ite_self]
    · intro y r hy
      exact absurd hy hback
  | @escaped x b _ ih =>
    have hlater : ¬ LiteralBody style.quote false b := fun hb => hbare (.escaped hb)
    rw [List.cons_append, List.cons_append, closeQuote?, ih hlater, Option.map_none, ite_self]

theorem quoted?_of_literalBody (style : QuoteStyle) {b : Text} (rest : Text)
    (hquote : style.quote ≠ '\\')
    (h : LiteralBody style.quote style.lineFeed b)
    (hescaped : style.escapedLineFeed = false → '\n' ∉ b) :
    quoted? style (style.quote :: b ++ [style.quote] ++ rest) =
      some (style.quote :: b ++ [style.quote]).length := by
  have hclose := closeQuote?_of_literalBody rest hquote h hescaped
  have hlist : style.quote :: b ++ [style.quote] ++ rest =
      style.quote :: (b ++ style.quote :: rest) := by simp
  rw [hlist, quoted?, if_pos rfl, hclose]
  simp

theorem quoted?_of_ne {x : Char} {r : Text} (h : x ≠ style.quote) : quoted? style (x :: r) = none :=
  if_neg h

end Kousei.Extract
