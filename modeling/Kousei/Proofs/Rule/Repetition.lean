import Mathlib.Data.List.FinRange
import Kousei.Proofs.Rule.Streak
import Kousei.Rule.Basic

/-! # Repeated words

    Which repetitions are reported can be said of the words alone, without a
    scanner: a word is reported exactly if it ends a streak of two or more
    that is longer than the limit, from the beginning of the word before it
    (`report_repeats`).

    Conjunctions are one row for the whole text.  How the tokens are grouped
    into sentences does not matter for them (`conjunctionRepeat_by_runs`). -/

namespace Kousei.Rule

open Streak

/-! ## Reports by places -/

variable {κ : Type} [DecidableEq κ]

/-- What is reported of a row of tokens without gaps. -/
theorem report_repeats (max : Limit) (code : String) (message : Token → String) (key : Token → κ)
    (linked : Token → Token → Bool) (xs : List Token) :
    report max code message (repeats key linked {} (xs.map some)) =
      (List.finRange xs.length).filterMap fun i : Fin xs.length =>
        if 2 ≤ runLength (goesOn key linked) xs i ∧
            max.isBelow (runLength (goesOn key linked) xs i) = true then
          some
            { start := (xs.get ⟨i - 1, by omega⟩).offset, stop := (xs.get i).stop, code,
              message := message (xs.get i) }
        else none := by
  rw [report, repeats_eq, List.filterMap_filterMap, ← List.map_coe_finRange_eq_range, List.filterMap_map]
  refine congrArg (List.filterMap · _) (funext fun i => ?_)
  obtain ⟨i, hi⟩ := i
  cases i with
  | zero =>
    -- Nothing comes before the first token, and its streak has length one.
    simp [repeatAt?, neighbours?, runLength]
  | succ i =>
    have hx : xs[i]? = some (xs.get ⟨i, by omega⟩) := List.getElem?_eq_getElem _
    have hy : xs[i + 1]? = some (xs.get ⟨i + 1, hi⟩) := List.getElem?_eq_getElem hi
    have htwo : 2 ≤ runLength (goesOn key linked) xs (i + 1) ↔ _ := two_le_runLength_iff hx hy
    have hlength : runLength (goesOn key linked) xs (i + 1) = _ := runLength_succ hx hy
    simp only [Function.comp_apply, repeatAt?_succ hx hy, htwo, Nat.add_sub_cancel]
    by_cases hgoes : goesOn key linked (xs.get ⟨i, by omega⟩) (xs.get ⟨i + 1, hi⟩) = true
    · rw [if_pos hgoes] at hlength
      simp only [hgoes, hlength, ↓reduceIte, Option.bind_some, true_and]
    · simp only [hgoes, Bool.false_eq_true, ↓reduceIte, Option.bind_none, false_and]

/-! ## Conjunctions -/

/-- The conjunctions of all sentences in order. -/
def conjunctions (ss : List Sentence) : List Token :=
  (ss.flatMap Sentence.tokens).filter isConjunction

/-- Has a conjunction the surface of the one before it, with no line feed
    between the two? -/
def isSameOnLine (t : Text) (c d : Token) : Bool :=
  decide (c.surface = d.surface ∧ '\n' ∉ t.sliceInt c.stop d.offset)

/-- The length of the streak that the conjunction at a place ends. -/
def conjunctionRun (t : Text) (ss : List Sentence) : Nat → Nat :=
  runLength (isSameOnLine t) (conjunctions ss)

/-- What is said of a conjunction and the one before it. -/
def conjunctionDiagnostic (previous c : Token) : Diagnostic where
  start := previous.offset
  stop := c.stop
  message := s!"同じ接続詞「{String.ofList c.surface}」が連続しています"
  code := "conjunction-repeat"

theorem goesOn_isSameOnLine (t : Text) :
    goesOn Token.surface (fun c d => !(t.sliceInt c.stop d.offset).any (· == '\n')) =
      isSameOnLine t := by
  funext c d
  rw [Bool.eq_iff_iff]
  simp only [goesOn, isSameOnLine, Bool.and_eq_true, Bool.not_eq_true', List.any_beq',
    decide_eq_true_eq, beq_iff_eq, List.contains_eq_mem, decide_eq_false_iff_not]
  exact and_comm

/-- **Repeated conjunctions.**  There is one diagnostic, in order, for each
    conjunction that ends a streak of two or more that is longer than the limit.
    It reaches from the beginning of the conjunction before to the end of this
    one.  Another grouping of the same tokens into sentences changes nothing. -/
theorem conjunctionRepeat_by_runs (t : Text) (ss : List Sentence) (r : RuleSettings) (m : Int) :
    (conjunctionRepeat t ss { r with conjunctionRepeatMax := .count m } =
      (List.finRange (conjunctions ss).length).filterMap fun i : Fin (conjunctions ss).length =>
        if 2 ≤ conjunctionRun t ss i ∧ m < conjunctionRun t ss i then
          some (conjunctionDiagnostic ((conjunctions ss).get ⟨i - 1, by omega⟩)
            ((conjunctions ss).get i))
        else none) ∧
      ∀ ss' : List Sentence, ss'.flatMap Sentence.tokens = ss.flatMap Sentence.tokens →
        conjunctionRepeat t ss' { r with conjunctionRepeatMax := .count m } =
          conjunctionRepeat t ss { r with conjunctionRepeatMax := .count m } := by
  constructor
  · have hreport := report_repeats (.count m) "conjunction-repeat"
      (fun c => s!"同じ接続詞「{String.ofList c.surface}」が連続しています") Token.surface
      (fun c d => !(t.sliceInt c.stop d.offset).any (· == '\n')) (conjunctions ss)
    rw [goesOn_isSameOnLine] at hreport
    simp only [Limit.isBelow, decide_eq_true_eq] at hreport
    exact hreport
  · intro ss' htokens
    -- The rule reads the sentences through the row of their tokens only.
    unfold conjunctionRepeat conjunctionRepeats
    rw [htokens]

/-- A text that repeats a conjunction, once after a line feed. -/
def sampleRow : Text := text "また雨。また雪。\nまた、また"

def sampleRowTokens : List Token :=
  anchor sampleRow
    [{ surface := text "また", pos := some "接続詞" }, { surface := text "雨", pos := some "名詞" },
     { surface := text "。", pos := some "記号" }, { surface := text "また", pos := some "接続詞" },
     { surface := text "雪", pos := some "名詞" }, { surface := text "。", pos := some "記号" },
     { surface := text "また", pos := some "接続詞" }, { surface := text "、", pos := some "記号" },
     { surface := text "また", pos := some "接続詞" }]

theorem conjunctionRepeat_by_runs_of_sampleRow :
    (Sentence.ofGroups sampleRow 0 [sampleRowTokens]).flatMap Sentence.tokens =
        (Sentence.split sampleRow sampleRowTokens).flatMap Sentence.tokens ∧
      conjunctionRepeat sampleRow (Sentence.ofGroups sampleRow 0 [sampleRowTokens])
          { conjunctionRepeatMax := .count 1 } =
        conjunctionRepeat sampleRow (Sentence.split sampleRow sampleRowTokens)
          { conjunctionRepeatMax := .count 1 } ∧
      (conjunctionRepeat sampleRow (Sentence.split sampleRow sampleRowTokens)
          { conjunctionRepeatMax := .count 1 }).map (fun d => (d.start, d.stop)) =
        [(0, 6), (9, 14)] := by
  have htokens : (Sentence.ofGroups sampleRow 0 [sampleRowTokens]).flatMap Sentence.tokens =
      (Sentence.split sampleRow sampleRowTokens).flatMap Sentence.tokens := by decide +kernel
  obtain ⟨hruns, hgroups⟩ :=
    conjunctionRepeat_by_runs sampleRow (Sentence.split sampleRow sampleRowTokens) {} 1
  refine ⟨htokens, hgroups _ htokens, ?_⟩
  rw [hruns]
  decide +kernel

end Kousei.Rule
