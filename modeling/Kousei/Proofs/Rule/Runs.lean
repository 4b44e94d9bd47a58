import Mathlib.Data.List.SplitBy
import Kousei.Proofs.Rule.Repetition

/-! # Runs of particles

    A row falls apart into runs: where an element does not go on with the one
    before it, the next run begins.  At such a break the scanner forgets all it
    has seen, so what it finds in a row is what it finds in the runs, one after
    the other (`repeats_of_areRuns`).  In a run the length of the streak is the
    place of the element (`runLength_of_isChain`).

    So the particles that are reported can be counted: a run of `n` particles
    has `n` less the limit, or less one if the limit is lower
    (`duplicateParticle_by_runs`). -/

namespace Kousei

namespace Streak

/-! ## Runs -/

section runs

variable {α : Type} {follows : α → α → Bool} {xs : List α} {gs : List (List α)}

/-- The groups are the runs of a row: put together they are the row, and each
    of them is as long as it can be. -/
structure AreRuns (follows : α → α → Bool) (xs : List α) (gs : List (List α)) : Prop where
  flatten_eq : gs.flatten = xs
  nil_not_mem : [] ∉ gs
  /-- In a run every element goes on with the one before it. -/
  isChain : ∀ g ∈ gs, g.IsChain fun x y => follows x y = true
  /-- No run goes on with the run before it. -/
  breaks : gs.IsChain fun g h => ∃ hg hh, follows (g.getLast hg) (h.head hh) = false

/-- A row has its runs, and no others. -/
theorem areRuns_iff : AreRuns follows xs gs ↔ gs = xs.splitBy follows := by
  rw [eq_comm, List.splitBy_eq_iff]
  constructor
  · rintro ⟨hflatten, hnil, hchain, hbreaks⟩
    exact ⟨hflatten.symm, hnil, hchain, hbreaks⟩
  · rintro ⟨hflatten, hnil, hchain, hbreaks⟩
    exact ⟨hflatten.symm, hnil, hchain, hbreaks⟩

/-- The runs after the first one are those of the rest of the row. -/
theorem AreRuns.tail {g : List α} (h : AreRuns follows xs (g :: gs)) :
    AreRuns follows gs.flatten gs where
  flatten_eq := rfl
  nil_not_mem := fun hmem => h.nil_not_mem (List.mem_cons_of_mem g hmem)
  isChain := fun g' hg' => h.isChain g' (List.mem_cons_of_mem g hg')
  breaks := h.breaks.tail

/-- What comes after the first run does not go on with it. -/
theorem AreRuns.break_after {g : List α} (h : AreRuns follows xs (g :: gs)) :
    ∀ x ∈ g.getLast?, ∀ y ∈ gs.flatten.head?, follows x y = false := by
  intro x hx y hy
  cases gs with
  | nil => cases hy
  | cons g' more =>
    obtain ⟨⟨hg, hg', hbreak⟩, -⟩ := List.isChain_cons_cons.1 h.breaks
    rw [List.getLast?_eq_some_getLast hg] at hx
    rw [List.flatten_cons, List.head?_append_of_ne_nil _ hg', List.head?_eq_some_head hg'] at hy
    cases hx
    cases hy
    exact hbreak

/-- In a run the streak is as long as the place of its last element says. -/
theorem runLength_of_isChain (h : xs.IsChain fun x y => follows x y = true) {i : Nat}
    (hi : i < xs.length) : runLength follows xs i = i + 1 := by
  induction i with
  | zero => rfl
  | succ i ih =>
    have hfollows : follows xs[i] xs[i + 1] = true := List.isChain_iff_getElem.1 h i hi
    have hstep : runLength follows xs (i + 1) = if follows xs[i] xs[i + 1] then _ else 1 :=
      runLength_succ (List.getElem?_eq_getElem (by omega)) (List.getElem?_eq_getElem hi)
    rw [hstep, if_pos hfollows, ih (by omega)]

end runs

/-! ## The scanner over runs -/

variable {α κ : Type} [DecidableEq κ] {key : α → κ} {linked : α → α → Bool}

/-- A scanner that holds an element finds nothing new in what comes after a
    break, but what it finds there by itself. -/
theorem repeats_holding_append {x : α} {g r : List α} (n : Nat)
    (hbreak : ∀ z ∈ (x :: g).getLast?, ∀ y ∈ r.head?, goesOn key linked z y = false) :
    repeats key linked ⟨some (x, key x), n⟩ ((g ++ r).map some) =
      repeats key linked ⟨some (x, key x), n⟩ (g.map some) ++
        repeats key linked {} (r.map some) := by
  induction g generalizing x n with
  | nil =>
    cases r with
    | nil => rfl
    | cons y r =>
      have hgoes : goesOn key linked x y = false := hbreak x rfl y rfl
      rw [List.nil_append, List.map_cons, repeats_cons, hgoes]
      rfl
  | cons z g ih =>
    have hrest (n : Nat) := ih n fun w hw => hbreak w (by rwa [List.getLast?_cons_cons])
    rw [List.cons_append, List.map_cons, List.map_cons, repeats_cons, repeats_cons, hrest, hrest]
    by_cases hgoes : goesOn key linked x z
    · rw [if_pos hgoes, if_pos hgoes, List.cons_append]
    · rw [if_neg hgoes, if_neg hgoes]

/-- At a break the scanner begins anew. -/
theorem repeats_append {g r : List α}
    (hbreak : ∀ x ∈ g.getLast?, ∀ y ∈ r.head?, goesOn key linked x y = false) :
    repeats key linked {} ((g ++ r).map some) =
      repeats key linked {} (g.map some) ++ repeats key linked {} (r.map some) := by
  cases g with
  | nil => rfl
  | cons x g => exact repeats_holding_append 1 hbreak

/-- What is found in a row is found in its runs. -/
theorem repeats_of_areRuns {xs : List α} {gs : List (List α)}
    (h : AreRuns (goesOn key linked) xs gs) :
    repeats key linked {} (xs.map some) =
      gs.flatMap fun g => repeats key linked {} (g.map some) := by
  induction gs generalizing xs with
  | nil =>
    rw [← h.flatten_eq]
    rfl
  | cons g gs ih =>
    rw [← h.flatten_eq, List.flatten_cons, repeats_append h.break_after, ih h.tail,
      List.flatMap_cons]

end Streak

namespace Rule

open Streak

/-! ## Reports of a run -/

/-- The place before a place, which for the first one is the first itself. -/
def placeBefore {n : Nat} (i : Fin n) : Fin n := ⟨i - 1, by omega⟩

/-- What is said of a run: of every element but the first whose place in it,
    counted from one, is above the limit. -/
def reportsOfRun (m : Int) (diagnostic : Token → Token → Diagnostic) (run : List Token) :
    List Diagnostic :=
  (List.finRange run.length).filterMap fun i : Fin run.length =>
    if 2 ≤ (i : Nat) + 1 ∧ m < ((i : Nat) + 1 : Nat) then
      some (diagnostic (run.get (placeBefore i)) (run.get i))
    else none

/-- How many of the first `n` places are above one and above the limit. -/
theorem countP_range_above (m : Int) (n : Nat) :
    ((List.range n).countP fun i => decide (2 ≤ i + 1 ∧ m < (i + 1 : Nat)) : Int) =
      max 0 (n - max 1 m) := by
  induction n with
  | zero => simp
  | succ n ih =>
    rw [List.range_succ, List.countP_append, List.countP_singleton, Int.natCast_add, ih]
    by_cases habove : 2 ≤ n + 1 ∧ m < (n + 1 : Nat)
    · simp only [habove, and_self, decide_true, ↓reduceIte]
      omega
    · simp only [habove, decide_false, Bool.false_eq_true, ↓reduceIte]
      omega

theorem length_reportsOfRun (m : Int) (diagnostic : Token → Token → Diagnostic)
    (run : List Token) :
    ((reportsOfRun m diagnostic run).length : Int) = max 0 (run.length - max 1 m) := by
  rw [← countP_range_above, reportsOfRun, List.length_filterMap_eq_countP,
    ← List.map_coe_finRange_eq_range, List.countP_map]
  congr 2
  funext i
  show Option.isSome (if 2 ≤ (i : Nat) + 1 ∧ m < ((i : Nat) + 1 : Nat) then _ else none) =
    decide (2 ≤ (i : Nat) + 1 ∧ m < ((i : Nat) + 1 : Nat))
  by_cases habove : 2 ≤ (i : Nat) + 1 ∧ m < ((i : Nat) + 1 : Nat)
  · rw [if_pos habove, decide_eq_true habove]
    rfl
  · rw [if_neg habove, decide_eq_false habove]
    rfl

/-- What is reported of a row is reported of its runs. -/
theorem report_of_areRuns {κ : Type} [DecidableEq κ] {key : Token → κ}
    {linked : Token → Token → Bool} {xs : List Token} {runs : List (List Token)} (m : Int)
    (code : String) (message : Token → String) (h : AreRuns (goesOn key linked) xs runs) :
    report (.count m) code message (repeats key linked {} (xs.map some)) =
      runs.flatMap (reportsOfRun m fun p q =>
        { start := p.offset, stop := q.stop, code, message := message q }) := by
  rw [repeats_of_areRuns h, report, List.filterMap_flatMap]
  refine List.flatMap_congr fun run hrun => ?_
  have hreport := report_repeats (.count m) code message key linked run
  rw [report] at hreport
  rw [hreport, reportsOfRun]
  refine congrArg (List.filterMap · _) (funext fun i => ?_)
  rw [runLength_of_isChain (h.isChain run hrun) i.isLt]
  simp only [Limit.isBelow, decide_eq_true_eq]
  rfl

/-! ## Particles -/

/-- Have two particles the same surface, part of speech and detail? -/
def isSameParticle (p q : Token) : Bool :=
  decide (p.surface = q.surface ∧ p.pos = q.pos ∧ p.posDetail1 = q.posDetail1)

/-- The runs of the particles of a sentence, with all other words left out. -/
def particleRuns (s : Sentence) : List (List Token) :=
  (s.tokens.filter isParticle).splitBy isSameParticle

/-- What is said of a particle and the one before it. -/
def duplicateDiagnostic (previous p : Token) : Diagnostic where
  start := previous.offset
  stop := p.stop
  message := s!"同じ助詞「{String.ofList p.surface}」が連続しています"
  code := "duplicate-particle"

theorem goesOn_isSameParticle :
    goesOn (fun t : Token => (t.surface, particleKind t)) (fun _ _ => true) = isSameParticle := by
  funext p q
  rw [Bool.eq_iff_iff]
  simp only [goesOn, isSameParticle, particleKind, Bool.true_and, beq_iff_eq, Prod.mk.injEq,
    decide_eq_true_eq]

/-- **Repeated particles.**  Sentence by sentence and run by run, there is one
    diagnostic for each particle that is at least the second of its run and
    whose place in the run is above the limit.  It reaches from the beginning of
    the particle before to the end of this one.  The runs of a sentence are the
    longest rows of the same particle among its particles, and a run of `n` is
    reported `n - max 1 m` times, or not at all if that is negative. -/
theorem duplicateParticle_by_runs (t : Text) (ss : List Sentence) (r : RuleSettings) (m : Int) :
    duplicateParticle t ss { r with duplicateParticleMaxRepeat := .count m } =
        ss.flatMap (fun s => (particleRuns s).flatMap (reportsOfRun m duplicateDiagnostic)) ∧
      (∀ (s : Sentence) (runs : List (List Token)),
        AreRuns isSameParticle (s.tokens.filter isParticle) runs ↔ runs = particleRuns s) ∧
      ∀ run : List Token,
        ((reportsOfRun m duplicateDiagnostic run).length : Int) = max 0 (run.length - max 1 m) := by
  refine ⟨?_, fun s runs => areRuns_iff, length_reportsOfRun m duplicateDiagnostic⟩
  refine List.flatMap_congr fun s _ => ?_
  have hruns : AreRuns (goesOn (fun t : Token => (t.surface, particleKind t)) (fun _ _ => true))
      (s.tokens.filter isParticle) (particleRuns s) := by
    rw [goesOn_isSameParticle]
    exact areRuns_iff.2 rfl
  exact report_of_areRuns m _ _ hruns

/-- Of three particles with a word among them, the third is beyond a limit of two. -/
example :
    (duplicateParticle (text "本を雨をを")
      (Sentence.split (text "本を雨をを") (anchor (text "本を雨をを")
        [{ surface := text "本", pos := some "名詞" }, { surface := text "を", pos := some "助詞" },
         { surface := text "雨", pos := some "名詞" }, { surface := text "を", pos := some "助詞" },
         { surface := text "を", pos := some "助詞" }]))
      { duplicateParticleMaxRepeat := .count 2 }).map (fun d => (d.start, d.stop)) = [(3, 5)] := by
  decide +kernel

end Rule

end Kousei
