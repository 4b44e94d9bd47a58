import Kousei.Proofs.Morph.Partition
import Kousei.Proofs.Rule.Ranges

/-! # Order of diagnostics

    The diagnostics of a text come rule by rule, and those of one rule from
    left to right: neither their beginnings nor their ends go back.  Each begins
    where a token begins or a sentence ends, and ends where a token ends.  None
    but those about conjunctions leaves its sentence (`check_in_order`).

    Why they do not go back depends on the rule.  What is found of repetition
    comes along the row of tokens (`Along`), whether or not sentences cut the
    row; whole sentences come one after the other; and a dropped sound is found
    in one sentence, not before the token that comes ahead of it. -/

namespace Kousei

/-- Both ends of a token are in the relation to those of another. -/
structure Token.Precedes (R : Int → Int → Prop) (x y : Token) : Prop where
  offset : R x.offset y.offset
  stop : R x.stop y.stop

/-- Both ends of a diagnostic are in the relation to those of another. -/
structure Diagnostic.Precedes (R : Int → Int → Prop) (d e : Diagnostic) : Prop where
  start : R d.start e.start
  stop : R d.stop e.stop

theorem Token.Before.precedes {x y : Token} (h : x.Before y) : Precedes (· ≤ ·) x y := by
  have hx := x.offset_le_stop
  have hy := y.offset_le_stop
  have hxy : x.stop ≤ y.offset := h
  constructor
  · show x.offset ≤ y.offset
    omega
  · show x.stop ≤ y.stop
    omega

/-! ## Repeats along a row -/

namespace Streak

variable {α κ : Type}

/-- The repeated elements come in the order of a row, and so do those before
    them. -/
structure Along (row : List α) (found : List (Repeat α)) : Prop where
  previous : (found.map Repeat.previous).Sublist row
  element : (found.map Repeat.element).Sublist row

namespace Along

variable {row row' : List α} {found : List (Repeat α)}

theorem trans (h : Along row found) (hrow : row.Sublist row') : Along row' found :=
  ⟨h.previous.trans hrow, h.element.trans hrow⟩

theorem mem (h : Along row found) {y : Repeat α} (hy : y ∈ found) :
    y.previous ∈ row ∧ y.element ∈ row :=
  ⟨h.previous.mem (List.mem_map_of_mem hy), h.element.mem (List.mem_map_of_mem hy)⟩

/-- Repeats along the parts of a row are repeats along the row. -/
theorem flatMap {σ : Type} {part : σ → List α} {foundIn : σ → List (Repeat α)}
    (h : ∀ s, Along (part s) (foundIn s)) (ss : List σ) :
    Along (ss.flatMap part) (ss.flatMap foundIn) := by
  induction ss with
  | nil => exact ⟨List.nil_sublist _, List.nil_sublist _⟩
  | cons s r ih =>
    constructor
    · rw [List.flatMap_cons, List.flatMap_cons, List.map_append]
      exact (h s).previous.append ih.previous
    · rw [List.flatMap_cons, List.flatMap_cons, List.map_append]
      exact (h s).element.append ih.element

theorem pairwise (h : Along row found) {R : α → α → Prop} (hrow : row.Pairwise R) :
    found.Pairwise fun y z => R y.previous z.previous ∧ R y.element z.element :=
  (List.pairwise_map.1 (hrow.sublist h.previous)).and
    (List.pairwise_map.1 (hrow.sublist h.element))

end Along

variable [DecidableEq κ]

/-- What a scanner finds comes along the row, whatever it held before. -/
theorem map_repeats_sublist (key : α → κ) (linked : α → α → Bool) (s : Streak α κ)
    (xs : List (Option α)) :
    ((repeats key linked s xs).map Repeat.previous).Sublist
        ((s.last.map Prod.fst).toList ++ xs.filterMap id) ∧
      ((repeats key linked s xs).map Repeat.element).Sublist (xs.filterMap id) := by
  induction xs generalizing s with
  | nil => exact ⟨List.nil_sublist _, List.nil_sublist _⟩
  | cons o r ih =>
    cases o with
    | none =>
      obtain ⟨hprevious, helement⟩ := ih s.reset
      exact ⟨hprevious.trans (List.sublist_append_right _ _), helement⟩
    | some x =>
      obtain ⟨n, hstep | ⟨previous, hlast, hstep⟩⟩ := repeats_some_cases key linked s x
      · obtain ⟨hprevious, helement⟩ := ih ⟨some (x, key x), n⟩
        rw [hstep]
        exact ⟨hprevious.trans (List.sublist_append_right _ _), helement.cons x⟩
      · -- The repeat that is found begins with what the scanner held.
        obtain ⟨hprevious, helement⟩ := ih ⟨some (x, key x), n⟩
        rw [hstep, hlast]
        exact ⟨hprevious.cons_cons previous, helement.cons_cons x⟩

theorem repeats_along (key : α → κ) (linked : α → α → Bool) (xs : List (Option α)) :
    Along (xs.filterMap id) (repeats key linked {} xs) := by
  obtain ⟨hprevious, helement⟩ := map_repeats_sublist key linked {} xs
  exact ⟨hprevious, helement⟩

end Streak

namespace Rule

open Sentence (split IsPartition IsPart)
open Streak

variable {R : Int → Int → Prop} {t : Text} {xs : List Token} {ss : List Sentence}
  {r : RuleSettings}

/-! ## Repetition -/

section reports

variable {max : Limit} {code : String} {message : Token → String} {row : List Token}
  {found : List (Repeat Token)}

theorem report_pairwise (h : Along row found) (hrow : row.Pairwise (Token.Precedes R)) :
    (report max code message found).Pairwise (Diagnostic.Precedes R) := by
  rw [report_eq_map, List.pairwise_map]
  refine ((h.pairwise hrow).filter _).imp fun hyz => ?_
  exact ⟨hyz.1.offset, hyz.2.stop⟩

theorem report_ends (h : Along row found) :
    ∀ d ∈ report max code message found,
      (∃ x ∈ row, d.start = x.offset) ∧ ∃ x ∈ row, d.stop = x.stop := by
  intro d hd
  obtain ⟨y, hy, rfl⟩ := exists_of_mem_report hd
  obtain ⟨hprevious, helement⟩ := h.mem hy
  exact ⟨⟨y.previous, hprevious, rfl⟩, ⟨y.element, helement, rfl⟩⟩

/-- Reports sentence by sentence are one report. -/
theorem flatMap_report (foundIn : Sentence → List (Repeat Token)) (ss : List Sentence) :
    (ss.flatMap fun s => report max code message (foundIn s)) =
      report max code message (ss.flatMap foundIn) := by
  simp only [report, List.filterMap_flatMap]

end reports

theorem particleRepeats_along (s : Sentence) : Along s.tokens (particleRepeats s) := by
  have halong := repeats_along (fun t : Token => (t.surface, particleKind t)) (fun _ _ => true)
    ((s.tokens.filter isParticle).map some)
  rw [filterMap_id_map_some] at halong
  exact halong.trans List.filter_sublist

theorem adjacentRepeats_along (s : Sentence) : Along s.tokens (adjacentRepeats s) := by
  have halong := repeats_along particleKind (fun previous t : Token => t.offset == previous.stop)
    (s.tokens.map fun t => if isParticle t then some t else none)
  rw [filterMap_id_gaps] at halong
  exact halong.trans List.filter_sublist

theorem conjunctionRepeats_along (t : Text) (ss : List Sentence) :
    Along (ss.flatMap Sentence.tokens) (conjunctionRepeats t ss) := by
  have halong := repeats_along Token.surface
    (fun previous c : Token => !(t.sliceInt previous.stop c.offset).any (· == '\n'))
    (((ss.flatMap Sentence.tokens).filter isConjunction).map some)
  rw [filterMap_id_map_some] at halong
  exact halong.trans List.filter_sublist

theorem duplicateParticle_pairwise
    (hrow : (ss.flatMap Sentence.tokens).Pairwise (Token.Precedes R)) :
    (duplicateParticle t ss r).Pairwise (Diagnostic.Precedes R) := by
  rw [duplicateParticle, flatMap_report]
  exact report_pairwise (Along.flatMap particleRepeats_along ss) hrow

theorem adjacentParticles_pairwise
    (hrow : (ss.flatMap Sentence.tokens).Pairwise (Token.Precedes R)) :
    (adjacentParticles t ss r).Pairwise (Diagnostic.Precedes R) := by
  rw [adjacentParticles, flatMap_report]
  exact report_pairwise (Along.flatMap adjacentRepeats_along ss) hrow

theorem conjunctionRepeat_pairwise
    (hrow : (ss.flatMap Sentence.tokens).Pairwise (Token.Precedes R)) :
    (conjunctionRepeat t ss r).Pairwise (Diagnostic.Precedes R) :=
  report_pairwise (conjunctionRepeats_along t ss) hrow

/-! ## Sentences one by one -/

/-- A rule looks at each sentence by itself, unless it is about conjunctions. -/
theorem check_by_sentence {rule : Entry} (hrule : rule ∈ all) :
    rule.check = conjunctionRepeat ∨
      ∀ (t : Text) (ss : List Sentence) (r : RuleSettings),
        rule.check t ss r = ss.flatMap fun s => rule.check t [s] r := by
  rcases check_cases hrule with hcheck | hcheck | hcheck | hcheck | hcheck | hcheck
  case inr.inr.inr.inr.inl => exact .inl hcheck
  all_goals
    right
    intro t ss r
    rw [hcheck]
  · simp only [commaLimit, List.filterMap_eq_flatMap_toList, List.flatMap_singleton]
  · simp only [adversativeGa, List.filterMap_eq_flatMap_toList, List.flatMap_singleton]
  · simp only [duplicateParticle, List.flatMap_singleton]
  · simp only [adjacentParticles, List.flatMap_singleton]
  · simp only [raDropping, List.flatMap_singleton]

/-- Each part of a division into sentences lies between its own ends. -/
theorem singleton_between (hss : IsPartition t xs ss) (hrow : xs.Pairwise Token.Before)
    {s : Sentence} (hs : s ∈ ss) : Between s.start s.stop [s] where
  sentences := by
    intro a ha
    obtain rfl := List.mem_singleton.1 ha
    exact ⟨Int.le_refl _, (hss.isPart a hs).start_le_stop, Int.le_refl _⟩
  row := by
    rw [List.flatMap_singleton]
    rw [← hss.tokens_eq] at hrow
    exact hrow.sublist (tokens_sublist hs)
  tokens := by
    rw [List.flatMap_singleton]
    exact (hss.isPart s hs).covers

/-- What is not about conjunctions is about one sentence. -/
theorem exists_sentence (hss : IsPartition t xs ss) (hrow : xs.Pairwise Token.Before)
    {rule : Entry} (hrule : rule ∈ all) :
    ∀ d ∈ rule.check t ss r, d.code ≠ "conjunction-repeat" →
      ∃ s ∈ ss, d.Between s.start s.stop := by
  intro d hd hcode
  rcases check_by_sentence hrule with hcheck | hcheck
  · rw [hcheck] at hd
    obtain ⟨y, -, rfl⟩ := exists_of_mem_report hd
    exact absurd rfl hcode
  · rw [hcheck] at hd
    obtain ⟨s, hs, hd⟩ := List.mem_flatMap.1 hd
    exact ⟨s, hs, entry_between (singleton_between hss hrow hs) hrule d hd⟩

/-! ## Dropped sounds -/

/-- Where sounds are dropped in a row of tokens, neither the beginnings nor the
    ends go back. -/
theorem raDroppedIn_pairwise (previous : Option Token) (xs : List Token)
    (hrow : (previous.toList ++ xs).Pairwise Token.Before) :
    (raDroppedIn previous xs).Pairwise fun p q => p.1 ≤ q.1 ∧ p.2 ≤ q.2 := by
  induction xs generalizing previous with
  | nil => exact .nil
  | cons x r ih =>
    have hrest : (x :: r).Pairwise Token.Before := (List.pairwise_append.1 hrow).2.1
    have hlater : ∀ q ∈ raDroppedIn (some x) r, x.offset ≤ q.1 ∧ x.stop ≤ q.2 := by
      intro q hq
      have hoffset := Sentence.head_offset_le hrest
      have hstop : ∀ y ∈ r, x.stop ≤ y.stop := fun y hy =>
        Int.le_trans (List.rel_of_pairwise_cons hrest hy) y.offset_le_stop
      rcases raDroppedIn_sublist (some x) r q hq with ⟨y, hy, rfl⟩ | ⟨y, z, hyz, rfl⟩
      · exact ⟨hoffset y (List.mem_cons_of_mem x hy), hstop y hy⟩
      · have hy : y ∈ x :: r := hyz.mem (List.mem_cons_self ..)
        have hz : z ∈ r := hyz.tail.mem (List.mem_singleton_self z)
        exact ⟨hoffset y hy, hstop z hz⟩
    obtain ⟨here, hcons, hhere⟩ := raDroppedIn_cons previous x r
    have hnow : ∀ p ∈ here, p.1 ≤ x.offset ∧ p.2 = x.stop := by
      intro p hp
      rcases hhere with rfl | rfl | ⟨q, rfl, rfl⟩
      · cases hp
      · obtain rfl := List.mem_singleton.1 hp
        exact ⟨Int.le_refl _, rfl⟩
      · obtain rfl := List.mem_singleton.1 hp
        have hbefore : q.stop ≤ x.offset := List.rel_of_pairwise_cons hrow (List.mem_cons_self ..)
        exact ⟨Int.le_trans q.offset_le_stop hbefore, rfl⟩
    have hone : here.Pairwise fun p q => p.1 ≤ q.1 ∧ p.2 ≤ q.2 := by
      rcases hhere with rfl | rfl | ⟨q, -, rfl⟩
      · exact .nil
      · exact List.pairwise_singleton _ _
      · exact List.pairwise_singleton _ _
    rw [hcons]
    refine List.pairwise_append.2 ⟨hone, ih (some x) hrest, fun p hp q hq => ?_⟩
    obtain ⟨hpstart, hpstop⟩ := hnow p hp
    obtain ⟨hqstart, hqstop⟩ := hlater q hq
    omega

/-! ## The order of one rule -/

/-- What a rule reports of one sentence is in order. -/
theorem check_singleton_pairwise {rule : Entry} (hrule : rule ∈ all) {s : Sentence}
    (hrow : s.tokens.Pairwise Token.Before) :
    (rule.check t [s] r).Pairwise (Diagnostic.Precedes (· ≤ ·)) := by
  have hone (reported : Sentence → Option Diagnostic) :
      ([s].filterMap reported).Pairwise (Diagnostic.Precedes (· ≤ ·)) :=
    List.Pairwise.filterMap reported (fun _ _ h => h.elim)
      (List.pairwise_singleton (fun _ _ => False) s)
  have htokens : ([s].flatMap Sentence.tokens).Pairwise (Token.Precedes (· ≤ ·)) := by
    rw [List.flatMap_singleton]
    exact hrow.imp Token.Before.precedes
  rcases check_cases hrule with hcheck | hcheck | hcheck | hcheck | hcheck | hcheck
  all_goals rw [hcheck]
  · exact hone _
  · exact hone _
  · exact duplicateParticle_pairwise htokens
  · exact adjacentParticles_pairwise htokens
  · exact conjunctionRepeat_pairwise htokens
  · rw [raDropping, List.flatMap_singleton, List.pairwise_map]
    exact (raDroppedIn_pairwise none s.tokens hrow).imp fun hpq => ⟨hpq.1, hpq.2⟩

/-- What a rule reports of a text is in order. -/
theorem entry_pairwise (hss : IsPartition t xs ss) (hrow : xs.Pairwise Token.Before)
    {rule : Entry} (hrule : rule ∈ all) :
    (rule.check t ss r).Pairwise (Diagnostic.Precedes (· ≤ ·)) := by
  have htokens : (ss.flatMap Sentence.tokens).Pairwise Token.Before := by rwa [hss.tokens_eq]
  rcases check_by_sentence hrule with hcheck | hcheck
  · rw [hcheck]
    exact conjunctionRepeat_pairwise (htokens.imp Token.Before.precedes)
  · rw [hcheck]
    refine List.pairwise_flatMap.2 ⟨fun s hs => ?_, ?_⟩
    · exact check_singleton_pairwise hrule (htokens.sublist (tokens_sublist hs))
    · refine hss.pairwise.imp_of_mem fun {a b} ha hb hab d hd e he => ?_
      -- The two are in different sentences, and the first sentence ends before the second begins.
      have hdin := entry_between (singleton_between hss hrow ha) hrule d hd
      have hein := entry_between (singleton_between hss hrow hb) hrule e he
      have hstarts : d.start ≤ e.start :=
        Int.le_trans hdin.start_le_stop
          (Int.le_trans hdin.stop_le (Int.le_trans hab hein.le_start))
      have hstops : d.stop ≤ e.stop :=
        Int.le_trans hdin.stop_le
          (Int.le_trans hab (Int.le_trans hein.le_start hein.start_le_stop))
      exact ⟨hstarts, hstops⟩

/-! ## Where diagnostics begin and end -/

/-- The diagnostic begins where a token begins or a sentence ends, and ends
    where a token ends. -/
structure OnTokens (xs : List Token) (ss : List Sentence) (d : Diagnostic) : Prop where
  start : (∃ x ∈ xs, d.start = x.offset) ∨ ∃ s ∈ ss, d.start = s.stop
  stop : ∃ x ∈ xs, d.stop = x.stop

theorem onTokens_of_whole (hss : IsPartition t xs ss) {code : String} {d : Diagnostic}
    (hd : ∃ s ∈ ss, Whole s code d) : OnTokens xs ss d := by
  obtain ⟨s, hs, hstart, hstop, -⟩ := hd
  obtain ⟨x, hx, hxstop⟩ := (hss.isPart s hs).exists_stop
  constructor
  · rw [hstart]
    exact hss.start_cases hs
  · exact ⟨x, hss.mem hs hx, hstop.trans hxstop⟩

theorem onTokens_of_report (hss : IsPartition t xs ss) {max : Limit} {code : String}
    {message : Token → String} {found : List (Repeat Token)}
    (hfound : Along (ss.flatMap Sentence.tokens) found) :
    ∀ d ∈ report max code message found, OnTokens xs ss d := by
  intro d hd
  rw [hss.tokens_eq] at hfound
  obtain ⟨hstart, hstop⟩ := report_ends hfound d hd
  exact ⟨.inl hstart, hstop⟩

theorem raDropping_onTokens (hss : IsPartition t xs ss) :
    ∀ d ∈ raDropping t ss r, OnTokens xs ss d := by
  intro d hd
  obtain ⟨s, hs, hd⟩ := List.mem_flatMap.1 hd
  obtain ⟨p, hp, rfl⟩ := List.mem_map.1 hd
  rcases raDroppedIn_sublist none s.tokens p hp with ⟨x, hx, rfl⟩ | ⟨x, y, hxy, rfl⟩
  · exact ⟨.inl ⟨x, hss.mem hs hx, rfl⟩, ⟨x, hss.mem hs hx, rfl⟩⟩
  · have hx : x ∈ s.tokens := hxy.mem (by simp)
    have hy : y ∈ s.tokens := hxy.mem (by simp)
    exact ⟨.inl ⟨x, hss.mem hs hx, rfl⟩, ⟨y, hss.mem hs hy, rfl⟩⟩

theorem entry_onTokens (hss : IsPartition t xs ss) {rule : Entry} (hrule : rule ∈ all) :
    ∀ d ∈ rule.check t ss r, OnTokens xs ss d := by
  intro d hd
  rcases check_cases hrule with hcheck | hcheck | hcheck | hcheck | hcheck | hcheck
  all_goals rw [hcheck] at hd
  · exact onTokens_of_whole hss (commaLimit_whole d hd)
  · exact onTokens_of_whole hss (adversativeGa_whole d hd)
  · rw [duplicateParticle, flatMap_report] at hd
    exact onTokens_of_report hss (Along.flatMap particleRepeats_along ss) d hd
  · rw [adjacentParticles, flatMap_report] at hd
    exact onTokens_of_report hss (Along.flatMap adjacentRepeats_along ss) d hd
  · exact onTokens_of_report hss (conjunctionRepeats_along t ss) d hd
  · exact raDropping_onTokens hss d hd

/-! ## The order of all rules -/

/-- The codes that the rules report with, in the order of the rules. -/
def codes : List String :=
  ["comma-limit", "adversative-ga", "duplicate-particle", "adjacent-particles",
   "conjunction-repeat", "ra-dropping"]

/-- Every rule has its own code. -/
theorem code_eq {rule : Entry} {code : String} (h : (rule, code) ∈ all.zip codes) :
    ∀ d ∈ rule.check t ss r, d.code = code := by
  intro d hd
  simp only [all, codes, List.zip_cons_cons, List.zip_nil_left, List.mem_cons, Prod.mk.injEq,
    List.not_mem_nil, or_false] at h
  rcases h with ⟨rfl, rfl⟩ | ⟨rfl, rfl⟩ | ⟨rfl, rfl⟩ | ⟨rfl, rfl⟩ | ⟨rfl, rfl⟩ | ⟨rfl, rfl⟩
  · obtain ⟨s, -, hwhole⟩ := commaLimit_whole (t := t) d hd
    exact hwhole.code
  · obtain ⟨s, -, hwhole⟩ := adversativeGa_whole (t := t) d hd
    exact hwhole.code
  · obtain ⟨s, -, hd⟩ := List.mem_flatMap.1 hd
    obtain ⟨y, -, rfl⟩ := exists_of_mem_report hd
    rfl
  · obtain ⟨s, -, hd⟩ := List.mem_flatMap.1 hd
    obtain ⟨y, -, rfl⟩ := exists_of_mem_report hd
    rfl
  · change d ∈ conjunctionRepeat t ss r at hd
    obtain ⟨y, -, rfl⟩ := exists_of_mem_report hd
    rfl
  · obtain ⟨s, -, hd⟩ := List.mem_flatMap.1 hd
    obtain ⟨p, -, rfl⟩ := List.mem_map.1 hd
    rfl

theorem check_eq_flatMap (t : Text) (ss : List Sentence) (r : RuleSettings) :
    check t ss r =
      (all.zip codes).flatMap fun p => if p.1.enabled r then p.1.check t ss r else [] := rfl

theorem codes_pairwise :
    (all.zip codes).Pairwise fun p q => codes.idxOf p.2 < codes.idxOf q.2 := by
  have hcodes : ((all.zip codes).map Prod.snd).Pairwise
      fun a b => codes.idxOf a < codes.idxOf b := by decide
  rwa [List.pairwise_map] at hcodes

/-- A diagnostic is reported by a rule that is on, with the code of the rule. -/
theorem exists_rule :
    ∀ d ∈ check t ss r, ∃ p ∈ all.zip codes,
      p.1.enabled r = true ∧ d ∈ p.1.check t ss r ∧ d.code = p.2 := by
  intro d hd
  rw [check_eq_flatMap] at hd
  obtain ⟨p, hp, hd⟩ := List.mem_flatMap.1 hd
  split at hd
  · next hon => exact ⟨p, hp, hon, hd, code_eq hp d hd⟩
  · cases hd

/-- The diagnostics come rule by rule, and those of one rule in order. -/
theorem check_pairwise (hss : IsPartition t xs ss) (hrow : xs.Pairwise Token.Before) :
    (check t ss r).Pairwise fun d e =>
      codes.idxOf d.code < codes.idxOf e.code ∨
        d.code = e.code ∧ d.start ≤ e.start ∧ d.stop ≤ e.stop := by
  rw [check_eq_flatMap]
  refine List.pairwise_flatMap.2 ⟨fun p hp => ?_, ?_⟩
  · split
    · have hrule : p.1 ∈ all := (List.of_mem_zip hp).1
      refine (entry_pairwise hss hrow hrule).imp_of_mem fun {d e} hd he hde => ?_
      have hcode : d.code = e.code := (code_eq hp d hd).trans (code_eq hp e he).symm
      exact .inr ⟨hcode, hde.start, hde.stop⟩
    · exact .nil
  · refine codes_pairwise.imp_of_mem fun {p q} hp hq hpq d hd e he => ?_
    split at hd
    · split at he
      · rw [code_eq hp d hd, code_eq hq e he]
        exact .inl hpq
      · cases he
    · cases hd

/-- Tokens in their order lie between the beginning of the first and the end of
    the last. -/
theorem between_first_last {first last : Token} (hrow : xs.Pairwise Token.Before)
    (hfirst : first ∈ xs.head?) (hlast : last ∈ xs.getLast?) :
    ∀ x ∈ xs, first.offset ≤ x.offset ∧ x.stop ≤ last.stop := by
  intro x hx
  constructor
  · cases xs with
    | nil => cases hfirst
    | cons y r =>
      cases hfirst
      exact Sentence.head_offset_le hrow x hx
  · obtain ⟨init, rfl⟩ := List.getLast?_eq_some_iff.1 hlast
    rcases List.mem_append.1 hx with hx | hx
    · have hbefore : x.stop ≤ last.offset :=
        (List.pairwise_append.1 hrow).2.2 x hx last (List.mem_singleton_self last)
      exact Int.le_trans hbefore last.offset_le_stop
    · obtain rfl := List.mem_singleton.1 hx
      exact Int.le_refl _

/-- **Order and places of diagnostics.**  The diagnostics of words come in the
    order of the rules; of one rule, neither the beginnings nor the ends go back.
    Each one is reported by a rule that is on, with the code of that rule, lies
    between the beginning of the first token and the end of the last, begins where
    a token begins or a sentence ends, and ends where a token ends.  All but those
    about conjunctions lie in one sentence. -/
theorem check_in_order (t : Text) (ms : List Morpheme) (r : RuleSettings) :
    ((check t (split t (anchor t ms)) r).Pairwise fun d e =>
      codes.idxOf d.code < codes.idxOf e.code ∨
        d.code = e.code ∧ d.start ≤ e.start ∧ d.stop ≤ e.stop) ∧
    ∀ d ∈ check t (split t (anchor t ms)) r,
      (∃ p ∈ all.zip codes, p.1.enabled r = true ∧
        d ∈ p.1.check t (split t (anchor t ms)) r ∧ d.code = p.2) ∧
      (∃ first ∈ (anchor t ms).head?, ∃ last ∈ (anchor t ms).getLast?,
        d.Between first.offset last.stop) ∧
      OnTokens (anchor t ms) (split t (anchor t ms)) d ∧
      (d.code ≠ "conjunction-repeat" →
        ∃ s ∈ split t (anchor t ms), d.Between s.start s.stop) := by
  have hrow := anchor_pairwise t ms
  have hss := Sentence.split_isPartition (t := t) hrow le_offset_of_mem_anchorFrom
  refine ⟨check_pairwise hss hrow, fun d hd => ?_⟩
  obtain ⟨p, hp, hon, hfound, hcode⟩ := exists_rule d hd
  have hrule : p.1 ∈ all := (List.of_mem_zip hp).1
  have htokens := entry_onTokens hss hrule d hfound
  refine ⟨⟨p, hp, hon, hfound, hcode⟩, ?_, htokens, exists_sentence hss hrow hrule d hfound⟩
  -- A token ends where the diagnostic ends, so there is a first token and a last.
  obtain ⟨x, hx, -⟩ := htokens.stop
  have hne : anchor t ms ≠ [] := List.ne_nil_of_mem hx
  have hfirst := List.head_mem_head? hne
  have hlast := List.getLast_mem_getLast? hne
  refine ⟨_, hfirst, _, hlast, ?_⟩
  exact entry_between (split_between hrow (between_first_last hrow hfirst hlast)) hrule d hfound

/-- Two sentences: one repeats a particle, the other repeats the conjunction of
    the first and drops a sound. -/
def sampleNote : Text := text "また本をを読む。また見れる"

def sampleNoteWords : List Morpheme :=
  [{ surface := text "また", pos := some "接続詞" }, { surface := text "本", pos := some "名詞" },
   { surface := text "を", pos := some "助詞" }, { surface := text "を", pos := some "助詞" },
   { surface := text "読む", pos := some "動詞" }, { surface := text "。", pos := some "記号" },
   { surface := text "また", pos := some "接続詞" }, { surface := text "見れる", pos := some "動詞" }]

/-- What is said of the dropped sound. -/
def sampleNoteDropped : Diagnostic where
  start := 10
  stop := 13
  message := "ら抜き言葉を使用しています"
  code := "ra-dropping"

theorem check_in_order_of_sampleNote :
    (check sampleNote (split sampleNote (anchor sampleNote sampleNoteWords)) {}).map
        (fun d => (d.code, d.start, d.stop)) =
      [("duplicate-particle", 3, 5), ("adjacent-particles", 3, 5), ("conjunction-repeat", 0, 10),
       ("ra-dropping", 10, 13)] ∧
    sampleNoteDropped ∈
      check sampleNote (split sampleNote (anchor sampleNote sampleNoteWords)) {} ∧
    ∃ s ∈ split sampleNote (anchor sampleNote sampleNoteWords),
      sampleNoteDropped.Between s.start s.stop := by
  have hfound : sampleNoteDropped ∈
      check sampleNote (split sampleNote (anchor sampleNote sampleNoteWords)) {} := by
    decide +kernel
  obtain ⟨-, hplaces⟩ := check_in_order sampleNote sampleNoteWords {}
  obtain ⟨-, -, -, hsentence⟩ := hplaces sampleNoteDropped hfound
  exact ⟨by decide +kernel, hfound, hsentence (by decide)⟩

end Rule

end Kousei
