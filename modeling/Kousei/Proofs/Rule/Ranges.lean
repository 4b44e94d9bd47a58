import Kousei.Proofs.Morph.Sentence
import Kousei.Proofs.Rule.Streak
import Kousei.Rule.Basic

/-! # Ranges of diagnostics

    Whatever lies between two places, the sentences and the tokens of a
    text, the diagnostics of all rules lie there as well, and none ends
    before it begins (`check_between`).  A rule reports a sentence, or a
    stretch from the offset of a token to the end of the same token or of a
    later one (`repeats_sublist`, `raDroppedIn_sublist`). -/

namespace Kousei

/-- The diagnostic lies between two places. -/
structure Diagnostic.Between (a b : Int) (d : Diagnostic) : Prop where
  le_start : a ≤ d.start
  start_le_stop : d.start ≤ d.stop
  stop_le : d.stop ≤ b

/-! ## Streaks -/

namespace Streak

variable {α κ : Type} [DecidableEq κ]

/-- A repeat is an element that was taken, or that came last before, and one
    that was taken later. -/
theorem repeats_sublist (key : α → κ) (linked : α → α → Bool) (s : Streak α κ)
    (xs : List (Option α)) :
    ∀ y ∈ repeats key linked s xs,
      [y.previous, y.element].Sublist ((s.last.map Prod.fst).toList ++ xs.filterMap id) := by
  -- By the elements; the streak is what is remembered of those before.
  induction xs generalizing s with
  | nil => exact List.forall_mem_nil _
  | cons o r ih =>
    intro y hy
    cases o with
    | none => exact (ih s.reset y hy).trans (List.sublist_append_right _ _)
    | some x =>
      obtain ⟨n, hstep | ⟨previous, hprevious, hstep⟩⟩ := repeats_some_cases key linked s x
      · rw [hstep] at hy
        exact (ih _ y hy).trans (List.sublist_append_right _ _)
      · rw [hstep] at hy
        rw [hprevious]
        rcases List.mem_cons.1 hy with rfl | hy
        · exact ((List.nil_sublist _).cons_cons x).cons_cons previous
        · exact (ih _ y hy).trans (List.sublist_append_right _ _)

end Streak

namespace Rule

open Streak

/-! ## Sentences between two places -/

/-- The sentences and their tokens lie between two places, the tokens in
    their order. -/
structure Between (a b : Int) (ss : List Sentence) : Prop where
  sentences : ∀ s ∈ ss, s.Between a b
  row : (ss.flatMap Sentence.tokens).Pairwise Token.Before
  tokens : ∀ x ∈ ss.flatMap Sentence.tokens, a ≤ x.offset ∧ x.stop ≤ b

variable {a b : Int} {t : Text} {ss : List Sentence} {r : RuleSettings}

/-- A stretch from a token to a later one lies between the two places. -/
theorem Between.of_sublist (h : Between a b ss) {x y : Token}
    (hxy : [x, y].Sublist (ss.flatMap Sentence.tokens)) :
    a ≤ x.offset ∧ x.offset ≤ y.stop ∧ y.stop ≤ b := by
  have hbefore : x.stop ≤ y.offset :=
    List.rel_of_pairwise_cons (h.row.sublist hxy) (List.mem_singleton.2 rfl)
  have hx := h.tokens x (hxy.mem (by simp))
  have hy := h.tokens y (hxy.mem (by simp))
  have hxs := x.offset_le_stop
  have hys := y.offset_le_stop
  omega

theorem Between.of_mem (h : Between a b ss) {x : Token} (hx : x ∈ ss.flatMap Sentence.tokens) :
    a ≤ x.offset ∧ x.offset ≤ x.stop ∧ x.stop ≤ b :=
  ⟨(h.tokens x hx).1, x.offset_le_stop, (h.tokens x hx).2⟩

theorem tokens_sublist {s : Sentence} (hs : s ∈ ss) :
    s.tokens.Sublist (ss.flatMap Sentence.tokens) := by
  rw [List.flatMap_def]
  exact List.sublist_flatten_of_mem (List.mem_map_of_mem hs)

/-! ## Limits within a sentence -/

/-- The diagnostic is about the whole sentence. -/
structure Whole (s : Sentence) (code : String) (d : Diagnostic) : Prop where
  start : d.start = s.start
  stop : d.stop = s.stop
  code : d.code = code

theorem commaLimit_whole : ∀ d ∈ commaLimit t ss r, ∃ s ∈ ss, Whole s "comma-limit" d := by
  intro d hd
  obtain ⟨s, hs, hsome⟩ := List.mem_filterMap.1 hd
  simp only at hsome
  split at hsome <;> cases hsome
  exact ⟨s, hs, rfl, rfl, rfl⟩

theorem adversativeGa_whole :
    ∀ d ∈ adversativeGa t ss r, ∃ s ∈ ss, Whole s "adversative-ga" d := by
  intro d hd
  obtain ⟨s, hs, hsome⟩ := List.mem_filterMap.1 hd
  simp only at hsome
  split at hsome <;> cases hsome
  exact ⟨s, hs, rfl, rfl, rfl⟩

/-- What is reported of whole sentences lies between the two places. -/
theorem Between.of_whole (h : Between a b ss) {code : String} {d : Diagnostic}
    (hd : ∃ s ∈ ss, Whole s code d) : d.Between a b := by
  obtain ⟨s, hs, hstart, hstop, -⟩ := hd
  obtain ⟨hle, hss, hsb⟩ := h.sentences s hs
  rw [← hstart] at hle hss
  rw [← hstop] at hss hsb
  exact ⟨hle, hss, hsb⟩

theorem commaLimit_between (h : Between a b ss) : ∀ d ∈ commaLimit t ss r, d.Between a b :=
  fun d hd => h.of_whole (commaLimit_whole d hd)

theorem adversativeGa_between (h : Between a b ss) :
    ∀ d ∈ adversativeGa t ss r, d.Between a b :=
  fun d hd => h.of_whole (adversativeGa_whole d hd)

/-! ## Repetition -/

/-- What is said of a repeat that is reported. -/
def ofRepeat (code : String) (message : Token → String) (y : Repeat Token) : Diagnostic :=
  { start := y.previous.offset, stop := y.element.stop, code, message := message y.element }

/-- A report is what is said of the repeats that are too long. -/
theorem report_eq_map (max : Limit) (code : String) (message : Token → String)
    (found : List (Repeat Token)) :
    report max code message found =
      (found.filter fun y => max.isBelow y.length).map (ofRepeat code message) := by
  induction found with
  | nil => rfl
  | cons y r ih =>
    rw [report] at ih
    by_cases hlong : max.isBelow y.length = true
    · simp only [report, List.filterMap_cons, List.filter_cons, hlong, ↓reduceIte, List.map_cons, ih]
      rfl
    · simp only [report, List.filterMap_cons, List.filter_cons, hlong, Bool.false_eq_true,
        ↓reduceIte, ih]

theorem exists_of_mem_report {max : Limit} {code : String} {message : Token → String}
    {found : List (Repeat Token)} {d : Diagnostic} (hd : d ∈ report max code message found) :
    ∃ y ∈ found, d = ofRepeat code message y := by
  rw [report_eq_map] at hd
  obtain ⟨y, hy, rfl⟩ := List.mem_map.1 hd
  exact ⟨y, List.mem_of_mem_filter hy, rfl⟩

/-- What is reported of repeats among the tokens lies between the two
    places. -/
theorem report_between (h : Between a b ss) {max : Limit} {code : String}
    {message : Token → String} {found : List (Repeat Token)}
    (hfound : ∀ y ∈ found, [y.previous, y.element].Sublist (ss.flatMap Sentence.tokens)) :
    ∀ d ∈ report max code message found, d.Between a b := by
  intro d hd
  obtain ⟨y, hy, rfl⟩ := exists_of_mem_report hd
  obtain ⟨hle, hxy, hyb⟩ := h.of_sublist (hfound y hy)
  exact ⟨hle, hxy, hyb⟩

theorem filterMap_id_map_some (xs : List Token) : (xs.map some).filterMap id = xs := by
  rw [List.filterMap_map]
  exact List.filterMap_some

theorem filterMap_id_gaps (xs : List Token) :
    (xs.map fun x => if isParticle x then some x else none).filterMap id =
      xs.filter isParticle := by
  rw [List.filterMap_map, ← List.filterMap_eq_filter]
  rfl

theorem duplicateParticle_between (h : Between a b ss) :
    ∀ d ∈ duplicateParticle t ss r, d.Between a b := by
  intro d hd
  obtain ⟨s, hs, hd⟩ := List.mem_flatMap.1 hd
  refine report_between h (fun y hy => ?_) d hd
  have hsub := repeats_sublist _ _ _ _ y hy
  rw [filterMap_id_map_some] at hsub
  exact (hsub.trans List.filter_sublist).trans (tokens_sublist hs)

theorem adjacentParticles_between (h : Between a b ss) :
    ∀ d ∈ adjacentParticles t ss r, d.Between a b := by
  intro d hd
  obtain ⟨s, hs, hd⟩ := List.mem_flatMap.1 hd
  refine report_between h (fun y hy => ?_) d hd
  have hsub := repeats_sublist _ _ _ _ y hy
  rw [filterMap_id_gaps] at hsub
  exact (hsub.trans List.filter_sublist).trans (tokens_sublist hs)

theorem conjunctionRepeat_between (h : Between a b ss) :
    ∀ d ∈ conjunctionRepeat t ss r, d.Between a b := by
  refine report_between h fun y hy => ?_
  have hsub := repeats_sublist _ _ _ _ y hy
  rw [filterMap_id_map_some] at hsub
  exact hsub.trans List.filter_sublist

/-! ## Dropped sounds -/

/-- What is found at a token is that token, or reaches to it from the one
    before. -/
theorem raDroppedIn_cons (previous : Option Token) (x : Token) (r : List Token) :
    ∃ here, raDroppedIn previous (x :: r) = here ++ raDroppedIn (some x) r ∧
      (here = [] ∨ here = [(x.offset, x.stop)] ∨
        ∃ q, previous = some q ∧ here = [(q.offset, x.stop)]) := by
  refine ⟨_, rfl, ?_⟩
  by_cases hdropped : isRaDropped x
  · exact .inr (.inl (if_pos hdropped))
  · rw [if_neg hdropped]
    cases previous with
    | none => exact .inl rfl
    | some q =>
      by_cases hpair : (takesRareru q && isReru x) = true
      · exact .inr (.inr ⟨q, rfl, if_pos hpair⟩)
      · exact .inl (if_neg hpair)

/-- A dropped sound is found at a token, or from a token to the next. -/
theorem raDroppedIn_sublist (previous : Option Token) (xs : List Token) :
    ∀ p ∈ raDroppedIn previous xs,
      (∃ x ∈ xs, p = (x.offset, x.stop)) ∨
        ∃ x y, [x, y].Sublist (previous.toList ++ xs) ∧ p = (x.offset, y.stop) := by
  induction xs generalizing previous with
  | nil => exact List.forall_mem_nil _
  | cons x r ih =>
    intro p hp
    obtain ⟨here, hcons, hhere⟩ := raDroppedIn_cons previous x r
    rw [hcons] at hp
    rcases List.mem_append.1 hp with hp | hp
    · rcases hhere with rfl | rfl | ⟨q, rfl, rfl⟩
      · cases hp
      · exact .inl ⟨x, List.mem_cons_self .., List.mem_singleton.1 hp⟩
      · refine .inr ⟨q, x, ?_, List.mem_singleton.1 hp⟩
        exact ((List.nil_sublist r).cons_cons x).cons_cons q
    · rcases ih (some x) p hp with ⟨y, hy, hpy⟩ | ⟨y, z, hyz, hpz⟩
      · exact .inl ⟨y, List.mem_cons_of_mem _ hy, hpy⟩
      · exact .inr ⟨y, z, hyz.trans (List.sublist_append_right _ _), hpz⟩

theorem raDropping_between (h : Between a b ss) : ∀ d ∈ raDropping t ss r, d.Between a b := by
  intro d hd
  obtain ⟨s, hs, hd⟩ := List.mem_flatMap.1 hd
  obtain ⟨p, hp, rfl⟩ := List.mem_map.1 hd
  rcases raDroppedIn_sublist none s.tokens p hp with ⟨x, hx, rfl⟩ | ⟨x, y, hxy, rfl⟩
  · obtain ⟨hle, hxx, hxb⟩ := h.of_mem ((tokens_sublist hs).mem hx)
    exact ⟨hle, hxx, hxb⟩
  · obtain ⟨hle, hxy', hyb⟩ := h.of_sublist (hxy.trans (tokens_sublist hs))
    exact ⟨hle, hxy', hyb⟩

/-! ## All rules -/

theorem check_cases {rule : Entry} (hrule : rule ∈ all) :
    rule.check = commaLimit ∨ rule.check = adversativeGa ∨ rule.check = duplicateParticle ∨
      rule.check = adjacentParticles ∨ rule.check = conjunctionRepeat ∨
      rule.check = raDropping := by
  simp only [all, List.mem_cons, List.not_mem_nil, or_false] at hrule
  rcases hrule with rfl | rfl | rfl | rfl | rfl | rfl
  · exact .inl rfl
  · exact .inr (.inl rfl)
  · exact .inr (.inr (.inl rfl))
  · exact .inr (.inr (.inr (.inl rfl)))
  · exact .inr (.inr (.inr (.inr (.inl rfl))))
  · exact .inr (.inr (.inr (.inr (.inr rfl))))

/-- Every rule keeps to where the sentences and their tokens are. -/
theorem entry_between (h : Between a b ss) {rule : Entry} (hrule : rule ∈ all) :
    ∀ d ∈ rule.check t ss r, d.Between a b := by
  rcases check_cases hrule with hcheck | hcheck | hcheck | hcheck | hcheck | hcheck
  all_goals rw [hcheck]
  · exact commaLimit_between h
  · exact adversativeGa_between h
  · exact duplicateParticle_between h
  · exact adjacentParticles_between h
  · exact conjunctionRepeat_between h
  · exact raDropping_between h

/-- The diagnostics of all rules lie where the sentences and their tokens
    do. -/
theorem check_between (h : Between a b ss) : ∀ d ∈ check t ss r, d.Between a b := by
  intro d hd
  obtain ⟨rule, hrule, hd⟩ := List.mem_flatMap.1 hd
  split at hd
  · exact entry_between h hrule d hd
  · cases hd

/-- The sentences of tokens in their order lie between any two places that
    the tokens lie between. -/
theorem split_between {xs : List Token} (hrow : xs.Pairwise Token.Before)
    (hxs : ∀ x ∈ xs, a ≤ x.offset ∧ x.stop ≤ b) : Between a b (Sentence.split t xs) where
  sentences := Sentence.split_between hrow (fun x hx => (hxs x hx).1) (fun x hx => (hxs x hx).2)
  row := by rwa [Sentence.flatMap_tokens_split]
  tokens := by rwa [Sentence.flatMap_tokens_split]

end Rule

end Kousei
