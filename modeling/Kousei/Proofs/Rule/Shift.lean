import Kousei.Proofs.Rule.Ranges
import Kousei.Proofs.Text.Stretch

/-! # Moving a text

    A segment is analysed on its own, and its diagnostics are moved to the place
    of the segment.  That is right because the rules do not care where a text
    stands: with something put in front of it, and the sentences moved by as
    much, they report the same, moved by as much (`check_shifted`).

    A scanner is moved along with its elements (`repeats_map`), as long as they
    stay linked.  Whether conjunctions are linked is read off the text between
    them, and there the places must not be negative, which would count from the
    end of the text. -/

namespace Kousei

/-! ## Moved stretches -/

namespace Text

theorem slice_append_left (pad t : Text) (a b : Nat) :
    (pad ++ t).slice (pad.length + a) (pad.length + b) = t.slice a b := by
  rw [slice, slice, List.take_length_add_append, List.drop_length_add_append]

/-- What is cut out behind a text that was put in front. -/
theorem sliceInt_append_left (pad t : Text) {a b : Int} (ha : 0 ≤ a) (hb : 0 ≤ b) :
    (pad ++ t).sliceInt (a + pad.length) (b + pad.length) = t.sliceInt a b := by
  obtain ⟨a, rfl⟩ := Int.eq_ofNat_of_zero_le ha
  obtain ⟨b, rfl⟩ := Int.eq_ofNat_of_zero_le hb
  rw [← Int.natCast_add, ← Int.natCast_add, sliceInt_natCast, sliceInt_natCast,
    Nat.add_comm a, Nat.add_comm b, slice_append_left]

end Text

/-- The token moved by `n` characters. -/
def Token.shifted (x : Token) (n : Int) : Token := { x with offset := x.offset + n }

@[simp] theorem Token.shifted_offset (x : Token) (n : Int) :
    (x.shifted n).offset = x.offset + n := rfl

@[simp] theorem Token.shifted_stop (x : Token) (n : Int) : (x.shifted n).stop = x.stop + n := by
  show x.offset + n + x.surface.length = x.offset + x.surface.length + n
  omega

/-- The sentence moved by `n` characters, with its tokens. -/
def Sentence.shifted (s : Sentence) (n : Int) : Sentence :=
  { s with start := s.start + n, stop := s.stop + n, tokens := s.tokens.map (·.shifted n) }

theorem Sentence.flatMap_tokens_shifted (ss : List Sentence) (n : Int) :
    (ss.map (·.shifted n)).flatMap Sentence.tokens =
      (ss.flatMap Sentence.tokens).map (·.shifted n) := by
  rw [List.flatMap_map, List.map_flatMap]
  rfl

/-! ## Moved scanners -/

namespace Streak

variable {α β κ : Type} [DecidableEq κ]

/-- A scanner that holds the image of what another holds. -/
def map (f : α → β) (s : Streak α κ) : Streak β κ :=
  ⟨s.last.map fun p => (f p.1, p.2), s.length⟩

def Repeat.map (f : α → β) (y : Repeat α) : Repeat β := ⟨f y.previous, f y.element, y.length⟩

/-- What is found among the images of elements are the images of what is found,
    if the keys stay the same and linked elements stay linked. -/
theorem repeats_map {P : α → Prop} {f : α → β} {key : α → κ} {key' : β → κ}
    {linked : α → α → Bool} {linked' : β → β → Bool} (hkey : ∀ x, key' (f x) = key x)
    (hlinked : ∀ x y, P x → P y → linked' (f x) (f y) = linked x y) (s : Streak α κ)
    (xs : List (Option α)) (hs : ∀ p ∈ s.last, P p.1) (hxs : ∀ x, some x ∈ xs → P x) :
    repeats key' linked' (s.map f) (xs.map (Option.map f)) =
      (repeats key linked s xs).map (Repeat.map f) := by
  induction xs generalizing s with
  | nil => rfl
  | cons o r ih =>
    have hr : ∀ x, some x ∈ r → P x := fun x hx => hxs x (List.mem_cons_of_mem _ hx)
    cases o with
    | none => exact ih s.reset nofun hr
    | some x =>
      have hx : P x := hxs x (List.mem_cons_self ..)
      -- After the step both scanners hold the new element and its image.
      have hnext (n : Nat) := ih ⟨some (x, key x), n⟩ (fun p hp => by cases hp; exact hx) hr
      obtain ⟨last, length⟩ := s
      cases last with
      | none =>
        show repeats key' linked' ⟨some (f x, key' (f x)), 1⟩ (r.map (Option.map f)) = _
        rw [hkey]
        exact hnext 1
      | some p =>
        have hlink : linked' (f p.1) (f x) = linked p.1 x := hlinked p.1 x (hs p rfl) hx
        by_cases hgoes : (linked p.1 x && p.2 == key x) = true
        · simp only [map, Option.map_some, List.map_cons, repeats, feed, Option.all_some, hkey,
            hlink, hgoes, ↓reduceIte]
          exact congrArg _ (hnext (length + 1))
        · simp only [map, Option.map_some, List.map_cons, repeats, feed, Option.all_some, hkey,
            hlink, hgoes, Bool.false_eq_true, ↓reduceIte]
          exact hnext 1

end Streak

namespace Rule

open Streak

variable {t pad : Text} {ss : List Sentence} {r : RuleSettings} {n : Int}

/-! ## Moved repeats -/

theorem particleRepeats_shifted (s : Sentence) (n : Int) :
    particleRepeats (s.shifted n) = (particleRepeats s).map (Repeat.map (·.shifted n)) := by
  have hrow : (((s.tokens.map (·.shifted n)).filter isParticle).map some) =
      ((s.tokens.filter isParticle).map some).map (Option.map (·.shifted n)) := by
    rw [List.filter_map, List.map_map, List.map_map]
    rfl
  show repeats _ _ {} (((s.tokens.map (·.shifted n)).filter isParticle).map some) = _
  rw [hrow]
  exact repeats_map (P := fun _ => True) (fun _ => rfl) (fun _ _ _ _ => rfl) {} _ nofun
    (fun _ _ => trivial)

theorem adjacentRepeats_shifted (s : Sentence) (n : Int) :
    adjacentRepeats (s.shifted n) = (adjacentRepeats s).map (Repeat.map (·.shifted n)) := by
  have hrow : ((s.tokens.map (·.shifted n)).map fun t => if isParticle t then some t else none) =
      (s.tokens.map fun t => if isParticle t then some t else none).map
        (Option.map (·.shifted n)) := by
    rw [List.map_map, List.map_map]
    refine List.map_congr_left fun x _ => ?_
    show (if isParticle x then some (x.shifted n) else none) = _
    by_cases hx : isParticle x
    · simp [hx]
    · simp [hx]
  show repeats _ _ {} ((s.tokens.map (·.shifted n)).map _) = _
  rw [hrow]
  refine repeats_map (P := fun _ => True) (fun _ => rfl) (fun x y _ _ => ?_) {} _ nofun
    (fun _ _ => trivial)
  -- What touches still does when both are moved.
  rw [Bool.eq_iff_iff, beq_iff_eq, beq_iff_eq, Token.shifted_offset, Token.shifted_stop]
  exact Int.add_left_inj n

theorem conjunctionRepeats_shifted (hss : ∀ s ∈ ss, ∀ x ∈ s.tokens, 0 ≤ x.offset) :
    conjunctionRepeats (pad ++ t) (ss.map (·.shifted pad.length)) =
      (conjunctionRepeats t ss).map (Repeat.map (·.shifted pad.length)) := by
  have hrow : (((ss.map (·.shifted pad.length)).flatMap Sentence.tokens).filter
        isConjunction).map some =
      (((ss.flatMap Sentence.tokens).filter isConjunction).map some).map
        (Option.map (·.shifted pad.length)) := by
    rw [Sentence.flatMap_tokens_shifted, List.filter_map, List.map_map, List.map_map]
    rfl
  rw [conjunctionRepeats, hrow]
  refine repeats_map (P := fun x : Token => 0 ≤ x.offset) (fun _ => rfl) (fun x y hx hy => ?_)
    {} _ nofun (fun x hx => ?_)
  · have hstop : 0 ≤ x.stop := Int.le_trans hx x.offset_le_stop
    rw [Token.shifted_offset, Token.shifted_stop, Text.sliceInt_append_left pad t hstop hy]
  · obtain ⟨y, hy, heq⟩ := List.mem_map.1 hx
    cases heq
    obtain ⟨s, hs, hx⟩ := List.mem_flatMap.1 (List.mem_of_mem_filter hy)
    exact hss s hs x hx

/-! ## Moved diagnostics -/

/-- What is reported of moved repeats is moved as well. -/
theorem report_shifted {max : Limit} {code : String} {message : Token → String}
    {found : List (Repeat Token)} (hmessage : ∀ x, message (Token.shifted x n) = message x) :
    report max code message (found.map (Repeat.map (·.shifted n))) =
      (report max code message found).map (·.shifted n) := by
  rw [report_eq_map, report_eq_map, List.filter_map, List.map_map, List.map_map]
  refine List.map_congr_left fun y _ => ?_
  simp only [Function.comp_apply, ofRepeat, Repeat.map, Diagnostic.shifted, hmessage,
    Token.shifted_offset, Token.shifted_stop]

theorem commaLimit_shifted :
    commaLimit (pad ++ t) (ss.map (·.shifted n)) r = (commaLimit t ss r).map (·.shifted n) := by
  rw [commaLimit, commaLimit, List.filterMap_map, List.map_filterMap]
  refine congrArg (List.filterMap · ss) (funext fun s => ?_)
  show (if r.commaLimitMax.isBelow (s.text.count '、') = true then _ else none) = _
  by_cases hbelow : r.commaLimitMax.isBelow (s.text.count '、') = true
  · simp only [hbelow, ↓reduceIte, Option.map_some]
    rfl
  · simp only [hbelow, Bool.false_eq_true, ↓reduceIte, Option.map_none]

theorem adversativeGa_shifted :
    adversativeGa (pad ++ t) (ss.map (·.shifted n)) r =
      (adversativeGa t ss r).map (·.shifted n) := by
  rw [adversativeGa, adversativeGa, List.filterMap_map, List.map_filterMap]
  refine congrArg (List.filterMap · ss) (funext fun s => ?_)
  have hcount : (s.shifted n).tokens.countP isAdversativeGa = s.tokens.countP isAdversativeGa := by
    show (s.tokens.map (·.shifted n)).countP isAdversativeGa = _
    rw [List.countP_map]
    rfl
  by_cases hbelow : r.adversativeGaMax.isBelow (s.tokens.countP isAdversativeGa) = true
  · simp only [Function.comp_apply, hcount, hbelow, ↓reduceIte, Option.map_some]
    rfl
  · simp only [Function.comp_apply, hcount, hbelow, Bool.false_eq_true, ↓reduceIte,
      Option.map_none]

theorem duplicateParticle_shifted :
    duplicateParticle (pad ++ t) (ss.map (·.shifted n)) r =
      (duplicateParticle t ss r).map (·.shifted n) := by
  rw [duplicateParticle, duplicateParticle, List.flatMap_map, List.map_flatMap]
  refine List.flatMap_congr fun s _ => ?_
  rw [particleRepeats_shifted]
  exact report_shifted fun _ => rfl

theorem adjacentParticles_shifted :
    adjacentParticles (pad ++ t) (ss.map (·.shifted n)) r =
      (adjacentParticles t ss r).map (·.shifted n) := by
  rw [adjacentParticles, adjacentParticles, List.flatMap_map, List.map_flatMap]
  refine List.flatMap_congr fun s _ => ?_
  rw [adjacentRepeats_shifted]
  exact report_shifted fun _ => rfl

theorem conjunctionRepeat_shifted (hss : ∀ s ∈ ss, ∀ x ∈ s.tokens, 0 ≤ x.offset) :
    conjunctionRepeat (pad ++ t) (ss.map (·.shifted pad.length)) r =
      (conjunctionRepeat t ss r).map (·.shifted pad.length) := by
  rw [conjunctionRepeat, conjunctionRepeat, conjunctionRepeats_shifted hss]
  exact report_shifted fun _ => rfl

theorem raDroppedIn_shifted (previous : Option Token) (xs : List Token) (n : Int) :
    raDroppedIn (previous.map (·.shifted n)) (xs.map (·.shifted n)) =
      (raDroppedIn previous xs).map fun p => (p.1 + n, p.2 + n) := by
  induction xs generalizing previous with
  | nil => rfl
  | cons x r ih =>
    have hr : raDroppedIn (some (x.shifted n)) (r.map (·.shifted n)) = _ := ih (some x)
    -- Moving a token does not change what word it is.
    have hx : isRaDropped (x.shifted n) = isRaDropped x := rfl
    simp only [List.map_cons, raDroppedIn, hr, List.map_append, hx]
    congr 1
    by_cases hdropped : isRaDropped x = true
    · rw [if_pos hdropped, if_pos hdropped, Token.shifted_stop]
      rfl
    · rw [if_neg hdropped, if_neg hdropped]
      cases previous with
      | none => rfl
      | some q =>
        have hq : (takesRareru (q.shifted n) && isReru (x.shifted n)) =
          (takesRareru q && isReru x) := rfl
        simp only [Option.map_some, hq]
        by_cases hpair : (takesRareru q && isReru x) = true
        · rw [if_pos hpair, if_pos hpair, Token.shifted_stop]
          rfl
        · rw [if_neg hpair, if_neg hpair]
          rfl

theorem raDropping_shifted :
    raDropping (pad ++ t) (ss.map (·.shifted n)) r = (raDropping t ss r).map (·.shifted n) := by
  rw [raDropping, raDropping, List.flatMap_map, List.map_flatMap]
  refine List.flatMap_congr fun s _ => ?_
  have hdropped := raDroppedIn_shifted none s.tokens n
  rw [Option.map_none] at hdropped
  rw [Sentence.shifted, hdropped, List.map_map, List.map_map]
  rfl

/-! ## All rules -/

theorem entry_shifted (hss : ∀ s ∈ ss, ∀ x ∈ s.tokens, 0 ≤ x.offset) {rule : Entry}
    (hrule : rule ∈ all) :
    rule.check (pad ++ t) (ss.map (·.shifted pad.length)) r =
      (rule.check t ss r).map (·.shifted pad.length) := by
  rcases check_cases hrule with hcheck | hcheck | hcheck | hcheck | hcheck | hcheck
  all_goals rw [hcheck]
  · exact commaLimit_shifted
  · exact adversativeGa_shifted
  · exact duplicateParticle_shifted
  · exact adjacentParticles_shifted
  · exact conjunctionRepeat_shifted hss
  · exact raDropping_shifted

/-- A rule compares something with its limit in the moved text just when it does
    in the text. -/
theorem compares_shifted (hss : ∀ s ∈ ss, ∀ x ∈ s.tokens, 0 ≤ x.offset) {rule : Entry}
    (hrule : rule ∈ all) :
    rule.compares (pad ++ t) (ss.map (·.shifted pad.length)) = rule.compares t ss := by
  simp only [all, List.mem_cons, List.not_mem_nil, or_false] at hrule
  rcases hrule with rfl | rfl | rfl | rfl | rfl | rfl
  · simp only [List.isEmpty_map]
  · simp only [List.isEmpty_map]
  · simp only [List.any_map, Function.comp_def, particleRepeats_shifted, List.isEmpty_map]
  · simp only [List.any_map, Function.comp_def, adjacentRepeats_shifted, List.isEmpty_map]
  · simp only [conjunctionRepeats_shifted hss, List.isEmpty_map]
  · rfl

theorem failure?_shifted (hss : ∀ s ∈ ss, ∀ x ∈ s.tokens, 0 ≤ x.offset) :
    failure? (pad ++ t) (ss.map (·.shifted pad.length)) r = failure? t ss r := by
  have hentry : ∀ rule ∈ all,
      rule.failure? (pad ++ t) (ss.map (·.shifted pad.length)) r = rule.failure? t ss r := by
    intro rule hrule
    simp only [Entry.failure?, compares_shifted hss hrule, entry_shifted hss hrule,
      List.isEmpty_map]
  rw [failure?, failure?, ← List.head?_filterMap, ← List.head?_filterMap,
    List.filterMap_congr hentry]

/-- **Moving a text.**  With something put in front of a text, and its sentences
    and their tokens moved by as much, the rules report the same, moved by as
    much, and fail for the same reason if they fail. -/
theorem check_shifted (t pad : Text) (ss : List Sentence) (r : RuleSettings)
    (hss : ∀ s ∈ ss, ∀ x ∈ s.tokens, 0 ≤ x.offset) :
    check (pad ++ t) (ss.map (·.shifted pad.length)) r =
        (check t ss r).map (·.shifted pad.length) ∧
      failure? (pad ++ t) (ss.map (·.shifted pad.length)) r = failure? t ss r := by
  refine ⟨?_, failure?_shifted hss⟩
  rw [check, check, List.map_flatMap]
  refine List.flatMap_congr fun rule hrule => ?_
  by_cases hon : rule.enabled r = true
  · rw [if_pos hon, if_pos hon, entry_shifted hss hrule]
  · rw [if_neg hon, if_neg hon, List.map_nil]

/-- Two sentences with the same conjunction, without the line that comes before
    them in their document. -/
def sampleRain : Text := text "また雨。また雪"

def sampleRainWords : List Morpheme :=
  [{ surface := text "また", pos := some "接続詞" }, { surface := text "雨", pos := some "名詞" },
   { surface := text "。", pos := some "記号" }, { surface := text "また", pos := some "接続詞" },
   { surface := text "雪", pos := some "名詞" }]

theorem check_shifted_of_sampleRain :
    (∀ s ∈ Sentence.split sampleRain (anchor sampleRain sampleRainWords),
      ∀ x ∈ s.tokens, 0 ≤ x.offset) ∧
    check (text "晴れ。\n" ++ sampleRain)
        ((Sentence.split sampleRain (anchor sampleRain sampleRainWords)).map (·.shifted 4)) {} =
      (check sampleRain (Sentence.split sampleRain (anchor sampleRain sampleRainWords)) {}).map
        (·.shifted 4) ∧
    ((check sampleRain (Sentence.split sampleRain (anchor sampleRain sampleRainWords)) {}).map
        (·.shifted 4)).map (fun d => (d.start, d.stop)) = [(4, 10)] := by
  have hss : ∀ s ∈ Sentence.split sampleRain (anchor sampleRain sampleRainWords),
      ∀ x ∈ s.tokens, 0 ≤ x.offset := by decide +kernel
  obtain ⟨hcheck, -⟩ := check_shifted sampleRain (text "晴れ。\n")
    (Sentence.split sampleRain (anchor sampleRain sampleRainWords)) {} hss
  exact ⟨hss, hcheck, by decide +kernel⟩

end Rule

end Kousei
