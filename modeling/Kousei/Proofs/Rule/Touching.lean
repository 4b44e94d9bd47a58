import Kousei.Proofs.Rule.Order

/-! # Particles that touch

    The rule about adjacent particles looks at one token after the other and
    begins anew at every word that is no particle.  If no token is empty, this
    comes to the same as looking at all pairs of particles of a sentence: two
    that touch leave no room for a token between them (`Touches.neighbours`), and
    a particle behind another word touches none before it (`repeats_gaps`).

    So every pair that touches is reported, once and from left to right; with a
    limit above one, those whose second particle is beyond the limit in its chain
    of particles (`adjacentParticles_iff_touches`). -/

namespace Kousei

/-! ## Rows of tokens that are not empty -/

theorem Token.offset_lt_stop {x : Token} (h : x.surface ≠ []) : x.offset < x.stop := by
  have hlength : 0 < x.surface.length := List.length_pos_of_ne_nil h
  unfold stop
  omega

/-- The tokens are in their order, and none of them is empty. -/
structure SolidRow (xs : List Token) : Prop where
  before : xs.Pairwise Token.Before
  solid : ∀ x ∈ xs, x.offset < x.stop

namespace SolidRow

variable {xs ys : List Token}

theorem sublist (h : SolidRow xs) (hys : ys.Sublist xs) : SolidRow ys where
  before := h.before.sublist hys
  solid := fun x hx => h.solid x (hys.mem hx)

/-- Both ends of an earlier token are before those of a later one. -/
theorem precedes (h : SolidRow xs) : xs.Pairwise (Token.Precedes (· < ·)) := by
  refine h.before.imp_of_mem fun {x y} hx hy hxy => ?_
  have hbefore : x.stop ≤ y.offset := hxy
  have hxs := h.solid x hx
  have hys := h.solid y hy
  constructor
  · show x.offset < y.offset
    omega
  · show x.stop < y.stop
    omega

theorem before_of_lt (h : SolidRow xs) {i j : Nat} {x y : Token} (hx : xs[i]? = some x)
    (hy : xs[j]? = some y) (hij : i < j) : x.stop ≤ y.offset := by
  obtain ⟨hi, rfl⟩ := List.getElem?_eq_some_iff.1 hx
  obtain ⟨hj, rfl⟩ := List.getElem?_eq_some_iff.1 hy
  exact List.pairwise_iff_getElem.1 h.before i j hi hj hij

end SolidRow

theorem surface_ne_nil_of_mem_anchorFrom {t : Text} {cursor : Nat} {ms : List Morpheme}
    (hms : ∀ m ∈ ms, m.surface ≠ []) : ∀ x ∈ anchorFrom t cursor ms, x.surface ≠ [] := by
  induction ms generalizing cursor with
  | nil => exact List.forall_mem_nil _
  | cons m r ih =>
    obtain ⟨hm, hr⟩ := List.forall_mem_cons.1 hms
    exact List.forall_mem_cons.2 ⟨hm, ih hr⟩

/-- Words with something written are anchored one after the other. -/
theorem anchor_solidRow (t : Text) {ms : List Morpheme} (hms : ∀ m ∈ ms, m.surface ≠ []) :
    SolidRow (anchor t ms) where
  before := anchor_pairwise t ms
  solid := fun x hx => Token.offset_lt_stop (surface_ne_nil_of_mem_anchorFrom hms x hx)

/-! ## Gaps -/

namespace Streak

variable {α κ : Type} [DecidableEq κ] {key : α → κ} {linked : α → α → Bool}

/-- A scanner that holds an element which is not linked to the next one goes on
    as if it held none. -/
theorem repeats_of_unlinked {s : Streak α κ} {xs : List α}
    (h : ∀ p ∈ s.last, ∀ y ∈ xs.head?, linked p.1 y = false) :
    repeats key linked s (xs.map some) = repeats key linked {} (xs.map some) := by
  obtain ⟨last, length⟩ := s
  cases xs with
  | nil => rfl
  | cons y r =>
    cases last with
    | none => rfl
    | some p =>
      have hunlinked : linked p.1 y = false := h p rfl y rfl
      simp only [List.map_cons, repeats, feed, Option.all_some, hunlinked, Bool.false_and,
        Bool.false_eq_true, ↓reduceIte]

/-- Gaps for the elements that do not count make no difference, if no two elements
    with another between them are linked. -/
theorem repeats_gaps {R : α → α → Prop} (p : α → Bool)
    (hbetween : ∀ x y z, R x y → R y z → linked x z = false) {s : Streak α κ} {xs : List α}
    (hrow : ((s.last.map Prod.fst).toList ++ xs).Pairwise R) :
    repeats key linked s (xs.map fun x => if p x then some x else none) =
      repeats key linked s ((xs.filter p).map some) := by
  induction xs generalizing s with
  | nil => rfl
  | cons y r ih =>
    have hrest : (y :: r).Pairwise R := (List.pairwise_append.1 hrow).2.1
    by_cases hy : p y = true
    · -- Both rows have the element, and the scanner holds it afterwards.
      have hnext (n : Nat) := ih (s := ⟨some (y, key y), n⟩) hrest
      rw [List.map_cons, if_pos hy, List.filter_cons_of_pos hy, List.map_cons]
      obtain ⟨n, hstep | ⟨previous, -, hstep⟩⟩ := repeats_some_cases key linked s y
      · rw [hstep, hstep, hnext]
      · rw [hstep, hstep, hnext]
    · -- One row has a gap, and in the other what comes next is not linked.
      have hreset := ih (s := {}) (List.pairwise_cons.1 hrest).2
      rw [List.map_cons, if_neg hy, List.filter_cons_of_neg hy]
      refine hreset.trans (repeats_of_unlinked fun q hq z hz => ?_).symm
      have hz : z ∈ r := List.mem_of_mem_filter (List.mem_of_mem_head? hz)
      have hqy : R q.1 y := by
        rw [Option.mem_def.1 hq] at hrow
        exact List.rel_of_pairwise_cons hrow (List.mem_cons_self ..)
      exact hbetween q.1 y z hqy (List.rel_of_pairwise_cons hrest hz)

end Streak

namespace Rule

open Streak

/-! ## Chains -/

/-- Two particles of one kind with nothing between them. -/
structure Touches (p q : Token) : Prop where
  left : isParticle p = true
  right : isParticle q = true
  stop_eq : p.stop = q.offset
  pos_eq : p.pos = q.pos
  detail_eq : p.posDetail1 = q.posDetail1

/-- Which place a particle of a row has in its chain: the first, if none touches
    it, and otherwise the one after the particle that does. -/
inductive InChain (xs : List Token) : Token → Nat → Prop where
  | first {q : Token} : q ∈ xs → isParticle q = true → (∀ p ∈ xs, ¬ Touches p q) → InChain xs q 1
  | next {p q : Token} {n : Nat} : InChain xs p n → q ∈ xs → Touches p q → InChain xs q (n + 1)

theorem InChain.mem {xs : List Token} {q : Token} {n : Nat} (h : InChain xs q n) : q ∈ xs := by
  cases h with
  | first hq => exact hq
  | next _ hq => exact hq

theorem InChain.pos {xs : List Token} {q : Token} {n : Nat} (h : InChain xs q n) : 0 < n := by
  cases h with
  | first => exact Nat.one_pos
  | next => exact Nat.succ_pos _

/-- A particle that is touched is not the first of its chain. -/
theorem InChain.two_le {xs : List Token} {p q : Token} {n : Nat} (h : InChain xs q n)
    (hp : p ∈ xs) (hpq : Touches p q) : 2 ≤ n := by
  cases h with
  | first _ _ hnone => exact absurd hpq (hnone p hp)
  | next hprevious => exact Nat.succ_le_succ hprevious.pos

/-- What the scanner takes for going on with a particle. -/
def touchesNext : Token → Token → Bool :=
  goesOn particleKind fun previous t => t.offset == previous.stop

theorem touchesNext_iff {p q : Token} (hp : isParticle p = true) (hq : isParticle q = true) :
    touchesNext p q = true ↔ Touches p q := by
  simp only [touchesNext, goesOn, particleKind, Bool.and_eq_true, beq_iff_eq, Prod.mk.injEq]
  constructor
  · rintro ⟨hstop, hpos, hdetail⟩
    exact ⟨hp, hq, hstop.symm, hpos, hdetail⟩
  · rintro ⟨-, -, hstop, hpos, hdetail⟩
    exact ⟨hstop.symm, hpos, hdetail⟩

section chains

variable {xs : List Token} {p q : Token} {i n : Nat}

theorem isParticle_of_getElem? (hq : (xs.filter isParticle)[i]? = some q) :
    q ∈ xs ∧ isParticle q = true :=
  List.mem_filter.1 (List.mem_of_getElem? hq)

/-- A particle that touches another stands right before it in the row of the
    particles. -/
theorem Touches.neighbours (hxs : SolidRow xs) (hpq : Touches p q) (hp : p ∈ xs)
    (hq : (xs.filter isParticle)[i]? = some q) :
    ∃ j, i = j + 1 ∧ (xs.filter isParticle)[j]? = some p := by
  have hrow : SolidRow (xs.filter isParticle) := hxs.sublist List.filter_sublist
  have hps : p.offset < p.stop := hxs.solid p hp
  have hqs : q.offset < q.stop := hrow.solid q (List.mem_of_getElem? hq)
  have htouch := hpq.stop_eq
  obtain ⟨j, hj⟩ := List.mem_iff_getElem?.1 (List.mem_filter.2 ⟨hp, hpq.left⟩)
  refine ⟨j, ?_, hj⟩
  rcases Nat.lt_trichotomy i (j + 1) with hij | hij | hij
  · -- Then `q` stands at the place of `p` or before it, and ends too early.
    rcases Nat.lt_or_eq_of_le (Nat.le_of_lt_succ hij) with hij | rfl
    · have hbefore := hrow.before_of_lt hq hj hij
      omega
    · rw [hj] at hq
      cases hq
      omega
  · exact hij
  · -- Then there is a particle between the two, and no room for it.
    have hi : i < (xs.filter isParticle).length := (List.getElem?_eq_some_iff.1 hq).1
    have hz := List.getElem?_eq_getElem (show j + 1 < (xs.filter isParticle).length by omega)
    have hpz := hrow.before_of_lt hj hz (Nat.lt_succ_self j)
    have hzq := hrow.before_of_lt hz hq hij
    have hzs := hrow.solid _ (List.mem_of_getElem? hz)
    omega

/-- The place in the chain is the length of the streak. -/
theorem inChain_runLength (hxs : SolidRow xs) (hq : (xs.filter isParticle)[i]? = some q) :
    InChain xs q (runLength touchesNext (xs.filter isParticle) i) := by
  induction i generalizing q with
  | zero =>
    obtain ⟨hmem, hparticle⟩ := isParticle_of_getElem? hq
    refine .first hmem hparticle fun p hp hpq => ?_
    obtain ⟨j, hj, -⟩ := hpq.neighbours hxs hp hq
    cases hj
  | succ i ih =>
    obtain ⟨hmem, hparticle⟩ := isParticle_of_getElem? hq
    have hi : i + 1 < (xs.filter isParticle).length := (List.getElem?_eq_some_iff.1 hq).1
    have hp := List.getElem?_eq_getElem (Nat.lt_of_succ_lt hi)
    have hiff := touchesNext_iff (isParticle_of_getElem? hp).2 hparticle
    rw [runLength_succ hp hq]
    by_cases htouches : touchesNext (xs.filter isParticle)[i] q = true
    · rw [if_pos htouches]
      exact .next (ih hp) hmem (hiff.1 htouches)
    · rw [if_neg htouches]
      refine .first hmem hparticle fun p' hp' hpq => ?_
      -- Only the particle right before could touch it.
      obtain ⟨j, hj, hp''⟩ := hpq.neighbours hxs hp' hq
      obtain rfl : i = j := Nat.succ.inj hj
      rw [hp] at hp''
      cases hp''
      exact htouches (hiff.2 hpq)

/-- A particle has one place in its chain. -/
theorem InChain.eq_runLength (hxs : SolidRow xs) (h : InChain xs q n)
    (hq : (xs.filter isParticle)[i]? = some q) :
    n = runLength touchesNext (xs.filter isParticle) i := by
  induction h generalizing i with
  | @first q _ hparticle hnone =>
    cases i with
    | zero => rfl
    | succ i =>
      have hi : i + 1 < (xs.filter isParticle).length := (List.getElem?_eq_some_iff.1 hq).1
      have hp := List.getElem?_eq_getElem (Nat.lt_of_succ_lt hi)
      obtain ⟨hmem, hpparticle⟩ := isParticle_of_getElem? hp
      rw [runLength_succ hp hq, if_neg]
      intro htouches
      exact hnone _ hmem ((touchesNext_iff hpparticle hparticle).1 htouches)
  | @next p q n hprevious _ hpq ih =>
    obtain ⟨j, rfl, hp⟩ := hpq.neighbours hxs hprevious.mem hq
    rw [runLength_succ hp hq, if_pos ((touchesNext_iff hpq.left hpq.right).2 hpq), ih hp]

theorem existsUnique_inChain (hxs : SolidRow xs) (hq : q ∈ xs) (hparticle : isParticle q = true) :
    ∃! n, InChain xs q n := by
  obtain ⟨i, hi⟩ := List.mem_iff_getElem?.1 (List.mem_filter.2 ⟨hq, hparticle⟩)
  exact ⟨_, inChain_runLength hxs hi, fun n hn => hn.eq_runLength hxs hi⟩

end chains

/-! ## What is reported -/

/-- What is said of two particles that touch. -/
def touchDiagnostic (p q : Token) : Diagnostic where
  start := p.offset
  stop := q.stop
  message := "助詞が連続して使われています"
  code := "adjacent-particles"

theorem adjacentRepeats_eq {s : Sentence} (hs : SolidRow s.tokens) :
    adjacentRepeats s =
      repeats particleKind (fun previous t => t.offset == previous.stop) {}
        ((s.tokens.filter isParticle).map some) := by
  have hrow : s.tokens.Pairwise fun x y => x.stop ≤ y.offset ∧ y.offset < y.stop :=
    hs.before.imp_of_mem fun _ hy hxy => ⟨hxy, hs.solid _ hy⟩
  refine repeats_gaps isParticle (fun x y z hxy hyz => ?_) hrow
  have hne : z.offset ≠ x.stop := by omega
  exact beq_eq_false_iff_ne.2 hne

/-- What is reported of a sentence: the pairs that touch and whose second
    particle is beyond the limit in its chain. -/
theorem mem_adjacent_iff {s : Sentence} (hs : SolidRow s.tokens) (m : Int) (d : Diagnostic) :
    d ∈ report (.count m) "adjacent-particles" (fun _ => "助詞が連続して使われています")
        (adjacentRepeats s) ↔
      ∃ p ∈ s.tokens, ∃ q ∈ s.tokens, Touches p q ∧
        (∃ n, InChain s.tokens q n ∧ m < n) ∧ d = touchDiagnostic p q := by
  rw [adjacentRepeats_eq hs, report_eq_map]
  simp only [List.mem_map, List.mem_filter]
  constructor
  · rintro ⟨y, ⟨hy, hlong⟩, rfl⟩
    obtain ⟨i, hp, hq, hgoes, hlength⟩ := mem_repeats_iff.1 hy
    obtain ⟨hpmem, hpparticle⟩ := isParticle_of_getElem? hp
    obtain ⟨hqmem, hqparticle⟩ := isParticle_of_getElem? hq
    have hm : m < y.length := of_decide_eq_true hlong
    rw [hlength] at hm
    exact ⟨y.previous, hpmem, y.element, hqmem,
      (touchesNext_iff hpparticle hqparticle).1 hgoes, ⟨_, inChain_runLength hs hq, hm⟩, rfl⟩
  · rintro ⟨p, hp, q, hq, hpq, ⟨n, hn, hm⟩, rfl⟩
    obtain ⟨i, hi⟩ := List.mem_iff_getElem?.1 (List.mem_filter.2 ⟨hq, hpq.right⟩)
    obtain ⟨j, rfl, hj⟩ := hpq.neighbours hs hp hi
    have hgoes : touchesNext p q = true := (touchesNext_iff hpq.left hpq.right).2 hpq
    refine ⟨⟨p, q, n⟩, ⟨mem_repeats_iff.2 ⟨j, hj, hi, hgoes, hn.eq_runLength hs hi⟩, ?_⟩, rfl⟩
    exact decide_eq_true hm

/-- The tokens of a sentence of words with something written. -/
theorem split_solidRow (t : Text) {ms : List Morpheme} (hms : ∀ w ∈ ms, w.surface ≠ []) :
    ∀ s ∈ Sentence.split t (anchor t ms), SolidRow s.tokens := by
  intro s hs
  refine (anchor_solidRow t hms).sublist ?_
  rw [← Sentence.flatMap_tokens_split t (anchor t ms)]
  exact tokens_sublist hs

/-- **Particles that touch.**  Of words with something written, with a limit of
    one or lower, there is one diagnostic for every two particles of one sentence
    that touch, whatever else the sentence holds.  With any limit it is those
    pairs whose second particle is beyond the limit in its chain, where it has one
    place.  Each is reported once, from left to right. -/
theorem adjacentParticles_iff_touches (t : Text) {ms : List Morpheme}
    (hms : ∀ w ∈ ms, w.surface ≠ []) (r : RuleSettings) (m : Int) :
    (m ≤ 1 → ∀ d,
      d ∈ adjacentParticles t (Sentence.split t (anchor t ms))
          { r with adjacentParticlesMaxRepeat := .count m } ↔
        ∃ s ∈ Sentence.split t (anchor t ms), ∃ p ∈ s.tokens, ∃ q ∈ s.tokens,
          Touches p q ∧ d = touchDiagnostic p q) ∧
    (∀ d,
      d ∈ adjacentParticles t (Sentence.split t (anchor t ms))
          { r with adjacentParticlesMaxRepeat := .count m } ↔
        ∃ s ∈ Sentence.split t (anchor t ms), ∃ p ∈ s.tokens, ∃ q ∈ s.tokens,
          Touches p q ∧ (∃ n, InChain s.tokens q n ∧ m < n) ∧ d = touchDiagnostic p q) ∧
    (∀ s ∈ Sentence.split t (anchor t ms), ∀ q ∈ s.tokens, isParticle q = true →
      ∃! n, InChain s.tokens q n) ∧
    (adjacentParticles t (Sentence.split t (anchor t ms))
        { r with adjacentParticlesMaxRepeat := .count m }).Pairwise
      fun d e => d.start < e.start ∧ d.stop < e.stop := by
  have hsolid := split_solidRow t hms
  have hbeyond (d : Diagnostic) :
      d ∈ adjacentParticles t (Sentence.split t (anchor t ms))
          { r with adjacentParticlesMaxRepeat := .count m } ↔
        ∃ s ∈ Sentence.split t (anchor t ms), ∃ p ∈ s.tokens, ∃ q ∈ s.tokens,
          Touches p q ∧ (∃ n, InChain s.tokens q n ∧ m < n) ∧ d = touchDiagnostic p q := by
    rw [adjacentParticles, List.mem_flatMap]
    constructor
    · rintro ⟨s, hs, hd⟩
      exact ⟨s, hs, (mem_adjacent_iff (hsolid s hs) m d).1 hd⟩
    · rintro ⟨s, hs, hd⟩
      exact ⟨s, hs, (mem_adjacent_iff (hsolid s hs) m d).2 hd⟩
  refine ⟨fun hm d => ?_, hbeyond, fun s hs q hq => existsUnique_inChain (hsolid s hs) hq, ?_⟩
  · rw [hbeyond]
    constructor
    · rintro ⟨s, hs, p, hp, q, hq, hpq, -, hd⟩
      exact ⟨s, hs, p, hp, q, hq, hpq, hd⟩
    · rintro ⟨s, hs, p, hp, q, hq, hpq, hd⟩
      -- The second of two is beyond any such limit.
      obtain ⟨n, hn, -⟩ := existsUnique_inChain (hsolid s hs) hq hpq.right
      have htwo : 2 ≤ n := hn.two_le hp hpq
      exact ⟨s, hs, p, hp, q, hq, hpq, ⟨n, hn, by omega⟩, hd⟩
  · have hrow : ((Sentence.split t (anchor t ms)).flatMap Sentence.tokens).Pairwise
        (Token.Precedes (· < ·)) := by
      rw [Sentence.flatMap_tokens_split]
      exact (anchor_solidRow t hms).precedes
    exact (adjacentParticles_pairwise hrow).imp fun hde => ⟨hde.start, hde.stop⟩

/-- Three particles of one kind in a row. -/
def sampleWay : Text := text "東京にへに行く"

def sampleWayWords : List Morpheme :=
  [{ surface := text "東京", pos := some "名詞" },
   { surface := text "に", pos := some "助詞", posDetail1 := some "格助詞" },
   { surface := text "へ", pos := some "助詞", posDetail1 := some "格助詞" },
   { surface := text "に", pos := some "助詞", posDetail1 := some "格助詞" },
   { surface := text "行く", pos := some "動詞" }]

theorem adjacentParticles_iff_touches_of_sampleWay :
    (∀ w ∈ sampleWayWords, w.surface ≠ []) ∧
    (∃ s ∈ Sentence.split sampleWay (anchor sampleWay sampleWayWords), ∃ p ∈ s.tokens,
      ∃ q ∈ s.tokens, Touches p q ∧ p.offset = 3 ∧ q.stop = 5) ∧
    (adjacentParticles sampleWay (Sentence.split sampleWay (anchor sampleWay sampleWayWords))
        { adjacentParticlesMaxRepeat := .count 1 }).map (fun d => (d.start, d.stop)) =
      [(2, 4), (3, 5)] ∧
    (adjacentParticles sampleWay (Sentence.split sampleWay (anchor sampleWay sampleWayWords))
        { adjacentParticlesMaxRepeat := .count 2 }).map (fun d => (d.start, d.stop)) =
      [(3, 5)] := by
  have hms : ∀ w ∈ sampleWayWords, w.surface ≠ [] := by decide
  obtain ⟨hall, -⟩ := adjacentParticles_iff_touches sampleWay hms {} 1
  -- The second pair is reported, so there are two particles that touch.
  obtain ⟨s, hs, p, hp, q, hq, hpq, hd⟩ := (hall (Int.le_refl 1)
    { start := 3, stop := 5, message := "助詞が連続して使われています",
      code := "adjacent-particles" }).1 (by decide +kernel)
  have hends : p.offset = 3 ∧ q.stop = 5 :=
    ⟨(congrArg Diagnostic.start hd).symm, (congrArg Diagnostic.stop hd).symm⟩
  exact ⟨hms, ⟨s, hs, p, hp, q, hq, hpq, hends⟩, by decide +kernel, by decide +kernel⟩

end Rule

end Kousei
