import Kousei.Proofs.Check.Hover
import Kousei.Proofs.Text.Lines

/-! # Words that an editor is told of

    An editor that colours a document is told of its words one after the other,
    each by its position and its length, and passes on the distance from each
    to the next.  One word out of order would be wrong for all that follow it.

    `inkedPairs` lists the words of all segments that are not blank.  If the
    surfaces can be placed in their segments, each of these words stands in the
    document where its segment and its place there say
    (`standsAt_of_mem_inkedPairs`), and each ends before the next begins
    (`inkedPairs_pairwise`).  Of positions nothing more is needed than that
    they lead back to their places: positions of places in order are in order
    (`Text.before_of_offset_lt`). -/

namespace Kousei

namespace Check

/-! ## Words -/

/-- The words of the segments that are not blank, each with its segment. -/
def inkedPairs (words : Text → List Morpheme) (ss : List Segment) : List (Segment × Token) :=
  ss.flatMap fun s => ((anchor s.text (words s.text)).filter (!·.surface.allBlank)).map (s, ·)

/-- What an editor is told of a word of a segment. -/
def told (document : Text) (p : Segment × Token) : SemanticToken where
  position := document.position (p.1.offset + p.2.offset)
  length := p.2.surface.length
  type := tokenType p.2.pos
  modifiers := modifierBits p.2.modifiers

/-- The word `p` ends in the document before the word `q` begins there. -/
def EndsBefore (p q : Segment × Token) : Prop :=
  p.1.offset + p.2.stop ≤ q.1.offset + q.2.offset

variable {e : Engines} {c : Context} {settings : Settings} {t : Text} {language : String}
  {engine : Engine} {words : Text → List Morpheme} {ss : List Segment} {parsers : Parsers}
  {p : Segment × Token} {o : Nat}

theorem mem_inkedPairs : p ∈ inkedPairs words ss ↔
    p.1 ∈ ss ∧ p.2 ∈ anchor p.1.text (words p.1.text) ∧ p.2.surface.allBlank = false := by
  unfold inkedPairs
  simp only [List.mem_flatMap, List.mem_map, List.mem_filter, Bool.not_eq_true']
  constructor
  · rintro ⟨s, hs, x, hx, rfl⟩
    exact ⟨hs, hx⟩
  · rintro ⟨hs, hx⟩
    exact ⟨p.1, hs, p.2, hx, rfl⟩

/-- A word that is not blank is not empty. -/
theorem surface_ne_nil_of_mem_inkedPairs (h : p ∈ inkedPairs words ss) : p.2.surface ≠ [] := by
  obtain ⟨-, -, hink⟩ := mem_inkedPairs.1 h
  intro hnil
  rw [hnil] at hink
  cases hink

/-! ## What is told -/

theorem filterMap_semanticToken? (document : Text) (s : Segment) (xs : List Token) :
    xs.filterMap (semanticToken? document s) =
      ((xs.filter (!·.surface.allBlank)).map (s, ·)).map (told document) := by
  induction xs with
  | nil => rfl
  | cons x r ih =>
    cases hblank : x.surface.allBlank with
    | true =>
      have hnone : semanticToken? document s x = none := by
        unfold semanticToken?
        rw [if_pos hblank]
      rw [List.filterMap_cons_none hnone, ih, List.filter_cons_of_neg (by simp [hblank])]
    | false =>
      have hsome : semanticToken? document s x = some (told document (s, x)) := by
        unfold semanticToken?
        rw [hblank]
        rfl
      rw [List.filterMap_cons_some hsome, ih, List.filter_cons_of_pos (by simp [hblank])]
      rfl

/-- An editor is told of all words if the engine reads all segments. -/
theorem documentTokens_of_read (hss : documentSegments parsers settings t language = .ok ss)
    (hread : ∀ s ∈ ss, engine s.text = .ok (words s.text)) :
    documentTokens (.ok engine) parsers settings t language =
      (inkedPairs words ss).map (told t) := by
  have hall : ss.mapM (segmentTokens (.ok engine) t) =
      .ok (ss.map fun s => (anchor s.text (words s.text)).filterMap (semanticToken? t s)) := by
    apply mapM_ok_of_forall
    intro s hs
    show (engine s.text).map _ = _
    rw [hread s hs]
    rfl
  unfold documentTokens inkedPairs
  rw [hss]
  simp only [Except.bind, hall, filterMap_semanticToken?]
  rw [List.map_flatMap, List.flatMap_def]

/-- An editor is told of all words of a document that the engine reads, and of none if
    the document cannot be cut. -/
theorem semanticTokens_of_read (hengine : c.engine? e = .ok engine)
    (hread : ∀ s ∈ segmentsOf e c settings t language, engine s.text = .ok (words s.text)) :
    ((semanticTokens e settings t language).onContext c).1 =
      .ok ((inkedPairs words (segmentsOf e c settings t language)).map (told t)) := by
  rw [semanticTokens_outcome, hengine]
  unfold segmentsOf at hread ⊢
  rw [segments_outcome] at hread ⊢
  cases hss : documentSegments (c.parser e) settings t language with
  | error failure =>
    unfold documentTokens
    rw [hss]
    rfl
  | ok ss =>
    rw [hss] at hread
    rw [documentTokens_of_read hss hread]

/-! ## Places -/

theorem segmentsOf_standsIn : ∀ s ∈ segmentsOf e c settings t language, s.StandsIn t := by
  unfold segmentsOf
  split
  · next ss hss =>
    have hrun : (segments e settings t language).onContext c =
        (.ok ss, ((segments e settings t language).onContext c).2) := Prod.ext hss rfl
    exact segments_standsIn hrun
  · exact List.forall_mem_nil _

/-- A word stands in the document at the place of its segment and its own. -/
theorem standsAt_of_mem_inkedPairs (hstands : ∀ s ∈ ss, s.StandsIn t)
    (hplaced : ∀ s ∈ ss, Placeable s.text ((words s.text).map Morpheme.surface))
    (hp : p ∈ inkedPairs words ss) :
    ∃ o : Nat, p.1.offset + p.2.offset = o ∧ Text.StandsAt p.2.surface t o := by
  obtain ⟨hs, hx, -⟩ := mem_inkedPairs.1 hp
  obtain ⟨i, hi, hsegment⟩ := hstands p.1 hs
  obtain ⟨j, hj, hword⟩ := anchor_standsIn (hplaced p.1 hs) p.2 hx
  refine ⟨i + j, ?_, hword.trans hsegment⟩
  rw [hi, hj, Int.natCast_add]

/-- Words end before the next one begins, also where the next one is in another
    segment. -/
theorem inkedPairs_pairwise (hbefore : ss.Pairwise Segment.Before)
    (hplaced : ∀ s ∈ ss, Placeable s.text ((words s.text).map Morpheme.surface)) :
    (inkedPairs words ss).Pairwise EndsBefore := by
  apply List.pairwise_flatMap.2
  constructor
  · intro s _
    -- Within a segment the words follow one another, wherever it stands.
    rw [List.pairwise_map]
    apply ((anchor_pairwise s.text (words s.text)).filter _).imp
    intro x y hxy
    exact Int.add_le_add_left hxy s.offset
  · -- Words of different segments stay within theirs, and the segments are apart.
    apply hbefore.imp_of_mem
    intro s s' hs hs' hss p hp q hq
    obtain ⟨x, hx, rfl⟩ := List.mem_map.1 hp
    obtain ⟨y, hy, rfl⟩ := List.mem_map.1 hq
    have hstop := (anchor_standsIn (hplaced s hs) x (List.mem_filter.1 hx).1).bounds.2
    have hstart := (anchor_standsIn (hplaced s' hs') y (List.mem_filter.1 hy).1).bounds.1
    have hbetween := hss.stop_le
    unfold Segment.stop at hbetween
    unfold EndsBefore
    show s.offset + x.stop ≤ s'.offset + y.offset
    omega

/-- The position of a word leads back to its place. -/
theorem offset_told (ho : p.1.offset + p.2.offset = o) (h : Text.StandsAt p.2.surface t o) :
    t.offset (told t p).position = o := by
  have hle := h.le_length
  show t.offset (t.position (p.1.offset + p.2.offset)) = o
  rw [t.offset_position, ho, Text.clamp, Int.toNat_natCast]
  omega

/-- **Words that can be told apart.**  If the engine reads words in all segments that can
    be placed there, an editor is told of all of them that are not blank, in their order.
    What it is told of leads to the word in the document.  The positions are strictly
    increasing, and each word ends before the next one begins. -/
theorem semanticTokens_decodable (e : Engines) (c : Context) (settings : Settings) (t : Text)
    (language : String) (hengine : c.engine? e = .ok engine)
    (hread : ∀ s ∈ segmentsOf e c settings t language, engine s.text = .ok (words s.text))
    (hplaced : ∀ s ∈ segmentsOf e c settings t language,
      Placeable s.text ((words s.text).map Morpheme.surface))
    (hnested : ∀ name parse tree, consulted settings language = some name →
      c.parser e name = some parse → parse t = .ok tree → tree.WellNested) :
    ((semanticTokens e settings t language).onContext c).1 =
      .ok ((inkedPairs words (segmentsOf e c settings t language)).map (told t)) ∧
    (∀ p ∈ inkedPairs words (segmentsOf e c settings t language),
      (t.offset (told t p).position : Int) = p.1.offset + p.2.offset ∧
      t.slice (t.offset (told t p).position) (t.offset (told t p).position + (told t p).length) =
        p.2.surface) ∧
    ((inkedPairs words (segmentsOf e c settings t language)).map (told t)).Pairwise fun y z =>
      y.position.Before z.position ∧ t.offset y.position + y.length ≤ t.offset z.position := by
  have hbefore := segmentsOf_pairwise hnested
  have hstands : ∀ s ∈ segmentsOf e c settings t language, s.StandsIn t := segmentsOf_standsIn
  refine ⟨semanticTokens_of_read hengine hread, ?_, ?_⟩
  · intro p hp
    obtain ⟨o, ho, hword⟩ := standsAt_of_mem_inkedPairs hstands hplaced hp
    rw [offset_told ho hword]
    exact ⟨ho.symm, hword.slice_eq⟩
  · rw [List.pairwise_map]
    apply (inkedPairs_pairwise hbefore hplaced).imp_of_mem
    intro p q hp hq hpq
    obtain ⟨o, ho, hword⟩ := standsAt_of_mem_inkedPairs hstands hplaced hp
    obtain ⟨o', ho', hword'⟩ := standsAt_of_mem_inkedPairs hstands hplaced hq
    have hpos := List.length_pos_iff.2 (surface_ne_nil_of_mem_inkedPairs hp)
    have hle : o + p.2.surface.length ≤ o' := by
      unfold EndsBefore Token.stop at hpq
      omega
    have hplace := offset_told ho hword
    have hplace' := offset_told ho' hword'
    constructor
    · -- The first word is not empty, so the second begins at a later place.
      apply t.before_of_offset_lt
      omega
    · rw [hplace, hplace']
      exact hle

/-- A comment of two lines, and its tree. -/
def sampleComment : Text := text "x;\n/* 見れる\n来れる */"

def commentTree : Node := .mk "translation_unit" 0 28 [.mk "comment" 3 28 []]

/-- What an engine reads in the comment: the line feed is a word of its own. -/
def commentWords (_ : Text) : List Morpheme :=
  [sampleVerb "見れる", { surface := text "\n" }, sampleVerb "来れる"]

def commentEngines : Engines where
  backend := .ok ⟨"sample", some .plain, .ok fun s => .ok (commentWords s)⟩
  grammars := fun _ _ => .ok fun _ => .ok commentTree

theorem commentEngines_segmentsOf :
    segmentsOf commentEngines {} {} sampleComment "c" = [⟨text "見れる\n来れる", 6⟩] := by
  decide +kernel

theorem commentTree_wellNested : commentTree.WellNested := by
  refine .mk (by decide) ?_ (List.pairwise_singleton _ _) ?_
  · intro n hn
    rw [List.mem_singleton.1 hn]
    decide
  · intro n hn
    rw [List.mem_singleton.1 hn]
    exact .mk (by decide) (List.forall_mem_nil _) List.Pairwise.nil (List.forall_mem_nil _)

theorem commentWords_placeable :
    Placeable (text "見れる\n来れる") ((commentWords []).map Morpheme.surface) := by
  have hfirst : Text.StandsAt (text "見れる") (text "見れる\n来れる") 0 :=
    ⟨[], text "\n来れる", by decide, rfl⟩
  have hfeed : Text.StandsAt (text "\n") (text "見れる\n来れる") 3 :=
    ⟨text "見れる", text "来れる", by decide, rfl⟩
  have hsecond : Text.StandsAt (text "来れる") (text "見れる\n来れる") 4 :=
    ⟨text "見れる\n", [], by decide, rfl⟩
  exact ⟨[0, 3, 4], .cons (by decide) hfirst (.cons (by decide) hfeed
    (.cons (by decide) hsecond .nil))⟩

theorem semanticTokens_decodable_of_sampleComment :
    ({} : Context).engine? commentEngines = .ok (fun s => .ok (commentWords s)) ∧
    (∀ s ∈ segmentsOf commentEngines {} {} sampleComment "c",
      Placeable s.text ((commentWords s.text).map Morpheme.surface)) ∧
    (∀ name parse tree, consulted {} "c" = some name →
      ({} : Context).parser commentEngines name = some parse → parse sampleComment = .ok tree →
      tree.WellNested) ∧
    ∃ ys, ((semanticTokens commentEngines {} sampleComment "c").onContext {}).1 = .ok ys ∧
      ys.map (fun y => (y.position, y.length)) = [(⟨1, 3⟩, 3), (⟨2, 0⟩, 3)] ∧
      ys.Pairwise fun y z => y.position.Before z.position ∧
        sampleComment.offset y.position + y.length ≤ sampleComment.offset z.position := by
  have hengine : ({} : Context).engine? commentEngines = .ok (fun s => .ok (commentWords s)) := rfl
  have hplaced : ∀ s ∈ segmentsOf commentEngines {} {} sampleComment "c",
      Placeable s.text ((commentWords s.text).map Morpheme.surface) := by
    intro s hs
    rw [commentEngines_segmentsOf] at hs
    rw [List.mem_singleton.1 hs]
    exact commentWords_placeable
  have hnested : ∀ name parse tree, consulted {} "c" = some name →
      ({} : Context).parser commentEngines name = some parse → parse sampleComment = .ok tree →
      tree.WellNested := by
    intro name parse tree hname hparser htree
    cases (consulted_eq_some.1 hname).2.2.2
    cases hparser
    cases htree
    exact commentTree_wellNested
  obtain ⟨hanswer, -, horder⟩ := semanticTokens_decodable commentEngines {} {} sampleComment "c"
    hengine (fun _ _ => rfl) hplaced hnested
  refine ⟨hengine, hplaced, hnested, _, hanswer, ?_, horder⟩
  rw [commentEngines_segmentsOf]
  decide +kernel

end Check

end Kousei
