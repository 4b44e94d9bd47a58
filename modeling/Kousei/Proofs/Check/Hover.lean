import Kousei.Proofs.Check.Answer
import Kousei.Proofs.Check.Loading
import Kousei.Proofs.Enrichment.Address

/-! # The word at a place

    A place of a document is asked about, and the answer is about the word that
    stands there.  The search goes through the segments and takes the first
    word that covers the place, so it is right only because no other word does:
    segments keep apart (`segmentsOf_pairwise`), and within a segment the words
    do, found or not (`anchor_pairwise`).

    `coveringPairs` lists all words that cover a place, each with its segment.
    There is one at most (`length_coveringPairs_le`), the search finds it
    (`coveringToken_spec`), and the answer is its table, with the summary of a
    noun if there is one to be had (`hover_outcome`). -/

namespace Kousei

/-! ## What a search leaves of the summaries -/

namespace Context

open Run

variable {e : Engines}

theorem grammar?_enrichment (e : Engines) (name : String) (c : Context) :
    ((grammar? e name).onContext c).2.enrichment = c.enrichment := by
  unfold grammar?
  rw [bind_of_ok (onContext_get c)]
  rcases c.grammars.load e.grammars name with ⟨fault | parse, g⟩
  · cases fault <;> rfl
  · rfl

/-- Reading a document asks for no summary. -/
theorem enrichment_reading (e : Engines) :
    ReadingSteps e (@Within fun c c' => c'.enrichment = c.enrichment) :=
  .within (fun _ => rfl) (fun h h' => h'.trans h) (grammar?_enrichment e) fun _ _ => rfl

theorem readyTokenizer_enrichment (e : Engines) (c : Context) :
    ((readyTokenizer e).onContext c).2.enrichment = c.enrichment := by
  obtain hsame | ⟨t, failure, notices, -, hleft⟩ := readyTokenizer_leaves e c
  · rw [hsame]
  · rw [hleft]

/-- With an engine that is there the tokenizer can be made ready. -/
theorem readyTokenizer_of_engine {engine : Engine} {c : Context} (h : c.engine? e = .ok engine) :
    ∃ t c', t.engine = some engine ∧ (readyTokenizer e).onContext c = (.ok t, c') ∧
      Later e c c' ∧ c'.enrichment = c.enrichment := by
  have hsame := readyTokenizer_enrichment e c
  obtain ⟨c', hlater, ⟨engine', t, hengine, ht, hrun⟩ | ⟨failure, hfailure, -⟩⟩ :=
    readyTokenizer_cases e c
  · rw [h] at hengine
    cases hengine
    rw [hrun] at hsame
    exact ⟨t, c', ht, hrun, hlater, hsame⟩
  · rw [h] at hfailure
    cases hfailure

end Context

namespace Check

open Run

/-! ## Words that cover a place -/

/-- The words of the segments that cover a place of the document, each with its
    segment. -/
def coveringPairs (words : Text → List Morpheme) (offset : Int) (ss : List Segment) :
    List (Segment × Token) :=
  ss.flatMap fun s =>
    if covers s offset then
      ((anchor s.text (words s.text)).filter fun x =>
        x.offset ≤ offset - s.offset && offset - s.offset < x.stop).map (s, ·)
    else []

variable {e : Engines} {c : Context} {settings : Settings} {t : Text} {language : String}
  {words : Text → List Morpheme} {offset : Int} {s : Segment} {x : Token} {ss : List Segment}
  {parsers : Parsers}

/-! ## One word at most -/

/-- Segments that a document is cut into come one after the other, if the nodes of
    its syntax tree do. -/
theorem documentSegments_pairwise
    (hnested : ∀ name parse tree, consulted settings language = some name →
      parsers name = some parse → parse t = .ok tree → tree.WellNested)
    (h : documentSegments parsers settings t language = .ok ss) : ss.Pairwise Segment.Before := by
  obtain rfl | ⟨henable, htarget, ratio, hextract⟩ := documentSegments_eq_ok h
  · exact .nil
  · obtain ⟨-, rfl⟩ | ⟨hprose, rfl | ⟨name, parse, tree, hname, hparse, htree, rfl⟩⟩ :=
      documentExtract_eq_ok hextract
    · unfold wholeText
      split
      · exact .nil
      · exact List.pairwise_singleton _ _
    · exact (scanned_proper t language ratio).2
    · have hconsulted : consulted settings language = some name :=
        consulted_eq_some.2 ⟨henable, htarget, hprose, hname⟩
      apply Segment.ofCandidates_pairwise
      exact (hnested name parse tree hconsulted hparse htree).walk_pairwise

theorem segmentsOf_pairwise
    (hnested : ∀ name parse tree, consulted settings language = some name →
      c.parser e name = some parse → parse t = .ok tree → tree.WellNested) :
    (segmentsOf e c settings t language).Pairwise Segment.Before := by
  unfold segmentsOf
  rw [segments_outcome]
  split
  · next hss => exact documentSegments_pairwise hnested hss
  · exact .nil

/-- No place is covered twice where segments keep apart. -/
theorem length_coveringPairs_le (words : Text → List Morpheme) (offset : Int)
    (h : ss.Pairwise Segment.Before) : (coveringPairs words offset ss).length ≤ 1 := by
  have hnone : (coveringPairs words offset ss).Pairwise fun _ _ => False := by
    apply List.pairwise_flatMap.2
    constructor
    · -- Within a segment the words before a place end there at the latest.
      intro s hs
      split
      · rw [List.pairwise_map]
        apply ((anchor_pairwise s.text (words s.text)).filter _).imp_of_mem
        intro x y hx hy hbefore
        simp only [List.mem_filter, Bool.and_eq_true, decide_eq_true_eq] at hx hy
        unfold Token.Before at hbefore
        omega
      · exact .nil
    · apply h.imp
      intro s s' hbefore p hp q hq
      have hstop := hbefore.stop_le
      split at hp
      · split at hq
        · next hs hs' =>
          simp only [covers, Bool.and_eq_true, decide_eq_true_eq] at hs hs'
          omega
        · cases hq
      · cases hp
  -- Of two pairs the first would come before the second.
  rcases hpairs : coveringPairs words offset ss with _ | ⟨p, _ | ⟨q, r⟩⟩
  · exact Nat.zero_le 1
  · exact Nat.le_refl 1
  · rw [hpairs] at hnone
    exact absurd (List.rel_of_pairwise_cons hnone List.mem_cons_self) id

/-! ## The search -/

theorem coveringPairs_cons_of_not_covers (h : covers s offset = false) :
    coveringPairs words offset (s :: ss) = coveringPairs words offset ss := by
  unfold coveringPairs
  rw [List.flatMap_cons, h]
  rfl

/-- In a segment that covers the place the first word that does is found. -/
theorem coveringPairs_cons_of_covers (h : covers s offset = true) :
    (coveringPairs words offset (s :: ss)).head?.map Prod.snd =
      (tokenAt (anchor s.text (words s.text)) (offset - s.offset)).or
        ((coveringPairs words offset ss).head?.map Prod.snd) := by
  have hhere : tokenAt (anchor s.text (words s.text)) (offset - s.offset) =
      ((anchor s.text (words s.text)).filter fun x =>
        x.offset ≤ offset - s.offset && offset - s.offset < x.stop).head? := by
    rw [List.head?_filter]
    rfl
  unfold coveringPairs
  rw [List.flatMap_cons, if_pos h, hhere, List.head?_append, Option.map_or, List.head?_map,
    Option.map_map]
  congr 1
  exact Option.map_id'

/-- The search gives the first word that covers the place. -/
theorem coveringIn_spec (hengine : c.engine? e = .ok fun s => .ok (words s)) (offset : Int)
    (ss : List Segment) :
    ∃ c', (coveringIn e offset ss).onContext c =
        (.ok ((coveringPairs words offset ss).head?.map Prod.snd), c') ∧
      c'.enrichment = c.enrichment := by
  -- By the segments; the context changes from one to the next, the engine does not.
  induction ss generalizing c with
  | nil => exact ⟨c, rfl, rfl⟩
  | cons s r ih =>
    unfold coveringIn
    cases hcovers : covers s offset with
    | false =>
      rw [coveringPairs_cons_of_not_covers hcovers]
      exact ih hengine
    | true =>
      obtain ⟨tokenizer, c₁, htokenizer, hrun, hlater, hsame⟩ :=
        Context.readyTokenizer_of_engine hengine
      have htokens : (Context.tokenize e tokenizer s.text).onContext c₁ =
          (.ok (anchor s.text (words s.text)),
            ((Context.tokenize e tokenizer s.text).onContext c₁).2) := by
        apply Prod.ext
        · exact Context.tokenize_outcome htokenizer s.text c₁
        · rfl
      rw [coveringPairs_cons_of_covers hcovers]
      simp only [Bool.not_true, Bool.false_eq_true, ↓reduceIte]
      rw [bind_of_ok hrun, bind_of_ok htokens]
      cases tokenAt (anchor s.text (words s.text)) (offset - s.offset) with
      | some x => exact ⟨_, rfl, hsame⟩
      | none =>
        have hengine₁ := (hlater.trans (Context.tokenize_keeps tokenizer s.text c₁)).engine
        obtain ⟨c₂, hrest, hsame₂⟩ := ih (hengine₁.trans hengine)
        exact ⟨c₂, hrest, hsame₂.trans hsame⟩

/-- The search in a document gives the first word that covers the place, or fails
    where the document cannot be cut. -/
theorem coveringToken_spec (hengine : c.engine? e = .ok fun s => .ok (words s))
    (settings : Settings) (t : Text) (language : String) (offset : Int) :
    ∃ c', c'.enrichment = c.enrichment ∧
      ((coveringToken e settings t language offset).onContext c =
          (.ok ((coveringPairs words offset (segmentsOf e c settings t language)).head?.map
            Prod.snd), c') ∨
        segmentsOf e c settings t language = [] ∧
          ∃ failure, (coveringToken e settings t language offset).onContext c =
            (.error failure, c')) := by
  have hsame : ((segments e settings t language).onContext c).2.enrichment = c.enrichment :=
    (Context.enrichment_reading e).segments c
  have hlater : Context.Later e c ((segments e settings t language).onContext c).2 :=
    segments_keeps c
  unfold coveringToken segmentsOf
  rw [onContext_bind]
  rcases hrun : (segments e settings t language).onContext c with ⟨failure | ss, c₁⟩
  · rw [hrun] at hsame
    exact ⟨c₁, hsame, .inr ⟨rfl, failure, rfl⟩⟩
  · rw [hrun] at hsame hlater
    obtain ⟨c₂, hfound, hsame₂⟩ := coveringIn_spec (hlater.engine.trans hengine) offset ss
    exact ⟨c₂, hsame₂.trans hsame, .inl hfound⟩

/-! ## The content -/

/-- What asking for the summary of a word gives. -/
def lookedUp (e : Engines) (cache : EnrichmentCache) (x : Token) :
    Except Failure (Option Value) :=
  (cache.lookup e.service x.baseForm e.clock e.clock).1

/-- The summary is shown below the table of a word: the word is a noun, summaries are
    wanted, and there is one that is not empty. -/
structure ShowsSummary (e : Engines) (cache : EnrichmentCache) (settings : Settings) (x : Token)
    (summary : Value) : Prop where
  wanted : settings.enableEnrichment = true
  noun : x.pos = "名詞"
  found : lookedUp e cache x = .ok (some summary)
  nonempty : summary.isFalsy = false

theorem summaryOrNone_outcome (e : Engines) (c : Context) (x : Token) :
    ((summaryOrNone e x.baseForm).onContext c).1 =
      match lookedUp e c.enrichment x with
      | .ok summary => .ok summary
      | .error _ => .ok none := by
  have hasked : ((Context.summary e x.baseForm).onContext c).1 = lookedUp e c.enrichment x := rfl
  unfold summaryOrNone
  rw [outcome_attempt_bind, hasked]
  cases lookedUp e c.enrichment x <;> rfl

theorem hoverContent_of_shows {summary : Value}
    (h : ShowsSummary e c.enrichment settings x summary) :
    ((hoverContent e settings x).onContext c).1 =
      .ok (formatToken x ++ "\n\n---\n\n" ++ summary.display) := by
  unfold hoverContent
  simp only [h.wanted, h.noun, Bool.not_true, bne_self_eq_false, Bool.or_false,
    Bool.false_eq_true, ↓reduceIte]
  rw [outcome_bind, summaryOrNone_outcome, h.found]
  simp only [Except.bind, h.nonempty, Bool.false_eq_true, ↓reduceIte]
  rfl

theorem hoverContent_of_not_shows
    (h : ∀ summary, ¬ ShowsSummary e c.enrichment settings x summary) :
    ((hoverContent e settings x).onContext c).1 = .ok (formatToken x) := by
  unfold hoverContent
  split
  · rfl
  · next hasked =>
    simp only [Bool.or_eq_true, Bool.not_eq_true', bne_iff_ne, not_or, Bool.not_eq_false,
      ne_eq, not_not] at hasked
    rw [outcome_bind, summaryOrNone_outcome]
    cases hfound : lookedUp e c.enrichment x with
    | error failure => rfl
    | ok found =>
      cases found with
      | none => rfl
      | some summary =>
        -- A summary that is there but not shown is empty.
        have hempty : summary.isFalsy = true := by
          rw [← Bool.not_eq_false]
          intro hnonempty
          exact h summary ⟨hasked.1, hasked.2, hfound, hnonempty⟩
        simp only [Except.bind, hempty, ↓reduceIte]
        rfl

theorem not_shows_of_error {cache : EnrichmentCache} {failure : Failure}
    (h : lookedUp e cache x = .error failure) (summary : Value) :
    ¬ ShowsSummary e cache settings x summary := by
  intro hshows
  have hfound := hshows.found
  rw [h] at hfound
  cases hfound

/-! ## The answer -/

theorem hover_of_nothing {c' : Context} {outcome : Except Failure (Option Token)}
    (h : (coveringToken e settings t language offset).onContext c = (outcome, c'))
    (hnothing : ∀ x, outcome ≠ .ok (some x)) :
    ((hover e settings t language offset).onContext c).1 = .ok none := by
  unfold hover
  rw [outcome_attempt_bind, h]
  rcases outcome with failure | _ | x
  · cases failure <;> rfl
  · rfl
  · exact absurd rfl (hnothing x)

theorem hover_of_found {c' : Context} {content : String}
    (h : (coveringToken e settings t language offset).onContext c = (.ok (some x), c'))
    (hcontent : ((hoverContent e settings x).onContext c').1 = .ok content) :
    ((hover e settings t language offset).onContext c).1 = .ok (some content) := by
  unfold hover
  rw [outcome_attempt_bind, h]
  simp only
  rw [outcome_bind, hcontent]
  rfl

/-- What is shown for a word: its table, with the summary below it if there is one. -/
structure Shown (e : Engines) (cache : EnrichmentCache) (settings : Settings) (x : Token)
    (answer : Except Failure (Option String)) : Prop where
  with_summary : ∀ summary, ShowsSummary e cache settings x summary →
    answer = .ok (some (formatToken x ++ "\n\n---\n\n" ++ summary.display))
  alone : (∀ summary, ¬ ShowsSummary e cache settings x summary) →
    answer = .ok (some (formatToken x))
  /-- A summary that cannot be had leaves the table. -/
  of_error : ∀ failure, lookedUp e cache x = .error failure → answer = .ok (some (formatToken x))

theorem Shown.ne_none {cache : EnrichmentCache} {answer : Except Failure (Option String)}
    (h : Shown e cache settings x answer) : answer ≠ .ok none := by
  by_cases hshows : ∃ summary, ShowsSummary e cache settings x summary
  · obtain ⟨summary, hsummary⟩ := hshows
    rw [h.with_summary summary hsummary]
    nofun
  · rw [h.alone (not_exists.1 hshows)]
    nofun

theorem hover_shown {c' : Context} (hsame : c'.enrichment = c.enrichment)
    (h : (coveringToken e settings t language offset).onContext c = (.ok (some x), c')) :
    Shown e c.enrichment settings x ((hover e settings t language offset).onContext c).1 := by
  rw [← hsame]
  constructor
  · intro summary hsummary
    exact hover_of_found h (hoverContent_of_shows hsummary)
  · intro hnone
    exact hover_of_found h (hoverContent_of_not_shows hnone)
  · intro failure hfailure
    exact hover_of_found h (hoverContent_of_not_shows (not_shows_of_error hfailure))

/-- **The word at a place.**  At most one word of one segment covers a place of a
    document.  Nothing is shown just when none does, and otherwise what is shown is the
    table of that word, for a noun with its summary. -/
theorem hover_outcome (e : Engines) (c : Context) (settings : Settings) (t : Text)
    (language : String) (offset : Int)
    (hengine : c.engine? e = .ok fun s => .ok (words s))
    (hnested : ∀ name parse tree, consulted settings language = some name →
      c.parser e name = some parse → parse t = .ok tree → tree.WellNested) :
    (coveringPairs words offset (segmentsOf e c settings t language)).length ≤ 1 ∧
    (((hover e settings t language offset).onContext c).1 = .ok none ↔
      coveringPairs words offset (segmentsOf e c settings t language) = []) ∧
    ∀ p ∈ coveringPairs words offset (segmentsOf e c settings t language),
      Shown e c.enrichment settings p.2 ((hover e settings t language offset).onContext c).1 := by
  have hle := length_coveringPairs_le words offset (segmentsOf_pairwise hnested)
  refine ⟨hle, ?_⟩
  obtain ⟨c', hsame, hrun | ⟨hsegments, failure, hrun⟩⟩ :=
    coveringToken_spec hengine settings t language offset
  · rcases hpairs : coveringPairs words offset (segmentsOf e c settings t language) with
      _ | ⟨p, r⟩
    · rw [hpairs] at hrun
      have hnone := hover_of_nothing hrun nofun
      exact ⟨⟨fun _ => rfl, fun _ => hnone⟩, List.forall_mem_nil _⟩
    · rw [hpairs] at hrun hle
      have hr : r = [] := by simpa using hle
      have hshown := hover_shown hsame hrun
      refine ⟨⟨fun hnone => absurd hnone hshown.ne_none, nofun⟩, ?_⟩
      rw [hr, List.forall_mem_singleton]
      exact hshown
  · -- A document that cannot be cut has no segments, and nothing is shown.
    have hnone := hover_of_nothing hrun nofun
    rw [hsegments]
    exact ⟨⟨fun _ => rfl, fun _ => hnone⟩, List.forall_mem_nil _⟩

/-- An engine that takes every text for one noun. -/
def oneNoun (s : Text) : List Morpheme := [{ surface := s, pos := some "名詞" }]

/-- Engines that read a line of C and have a summary of its noun. -/
def nounEngines : Engines where
  backend := .ok ⟨"sample", some .plain, .ok fun s => .ok (oneNoun s)⟩
  grammars := sampleEngines.grammars
  service := fun _ _ => .answer 200 (.value (.map [(.str "extract", .str "日本の言語")]))

/-- The noun of the comment. -/
def sampleNoun : Token := ({ surface := text "日本語", pos := some "名詞" } : Morpheme).toToken 0

theorem sampleNoun_showsSummary :
    ShowsSummary nounEngines {} {} sampleNoun (.str "日本の言語") where
  wanted := rfl
  noun := rfl
  found := by
    have hurl := Enrichment.address_default sampleNoun.baseForm.toList
    have hnew : ({} : EnrichmentCache).fresh? sampleNoun.baseForm nounEngines.clock = none := rfl
    unfold lookedUp EnrichmentCache.lookup
    rw [hnew]
    simp only [hurl]
    rfl
  nonempty := rfl

theorem hover_outcome_of_sampleLine :
    ({} : Context).engine? nounEngines = .ok (fun s => .ok (oneNoun s)) ∧
    (∀ name parse tree, consulted {} "c" = some name →
      ({} : Context).parser nounEngines name = some parse → parse sampleLine = .ok tree →
      tree.WellNested) ∧
    coveringPairs oneNoun 7 (segmentsOf nounEngines {} {} sampleLine "c") =
      [(⟨text "日本語", 6⟩, sampleNoun)] ∧
    ((hover nounEngines {} sampleLine "c" 7).onContext {}).1 =
      .ok (some (formatToken sampleNoun ++ "\n\n---\n\n" ++ "日本の言語")) := by
  have hengine : ({} : Context).engine? nounEngines = .ok (fun s => .ok (oneNoun s)) := rfl
  have hnested : ∀ name parse tree, consulted {} "c" = some name →
      ({} : Context).parser nounEngines name = some parse → parse sampleLine = .ok tree →
      tree.WellNested := by
    intro name parse tree hname hparser htree
    cases (consulted_eq_some.1 hname).2.2.2
    cases hparser
    cases htree
    exact sampleTree_wellNested
  have hpairs : coveringPairs oneNoun 7 (segmentsOf nounEngines {} {} sampleLine "c") =
      [(⟨text "日本語", 6⟩, sampleNoun)] := by decide +kernel
  obtain ⟨-, -, hshown⟩ := hover_outcome nounEngines {} {} sampleLine "c" 7 hengine hnested
  rw [hpairs, List.forall_mem_singleton] at hshown
  have hanswer := hshown.with_summary _ sampleNoun_showsSummary
  rw [Value.display] at hanswer
  exact ⟨hengine, hnested, hpairs, hanswer⟩

end Check

end Kousei
