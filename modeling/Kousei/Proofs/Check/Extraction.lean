import Kousei.Check.Segments
import Kousei.Proofs.Check.Run
import Kousei.Proofs.Extract.Scan
import Kousei.Proofs.Tree.Candidates

/-! # Extraction

    Which segments a document has: those of its syntax tree if the grammar of
    its language can be had (`extract_of_grammar`), otherwise those that
    scanning finds (`extract_of_noGrammar`).

    Either way each segment is a stretch of the document (`extract_standsIn`).
    Of documents that are not prose the segments are proper and come one
    after the other, provided that the nodes of a syntax tree do
    (`extract_proper`). -/

namespace Kousei.Check

variable {e : Engines} {c c' : Context} {t : Text} {language : String} {minRatio : Float}
  {parse : Parser}

/-! ## Choice of the strategy -/

/-- The segments of a document by the syntax tree that the grammar of its
    language gives. -/
theorem treeSegments_of_grammar? (t : Text) (minRatio : Float) {name : String}
    (hname : grammarOf? language = some name)
    (h : (Context.grammar? e name).onContext c = (.ok (some parse), c')) :
    (treeSegments e t language minRatio).onContext c =
      ((parse t).map fun tree => Segment.ofCandidates minRatio (Node.walk name t [tree]), c') := by
  unfold treeSegments
  simp only [hname]
  rw [Run.bind_of_ok h, Run.onContext_bind, Run.onContext_ofExcept]
  cases parse t with
  | ok tree => rfl
  | error failure => rfl

/-- The segments of a document by its syntax tree. -/
theorem treeSegments_of_grammar (t : Text) (minRatio : Float)
    (h : (Context.parser? e language).onContext c = (.ok (some parse), c')) :
    ∃ name, grammarOf? language = some name ∧
      (treeSegments e t language minRatio).onContext c =
        ((parse t).map fun tree => Segment.ofCandidates minRatio (Node.walk name t [tree]),
          c') := by
  obtain ⟨name, hname, hgrammar⟩ := Context.grammar?_of_parser? h
  exact ⟨name, hname, treeSegments_of_grammar? t minRatio hname hgrammar⟩

/-- The language that is always scanned has no grammar. -/
theorem scannedOnly_of_grammarOf? {name : String} (hname : grammarOf? language = some name) :
    scannedOnly language = false := by
  rw [scannedOnly, beq_eq_false_iff_ne]
  rintro rfl
  cases hname

/-- Documents of a language whose grammar can be had are read by it. -/
theorem extract_of_grammar? (t : Text) (minRatio : Float) (hl : isProse language = false)
    {name : String} (hname : grammarOf? language = some name)
    (h : (Context.grammar? e name).onContext c = (.ok (some parse), c')) :
    (extract e t language minRatio).onContext c =
      ((parse t).map fun tree => Segment.ofCandidates minRatio (Node.walk name t [tree]), c') := by
  have hparser : (Context.parser? e language).onContext c = (.ok (some parse), c') := by
    unfold Context.parser?
    simp only [hname]
    exact h
  unfold extract
  simp only [hl, scannedOnly_of_grammarOf? hname, Bool.false_eq_true, ↓reduceIte, Bool.not_false]
  rw [Run.bind_of_ok hparser]
  -- The grammar is asked for once to choose, and once more to read.
  exact treeSegments_of_grammar? t minRatio hname (Context.grammar?_again h)

theorem extract_of_grammar (t : Text) (minRatio : Float) (hl : isProse language = false)
    (h : (Context.parser? e language).onContext c = (.ok (some parse), c')) :
    ∃ name, (extract e t language minRatio).onContext c =
      ((parse t).map fun tree => Segment.ofCandidates minRatio (Node.walk name t [tree]), c') := by
  obtain ⟨name, hname, hgrammar⟩ := Context.grammar?_of_parser? h
  exact ⟨name, extract_of_grammar? t minRatio hl hname hgrammar⟩

/-- All other documents that are not prose are scanned. -/
theorem extract_of_noGrammar (t : Text) (minRatio : Float) (hl : isProse language = false)
    (h : (Context.parser? e language).onContext c = (.ok none, c')) :
    ∃ c'', (extract e t language minRatio).onContext c =
      (.ok (Extract.scanned t language minRatio), c'') := by
  unfold extract
  simp only [hl, Bool.false_eq_true, ↓reduceIte]
  split
  · rw [Run.bind_of_ok h]
    exact ⟨c', rfl⟩
  · exact ⟨c, rfl⟩

/-! ## Segments as stretches -/

theorem scanned_standsIn (t : Text) (language : String) (minRatio : Float) :
    ∀ s ∈ Extract.scanned t language minRatio, s.StandsIn t := by
  unfold Extract.scanned
  split
  · intro s hs
    cases hs
  · next h => exact Segment.ofCandidates_standsIn (Extract.scanner?_standsIn h t)

theorem wholeText_standsIn (t : Text) : ∀ s ∈ wholeText t, s.StandsIn t := by
  intro s hs
  unfold wholeText at hs
  split at hs
  · cases hs
  · rw [List.mem_singleton.1 hs]
    exact ⟨0, rfl, Text.StandsAt.refl t⟩

/-- The segments of any document are stretches of it, whatever its syntax
    tree is. -/
theorem extract_standsIn {ss : List Segment}
    (h : (extract e t language minRatio).onContext c = (.ok ss, c')) :
    ∀ s ∈ ss, s.StandsIn t := by
  rcases hl : isProse language with _ | _
  · rcases Context.parser?_cases e language c with ⟨parse, c₁, hp⟩ | ⟨c₁, hp⟩
    · obtain ⟨name, htree⟩ := extract_of_grammar t minRatio hl hp
      rw [htree] at h
      cases hparse : parse t with
      | error failure => rw [hparse] at h; cases h
      | ok tree =>
        rw [hparse] at h
        cases h
        exact Segment.ofCandidates_standsIn (Node.walk_standsIn name t [tree])
    · obtain ⟨c₂, hscan⟩ := extract_of_noGrammar t minRatio hl hp
      rw [hscan] at h
      cases h
      exact scanned_standsIn t language minRatio
  · unfold extract at h
    simp only [hl, ↓reduceIte, Run.onContext_pure] at h
    cases h
    exact wholeText_standsIn t

/-! ## Proper segments -/

theorem scanned_proper (t : Text) (language : String) (minRatio : Float) :
    (∀ s ∈ Extract.scanned t language minRatio, s.Proper t minRatio) ∧
      (Extract.scanned t language minRatio).Pairwise Segment.Before := by
  unfold Extract.scanned
  split
  · exact ⟨List.forall_mem_nil _, List.Pairwise.nil⟩
  · next h =>
    exact ⟨Segment.ofCandidates_proper (Extract.scanner?_standsIn h t),
      Segment.ofCandidates_pairwise (Extract.scanner?_pairwise h t)⟩

/-- **Extraction invariant.**  The segments of a document that is not prose
    are not empty, have no blank at either end, are Japanese enough, stand in
    the document where they say, and come one after the other, whether they
    are found by scanning or in a nested syntax tree. -/
theorem extract_proper (e : Engines) (c : Context) (t : Text) (language : String)
    (minRatio : Float) (hl : isProse language = false)
    (hp : ∀ parse c', (Context.parser? e language).onContext c = (.ok (some parse), c') →
      ∃ tree, parse t = .ok tree ∧ tree.WellNested) :
    ∃ ss c', (extract e t language minRatio).onContext c = (.ok ss, c') ∧
      (∀ s ∈ ss, s.Proper t minRatio) ∧ ss.Pairwise Segment.Before := by
  -- The two strategies: a tree if there is a grammar, scanning if there is none.
  rcases Context.parser?_cases e language c with ⟨parse, c', hparse⟩ | ⟨c', hnone⟩
  · obtain ⟨tree, htree, hnested⟩ := hp parse c' hparse
    obtain ⟨name, hrun⟩ := extract_of_grammar t minRatio hl hparse
    rw [htree] at hrun
    exact ⟨_, c', hrun, Segment.ofCandidates_proper (Node.walk_standsIn name t [tree]),
      Segment.ofCandidates_pairwise hnested.walk_pairwise⟩
  · obtain ⟨c'', hrun⟩ := extract_of_noGrammar t minRatio hl hnone
    obtain ⟨hproper, hpairwise⟩ := scanned_proper t language minRatio
    exact ⟨_, c'', hrun, hproper, hpairwise⟩

/-- A line of C with a comment, and its tree. -/
def sampleLine : Text := text "x; // 日本語"

def sampleTree : Node := .mk "translation_unit" 0 15 [.mk "comment" 3 15 []]

/-- Engines that have every grammar, with the same tree for all documents. -/
def sampleEngines : Engines where
  backend := .error (.unknownBackend "none")
  grammars := fun _ _ => .ok fun _ => .ok sampleTree

theorem sampleTree_wellNested : sampleTree.WellNested := by
  refine .mk (by decide) ?_ (List.pairwise_singleton _ _) ?_
  · intro n hn
    rw [List.mem_singleton.1 hn]
    decide
  · intro n hn
    rw [List.mem_singleton.1 hn]
    exact .mk (by decide) (List.forall_mem_nil _) List.Pairwise.nil (List.forall_mem_nil _)

theorem sampleEngines_parser? :
    ∃ c', (Context.parser? sampleEngines "c").onContext {} =
      (.ok (some fun _ => .ok sampleTree), c') := ⟨_, rfl⟩

theorem extract_proper_of_sampleLine :
    isProse "c" = false ∧
    (∀ parse c', (Context.parser? sampleEngines "c").onContext {} = (.ok (some parse), c') →
      ∃ tree, parse sampleLine = .ok tree ∧ tree.WellNested) ∧
    ∃ ss c', (extract sampleEngines sampleLine "c" 0.1).onContext {} = (.ok ss, c') ∧
      (∀ s ∈ ss, s.Proper sampleLine 0.1) ∧ ss.Pairwise Segment.Before := by
  have hp : ∀ parse c', (Context.parser? sampleEngines "c").onContext {} =
      (.ok (some parse), c') → ∃ tree, parse sampleLine = .ok tree ∧ tree.WellNested := by
    intro parse c' h
    obtain ⟨c'', hsample⟩ := sampleEngines_parser?
    rw [hsample] at h
    cases h
    exact ⟨sampleTree, rfl, sampleTree_wellNested⟩
  exact ⟨by decide, hp, extract_proper sampleEngines {} sampleLine "c" 0.1 (by decide) hp⟩

end Kousei.Check
