import Kousei.Proofs.Check.Extraction
import Kousei.Proofs.Extract.SlashComments

/-! # Agreement of scanning and parsing

    A document with slash comments has the same segments whether it is
    scanned or read by a grammar, if the comments of the syntax tree are
    those of the document (`treeSegments_eq_scanned`).  Scanning finds them
    because it reads every literal and every comment to its end; the tree
    has them at places in bytes, which are the same places. -/

namespace Kousei.Check

open Extract

theorem grammarOf?_of_mem_languages {f : SlashFamily} {language name : String}
    (hl : language ∈ f.languages) (hname : grammarOf? language = some name) :
    name ≠ "html" ∧ name ≠ "python" := by
  cases f <;> simp only [SlashFamily.languages, List.mem_cons, List.not_mem_nil, or_false] at hl
  · rcases hl with rfl | rfl | rfl | rfl <;> cases hname <;> decide
  · rcases hl with rfl | rfl <;> cases hname <;> decide

/-- **Agreement.**  A document with slash comments has the same segments by
    its syntax tree as by scanning, if the comments of the tree are those of
    the document and none of them is below another. -/
theorem treeSegments_eq_scanned (f : SlashFamily) (language : String) (hl : language ∈ f.languages)
    (items : List Item) (hdoc : Document f items) (tree : Node)
    (hspans : ∀ span, span ∈ tree.commentSpans ↔ span ∈ byteSpans 0 items)
    (hapart : tree.CommentsApart) (minRatio : Float) (e : Engines) (c c' : Context)
    (parse : Parser) (hparse : (Context.parser? e language).onContext c = (.ok (some parse), c'))
    (htree : parse (render items) = .ok tree) :
    (treeSegments e (render items) language minRatio).onContext c =
      (.ok (scanned (render items) language minRatio), c') := by
  obtain ⟨name, hname, hrun⟩ := treeSegments_of_grammar (render items) minRatio hparse
  obtain ⟨hhtml, hpython⟩ := grammarOf?_of_mem_languages hl hname
  have hcode := codeCandidates_render hdoc
  -- Both sides are made of the stretches between the places of the comments.
  have hsame : ∀ x, x ∈ Node.walk name (render items) [tree] ↔
      x ∈ codeCandidates f.lexer (render items) := by
    intro x
    rw [Node.walk_eq_map_commentSpans (render items) hhtml hpython hapart, hcode, List.mem_map,
      List.mem_map]
    exact exists_congr fun span => and_congr_left' (hspans span)
  have hbefore : (codeCandidates f.lexer (render items)).Pairwise Candidate.Before :=
    takesLexemes_commentCandidate?.pairwise _
  have hsegments := Segment.ofCandidates_eq_of_mem_iff minRatio hbefore
    (codeCandidates_ne_nil f.lexer (render items)) hsame
  rw [hrun, htree, scanned_render hdoc hl minRatio, ← hcode, ← hsegments]
  rfl

/-- A literal that holds slashes and a Japanese letter, and two comments
    after it. -/
def sampleItems : List Item :=
  [.literal (text "\"//あ\""), .code (text "; "), .block (text " 日本語 "), .code (text "\n"),
   .line (text "語")]

def sampleItemsTree : Node :=
  .mk "program" 0 30 [.mk "string" 0 7 [], .mk "comment" 9 24 [], .mk "comment" 25 30 []]

def sampleItemsEngines : Engines where
  backend := .error (.unknownBackend "none")
  grammars := fun _ _ => .ok fun _ => .ok sampleItemsTree

theorem sampleItems_document : Document .javascript sampleItems := by
  have hliteral : Literal .javascript (text "\"//あ\"") := by
    refine .double (b := text "//あ") ?_
    exact .plain (by decide) (by decide) (by decide) (.plain (by decide) (by decide) (by decide)
      (.plain (by decide) (by decide) (by decide) .nil))
  have hcode (t : Text) (rest : List Item) (hplain : t.all fun x => x ∉ ['"', '\'', '\x60', '/']) :
      (Item.code t).Fits .javascript rest := by
    have hnot : ∀ x ∈ t, x ∉ ['"', '\'', '\x60', '/'] := by simpa using hplain
    refine ⟨fun x hx hquote => hnot x hx (List.mem_append_left ['/'] hquote), fun a b hab => ?_⟩
    rw [hab] at hnot
    exact absurd (by decide) (hnot '/' (List.mem_append_right a (List.mem_cons_self ..)))
  have hblock : ¬ ['*', '/'] <:+: text " 日本語 " := by
    intro hin
    exact absurd (hin.subset (List.mem_cons_self ..)) (by decide)
  have hline : (Item.line (text "語")).Fits .javascript [] :=
    ⟨by decide, fun x hx => nomatch hx⟩
  exact .cons hliteral (.cons (hcode _ _ (by decide)) (.cons hblock
    (.cons (hcode _ _ (by decide)) (.cons hline .nil))))

theorem sampleItemsTree_commentsApart : sampleItemsTree.CommentsApart := by
  have hleaf (kind : String) (first last : Int) : (Node.mk kind first last []).CommentsApart :=
    .mk (fun _ => rfl) (List.forall_mem_nil _)
  refine .mk (fun h => absurd h (by decide)) ?_
  simp only [List.forall_mem_cons]
  exact ⟨hleaf .., hleaf .., hleaf .., List.forall_mem_nil _⟩

theorem treeSegments_eq_scanned_of_sampleItems :
    "typescript" ∈ SlashFamily.javascript.languages ∧ Document .javascript sampleItems ∧
    (∀ span, span ∈ sampleItemsTree.commentSpans ↔ span ∈ byteSpans 0 sampleItems) ∧
    sampleItemsTree.CommentsApart ∧
    ∃ c', (treeSegments sampleItemsEngines (render sampleItems) "typescript" 0.1).onContext {} =
      (.ok (scanned (render sampleItems) "typescript" 0.1), c') := by
  have hl : "typescript" ∈ SlashFamily.javascript.languages := by decide
  have hspans : ∀ span, span ∈ sampleItemsTree.commentSpans ↔ span ∈ byteSpans 0 sampleItems := by
    intro span
    rw [show sampleItemsTree.commentSpans = byteSpans 0 sampleItems by decide]
  have hparse : ∃ c', (Context.parser? sampleItemsEngines "typescript").onContext {} =
      (.ok (some fun _ => .ok sampleItemsTree), c') := ⟨_, rfl⟩
  obtain ⟨c', hparse⟩ := hparse
  exact ⟨hl, sampleItems_document, hspans, sampleItemsTree_commentsApart, c',
    treeSegments_eq_scanned .javascript "typescript" hl sampleItems sampleItems_document
      sampleItemsTree hspans sampleItemsTree_commentsApart 0.1 sampleItemsEngines {} c' _ hparse
      rfl⟩

end Kousei.Check
