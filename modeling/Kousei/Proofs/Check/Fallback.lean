import Kousei.Proofs.Check.Answer
import Kousei.Proofs.Tree.Registry

/-! # Documents without a grammar

    A document is scanned if the grammar of its language cannot be had, so its
    segments are those that it has where there are no grammars at all
    (`extract_of_unavailable`).

    Grammars that were asked for before count for nothing else: they were
    requested once, and what was told of them then is told ever after
    (`grammars_requested_once`). -/

namespace Kousei

/-! ## Grammars of languages -/

namespace Grammars

variable {γ : Type} {source : GrammarSource γ} {g : Grammars γ} {language name : String}

theorem isAvailable_of_grammarOf? (hname : grammarOf? language = some name) :
    (g.isAvailable source language).1 = (g.answer source name).isSome := by
  simp only [isAvailable, hname]
  rfl

/-- A grammar that was unavailable once is not asked for again. -/
theorem isAvailable_of_mem_unavailable (h : g.Sound) (hname : grammarOf? language = some name)
    (hmem : name ∈ g.unavailable) : (g.isAvailable source language).1 = false := by
  have hanswer : g.answer source name = none :=
    (load_of_decided (h.decided_of_mem hmem) source).2
  rw [isAvailable_of_grammarOf? hname, hanswer]
  rfl

end Grammars

namespace Check

variable {e : Engines} {c : Context} {language : String}

/-! ## Scanning instead -/

/-- What a grammar would find matters only if it can be had. -/
theorem documentExtract_of_none {parsers : Parsers}
    (h : ∀ name, grammarOf? language = some name → parsers name = none) (t : Text)
    (minRatio : Float) :
    documentExtract parsers t language minRatio =
      documentExtract (fun _ => none) t language minRatio := by
  unfold documentExtract
  split
  · rfl
  · split
    · rfl
    · next name hname => rw [h name hname]

/-- A document whose grammar cannot be had is cut as if there were no grammars. -/
theorem extract_of_unavailable (h : (c.grammars.isAvailable e.grammars language).1 = false)
    (t : Text) (minRatio : Float) :
    ((extract e t language minRatio).onContext c).1 =
      documentExtract (fun _ => none) t language minRatio := by
  rw [extract_outcome]
  refine documentExtract_of_none ?_ t minRatio
  intro name hname
  rw [Grammars.isAvailable_of_grammarOf? hname] at h
  have hnone : c.grammars.answer e.grammars name = none := by simpa using h
  exact hnone

/-! ## Requests and replies -/

/-- **Grammars are requested once.**  Whatever the source says and however the
    grammars were used: no grammar was requested twice and none that is not
    known; none is both loaded and unavailable, and further uses take back
    neither; all who asked for one grammar were told the same; and a document
    whose grammar cannot be had is cut as if there were no grammars. -/
theorem grammars_requested_once (e : Engines) (uses : List GrammarUse) :
    let g := Grammars.run e.grammars {} uses
    g.requests.Nodup ∧
    (∀ name ∈ g.requests, (grammarPackages.lookup name).isSome) ∧
    (∀ name ∈ g.unavailable, g.isLoaded name = false) ∧
    (∀ more name, (∀ p, g.loaded.lookup name = some p →
        (g.run e.grammars more).loaded.lookup name = some p) ∧
      (name ∈ g.unavailable → name ∈ (g.run e.grammars more).unavailable)) ∧
    (∀ name, ∃ p, ∀ r ∈ Grammars.replies e.grammars {} uses,
      r.1.asks? = some name → r.2.Tells p) ∧
    (∀ language name, grammarOf? language = some name → name ∈ g.unavailable →
      (g.isAvailable e.grammars language).1 = false) ∧
    (∀ c t language minRatio, c.grammars = g → (g.isAvailable e.grammars language).1 = false →
      ((extract e t language minRatio).onContext c).1 =
        documentExtract (fun _ => none) t language minRatio) := by
  intro g
  have hsound : g.Sound := Grammars.sound_run e.grammars uses
  refine ⟨hsound.nodup, hsound.known, ?_, ?_, Grammars.replies_tell e.grammars {} uses, ?_, ?_⟩
  · intro name hmem
    rw [Grammars.isLoaded, hsound.disjoint name hmem]
    rfl
  · intro more name
    constructor
    · intro p hp
      have hdecided : g.Decided name (some p) := ⟨hp, nofun⟩
      exact (hdecided.run e.grammars more).1
    · intro hmem
      exact ((hsound.decided_of_mem hmem).run e.grammars more).2 rfl
  · intro language name hname hmem
    exact Grammars.isAvailable_of_mem_unavailable hsound hname hmem
  · intro c t language minRatio hc havailable
    rw [← hc] at havailable
    exact extract_of_unavailable havailable t minRatio

/-- A source of grammars that fails at first and has every grammar later. -/
def fickleEngines : Engines where
  backend := .error (.unknownBackend "none")
  grammars := fun n _ => if n = 0 then .error "not yet" else .ok fun _ => .ok sampleTree

/-- The grammar of C is asked for while the source fails, and again later. -/
def sampleUses : List GrammarUse :=
  [.isAvailable "c", .load "cobol", .get "python", .load "c", .isLoaded "python", .get "python"]

theorem grammars_requested_once_of_sampleUses :
    let g := Grammars.run fickleEngines.grammars {} sampleUses
    g.requests = ["python", "c"] ∧ g.unavailable = ["cobol", "c"] ∧ g.requests.Nodup ∧
    g.isLoaded "c" = false ∧
    "c" ∈ (g.run fickleEngines.grammars [.get "c", .load "rust"]).unavailable ∧
    (∃ p, ∀ r ∈ Grammars.replies fickleEngines.grammars {} sampleUses,
      r.1.asks? = some "c" → r.2.Tells p) ∧
    ((extract fickleEngines sampleLine "c" 0.1).onContext { grammars := g }).1 =
      documentExtract (fun _ => none) sampleLine "c" 0.1 := by
  intro g
  obtain ⟨hnodup, -, hloaded, hgrows, htold, havailable, hextract⟩ :=
    grammars_requested_once fickleEngines sampleUses
  have hrequests : g.requests = ["python", "c"] := by decide +kernel
  have hunavailable : g.unavailable = ["cobol", "c"] := by decide +kernel
  have hmem : "c" ∈ g.unavailable := by
    rw [hunavailable]
    decide
  refine ⟨hrequests, hunavailable, hnodup, hloaded "c" hmem, ?_, htold "c", ?_⟩
  · exact (hgrows [.get "c", .load "rust"] "c").2 hmem
  · exact hextract { grammars := g } sampleLine "c" 0.1 rfl (havailable "c" "c" rfl hmem)

end Check

end Kousei
