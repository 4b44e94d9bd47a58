import Kousei.Proofs.Check.Answer
import Kousei.Proofs.Check.Ranges

/-! # What was asked before

    One context serves many requests.  It remembers the engine it loaded or why
    that failed, the grammars it was given and those it was refused, and saves
    itself asking again.  A request takes nothing back of what is remembered
    (`Query.serve_later`), hence neither does a history of them
    (`serve_later`), and what is remembered is what would be answered anyway:
    nobody can tell from an answer what was asked before
    (`answers_after_history`). -/

namespace Kousei

/-- The same morphological engine and the same grammars.  The service that gives
    summaries, the clock and what other checks do may differ. -/
structure Engines.Agree (e e' : Engines) : Prop where
  backend : e'.backend = e.backend
  grammars : e'.grammars = e.grammars

namespace Check

/-! ## Requests -/

/-- A request to a context: the diagnostics of a document, its issues as a file,
    the word at one of its places, or all its words. -/
inductive Query where
  | diagnostics (settings : Settings) (t : Text) (language : String)
  | issues (settings : Settings) (file : Option String) (t : Text) (language : String)
  | wordAt (settings : Settings) (t : Text) (language : String) (offset : Int)
  | words (settings : Settings) (t : Text) (language : String)

/-- The context after a request, whether it was answered or failed. -/
def Query.serve (e : Engines) (c : Context) : Query → Context
  | .diagnostics settings t language => ((validateText e settings t language).onContext c).2
  | .issues settings file t language => ((checkText e settings file t language).onContext c).2
  | .wordAt settings t language offset => ((hover e settings t language offset).onContext c).2
  | .words settings t language => ((semanticTokens e settings t language).onContext c).2

/-- The context after several requests, each with the engines of its time. -/
def serve (c : Context) (history : List (Engines × Query)) : Context :=
  history.foldl (fun c q => q.2.serve q.1 c) c

variable {e e' : Engines} {c : Context}

/-- One request takes nothing back. -/
theorem Query.serve_later (e : Engines) (c : Context) (q : Query) :
    Context.Later e c (q.serve e c) := by
  cases q with
  | diagnostics settings t language => exact validateText_keeps c
  | issues settings file t language => exact checkText_keeps file c
  | wordAt settings t language offset => exact hover_keeps offset c
  | words settings t language => exact semanticTokens_keeps c

/-- Requests take nothing back, however many there are. -/
theorem serve_later (e : Engines) (c : Context) (history : List (Engines × Query))
    (hh : ∀ q ∈ history, e.Agree q.1) : Context.Later e c (serve c history) := by
  induction history generalizing c with
  | nil => exact .refl e c
  | cons q r ih =>
    obtain ⟨hagree, hr⟩ := List.forall_mem_cons.1 hh
    have hstep : Context.Later e c (q.2.serve q.1 c) :=
      .congr hagree.backend hagree.grammars (q.2.serve_later q.1 c)
    have hrest : Context.Later e (q.2.serve q.1 c) (serve (q.2.serve q.1 c) r) := ih _ hr
    exact hstep.trans hrest

/-! ## Answers -/

/-- **Caches are not seen in answers.**  Let the source of grammars not change its
    mind.  After any requests to a context the next document is answered as if
    it were the first, on a context that is new or on any other. -/
theorem answers_after_history (e : Engines) (hsteady : e.grammars.Steady) (c : Context)
    (history : List (Engines × Query)) (hh : ∀ q ∈ history, e.Agree q.1) (settings : Settings)
    (t : Text) (language : String) :
    ((validateText e settings t language).onContext (serve c history)).1 =
        ((validateText e settings t language).onContext c).1 ∧
      ((semanticTokens e settings t language).onContext (serve c history)).1 =
        ((semanticTokens e settings t language).onContext c).1 := by
  have hlater := serve_later e c history hh
  have hparser := hlater.parser hsteady
  constructor
  · rw [validateText_outcome, validateText_outcome, hlater.engine, hparser]
  · rw [semanticTokens_outcome, semanticTokens_outcome, hlater.engine, hparser]

/-- Engines that read every text as two verbs, and grammars that parse nothing. -/
def sampleReader : Engines where
  backend := proseEngines.backend
  grammars := fun _ _ => .ok fun _ => .error (.raised "RuntimeError" "no tree")

/-- A history with two requests that fail, a change of the clock and a document
    that is not to be checked. -/
def sampleHistory : List (Engines × Query) :=
  [(sampleReader, .diagnostics {} sampleLine "c"),
   ({ sampleReader with clock := 1 }, .wordAt {} sampleProse "plaintext" 0),
   (sampleReader, .issues { enable := false } none sampleLine "cpp"),
   (sampleReader, .words {} sampleLine "rust")]

theorem answers_after_sampleHistory :
    (serve {} sampleHistory).grammars.requests = ["rust", "c"] ∧
    (serve {} sampleHistory).tokenizer.map Tokenizer.isReady = some true ∧
    ((validateText sampleReader {} sampleProse "plaintext").onContext
        (serve {} sampleHistory)).1 =
      ((validateText sampleReader {} sampleProse "plaintext").onContext {}).1 ∧
    ((semanticTokens sampleReader {} sampleProse "plaintext").onContext
        (serve {} sampleHistory)).1 =
      ((semanticTokens sampleReader {} sampleProse "plaintext").onContext {}).1 := by
  have hagree : ∀ q ∈ sampleHistory, sampleReader.Agree q.1 := by
    intro q hq
    simp only [sampleHistory, List.mem_cons, List.not_mem_nil, or_false] at hq
    rcases hq with rfl | rfl | rfl | rfl <;> exact ⟨rfl, rfl⟩
  refine ⟨by decide +kernel, by decide +kernel, ?_⟩
  exact answers_after_history sampleReader (fun _ _ _ => rfl) {} sampleHistory hagree {}
    sampleProse "plaintext"

end Check

end Kousei
