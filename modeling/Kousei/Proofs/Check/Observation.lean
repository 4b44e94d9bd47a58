import Kousei.Proofs.Check.Numbers

/-! # What requests can tell of a context

    A request reads four things of a context: the engine, the parsers, the
    summaries and, if its result is to be published, the numbers of the checks.
    What is in the log it never reads.

    A relation between contexts that all steps respect is a bisimulation: on
    related contexts every request has the same outcome, and it leaves related
    contexts.  So no run of requests can tell them apart
    (`Bisimulation.inseparable`).  Contexts that differ in their logs only are
    so related (`Context.sameButLog_bisimulation`), and if the source of
    grammars does not change its mind, so are contexts that have the four
    things in common (`Context.alike_bisimulation`). -/

namespace Kousei

variable {e e' : Engines} {R : Context → Context → Prop} {c c' : Context}

/-! ## Operations that respect a relation -/

namespace Run

variable {α β : Type}

/-- On contexts that are related the operation has the same outcome, and it leaves
    contexts that are related. -/
def Respects (R : Context → Context → Prop) {α : Type} (run : Run α) : Prop :=
  ∀ c c', R c c' →
    (run.onContext c').1 = (run.onContext c).1 ∧ R (run.onContext c).2 (run.onContext c').2

theorem Respects.attempt {run : Run α} (h : Respects R run) : Respects R (Run.attempt run) := by
  intro c c' hc
  obtain ⟨houtcome, hleft⟩ := h c c' hc
  exact ⟨congrArg Except.ok houtcome, hleft⟩

theorem Respects.bind {run : Run α} {rest : α → Run β} (h : Respects R run)
    (hrest : ∀ a, Respects R (rest a)) : Respects R (run >>= rest) := by
  intro c c' hc
  obtain ⟨houtcome, hleft⟩ := h c c' hc
  rw [onContext_bind, onContext_bind]
  rcases hrun : run.onContext c with ⟨outcome, d⟩
  rcases hrun' : run.onContext c' with ⟨outcome', d'⟩
  rw [hrun, hrun'] at houtcome hleft
  cases houtcome
  cases outcome with
  | error failure => exact ⟨rfl, hleft⟩
  | ok a => exact hrest a d d' hleft

end Run

open Run

/-- A relation that all steps respect.  Tokenizers that are made ready may differ in
    everything but their engine. -/
structure Bisimulation (e : Engines) (R : Context → Context → Prop) : Prop where
  grammar : ∀ name, Respects R (Context.grammar? e name)
  engine : ∀ {c c'}, R c c' →
    ((Context.readyTokenizer e).onContext c').1.map Tokenizer.engine =
      ((Context.readyTokenizer e).onContext c).1.map Tokenizer.engine
  ready : ∀ {c c'}, R c c' →
    R ((Context.readyTokenizer e).onContext c).2 ((Context.readyTokenizer e).onContext c').2
  generations : ∀ {c c'}, R c c' → c'.generations = c.generations
  enrichment : ∀ {c c'}, R c c' → c'.enrichment = c.enrichment
  setGenerations : ∀ {c c'}, R c c' →
    ∀ g, R { c with generations := g } { c' with generations := g }
  setEnrichment : ∀ {c c'}, R c c' →
    ∀ cache, R { c with enrichment := cache } { c' with enrichment := cache }
  setNotices : ∀ {c c'}, R c c' → ∀ n n', R { c with notices := n } { c' with notices := n' }

namespace Bisimulation

theorem mapGenerations (h : Bisimulation e R) (hc : R c c') (f : Generations → Generations) :
    R { c with generations := f c.generations } { c' with generations := f c'.generations } := by
  rw [h.generations hc]
  exact h.setGenerations hc _

theorem readyTokenizer (h : Bisimulation e R) {α : Type} {rest : Tokenizer → Run α}
    (hsame : ∀ t t', t.engine = t'.engine → rest t = rest t')
    (hrest : ∀ t, Respects R (rest t)) : Respects R (Context.readyTokenizer e >>= rest) := by
  intro c c' hc
  have hengine := h.engine hc
  have hleft := h.ready hc
  rw [onContext_bind, onContext_bind]
  rcases hrun : (Context.readyTokenizer e).onContext c with ⟨outcome, d⟩
  rcases hrun' : (Context.readyTokenizer e).onContext c' with ⟨outcome', d'⟩
  rw [hrun, hrun'] at hengine hleft
  cases outcome with
  | error failure =>
    cases outcome' with
    | error failure' =>
      cases hengine
      exact ⟨rfl, hleft⟩
    | ok t' => cases hengine
  | ok t =>
    cases outcome' with
    | error failure' => cases hengine
    | ok t' =>
      have htokenizers : rest t' = rest t := hsame t' t (Except.ok.inj hengine)
      simp only [htokenizers]
      exact hrest t d d' hleft

/-- All steps that serve a request respect the relation. -/
theorem serving (h : Bisimulation e R) : ServingSteps e (@Respects R) where
  ofExcept := fun _ _ _ hc => ⟨rfl, hc⟩
  attempt := .attempt
  bind := .bind
  grammar := h.grammar
  meanwhile := fun _ _ hc => ⟨rfl, h.mapGenerations hc e.meanwhile⟩
  summary := by
    intro term c c' hc
    have hcache := h.enrichment hc
    have hrun (c : Context) : (Context.summary e term).onContext c =
        ((c.enrichment.lookup e.service term e.clock e.clock).1,
          { c with enrichment := (c.enrichment.lookup e.service term e.clock e.clock).2 }) := rfl
    rw [hrun, hrun, hcache]
    exact ⟨rfl, h.setEnrichment hc _⟩
  log := fun n _ c c' hc => ⟨rfl, h.setNotices hc (c.notices ++ [n]) (c'.notices ++ [n])⟩
  ready := h.readyTokenizer

end Bisimulation

/-! ## Two bisimulations -/

/-- Which engines answer decides about the engine and the parsers of a context. -/
theorem Engines.Agree.engine? (h : e.Agree e') (c : Context) : c.engine? e' = c.engine? e := by
  unfold Context.engine? Context.tokenizer?
  rw [h.backend]

theorem Engines.Agree.parser (h : e.Agree e') (c : Context) : c.parser e' = c.parser e := by
  unfold Context.parser
  rw [h.grammars]

namespace Context

/-- All that a request reads is the same in both contexts. -/
structure Alike (e : Engines) (c c' : Context) : Prop where
  engine : c'.engine? e = c.engine? e
  parser : c'.parser e = c.parser e
  enrichment : c'.enrichment = c.enrichment
  generations : c'.generations = c.generations

theorem Alike.congr (hagree : e.Agree e') : Alike e' c c' ↔ Alike e c c' := by
  constructor
  · rintro ⟨hengine, hparser, henrichment, hgenerations⟩
    rw [hagree.engine?, hagree.engine?] at hengine
    rw [hagree.parser, hagree.parser] at hparser
    exact ⟨hengine, hparser, henrichment, hgenerations⟩
  · rintro ⟨hengine, hparser, henrichment, hgenerations⟩
    refine ⟨?_, ?_, henrichment, hgenerations⟩
    · rw [hagree.engine?, hagree.engine?, hengine]
    · rw [hagree.parser, hagree.parser, hparser]

/-- Later states of contexts that are alike are alike, if summaries and numbers are. -/
theorem Alike.later {d d' : Context} (h : Alike e c c') (hsteady : e.grammars.Steady)
    (hd : Later e c d) (hd' : Later e c' d') (henrichment : d'.enrichment = d.enrichment)
    (hgenerations : d'.generations = d.generations) : Alike e d d' where
  engine := by rw [hd.engine, hd'.engine, h.engine]
  parser := by rw [hd.parser hsteady, hd'.parser hsteady, h.parser]
  enrichment := henrichment
  generations := hgenerations

/-- What a tokenizer that was made ready is good for. -/
theorem readyTokenizer_engine (e : Engines) (c : Context) :
    ((readyTokenizer e).onContext c).1.map Tokenizer.engine = (c.engine? e).map some := by
  obtain ⟨c', -, ⟨engine, t, hengine, ht, hrun⟩ | ⟨failure, hfailure, hrun⟩⟩ :=
    readyTokenizer_cases e c
  · rw [hrun, hengine]
    exact congrArg Except.ok ht
  · rw [hrun, hfailure]
    rfl

/-- With a source of grammars that does not change its mind, nothing but the four things
    counts. -/
theorem alike_bisimulation (hsteady : e.grammars.Steady) : Bisimulation e (Alike e) where
  grammar := by
    intro name c c' h
    have henrichment := grammar?_enrichment e name
    have hgenerations := grammar?_generations e name
    refine ⟨?_, ?_⟩
    · obtain ⟨d, hrun, -⟩ := grammar?_spec e name c
      obtain ⟨d', hrun', -⟩ := grammar?_spec e name c'
      rw [hrun, hrun', h.parser]
    · apply h.later hsteady (grammar?_keeps name c) (grammar?_keeps name c')
      · rw [henrichment, henrichment, h.enrichment]
      · rw [hgenerations, hgenerations, h.generations]
  engine := by
    intro c c' h
    rw [readyTokenizer_engine, readyTokenizer_engine, h.engine]
  ready := by
    intro c c' h
    have henrichment := readyTokenizer_enrichment e
    have hgenerations := readyTokenizer_generations e
    apply h.later hsteady (readyTokenizer_keeps c) (readyTokenizer_keeps c')
    · rw [henrichment, henrichment, h.enrichment]
    · rw [hgenerations, hgenerations, h.generations]
  generations := Alike.generations
  enrichment := Alike.enrichment
  setGenerations := fun h _ => ⟨h.engine, h.parser, h.enrichment, rfl⟩
  setEnrichment := fun h _ => ⟨h.engine, h.parser, rfl, h.generations⟩
  setNotices := fun h _ _ => ⟨h.engine, h.parser, h.enrichment, h.generations⟩

theorem alike_bisimulation_of_agree (hsteady : e.grammars.Steady) (hagree : e.Agree e') :
    Bisimulation e' (Alike e) := by
  have hsame : Alike e' = Alike e := funext₂ fun _ _ => propext (Alike.congr hagree)
  rw [← hsame]
  exact alike_bisimulation (hagree.grammars ▸ hsteady)

/-- The contexts differ in their logs only. -/
def SameButLog (c c' : Context) : Prop := ∃ notices, c' = { c with notices := notices }

/-- The log is not read by any step, whatever answers from outside. -/
theorem sameButLog_bisimulation (e : Engines) : Bisimulation e SameButLog where
  grammar := by
    rintro name c c' ⟨notices, rfl⟩
    unfold grammar?
    rw [bind_of_ok (onContext_get _), bind_of_ok (onContext_get _)]
    simp only
    rcases c.grammars.load e.grammars name with ⟨fault | parse, g⟩
    · cases fault <;> exact ⟨rfl, _, rfl⟩
    · exact ⟨rfl, _, rfl⟩
  engine := by
    rintro c c' ⟨notices, rfl⟩
    rw [readyTokenizer_engine, readyTokenizer_engine]
    rfl
  ready := by
    rintro c c' ⟨notices, hc'⟩
    have hfailure' : c'.initFailure = c.initFailure := by rw [hc']
    have ht' : c'.tokenizer? e = c.tokenizer? e := by rw [hc']; rfl
    cases hfailure : c.initFailure with
    | some failure =>
      rw [hfailure] at hfailure'
      rw [readyTokenizer_of_initFailure hfailure, readyTokenizer_of_initFailure hfailure']
      exact ⟨notices, hc'⟩
    | none =>
      rw [hfailure] at hfailure'
      cases ht : c.tokenizer? e with
      | error failure =>
        rw [ht] at ht'
        rw [readyTokenizer_of_unchosen hfailure ht, readyTokenizer_of_unchosen hfailure' ht']
        exact ⟨notices, hc'⟩
      | ok t =>
        rw [ht] at ht'
        rcases hmade : t.makeReady with ⟨outcome, t', reports⟩
        rw [readyTokenizer_of_chosen hfailure ht hmade,
          readyTokenizer_of_chosen hfailure' ht' hmade, hc']
        exact ⟨notices ++ reports, rfl⟩
  generations := by
    rintro c c' ⟨notices, rfl⟩
    rfl
  enrichment := by
    rintro c c' ⟨notices, rfl⟩
    rfl
  setGenerations := by
    rintro c c' ⟨notices, rfl⟩ g
    exact ⟨notices, rfl⟩
  setEnrichment := by
    rintro c c' ⟨notices, rfl⟩ cache
    exact ⟨notices, rfl⟩
  setNotices := by
    rintro c c' ⟨notices, rfl⟩ n n'
    exact ⟨n', rfl⟩

end Context

/-! ## Requests -/

namespace Check

open Context

variable {P : ∀ α : Type, Run α → Prop} {settings : Settings} {t : Text} {key language : String}

/-- A request of any kind: a call, the sentences of a text, the check of a document whose
    result is to be published, or the closing of a document. -/
inductive Request where
  | call (q : Call)
  | sentences (s : Text)
  | publication (settings : Settings) (key : String) (t : Text) (language : String)
  | close (key : String)

/-- The context after a request, whether it was answered or failed. -/
def Request.serve (e : Engines) (c : Context) : Request → Context
  | .call q => q.serve e c
  | .sentences s => ((analyze e s).onContext c).2
  | .publication settings key t language =>
    ((validateDocument e settings key t language).onContext c).2
  | .close key => { c with generations := c.generations.forget key }

/-- The context after several requests, each with the engines of its time. -/
def serveRequests (c : Context) (requests : List (Engines × Request)) : Context :=
  requests.foldl (fun c q => q.2.serve q.1 c) c

/-- Every request is answered on the second context as on the first. -/
structure AnswersAlike (e : Engines) (c c' : Context) : Prop where
  ready : ((readyTokenizer e).onContext c').1.map Tokenizer.engine =
    ((readyTokenizer e).onContext c).1.map Tokenizer.engine
  sentences : ∀ s, ((analyze e s).onContext c').1 = ((analyze e s).onContext c).1
  diagnostics : ∀ settings t language,
    ((validateText e settings t language).onContext c').1 =
      ((validateText e settings t language).onContext c).1
  issues : ∀ settings file t language,
    ((checkText e settings file t language).onContext c').1 =
      ((checkText e settings file t language).onContext c).1
  files : ∀ settings w jobs given paths,
    ((checkPaths e settings w jobs given paths).onContext c').1 =
      ((checkPaths e settings w jobs given paths).onContext c).1
  publication : ∀ settings key t language,
    ((validateDocument e settings key t language).onContext c').1 =
      ((validateDocument e settings key t language).onContext c).1
  words : ∀ settings t language,
    ((semanticTokens e settings t language).onContext c').1 =
      ((semanticTokens e settings t language).onContext c).1
  wordAt : ∀ settings t language offset,
    ((hover e settings t language offset).onContext c').1 =
      ((hover e settings t language offset).onContext c).1

/-- No run of requests can tell the contexts apart, as long as the engines of every time
    are among the given ones. -/
def Inseparable (among : Engines → Prop) (c c' : Context) : Prop :=
  ∀ requests : List (Engines × Request), (∀ q ∈ requests, among q.1) →
    ∀ e, among e → AnswersAlike e (serveRequests c requests) (serveRequests c' requests)

theorem analyze_serving (h : ServingSteps e P) (s : Text) : P _ (analyze e s) := by
  unfold analyze
  refine h.ready (fun _ _ hengine => ?_) fun tokenizer => ?_
  · rw [Context.tokenize_congr hengine]
  · exact h.bind (h.tokenize tokenizer s) fun _ => h.pure _

end Check

namespace Bisimulation

open Check

variable {settings : Settings} {t : Text} {key language : String}

/-- The number of a check is the same in both contexts, and so is whether it is still the
    current one. -/
theorem validateDocument (h : Bisimulation e R) :
    Respects R (validateDocument e settings key t language) := by
  have hbegin : Respects R (beginPass key) := by
    intro c c' hc
    have hleft := h.mapGenerations hc fun g => (g.begin key).2
    have hrun (c : Context) : (beginPass key).onContext c =
        (.ok ⟨key, (c.generations.begin key).1⟩,
          { c with generations := (c.generations.begin key).2 }) := rfl
    rw [hrun, hrun]
    refine ⟨?_, hleft⟩
    rw [h.generations hc]
  have hmay (p : Pass) : Respects R (mayPublish p) := by
    intro c c' hc
    have hrun (c : Context) : (mayPublish p).onContext c =
        (.ok (c.generations.isCurrent p.key p.generation), c) := rfl
    rw [hrun, hrun, h.generations hc]
    exact ⟨rfl, hc⟩
  unfold Check.validateDocument
  refine h.serving.bind hbegin fun p => ?_
  refine h.serving.bind h.serving.validateText fun ds => ?_
  exact h.serving.bind (hmay p) fun _ => h.serving.pure _

theorem answersAlike (h : Bisimulation e R) (hc : R c c') : AnswersAlike e c c' where
  ready := h.engine hc
  sentences := fun s => (analyze_serving h.serving s c c' hc).1
  diagnostics := fun _ _ _ => (h.serving.validateText c c' hc).1
  issues := fun _ file _ _ => (h.serving.checkText file c c' hc).1
  files := fun _ _ jobs _ paths => (checkPaths_serving h.serving jobs paths c c' hc).1
  publication := fun _ _ _ _ => (h.validateDocument c c' hc).1
  words := fun _ _ _ => (h.serving.semanticTokens c c' hc).1
  wordAt := fun _ _ _ offset => (h.serving.hover offset c c' hc).1

/-- One request leads from related contexts to related ones. -/
theorem serve (h : Bisimulation e R) (hc : R c c') (q : Request) :
    R (q.serve e c) (q.serve e c') := by
  cases q with
  | sentences s => exact (analyze_serving h.serving s c c' hc).2
  | publication settings key t language => exact (h.validateDocument c c' hc).2
  | close key => exact h.mapGenerations hc fun g => g.forget key
  | call q =>
    cases q with
    | ready => exact h.ready hc
    | files settings w jobs given paths =>
      exact (checkPaths_serving h.serving jobs paths c c' hc).2
    | ask q =>
      cases q with
      | diagnostics settings t language => exact (h.serving.validateText c c' hc).2
      | issues settings file t language => exact (h.serving.checkText file c c' hc).2
      | wordAt settings t language offset => exact (h.serving.hover offset c c' hc).2
      | words settings t language => exact (h.serving.semanticTokens c c' hc).2

/-- So do any number of them. -/
theorem serveRequests (requests : List (Engines × Request))
    (h : ∀ q ∈ requests, Bisimulation q.1 R) (hc : R c c') :
    R (serveRequests c requests) (serveRequests c' requests) := by
  induction requests generalizing c c' with
  | nil => exact hc
  | cons q r ih =>
    obtain ⟨hq, hr⟩ := List.forall_mem_cons.1 h
    exact ih hr (hq.serve hc q.2)

/-- **What requests can tell.**  Contexts that are related by a bisimulation cannot be told
    apart by any run of requests. -/
theorem inseparable {among : Engines → Prop} (h : ∀ e, among e → Bisimulation e R)
    (hc : R c c') : Inseparable among c c' := by
  intro requests hrequests e he
  have hafter : R (Check.serveRequests c requests) (Check.serveRequests c' requests) :=
    serveRequests requests (fun q hq => h q.1 (hrequests q hq)) hc
  exact (h e he).answersAlike hafter

end Bisimulation

end Kousei
