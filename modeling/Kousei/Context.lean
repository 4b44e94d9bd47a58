import Kousei.Enrichment.Cache
import Kousei.Generation
import Kousei.Morph.Tokenizer
import Kousei.Tree.Grammar
import Kousei.Tree.Node

/-! # Contexts

    A context holds what outlives the check of one document: the tokenizer,
    which is loaded once and whose failure to load is remembered, the
    grammars, the summaries of words and the numbers of the checks.  The
    engines behind them are given to every operation from outside.

    An operation may fail and still change the context, so it is a function
    from a context to an outcome and a context. -/

namespace Kousei

/-- A loaded grammar: the syntax tree of a text. -/
abbrev Parser : Type := Text → Except Failure Node

/-- The grammars that come in packages: the package of parsers is asked for
    first, then that of the grammar, which may still give a fault. -/
def packagedGrammars (packages : List String) (fault : Option String) (parse : Parser) :
    GrammarSource Parser := fun _ name =>
  match grammarPackages.lookup name with
  | none => .error ""
  | some package =>
    match ["tree_sitter", package].find? fun p => !packages.contains p with
    | some missing => .error (Installation.missingPackage missing)
    | none =>
      match fault with
      | some reason => .error reason
      | none => .ok parse

/-- What answers from outside. -/
structure Engines where
  /-- The morphological engine that was chosen. -/
  backend : Except Failure Backend
  grammars : GrammarSource Parser
  service : Service := fun _ _ => .unreachable
  /-- The reading of the clock. -/
  clock : Float := 0
  /-- What other checks do to the numbers of the checks each time the
      morphological engine is asked about a text. -/
  meanwhile : Generations → Generations := id

structure Context where
  tokenizer : Option Tokenizer := none
  /-- Why the tokenizer could not be loaded, if that was tried in vain. -/
  initFailure : Option Failure := none
  grammars : Grammars Parser := {}
  enrichment : EnrichmentCache := {}
  generations : Generations := {}
  /-- What was written to the log, the latest last. -/
  notices : List Notice := []

/-- An operation on a context. -/
abbrev Run (α : Type) : Type := ExceptT Failure (StateM Context) α

namespace Run

/-- The outcome of an operation, and the context after it. -/
def onContext {α : Type} (run : Run α) (c : Context) : Except Failure α × Context := run c

/-- The outcome of an operation as a value: this does not fail. -/
def attempt {α : Type} (run : Run α) : Run (Except Failure α) := fun c =>
  let (outcome, c) := run.onContext c
  (.ok outcome, c)

/-- An operation out of an outcome that is there already. -/
def ofExcept {α : Type} (outcome : Except Failure α) : Run α := fun c => (outcome, c)

def log (notices : List Notice) : Run Unit :=
  modify fun c => { c with notices := c.notices ++ notices }

end Run

namespace Context

/-- The tokenizer, chosen when it is first asked for. -/
def theTokenizer (e : Engines) : Run Tokenizer := do
  match (← get).tokenizer with
  | some t => return t
  | none =>
    let backend ← Run.ofExcept e.backend
    let t : Tokenizer := { backend }
    modify fun c => { c with tokenizer := some t }
    return t

/-- The tokenizer after it was loaded.  Once loading has failed it fails the
    same way for ever, and is not tried again. -/
def readyTokenizer (e : Engines) : Run Tokenizer := do
  match (← get).initFailure with
  | some failure => throw failure
  | none =>
    let t ← theTokenizer e
    let (outcome, t, notices) := t.makeReady
    modify fun c => { c with tokenizer := some t }
    Run.log notices
    match outcome with
    | .ok () => return t
    | .error failure =>
      modify fun c => { c with initFailure := some failure }
      throw failure

/-- The tokens of a text. -/
def tokenize (e : Engines) (t : Tokenizer) (s : Text) : Run (List Token) := do
  modify fun c => { c with generations := e.meanwhile c.generations }
  Run.ofExcept (t.tokenize s)

/-- The grammar of the given name, if it can be had. -/
def grammar? (e : Engines) (name : String) : Run (Option Parser) := do
  let (outcome, g) := (← get).grammars.load e.grammars name
  modify fun c => { c with grammars := g }
  match outcome with
  | .ok parser => return some parser
  | .error (.failed reason) =>
    Run.log [.grammarUnavailable name reason]
    return none
  | .error _ => return none

/-- The grammar of a language, if it has one that can be had. -/
def parser? (e : Engines) (language : String) : Run (Option Parser) := do
  match grammarOf? language with
  | none => return none
  | some name => grammar? e name

/-- The summary of a word. -/
def summary (e : Engines) (term : String) : Run (Option Value) := do
  let (outcome, cache) := (← get).enrichment.lookup e.service term e.clock e.clock
  modify fun c => { c with enrichment := cache }
  Run.ofExcept outcome

end Context

end Kousei
