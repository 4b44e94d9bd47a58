/-! # Grammars

    A grammar turns a document into a syntax tree.  Grammars come in
    packages that may be missing, so each is asked for once by its name and
    the outcome is remembered: a grammar that could not be had is never
    asked for again, and one whose name is not known is not asked for at
    all. -/

namespace Kousei

/-- The grammars that are known, with the package each comes in. -/
def grammarPackages : List (String × String) :=
  [("javascript", "tree_sitter_javascript"), ("typescript", "tree_sitter_typescript"),
   ("tsx", "tree_sitter_typescript"), ("python", "tree_sitter_python"), ("c", "tree_sitter_c"),
   ("cpp", "tree_sitter_cpp"), ("rust", "tree_sitter_rust"), ("html", "tree_sitter_html")]

/-- The languages that have a grammar, with its name. -/
def languageGrammars : List (String × String) :=
  [("javascript", "javascript"), ("javascriptreact", "javascript"), ("typescript", "typescript"),
   ("typescriptreact", "tsx"), ("python", "python"), ("c", "c"), ("cpp", "cpp"), ("rust", "rust"),
   ("html", "html")]

/-- The grammar of a language. -/
def grammarOf? (language : String) : Option String := languageGrammars.lookup language

/-- Why a grammar cannot be had. -/
inductive GrammarFault where
  | unknown
  | failedBefore
  /-- Loading it failed, with the reason that was given. -/
  | failed (reason : String)
  deriving DecidableEq, Repr

/-- The reason as it is told; empty when none was given. -/
def GrammarFault.reason : GrammarFault → String
  | .unknown => "unknown grammar"
  | .failedBefore => "previously failed"
  | .failed reason => reason

/-- What is told of a grammar that cannot be had; its name is given in
    quotes. -/
def GrammarFault.message (quotedName : String) (fault : GrammarFault) : String :=
  let start := s!"failed to load grammar {quotedName}"
  if fault.reason.isEmpty then start else start ++ ": " ++ fault.reason

/-- A source of grammars: the outcome of the `n`-th request, which is one for
    the grammar of the given name. -/
abbrev GrammarSource (γ : Type) : Type := Nat → String → Except String γ

/-- What is remembered of the grammars that were asked for. -/
structure Grammars (γ : Type) where
  /-- The grammars that were loaded, by name. -/
  loaded : List (String × γ) := []
  /-- The names of those that could not be had. -/
  unavailable : List String := []
  /-- The names that the source was asked for, the latest first. -/
  requests : List String := []

namespace Grammars

variable {γ : Type}

/-- The grammar of a name, and the memory after asking for it. -/
def load (source : GrammarSource γ) (g : Grammars γ) (name : String) :
    Except GrammarFault γ × Grammars γ :=
  match g.loaded.lookup name with
  | some grammar => (.ok grammar, g)
  | none =>
    if g.unavailable.contains name then (.error .failedBefore, g)
    else if (grammarPackages.lookup name).isNone then
      (.error .unknown, { g with unavailable := name :: g.unavailable })
    else
      let asked := { g with requests := name :: g.requests }
      match source g.requests.length name with
      | .ok grammar => (.ok grammar, { asked with loaded := (name, grammar) :: g.loaded })
      | .error reason =>
        (.error (.failed reason), { asked with unavailable := name :: g.unavailable })

/-- The grammar of a name if it can be had. -/
def get? (source : GrammarSource γ) (g : Grammars γ) (name : String) :
    Option γ × Grammars γ :=
  let (outcome, g) := g.load source name
  (outcome.toOption, g)

def isLoaded (g : Grammars γ) (name : String) : Bool := (g.loaded.lookup name).isSome

/-- Can the grammar of a language be had?  With the memory after asking for
    it. -/
def isAvailable (source : GrammarSource γ) (g : Grammars γ) (language : String) :
    Bool × Grammars γ :=
  match grammarOf? language with
  | none => (false, g)
  | some name =>
    let (grammar, g) := g.get? source name
    (grammar.isSome, g)

end Grammars

end Kousei
