import Kousei.Failure
import Kousei.Morph.Token
import Kousei.Notice

/-! # Tokenizers

    A tokenizer is a morphological engine that is loaded when it is first
    asked for.  Once loaded it is kept; a failure to load it is told and
    written to the log, and the tokenizer stays as it was.

    Which engines there are depends on the packages that are installed.  An
    engine is loaded with the user dictionary, if there is one. -/

namespace Kousei

/-! ## Engines -/

/-- A morphological engine: the morphemes of a text. -/
abbrev Engine : Type := Text → Except Failure (List Morpheme)

/-- With what an engine was constructed. -/
inductive Construction where
  /-- With nothing. -/
  | plain
  /-- With a user dictionary, if there is one. -/
  | janome (dictionary : Option String)
  /-- With a line of arguments. -/
  | fugashi (arguments : String)
  deriving DecidableEq, Repr

/-- A kind of engine: its name, what an attempt to load it constructs, and
    what comes of that. -/
structure Backend where
  name : String
  construction : Option Construction
  outcome : Except String Engine

/-! ## Loading -/

structure Tokenizer where
  backend : Backend
  engine : Option Engine := none
  /-- How often loading the engine was tried. -/
  attempts : Nat := 0
  /-- The constructions so far, the latest first. -/
  constructions : List Construction := []

namespace Tokenizer

def isReady (t : Tokenizer) : Bool := t.engine.isSome

/-- Why loading a backend failed, as its callers are told. -/
def loadFailure (backend reason : String) : Failure :=
  .initialization s!"{backend}: {reason}"

/-- Load the engine unless that is done, and tell what happened. -/
def makeReady (t : Tokenizer) : Except Failure Unit × Tokenizer × List Notice :=
  if t.isReady then (.ok (), t, [])
  else
    let built :=
      { t with
        attempts := t.attempts + 1,
        constructions := t.backend.construction.toList ++ t.constructions }
    match t.backend.outcome with
    | .ok engine => (.ok (), { built with engine := some engine }, [])
    | .error reason =>
      (.error (loadFailure t.backend.name reason), built,
        [.tokenizerFailed t.backend.name reason])

/-- The tokens of a text, from an engine that has been loaded. -/
def tokenize (t : Tokenizer) (s : Text) : Except Failure (List Token) :=
  match t.engine with
  | none => .error (.initialization "tokenizer is not initialized; call initialize() first")
  | some engine => (engine s).map (anchor s)

end Tokenizer

/-! ## Installed engines -/

/-- What is installed and how it answers. -/
structure Installation where
  /-- The packages that can be had. -/
  packages : List String := []
  /-- The entries of a text, from the engine that joins parts of speech. -/
  janome : Text → Except Failure (List Morpheme.JoinedEntry)
  /-- The surfaces of a text with their fields, from the other engine. -/
  fugashi : Text → Except Failure (List (Text × List (Option String)))
  /-- The line of arguments that the dictionary package asks for. -/
  dictionaryArguments : String := ""
  /-- Why no engine can be constructed, if that is so. -/
  loadError : Option String := none
  /-- The path of a user dictionary of the given name, if there is one. -/
  userDictionary : String → Option String := fun _ => none

namespace Installation

/-- What is said of a package that cannot be had. -/
def missingPackage (name : String) : String := s!"No module named '{name}'"

/-- The first of several packages that cannot be had. -/
def missing? (i : Installation) (names : List String) : Option String :=
  names.find? fun name => !i.packages.contains name

def fugashiPackages : List String := ["fugashi", "ipadic"]

def fugashiAvailable (i : Installation) : Bool := (i.missing? fugashiPackages).isNone

/-- A backend that needs packages and then constructs an engine. -/
def backendOf (i : Installation) (name : String) (packages : List String)
    (construction : Construction) (engine : Engine) : Backend :=
  match i.missing? packages with
  | some missing => ⟨name, none, .error (missingPackage missing)⟩
  | none =>
    ⟨name, some construction,
      match i.loadError with
      | some reason => .error reason
      | none => .ok engine⟩

def janomeBackend (i : Installation) : Backend :=
  i.backendOf "janome" ["janome"] (.janome (i.userDictionary "userdic.csv"))
    fun t => (i.janome t).map (·.map Morpheme.ofJoined)

/-- The arguments with the user dictionary after them. -/
def fugashiArguments (i : Installation) : String :=
  match i.userDictionary "user.dic" with
  | none => i.dictionaryArguments
  | some path => i.dictionaryArguments ++ s!" -u \"{path}\""

def fugashiBackend (i : Installation) : Backend :=
  i.backendOf "fugashi" fugashiPackages (.fugashi i.fugashiArguments)
    fun t => (i.fugashi t).map (·.map fun (surface, fields) => Morpheme.ofFields surface fields)

/-- The names of the backends that can be chosen. -/
def backendNames : List String := ["janome", "fugashi"]

/-- The backend of a name.  The name `auto` chooses what is installed. -/
def backend (i : Installation) (name : String) : Except Failure Backend :=
  match name with
  | "auto" => .ok (if i.fugashiAvailable then i.fugashiBackend else i.janomeBackend)
  | "janome" => .ok i.janomeBackend
  | "fugashi" => .ok i.fugashiBackend
  | _ => .error (.unknownBackend name)

end Installation

end Kousei
