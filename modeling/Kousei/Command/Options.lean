import Kousei.Command.Request
import Kousei.Morph.Tokenizer
import Kousei.Rule.Basic

/-! # Options

    An option either stands alone or takes a value, which it may refuse.  It
    is named by a word after two dashes; some options have a letter after
    one dash as well. -/

namespace Kousei.Command

/-- What an option that stands alone does. -/
inductive Flag where
  /-- It asks how the program is used, and nothing else is done. -/
  | help
  | set (change : Request → Request)

inductive Effect where
  | flag (f : Flag)
  /-- It takes a value, which is read into the request; or it is given without
      one. -/
  | takes (read : String → Request → Option Request) (absent : Request → Request)

/-! ## Kinds of values -/

/-- A value that is made of a text, or absent. -/
def value {α : Type} (read : String → Option α) (set : Option α → Request → Request) : Effect :=
  .takes (fun s q => (read s).map fun a => set (some a) q) (set none)

/-- Any text. -/
def anyText : (Option String → Request → Request) → Effect := value some

/-- One of several texts. -/
def oneOf (choices : List String) : (Option String → Request → Request) → Effect :=
  value fun s => if choices.contains s then some s else none

def integer? (s : String) : Option Int := (Numeral.integer s.toList).toOption

/-- An integer. -/
def anInteger : (Option Int → Request → Request) → Effect := value integer?

/-- One of several integers. -/
def oneOfIntegers (choices : List Int) : (Option Int → Request → Request) → Effect :=
  value fun s => (integer? s).filter choices.contains

/-- The limit of a rule. -/
def aLimit (set : Limit → Request → Request) : Effect :=
  anInteger fun n => set ((n.map Limit.count).getD .absent)

/-- A float. -/
def aFloat : (Option Float → Request → Request) → Effect :=
  value fun s => Numeral.float? s.toList

/-! ## The options -/

def severities : List Int := [1, 2, 3, 4]

/-- The names of the backends that can be asked for. -/
def backendChoices : List String := "auto" :: Installation.backendNames

/-- The word of the option that turns a rule off. -/
def offWord (rule : String) : String :=
  "no-" ++ String.ofList (rule.toList.map fun c => if c = '_' then '-' else c)

/-- The options that turn rules off. -/
def offOptions : List (String × Effect) :=
  Rule.all.map fun rule =>
    (offWord rule.name, .flag (.set fun q => { q with rulesOff := q.rulesOff ++ [rule.name] }))

def verboseFlag : Flag := .set fun q => { q with verbose := true }

/-- The options by their words. -/
def words : List (String × Effect) :=
  [("help", .flag .help),
   ("json", .flag (.set fun q => { q with json := true })),
   ("config", anyText fun s q => { q with config := s }),
   ("language", oneOf supportedLanguages fun s q => { q with language := some s }),
   ("backend", oneOf backendChoices fun s q => { q with backend := s }),
   ("fail-on-issue", .flag (.set fun q => { q with failOnIssue := true })),
   ("jobs", anInteger fun n q => { q with jobs := n }),
   ("min-ratio", aFloat fun x q => { q with minRatio := some x }),
   ("min-severity", oneOfIntegers severities fun n q => { q with minSeverity := some n }),
   ("comma-limit-max", aLimit fun n q => { q with commaLimitMax := some n }),
   ("adversative-ga-max", aLimit fun n q => { q with adversativeGaMax := some n })] ++
  offOptions ++ [("verbose", .flag verboseFlag)]

/-- The options by their letters. -/
def letters : List (Char × Flag) := [('h', .help), ('v', verboseFlag)]

end Kousei.Command
