import Kousei.Settings.File

/-! # Requests

    What is asked for on the command line.  The settings of a request are
    those of its settings file, or the default ones, with what was asked for
    beside the file put over them.

    An option that takes a value may be given without any, as two dashes after
    the equals sign.  What it is about is absent then. -/

namespace Kousei.Command

structure Request where
  /-- Files and directories that are to be checked. -/
  paths : List String := []
  /-- Are the issues written as data? -/
  json : Bool := false
  /-- The settings file; an empty path stands for none. -/
  config : Option String := none
  /-- The language of all files, whatever their suffixes; it may be absent. -/
  language : Option (Option String) := none
  /-- The name of the morphological engine. -/
  backend : Option String := some "auto"
  /-- Do issues make the program end as if it had failed? -/
  failOnIssue : Bool := false
  /-- How many workers check files at a time. -/
  jobs : Option Int := some 1
  minRatio : Option (Option Float) := none
  minSeverity : Option (Option Int) := none
  commaLimitMax : Option Limit := none
  adversativeGaMax : Option Limit := none
  /-- The names of the rules that are turned off. -/
  rulesOff : List String := []
  verbose : Bool := false
  deriving Repr

/-! ## Settings -/

/-- The settings of the rules with the rule of the given name off. -/
def turnOff (r : RuleSettings) (name : String) : RuleSettings :=
  match name with
  | "comma_limit" => { r with commaLimit := false }
  | "adversative_ga" => { r with adversativeGa := false }
  | "duplicate_particle" => { r with duplicateParticle := false }
  | "adjacent_particles" => { r with adjacentParticles := false }
  | "conjunction_repeat" => { r with conjunctionRepeat := false }
  | "ra_dropping" => { r with raDropping := false }
  | _ => r

namespace Request

/-- The settings of the rules with what the request wants put over them. -/
def amendRules (q : Request) (r : RuleSettings) : RuleSettings :=
  { q.rulesOff.foldl turnOff r with
    commaLimitMax := q.commaLimitMax.getD r.commaLimitMax,
    adversativeGaMax := q.adversativeGaMax.getD r.adversativeGaMax }

/-- The languages that are checked: the one that the request gives is one of
    them. -/
def amendLanguages (q : Request) (languages : List String) : List String :=
  match q.language.join with
  | none => languages
  | some language => if languages.contains language then languages else languages ++ [language]

/-- Settings with what the request wants put over them. -/
def amend (q : Request) (s : Settings) : Settings :=
  { s with
    minJapaneseRatio := q.minRatio.getD s.minJapaneseRatio,
    minSeverity := q.minSeverity.getD s.minSeverity,
    targetLanguages := q.amendLanguages s.targetLanguages,
    rules := q.amendRules s.rules }

/-- The settings before the request is looked at further. -/
def baseSettings (q : Request) (yaml : Settings.Reader) (w : Workspace) :
    Except LoadFault Settings :=
  match q.config with
  | none | some "" => .ok {}
  | some path => Settings.load yaml w (Path.ofString path)

/-- The settings of a request. -/
def settings (q : Request) (yaml : Settings.Reader) (w : Workspace) : Except LoadFault Settings :=
  (q.baseSettings yaml w).map q.amend

end Request

end Kousei.Command
