import Kousei.Settings.Basic
import Kousei.Settings.Data

/-! # Settings from a map

    Settings are given as a map from names to values.  Every setting has two
    spellings, words with underscores between them and words run together
    with capitals, and some have a third one.  Of several spellings of one
    setting in a map the last one counts; names that are not known do not
    matter; a value of the wrong type is refused, the first one in the map
    before any other. -/

namespace Kousei

/-- Why settings are refused. -/
inductive SettingsFault where
  | notMap
  | rulesNotMap
  /-- The value of a setting has the wrong type: the setting, what it wants
      to have, and what was given, as it is shown. -/
  | wrongType (name wanted given : String)
  /-- An integer is beyond all floats. -/
  | tooLarge (name : String)
  /-- A value should be shown and cannot be. -/
  | unshown (fault : Unshown)
  /-- There is no rule setting of the given name. -/
  | unknownRule (name : String)

def SettingsFault.message : SettingsFault → String
  | .notMap => "設定はマッピングである必要があります"
  | .rulesNotMap => "'rules' はマッピングである必要があります"
  | .wrongType name wanted given => s!"{name}: {wanted}が必要です ({given})"
  | .tooLarge _ => "int too large to convert to float"
  | .unshown fault => fault.message
  | .unknownRule name => s!"unknown rule setting: {name}"

/-- The fault of a value of the wrong type, which is shown in it, or of its not
    being shown. -/
def SettingsFault.ofShown (name wanted : String) : Except Unshown String → SettingsFault
  | .ok given => .wrongType name wanted given
  | .error fault => .unshown fault

namespace Settings

/-! ## Fields -/

variable {σ δ : Type} [Data δ]

/-- One setting in a structure of settings: its name, its spelling beyond the
    two that all have, and how its value is put into the structure. -/
structure Field (σ δ : Type) where
  name : String
  aliases : List String := []
  put : δ → σ → Except SettingsFault σ

/-- A word with a capital at its beginning. -/
def capitalized : Text → Text
  | [] => []
  | c :: r => c.toUpper :: r

/-- The words between underscores, run together with capitals. -/
def camelCase (name : String) : String :=
  match Text.splitOn '_' name.toList with
  | [] => ""
  | first :: more => String.ofList (first ++ more.flatMap capitalized)

/-- All spellings of a setting. -/
def Field.spellings (f : Field σ δ) : List String :=
  f.name :: camelCase f.name :: f.aliases

/-- A value of the wrong type is refused. -/
def wrongType {α : Type} (name wanted : String) (given : δ) : Except SettingsFault α :=
  .error (.ofShown name wanted (Data.written given))

/-- A setting that is on or off. -/
def flag (name : String) (put : Bool → σ → σ) (aliases : List String := []) : Field σ δ where
  name := name
  aliases := aliases
  put x s := match Data.layer x with
    | .bool b => .ok (put b s)
    | _ => wrongType name "真偽値" x

/-- A setting that is an integer. -/
def integer (name : String) (put : Int → σ → σ) (aliases : List String := []) : Field σ δ where
  name := name
  aliases := aliases
  put x s := match Data.layer x with
    | .int n => .ok (put n s)
    | _ => wrongType name "整数" x

/-- A setting that is a float; an integer is taken as the nearest one. -/
def number (name : String) (put : Float → σ → σ) : Field σ δ where
  name := name
  put x s := match Data.layer x with
    | .float y => .ok (put y s)
    | .int n =>
      let y := Decimal.ofInt n
      if y.isInf then .error (.tooLarge name) else .ok (put y s)
    | _ => wrongType name "数値" x

/-- A setting that is a list of texts, or a tuple; other values in it are taken
    as they are put into a text. -/
def texts (name : String) (put : List String → σ → σ) : Field σ δ where
  name := name
  put x s := match Data.layer x with
    | .list _ => ((Data.texts x).mapError .unshown).map fun l => put l s
    | _ => wrongType name "文字列の配列" x

/-- The settings of the rules. -/
def ruleFields : List (Field RuleSettings δ) :=
  [flag "comma_limit" fun b r => { r with commaLimit := b },
   integer "comma_limit_max" fun n r => { r with commaLimitMax := .count n },
   flag "adversative_ga" fun b r => { r with adversativeGa := b },
   integer "adversative_ga_max" fun n r => { r with adversativeGaMax := .count n },
   flag "duplicate_particle" fun b r => { r with duplicateParticle := b },
   integer "duplicate_particle_max_repeat" fun n r => { r with duplicateParticleMaxRepeat := .count n },
   flag "adjacent_particles" fun b r => { r with adjacentParticles := b },
   integer "adjacent_particles_max_repeat" fun n r => { r with adjacentParticlesMaxRepeat := .count n },
   flag "conjunction_repeat" fun b r => { r with conjunctionRepeat := b },
   integer "conjunction_repeat_max" fun n r => { r with conjunctionRepeatMax := .count n },
   flag "ra_dropping" fun b r => { r with raDropping := b }]

/-- The settings apart from those of the rules. -/
def fields : List (Field Settings δ) :=
  [flag "enable" fun b s => { s with enable := b },
   texts "target_languages" fun l s => { s with targetLanguages := l },
   number "min_japanese_ratio" fun x s => { s with minJapaneseRatio := some x },
   integer "min_severity" (fun n s => { s with minSeverity := some n }) ["warningMinSeverity"],
   flag "enable_enrichment" (fun b s => { s with enableEnrichment := b }) ["enableWikipedia"]]

/-! ## Reading a map -/

/-- The setting of the given spelling. -/
def fieldOf? (fs : List (Field σ δ)) (spelling : String) : Option (Field σ δ) :=
  fs.find? fun f => f.spellings.contains spelling

/-- A structure of settings with one entry of a map put into it. -/
def putEntry (fs : List (Field σ δ)) (s : σ) (e : δ × δ) : Except SettingsFault σ :=
  match Data.layer e.1 with
  | .str key =>
    match fieldOf? fs key with
    | some f => f.put e.2 s
    | none => .ok s
  | _ => .ok s

/-- A structure of settings with the entries of a map put into it in order. -/
def putEntries (fs : List (Field σ δ)) (s : σ) (es : List (δ × δ)) : Except SettingsFault σ :=
  es.foldlM (putEntry fs) s

/-- The settings of the rules in a map of settings. -/
def rulesOf (es : List (δ × δ)) : Except SettingsFault RuleSettings :=
  match (Data.lookup? "rules" es).map Data.layer with
  | none | some .null => .ok {}
  | some (.map rules) => putEntries ruleFields {} rules
  | some _ => .error .rulesNotMap

/-- The settings that a value stands for: the default ones if it is nothing or
    empty. -/
def ofValue (x : δ) : Except SettingsFault Settings :=
  let layer := Data.layer x
  if layer.isFalsy then .ok {}
  else match layer with
    | .map es => do
      let s ← putEntries fields {} es
      let rules ← rulesOf es
      return { s with rules }
    | _ => .error .notMap

/-! ## Changes -/

/-- The settings of the rules by their names. -/
def ruleTable (r : RuleSettings) : List (String × Value) :=
  [("comma_limit", .bool r.commaLimit), ("comma_limit_max", r.commaLimitMax.toValue),
   ("adversative_ga", .bool r.adversativeGa), ("adversative_ga_max", r.adversativeGaMax.toValue),
   ("duplicate_particle", .bool r.duplicateParticle),
   ("duplicate_particle_max_repeat", r.duplicateParticleMaxRepeat.toValue),
   ("adjacent_particles", .bool r.adjacentParticles),
   ("adjacent_particles_max_repeat", r.adjacentParticlesMaxRepeat.toValue),
   ("conjunction_repeat", .bool r.conjunctionRepeat),
   ("conjunction_repeat_max", r.conjunctionRepeatMax.toValue), ("ra_dropping", .bool r.raDropping)]

/-- The first of several changes whose name is not that of a rule setting. -/
def unknownChange? (changes : List (String × Value)) : Option String :=
  let fields : List (Field RuleSettings Value) := ruleFields
  (changes.find? fun c => (fields.find? fun f => f.name == c.1).isNone).map (·.1)

/-- The settings of the rules with some of them changed, named by their first
    spelling, whatever the values are. -/
def changedTable (changes : List (String × Value)) (r : RuleSettings) :
    Except SettingsFault (List (String × Value)) :=
  match unknownChange? changes with
  | some name => .error (.unknownRule name)
  | none => .ok ((ruleTable r).map fun (name, v) => (name, (changes.lookup name).getD v))

/-- The settings of the rules in a table by their names.  A rule is on when its
    value counts as true. -/
def rulesOfTable (table : List (String × Value)) : RuleSettings :=
  let value (name : String) : Value := (table.lookup name).getD .null
  let isOn (name : String) : Bool := !(value name).isFalsy
  let limit (name : String) : Limit := .ofValue (value name)
  { commaLimit := isOn "comma_limit", commaLimitMax := limit "comma_limit_max",
    adversativeGa := isOn "adversative_ga", adversativeGaMax := limit "adversative_ga_max",
    duplicateParticle := isOn "duplicate_particle",
    duplicateParticleMaxRepeat := limit "duplicate_particle_max_repeat",
    adjacentParticles := isOn "adjacent_particles",
    adjacentParticlesMaxRepeat := limit "adjacent_particles_max_repeat",
    conjunctionRepeat := isOn "conjunction_repeat",
    conjunctionRepeatMax := limit "conjunction_repeat_max", raDropping := isOn "ra_dropping" }

/-- The settings of the rules with some of them changed. -/
def changedRules (changes : List (String × Value)) (r : RuleSettings) :
    Except SettingsFault RuleSettings :=
  (changedTable changes r).map rulesOfTable

end Settings

end Kousei
