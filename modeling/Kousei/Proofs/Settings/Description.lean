import Kousei.Proofs.Decimal.Overflow
import Kousei.Settings.Mapping

/-! # What the settings are

    Of each setting it is written down here how it is spelled, what type its
    value has, and what its value is where none is given (`described`,
    `describedRules`).  From that alone it is told what a map gives a setting,
    and at which entry a map is refused: how maps are read, entry by entry and
    field by field, is not looked at.

    A value has a type or it has not (`Kind.hasType`); integers have that of
    numbers unless they are beyond all floats.  A list of texts is asked for
    more, since what is in it is put into texts: all of it has to be shown
    (`Kind.admits`). -/

namespace Kousei.Settings

variable {δ : Type} [Data δ]

/-! ## Types -/

/-- The types that settings have. -/
inductive Kind where
  | truth
  | integer
  | number
  | texts
  deriving DecidableEq, Repr

namespace Kind

/-- What a value of another type is told to have to be. -/
def wanted : Kind → String
  | truth => "真偽値"
  | integer => "整数"
  | number => "数値"
  | texts => "文字列の配列"

/-- Is a value that looks so of the type? -/
def fits : Kind → Layer δ → Bool
  | truth, .bool _ => true
  | integer, .int _ => true
  | number, .float _ => true
  | number, .int n => n.natAbs < Decimal.overflowBound
  | texts, .list _ => true
  | _, _ => false

/-- Has the value the type? -/
def hasType (k : Kind) (x : δ) : Bool := k.fits (Data.layer x)

/-- Is the value taken for a setting of the type? -/
def admits (k : Kind) (x : δ) : Bool := k.hasType x && (k != texts || (Data.texts x).isOk)

/-- A value of the type as it is kept. -/
def convert (k : Kind) (x : δ) : Value :=
  match k, Data.layer x with
  | truth, .bool b => .bool b
  | integer, .int n => .int n
  | number, .float y => .float y
  | number, .int n => .float (Decimal.ofInt n)
  | texts, .list _ => .tuple (((Data.texts x).toOption.getD []).map .str)
  | _, _ => .null

/-- What is shown of a value that is not taken: what of it cannot be put into a
    text if it should be, or the value itself. -/
def shown (k : Kind) (x : δ) : Except Unshown String :=
  match k, Data.texts x with
  | texts, .error fault => .error fault
  | _, _ => Data.written x

/-- The fault of a value that is not taken for the setting of the given name. -/
def fault (name : String) (k : Kind) (x : δ) : SettingsFault :=
  match k, Data.layer x with
  | number, .int _ => .tooLarge name
  | _, _ => .ofShown name k.wanted (k.shown x)

/-- What comes of a value that is given to the setting of the given name. -/
def read (name : String) (k : Kind) (x : δ) : Except SettingsFault Value :=
  if k.admits x then .ok (k.convert x) else .error (k.fault name x)

end Kind

/-! ## Descriptions -/

/-- What is written down of a setting. -/
structure Description where
  name : String
  /-- The words of the name run together. -/
  runTogether : String
  /-- Its spellings beyond the two that all have. -/
  aliases : List String := []
  kind : Kind
  /-- Its value where none is given. -/
  default : Value

namespace Description

def spellings (d : Description) : List String := d.name :: d.runTogether :: d.aliases

/-- Is the key of an entry a spelling of the setting? -/
def isSpelled (d : Description) (key : δ) : Bool :=
  match Data.layer key with
  | .str key => d.spellings.contains key
  | _ => false

/-- Does the entry give the setting a value that is not taken? -/
def refuses (d : Description) (e : δ × δ) : Bool := d.isSpelled e.1 && !d.kind.admits e.2

/-- The value that entries give the setting: that of the last one with one of
    its spellings. -/
def given? (d : Description) (es : List (δ × δ)) : Option δ :=
  (es.filter fun e => d.isSpelled e.1).getLast?.map Prod.snd

/-- The value that the setting has after the entries. -/
def valueIn (d : Description) (es : List (δ × δ)) : Value :=
  ((d.given? es).map d.kind.convert).getD d.default

end Description

/-- The settings apart from those of the rules. -/
def described : List Description :=
  [{ name := "enable", runTogether := "enable", kind := .truth, default := .bool true },
   { name := "target_languages", runTogether := "targetLanguages", kind := .texts,
     default := .tuple (defaultTargetLanguages.map .str) },
   { name := "min_japanese_ratio", runTogether := "minJapaneseRatio", kind := .number,
     default := .float 0.1 },
   { name := "min_severity", runTogether := "minSeverity", aliases := ["warningMinSeverity"],
     kind := .integer, default := .int 2 },
   { name := "enable_enrichment", runTogether := "enableEnrichment",
     aliases := ["enableWikipedia"], kind := .truth, default := .bool true }]

/-- A rule that is on unless it is turned off. -/
def describedRule (name runTogether : String) : Description :=
  { name, runTogether, kind := .truth, default := .bool true }

/-- The limit of a rule. -/
def describedLimit (name runTogether : String) (default : Int) : Description :=
  { name, runTogether, kind := .integer, default := .int default }

/-- The settings of the rules. -/
def describedRules : List Description :=
  [describedRule "comma_limit" "commaLimit",
   describedLimit "comma_limit_max" "commaLimitMax" 3,
   describedRule "adversative_ga" "adversativeGa",
   describedLimit "adversative_ga_max" "adversativeGaMax" 1,
   describedRule "duplicate_particle" "duplicateParticle",
   describedLimit "duplicate_particle_max_repeat" "duplicateParticleMaxRepeat" 1,
   describedRule "adjacent_particles" "adjacentParticles",
   describedLimit "adjacent_particles_max_repeat" "adjacentParticlesMaxRepeat" 1,
   describedRule "conjunction_repeat" "conjunctionRepeat",
   describedLimit "conjunction_repeat_max" "conjunctionRepeatMax" 1,
   describedRule "ra_dropping" "raDropping"]

/-! ## Entries -/

/-- All entries that give one of the settings a value give it one that is
    taken. -/
def Admitted (ds : List Description) (es : List (δ × δ)) : Prop :=
  ∀ e ∈ es, ∀ d ∈ ds, d.isSpelled e.1 → d.kind.admits e.2

instance (ds : List Description) (es : List (δ × δ)) : Decidable (Admitted ds es) :=
  inferInstanceAs (Decidable (∀ e ∈ es, ∀ d ∈ ds, d.isSpelled e.1 → d.kind.admits e.2))

/-- The fault of an entry. -/
def refusal? (ds : List Description) (e : δ × δ) : Option SettingsFault :=
  (ds.find? fun d => d.refuses e).map fun d => d.kind.fault d.name e.2

/-- The values that the settings have after the entries, by their names. -/
def valuesIn (ds : List Description) (es : List (δ × δ)) : List (String × Value) :=
  ds.map fun d => (d.name, d.valueIn es)

/-- No two of the settings have a spelling in common. -/
def Apart (ds : List Description) : Prop :=
  ds.Pairwise fun d d' => ∀ key ∈ d.spellings, key ∉ d'.spellings

instance (ds : List Description) : Decidable (Apart ds) :=
  inferInstanceAs (Decidable (ds.Pairwise fun d d' => ∀ key ∈ d.spellings, key ∉ d'.spellings))

theorem described_apart : Apart described := by decide

theorem describedRules_apart : Apart describedRules := by decide

end Kousei.Settings
