import Kousei.Extract.Language
import Kousei.Settings.Limit

/-! # Settings

    What is checked and how strictly.  Settings are a value that is made
    once for a check and never changed by it. -/

namespace Kousei

/-- Which rules are on, and their limits. -/
structure RuleSettings where
  commaLimit : Bool := true
  /-- The number of commas that one sentence may have. -/
  commaLimitMax : Limit := 3
  adversativeGa : Bool := true
  /-- The number of adversative particles that one sentence may have. -/
  adversativeGaMax : Limit := 1
  duplicateParticle : Bool := true
  duplicateParticleMaxRepeat : Limit := 1
  adjacentParticles : Bool := true
  adjacentParticlesMaxRepeat : Limit := 1
  conjunctionRepeat : Bool := true
  conjunctionRepeatMax : Limit := 1
  raDropping : Bool := true
  deriving Repr

/-- The languages that are checked unless the settings name others. -/
def defaultTargetLanguages : List String :=
  ["plaintext", "markdown", "japanese", "latex", "html", "javascript", "typescript",
   "javascriptreact", "typescriptreact", "python", "rust", "c", "cpp"]

structure Settings where
  enable : Bool := true
  targetLanguages : List String := defaultTargetLanguages
  /-- The share of Japanese characters from which a text is checked; none if it
      was asked for without a value. -/
  minJapaneseRatio : Option Float := some 0.1
  /-- Diagnostics of this severity or a lower number are reported; none if it
      was asked for without a value. -/
  minSeverity : Option Int := some 2
  /-- Is the summary of a word asked for? -/
  enableEnrichment : Bool := true
  rules : RuleSettings := {}
  deriving Repr

end Kousei
