import Kousei.Diagnostic
import Kousei.Failure
import Kousei.Morph.Sentence
import Kousei.Rule.Streak
import Kousei.Settings.Basic

/-! # Rules of grammar and style

    Six rules look at the sentences of a text and report stretches of it:

    * too many commas in a sentence,
    * the adversative particle more than once in a sentence,
    * the same particle again, with only other words between,
    * two particles of one kind with nothing between,
    * the same conjunction again on one line,
    * verbs that drop the sound ra.

    A rule depends on nothing but its arguments.  The rules that look at
    repetition report every repeated element after the first one, as soon
    as the streak is longer than the settings allow. -/

namespace Kousei.Rule

open Streak

/-! ## Classes of words -/

def isParticle (t : Token) : Bool := t.pos == "助詞"

def isConjunction (t : Token) : Bool := t.pos == "接続詞"

def isAdversativeGa (t : Token) : Bool :=
  isParticle t && t.posDetail1 == "接続助詞" && t.baseForm == "が"

/-- The kind of a particle. -/
def particleKind (t : Token) : String × String := (t.pos, t.posDetail1)

/-- The imperfective form of a vowel-stem verb, which asks for the suffix
    with ra. -/
def takesRareru (t : Token) : Bool :=
  t.pos == "動詞" && t.posDetail1 == "自立" && t.conjugationType == "一段" &&
    t.conjugationForm == "未然形"

/-- The verbal suffix without ra. -/
def isReru (t : Token) : Bool :=
  t.pos == "動詞" && t.posDetail1 == "接尾" && t.baseForm == "れる"

/-- A verb that has lost its ra and stands in the dictionary as one word. -/
def isRaDropped (t : Token) : Bool :=
  t.pos == "動詞" && (t.baseForm == "来れる" || t.baseForm == "見れる")

/-! ## Limits within a sentence -/

def commaLimit (_ : Text) (ss : List Sentence) (r : RuleSettings) : List Diagnostic :=
  ss.filterMap fun s =>
    let count := s.text.count '、'
    let limit := r.commaLimitMax
    if limit.isBelow count then
      some
        { start := s.start, stop := s.stop, code := "comma-limit",
          message := s!"一文に使用できる読点「、」は最大{limit.display}個までです (現在{count}個)" }
    else none

def adversativeGa (_ : Text) (ss : List Sentence) (r : RuleSettings) : List Diagnostic :=
  ss.filterMap fun s =>
    let count := s.tokens.countP isAdversativeGa
    let times := r.adversativeGaMax.next.display
    if r.adversativeGaMax.isBelow count then
      some
        { start := s.start, stop := s.stop, code := "adversative-ga",
          message := s!"逆接の接続助詞「が」が同一文で{times}回以上使われています ({count}回)" }
    else none

/-! ## Repetition -/

/-- The repeated elements whose streak is longer than `max`, from the
    beginning of the one before to the end of the element. -/
def report (max : Limit) (code : String) (message : Token → String)
    (found : List (Repeat Token)) : List Diagnostic :=
  found.filterMap fun x =>
    if max.isBelow x.length then
      some { start := x.previous.offset, stop := x.element.stop, code, message := message x.element }
    else none

/-- The repeated particles of a sentence.  Particles count with their surface,
    and other words between them do not matter. -/
def particleRepeats (s : Sentence) : List (Repeat Token) :=
  repeats (fun t => (t.surface, particleKind t)) (fun _ _ => true) {}
    ((s.tokens.filter isParticle).map some)

/-- The particles of a sentence that touch one of the same kind, whatever their
    surface. -/
def adjacentRepeats (s : Sentence) : List (Repeat Token) :=
  repeats particleKind (fun previous t => t.offset == previous.stop) {}
    (s.tokens.map fun t => if isParticle t then some t else none)

/-- The repeated conjunctions of a text.  They are compared across sentences,
    as long as no line feed stands between them. -/
def conjunctionRepeats (t : Text) (ss : List Sentence) : List (Repeat Token) :=
  repeats Token.surface
    (fun previous c => !(t.sliceInt previous.stop c.offset).any (· == '\n')) {}
    (((ss.flatMap Sentence.tokens).filter isConjunction).map some)

def duplicateParticle (_ : Text) (ss : List Sentence) (r : RuleSettings) : List Diagnostic :=
  ss.flatMap fun s =>
    report r.duplicateParticleMaxRepeat "duplicate-particle"
      (fun t => s!"同じ助詞「{String.ofList t.surface}」が連続しています") (particleRepeats s)

def adjacentParticles (_ : Text) (ss : List Sentence) (r : RuleSettings) : List Diagnostic :=
  ss.flatMap fun s =>
    report r.adjacentParticlesMaxRepeat "adjacent-particles"
      (fun _ => "助詞が連続して使われています") (adjacentRepeats s)

def conjunctionRepeat (t : Text) (ss : List Sentence) (r : RuleSettings) : List Diagnostic :=
  report r.conjunctionRepeatMax "conjunction-repeat"
    (fun c => s!"同じ接続詞「{String.ofList c.surface}」が連続しています") (conjunctionRepeats t ss)

/-! ## Dropped sounds -/

/-- The stretches at which ra is dropped in a row of tokens, given the token
    before it. -/
def raDroppedIn (previous : Option Token) : List Token → List (Int × Int)
  | [] => []
  | t :: r =>
    let here :=
      if isRaDropped t then [(t.offset, t.stop)]
      else match previous with
        | some p => if takesRareru p && isReru t then [(p.offset, t.stop)] else []
        | none => []
    here ++ raDroppedIn (some t) r

def raDropping (_ : Text) (ss : List Sentence) (_ : RuleSettings) : List Diagnostic :=
  ss.flatMap fun s =>
    (raDroppedIn none s.tokens).map fun (start, stop) =>
      { start, stop, code := "ra-dropping", message := "ら抜き言葉を使用しています" }

/-! ## All rules -/

/-- A rule: the name of its setting, whether the settings have it on, and
    what it reports.  A rule with a limit tells as well whether it looks at the
    limit at all, and what of it stands in its messages. -/
structure Entry where
  name : String
  enabled : RuleSettings → Bool
  check : Text → List Sentence → RuleSettings → List Diagnostic
  limit : RuleSettings → Limit := fun _ => 0
  compares : Text → List Sentence → Bool := fun _ _ => false
  shown : RuleSettings → Limit := fun _ => 0

/-- The rules in the order in which they report. -/
def all : List Entry :=
  [{ name := "comma_limit", enabled := RuleSettings.commaLimit, check := commaLimit,
     limit := RuleSettings.commaLimitMax, compares := fun _ ss => !ss.isEmpty,
     shown := RuleSettings.commaLimitMax },
   { name := "adversative_ga", enabled := RuleSettings.adversativeGa, check := adversativeGa,
     limit := RuleSettings.adversativeGaMax, compares := fun _ ss => !ss.isEmpty,
     shown := fun r => r.adversativeGaMax.next },
   { name := "duplicate_particle", enabled := RuleSettings.duplicateParticle,
     check := duplicateParticle, limit := RuleSettings.duplicateParticleMaxRepeat,
     compares := fun _ ss => ss.any fun s => !(particleRepeats s).isEmpty },
   { name := "adjacent_particles", enabled := RuleSettings.adjacentParticles,
     check := adjacentParticles, limit := RuleSettings.adjacentParticlesMaxRepeat,
     compares := fun _ ss => ss.any fun s => !(adjacentRepeats s).isEmpty },
   { name := "conjunction_repeat", enabled := RuleSettings.conjunctionRepeat,
     check := conjunctionRepeat, limit := RuleSettings.conjunctionRepeatMax,
     compares := fun t ss => !(conjunctionRepeats t ss).isEmpty },
   { name := "ra_dropping", enabled := RuleSettings.raDropping, check := raDropping }]

/-- What all rules that are on report about the sentences of a text. -/
def check (t : Text) (ss : List Sentence) (r : RuleSettings) : List Diagnostic :=
  all.flatMap fun rule => if rule.enabled r then rule.check t ss r else []

/-! ## Limits that are none -/

/-- Why a rule cannot report: its limit is absent and something is compared
    with it, or it is too long to be shown. -/
def Entry.failure? (rule : Entry) (t : Text) (ss : List Sentence) (r : RuleSettings) :
    Option Failure :=
  if !rule.enabled r then none
  else if (rule.limit r).isAbsent && rule.compares t ss then some .incomparable
  else if !(rule.shown r).isShown && !(rule.check t ss r).isEmpty then
    some (.raised "ValueError" Decimal.tooLongToWrite)
  else none

/-- Why the rules cannot report about the sentences of a text, if one of them
    cannot. -/
def failure? (t : Text) (ss : List Sentence) (r : RuleSettings) : Option Failure :=
  all.findSome? fun rule => rule.failure? t ss r

end Kousei.Rule
