import Kousei.Decimal.Limit
import Kousei.Text.Quoted
import Kousei.Value.Moment

/-! # Faults of reading

    Why a text is not read as a value.  A reader stops at the first fault
    that it meets. -/

namespace Kousei

inductive ReadFault where
  /-- It is not written in the format. -/
  | malformed
  /-- Its parts are nested too deeply. -/
  | tooDeep
  /-- An integer has too many digits. -/
  | longInteger (digits : Nat)
  /-- What should be an integer in a base is none. -/
  | notInteger (literal : Text) (base : Nat)
  | notFloat (literal : Text)
  /-- Nothing stands where a number should. -/
  | noNumber
  /-- A number is beyond all floats. -/
  | beyondFloats
  | notTruth
  | notMoment
  | momentOfMap
  /-- The numbers of a date or a time are out of their ranges. -/
  | moment (fault : MomentFault)
  /-- A code is beyond those of all characters. -/
  | notCharacter
  /-- A code is beyond those that are looked at. -/
  | codeTooLarge
  deriving DecidableEq, Repr

def ReadFault.message : ReadFault → String
  | .malformed => "malformed"
  | .tooDeep => "maximum recursion depth exceeded"
  | .longInteger digits => Decimal.tooLongToRead digits
  | .notInteger literal base =>
    s!"invalid literal for int() with base {base}: " ++ String.ofList (Text.quoted literal)
  | .notFloat literal =>
    "could not convert string to float: " ++ String.ofList (Text.quoted literal)
  | .noNumber => "string index out of range"
  | .beyondFloats => "int too large to convert to float"
  | .notTruth => "no truth value"
  | .notMoment => "no date"
  | .momentOfMap => "no text for a date"
  | .moment fault => fault.message
  | .notCharacter => "chr() arg not in range(0x110000)"
  | .codeTooLarge => "signed integer is greater than maximum"

/-- What comes of reading. -/
abbrev Reading : Type → Type := Except ReadFault

/-- What a reader without faults of its own has read. -/
def Reading.ofOption {α : Type} (r : Option α) : Reading α :=
  match r with
  | some x => .ok x
  | none => .error .malformed

end Kousei
