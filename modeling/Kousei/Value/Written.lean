import Kousei.Decimal.Limit
import Kousei.Decimal.Notation
import Kousei.Value.Basic

/-! # Written values

    A value as error messages show it, on one line and with quotes around
    texts, and as it is put into a text, where a text stands for itself.
    Integers with very many digits are not shown at all, and neither are values
    whose parts are nested very deeply. -/

namespace Kousei

namespace Value

def floatNames : Decimal.Names := ⟨"nan", "inf"⟩

/-- Texts with a comma and a space between them. -/
def commaSeparated (parts : List String) : String := ", ".intercalate parts

mutual

/-- A value on one line, texts in quotes. -/
def written : Value → String
  | null => "None"
  | bool b => if b then "True" else "False"
  | int n => toString n
  | float x => Decimal.write floatNames x
  | str s => String.ofList (Text.quoted s.toList)
  | halves codes => String.ofList (Text.quotedCodes codes)
  | moment m => m.written
  | bytes bs => String.ofList (Text.quotedBytes bs)
  | tuple [x] => "(" ++ written x ++ ",)"
  | tuple xs => "(" ++ commaSeparated (writtenAll xs) ++ ")"
  | set [] => "set()"
  | set xs => "\x7b" ++ commaSeparated (writtenAll xs) ++ "\x7d"
  | list xs => "[" ++ commaSeparated (writtenAll xs) ++ "]"
  | map es => "\x7b" ++ commaSeparated (writtenEntries es) ++ "\x7d"

def writtenAll : List Value → List String
  | [] => []
  | x :: r => written x :: writtenAll r

def writtenEntries : List (Value × Value) → List String
  | [] => []
  | (k, v) :: r => (written k ++ ": " ++ written v) :: writtenEntries r

end

/-- A value as it is put into a text.  What is no character in it is
    replaced. -/
def display : Value → String
  | str s => s
  | halves codes => String.ofList (codes.map fun n => if n.isValidChar then Char.ofNat n else '\uFFFD')
  | moment m => m.display
  | v => v.written

/-! ## What is not shown -/

end Value

/-- Why a value cannot be shown. -/
inductive Unshown where
  /-- There is an integer in it with more digits than are written. -/
  | tooLong
  /-- Its parts are nested too deeply. -/
  | tooDeep
  deriving DecidableEq, Repr

def Unshown.message : Unshown → String
  | tooLong => Decimal.tooLongToWrite
  | tooDeep => "maximum recursion depth exceeded while getting the repr of an object"

namespace Value

/-- Has the integer more digits than are written? -/
def isLong (n : Int) : Bool := Nat.pow 10 Decimal.maxDigits ≤ n.natAbs

mutual

/-- What keeps a value from being shown where so many levels of parts are shown
    at most: the first such thing that is met.  The parts of a set are shown as
    those of a list in it. -/
def obstacle? : Nat → Value → Option Unshown
  | 0, _ => some .tooDeep
  | _ + 1, int n => if isLong n then some .tooLong else none
  | room + 1, tuple xs => obstacleIn? room xs
  | room + 1, list xs => obstacleIn? room xs
  | _ + 1, set [] => none
  | 1, set (_ :: _) => some .tooDeep
  | room + 2, set (x :: r) => obstacleIn? room (x :: r)
  | room + 1, map es => obstacleInEntries? room es
  | _ + 1, _ => none

def obstacleIn? (room : Nat) : List Value → Option Unshown
  | [] => none
  | x :: r => (obstacle? room x).or (obstacleIn? room r)

def obstacleInEntries? (room : Nat) : List (Value × Value) → Option Unshown
  | [] => none
  | (k, v) :: r =>
    (obstacle? room k).or ((obstacle? room v).or (obstacleInEntries? room r))

end

end Value

end Kousei
