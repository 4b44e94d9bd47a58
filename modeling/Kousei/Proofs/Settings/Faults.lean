import Kousei.Settings.File

/-! # Kinds of faults

    A fault is a failure of some kind, by which a caller tells what to do about
    it.  Failures of the operating system, and those of values that are not as
    they should be, are errors of a settings file, which whoever wrote it can
    mend (`LoadFault.isOfFile`). -/

namespace Kousei

/-- The kinds of failure of a value that is not as it should be. -/
def valueKinds : List String := ["ValueError", "JSONDecodeError"]

/-- Is a value not as it should be? -/
def Failure.isOfValue : Failure → Bool
  | .raised kind _ => valueKinds.contains kind
  | _ => false

def SettingsFault.kind : SettingsFault → String
  | .tooLarge _ => "OverflowError"
  | .unknownRule _ => "TypeError"
  | .unshown .tooDeep => "RecursionError"
  | .notMap | .rulesNotMap | .wrongType .. | .unshown .tooLong => "ValueError"

/-- What is not written in its format counts as a value that is not as it
    should be. -/
def ReadFault.kind : ReadFault → String
  | .malformed | .longInteger _ | .notInteger .. | .notFloat _ | .moment _ | .notCharacter =>
    "ValueError"
  | .tooDeep => "RecursionError"
  | .noNumber => "IndexError"
  | .beyondFloats | .codeTooLarge => "OverflowError"
  | .notTruth => "KeyError"
  | .notMoment => "AttributeError"
  | .momentOfMap => "TypeError"

def SettingsFault.failure (fault : SettingsFault) : Failure := .raised fault.kind fault.message

def ReadFault.failure (fault : ReadFault) : Failure := .raised fault.kind fault.message

def LoadFault.failure (fault : LoadFault) : Failure :=
  match fault with
  | .missing _ => .raised "FileNotFoundError" fault.message
  | .refusedPath fault => fault.failure
  | .undecodable _ | .notToml _ | .notYaml _ => .raised "ValueError" fault.message
  | .notJson => .raised "JSONDecodeError" fault.message
  | .unreadable fault => fault.failure
  | .noToolTable => .raised "AttributeError" fault.message
  | .refused fault => fault.failure

/-- Is the fault an error of the settings file? -/
def LoadFault.isOfFile (fault : LoadFault) : Bool :=
  fault.failure.isOfSystem || fault.failure.isOfValue

end Kousei
