import Kousei.Encoding.Cp932
import Kousei.Encoding.Utf16

/-! # Encodings of files

    Nobody tells how a file is encoded, so the encodings are tried one after
    the other: UTF-8, UTF-16, code page 932.  The first that all bytes fit
    is taken.  A byte order mark at the beginning of UTF-8 is a character of
    the text. -/

namespace Kousei.Encoding

/-! ## Decoding -/

/-- An encoding that a file may have. -/
inductive Scheme where
  | utf8
  | utf16
  | cp932
  deriving DecidableEq, Repr

/-- The text of bytes in UTF-8. -/
def utf8? (bytes : List UInt8) : Option Text :=
  (String.fromUTF8? ⟨bytes.toArray⟩).map String.toList

def Scheme.decode? : Scheme → List UInt8 → Option Text
  | utf8 => utf8?
  | utf16 => Utf16.decode?
  | cp932 => Cp932.decode?

/-- The encodings in the order in which they are tried. -/
def candidates : List Scheme := [.utf8, .utf16, .cp932]

/-- The text of bytes in the first encoding that they fit. -/
def decode? (bytes : List UInt8) : Option Text := candidates.findSome? (·.decode? bytes)

/-! ## Text or not -/

/-- The control bytes that texts do not have: all below the space but the tab,
    the line feed and the carriage return. -/
def isBinaryByte (b : UInt8) : Bool :=
  b < 9 || b == 11 || b == 12 || (14 ≤ b && b < 32)

/-- The share of control bytes from which a file is not taken for a text. -/
def binaryThreshold : Float := 0.3

/-- Is the share of control bytes small enough? -/
def isProbablyText (bytes : List UInt8) (threshold : Float := binaryThreshold) : Bool :=
  bytes.isEmpty ||
    Float.ofNat (bytes.countP isBinaryByte) / Float.ofNat bytes.length < threshold

/-- The text of a file that is taken for a text. -/
def readText? (bytes : List UInt8) : Option Text :=
  if isProbablyText bytes then decode? bytes else none

/-- A text without the byte order marks at its beginning. -/
def dropMarks (t : Text) : Text := t.dropWhile (· == '\uFEFF')

/-- The text of a file of settings, which is one whatever its bytes are. -/
def unmarkedText? (bytes : List UInt8) : Option Text := (decode? bytes).map dropMarks

end Kousei.Encoding
