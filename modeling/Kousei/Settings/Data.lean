import Kousei.Value.Written

/-! # Documents

    What settings are read from.  A document may be a tree of values, but in
    some formats a part of it may also be the whole, so that it has no end.  The
    settings look at the outermost layers of a document only, and in what they
    refuse they show a part of it: that is all that is asked of a document
    here. -/

namespace Kousei

/-- The values of a type are the parts of documents. -/
class Data (δ : Type) where
  layer : δ → Layer δ
  /-- The value as error messages show it. -/
  written : δ → Except Unshown String
  /-- The value as it is put into a text, if it is no text itself. -/
  display : δ → Except Unshown String

namespace Data

variable {δ : Type} [Data δ]

/-- A value as it is put into a text, in which a text stands for itself. -/
def text (x : δ) : Except Unshown String :=
  match layer x with
  | .str s => .ok s
  | _ => display x

/-- The parts of a list or a tuple as they are put into texts, up to the first
    one that cannot be. -/
def texts (x : δ) : Except Unshown (List String) :=
  match layer x with
  | .list xs => xs.mapM text
  | _ => .ok []

/-- Is the value the given text? -/
def isText (t : String) (x : δ) : Bool :=
  match layer x with
  | .str s => s == t
  | _ => false

/-- The value under a key in the entries of a map. -/
def lookup? (key : String) (es : List (δ × δ)) : Option δ :=
  (es.find? fun e => isText key e.1).map (·.2)

end Data

/-! ## Trees -/

namespace Value

/-- How many levels of parts are shown of a value. -/
def shownDepth : Nat := 985

/-- A value that is written down in some way, unless it cannot be shown. -/
def shown (room : Nat) (write : Value → String) (v : Value) : Except Unshown String :=
  match v.obstacle? room with
  | some u => .error u
  | none => .ok (write v)

/-- A value that is put into a text is one level further in. -/
instance : Data Value where
  layer := layer
  written := shown shownDepth written
  display := shown (shownDepth - 1) display

end Value

end Kousei
