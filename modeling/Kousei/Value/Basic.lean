import Kousei.Decimal.Shortest
import Kousei.Text.Quoted
import Kousei.Value.Moment

/-! # Values

    What a settings file or a reply of a service holds once its format has
    been read: nothing, a truth value, a number, a text, a list, or a map
    whose keys have an order and may be any values; some formats know dates
    and times, bytes, tuples and sets too.

    A map has no two keys that are the same.  `Value.put` sees to that: an
    entry with a key that is there already takes the place of the value, and
    the key stays as it was written first. -/

namespace Kousei

/-- What is seen of a value whose parts are not looked into. -/
inductive Layer (δ : Type) where
  | null
  | bool (b : Bool)
  | int (n : Int)
  | float (x : Float)
  | str (s : String)
  /-- A list or a tuple. -/
  | list (xs : List δ)
  | map (entries : List (δ × δ))
  /-- A value of any other kind; it may be empty. -/
  | other (isEmpty : Bool)

/-- Is the value nothing, false, zero, or empty? -/
def Layer.isFalsy {δ : Type} : Layer δ → Bool
  | null => true
  | bool b => !b
  | int n => n == 0
  | float x => x == 0.0
  | str s => s.isEmpty
  | list xs => xs.isEmpty
  | map es => es.isEmpty
  | other isEmpty => isEmpty

inductive Value where
  | null
  | bool (b : Bool)
  | int (n : Int)
  | float (x : Float)
  | str (s : String)
  /-- A text with halves of surrogate pairs in it, as the list of its codes. -/
  | halves (codes : List Nat)
  | moment (m : Moment)
  | bytes (bs : List UInt8)
  | tuple (xs : List Value)
  | list (xs : List Value)
  | set (xs : List Value)
  | map (entries : List (Value × Value))
  deriving Inhabited

namespace Value

/-- The text of a list of codes. -/
def ofCodes (codes : List Nat) : Value :=
  match Text.ofCodes? codes with
  | some t => str (String.ofList t)
  | none => halves codes

def layer : Value → Layer Value
  | null => .null
  | bool b => .bool b
  | int n => .int n
  | float x => .float x
  | str s => .str s
  | list xs | tuple xs => .list xs
  | map es => .map es
  | bytes bs => .other bs.isEmpty
  | set xs => .other xs.isEmpty
  | halves _ | moment _ => .other false

/-- Is the value nothing, false, zero, or empty? -/
def isFalsy (v : Value) : Bool := v.layer.isFalsy

/-! ## Maps by names -/

/-- The entry of a list of pairs that has the given text as its key. -/
def lookupKey (key : String) : List (Value × Value) → Option Value
  | [] => none
  | (str k, v) :: r => if k = key then some v else lookupKey key r
  | _ :: r => lookupKey key r

/-- The value under a key of a map; nothing has no keys but a map. -/
def get? (key : String) : Value → Option Value
  | map es => lookupKey key es
  | _ => none

/-! ## Keys -/

/-- The integer that a float is, if it is one. -/
def exactInteger? (x : Float) : Option Int :=
  if x.isNaN || x.isInf then none
  else
    let b := Decimal.Binary.ofBits x.toBits
    let size := b.m * Decimal.twoTo b.q
    let part := Decimal.twoTo (-b.q)
    if size % part = 0 then some (if x < 0 then -(size / part : Nat) else (size / part : Nat))
    else none

/-- The integer that a value counts as; a truth value is zero or one. -/
def asInteger? : Value → Option Int
  | bool b => some (if b then 1 else 0)
  | int n => some n
  | float x => exactInteger? x
  | _ => none

/-- Are two floats the same, what is no number being the same as itself? -/
def sameFloat (x y : Float) : Bool := x == y || (x.isNaN && y.isNaN)

/-- Are two values the same as keys of a map?  Numbers of all kinds are when
    they are equal.  Collections are no keys. -/
def sameKey : Value → Value → Bool
  | null, null => true
  | str s, str t => s == t
  | halves s, halves t => s == t
  | moment m, moment n => m.same n
  | bytes s, bytes t => s == t
  | float x, float y => sameFloat x y
  | a, b =>
    match asInteger? a, asInteger? b with
    | some m, some n => m == n
    | _, _ => false

/-- Can the value be a key of a map? -/
def isKey : Value → Bool
  | tuple _ | list _ | set _ | map _ => false
  | _ => true

/-- An ordered map with a value put under a key: in place of the value that
    the key had, or at the end. -/
def put (key v : Value) : List (Value × Value) → List (Value × Value)
  | [] => [(key, v)]
  | (k, w) :: r => if k.sameKey key then (k, v) :: r else (k, w) :: put key v r

/-- The map of a list of entries, which are put into it in order. -/
def ofEntries (es : List (Value × Value)) : List (Value × Value) :=
  es.foldl (fun out e => put e.1 e.2 out) []

end Value

end Kousei
