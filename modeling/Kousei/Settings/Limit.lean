import Kousei.Value.Written

/-! # Limits

    How much a rule lets pass.  A limit is a number, which is an integer
    unless a caller has given another one, or it is absent when it was asked
    for without a value; nothing can be compared with an absent limit. -/

namespace Kousei

inductive Limit where
  | count (n : Int)
  | real (x : Float)
  /-- A truth value, which counts as zero or one. -/
  | truth (b : Bool)
  | absent
  deriving Repr

namespace Limit

instance : Coe Int Limit := ⟨count⟩

instance (n : Nat) : OfNat Limit n := ⟨count n⟩

/-- The limit that a value stands for. -/
def ofValue : Value → Limit
  | .int n => count n
  | .float x => real x
  | .bool b => truth b
  | _ => absent

/-- A limit as a value. -/
def toValue : Limit → Value
  | count n => .int n
  | real x => .float x
  | truth b => .bool b
  | absent => .list []

def isAbsent : Limit → Bool
  | absent => true
  | _ => false

/-- Is the number greater than the limit? -/
def isBelow (l : Limit) (n : Nat) : Bool :=
  match l with
  | count m => m < n
  | real x => x < Float.ofNat n
  | truth b => (if b then 1 else 0) < n
  | absent => false

/-- The limit with one more. -/
def next : Limit → Limit
  | count n => count (n + 1)
  | real x => real (x + 1)
  | truth b => count (if b then 2 else 1)
  | absent => absent

/-- A limit as messages show it. -/
def display (l : Limit) : String := l.toValue.display

/-- Can the limit be shown? -/
def isShown : Limit → Bool
  | count n => !Value.isLong n
  | _ => true

end Limit

end Kousei
