/-! # Generations

    Every check of a document is numbered.  When a check ends, its result
    is published only if no other check of the same document has begun
    since, that is, if its number is still the current one. -/

namespace Kousei

/-- The number of the latest check of each document that is open. -/
structure Generations where
  current : List (String × Nat) := []
  deriving DecidableEq, Repr

namespace Generations

def get? (g : Generations) (key : String) : Option Nat := g.current.lookup key

/-- The documents without the given one. -/
def forget (g : Generations) (key : String) : Generations :=
  ⟨g.current.filter fun entry => entry.1 != key⟩

/-- Begin a check: its number, which becomes the current one. -/
def begin (g : Generations) (key : String) : Nat × Generations :=
  let n := (g.get? key).getD 0 + 1
  (n, ⟨(key, n) :: (g.forget key).current⟩)

/-- Is this still the number of the latest check? -/
def isCurrent (g : Generations) (key : String) (generation : Int) : Bool :=
  match g.get? key with
  | none => false
  | some n => (n : Int) == generation

end Generations

end Kousei
