/-! # Streaks

    A streak is a row of elements that follow each other with the same key
    and are linked each to the one before.  The scanner remembers only the
    latest element, its key and the length of the streak that ends with
    it. -/

namespace Kousei

structure Streak (α κ : Type) where
  /-- The latest element with its key, none before the first one. -/
  last : Option (α × κ) := none
  /-- The length of the streak that the latest element ends. -/
  length : Nat := 0
  deriving Repr

namespace Streak

variable {α κ : Type} [DecidableEq κ]

/-- Forget everything. -/
def reset (_ : Streak α κ) : Streak α κ := {}

/-- Take the next element.  If it goes on with the streak, the element before
    it is given back. -/
def feed (s : Streak α κ) (x : α) (key : κ) (linked : Bool) : Option α × Streak α κ :=
  match s.last with
  | some (previous, k) =>
    if linked && k == key then (some previous, ⟨some (x, key), s.length + 1⟩)
    else (none, ⟨some (x, key), 1⟩)
  | none => (none, ⟨some (x, key), 1⟩)

/-- An element that goes on with a streak: the element before it, itself, and
    the length of the streak with it. -/
structure Repeat (α : Type) where
  previous : α
  element : α
  length : Nat
  deriving DecidableEq, Repr

/-- The elements that go on with a streak, in order.  A gap (`none`) ends
    every streak. -/
def repeats (key : α → κ) (linked : α → α → Bool) (s : Streak α κ) :
    List (Option α) → List (Repeat α)
  | [] => []
  | none :: r => repeats key linked s.reset r
  | some x :: r =>
    let isLinked := s.last.all fun (previous, _) => linked previous x
    match s.feed x (key x) isLinked with
    | (some previous, s') => ⟨previous, x, s'.length⟩ :: repeats key linked s' r
    | (none, s') => repeats key linked s' r

end Streak

end Kousei
