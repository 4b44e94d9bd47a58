import Mathlib.Data.List.Forall2
import Mathlib.Data.List.Induction
import Kousei.Proofs.Settings.Description

/-! # Putting entries into settings

    A structure of settings is looked at as the table of its values by their
    names.  A field does as it is described (`Obeys`) if what it puts into the
    structure changes just its own line of the table, and if it refuses what
    is not admitted.

    Where all fields do (`Lawful`), the entries of a map decide the table: the
    first entry that is refused stops the reading, and if there is none every
    line has the value that was given last (`putEntries_table`).  The induction
    is on the entries from the last one back, since a later entry takes the
    place of what an earlier one has left. -/

namespace Kousei.Settings

variable {σ δ : Type} [Data δ] {table : σ → List (String × Value)} {fs : List (Field σ δ)}
  {ds : List Description} {d d' : Description} {i j : Nat} {start : σ}
  {es : List (δ × δ)} {e : δ × δ} {key : δ}

/-! ## Keys -/

theorem isSpelled_iff :
    d.isSpelled key = true ↔ ∃ k, Data.layer key = .str k ∧ k ∈ d.spellings := by
  unfold Description.isSpelled
  split
  next k hkey => simp [hkey]
  next hother => exact iff_of_false Bool.false_ne_true fun ⟨k, hkey, _⟩ => hother k hkey

theorem isSpelled_of_str {k : String} (hkey : Data.layer key = .str k) :
    d.isSpelled key = d.spellings.contains k := by
  unfold Description.isSpelled
  rw [hkey]

/-! ## Descriptions and entries -/

theorem given?_concat (d : Description) (es : List (δ × δ)) (e : δ × δ) :
    d.given? (es ++ [e]) = if d.isSpelled e.1 then some e.2 else d.given? es := by
  unfold Description.given?
  rw [List.filter_append]
  by_cases hspelled : d.isSpelled e.1 = true
  · simp [hspelled]
  · simp [hspelled]

theorem valueIn_concat (d : Description) (es : List (δ × δ)) (e : δ × δ) :
    d.valueIn (es ++ [e]) = if d.isSpelled e.1 then d.kind.convert e.2 else d.valueIn es := by
  unfold Description.valueIn
  rw [given?_concat]
  by_cases hspelled : d.isSpelled e.1 = true
  · rw [if_pos hspelled, if_pos hspelled]
    rfl
  · rw [if_neg hspelled, if_neg hspelled]

/-- A key is a spelling of one setting at most. -/
theorem Apart.eq_of_isSpelled (h : Apart ds) (hd : ds[i]? = some d) (hd' : ds[j]? = some d')
    (hkey : d.isSpelled key) (hkey' : d'.isSpelled key) : i = j := by
  obtain ⟨hi, rfl⟩ := List.getElem?_eq_some_iff.1 hd
  obtain ⟨hj, rfl⟩ := List.getElem?_eq_some_iff.1 hd'
  obtain ⟨k, hk, hmem⟩ := isSpelled_iff.1 hkey
  obtain ⟨k', hk', hmem'⟩ := isSpelled_iff.1 hkey'
  obtain rfl : k = k' := Layer.str.inj (hk.symm.trans hk')
  -- Two places would have the spelling in common, whichever comes first.
  rcases Nat.lt_trichotomy i j with hlt | heq | hgt
  · exact absurd hmem' (List.pairwise_iff_getElem.1 h i j hi hj hlt k hmem)
  · exact heq
  · exact absurd hmem (List.pairwise_iff_getElem.1 h j i hj hi hgt k hmem')

theorem refusal?_of_not_isSpelled (h : ∀ d ∈ ds, d.isSpelled e.1 = false) :
    refusal? ds e = none := by
  unfold refusal?
  rw [Option.map_eq_none_iff, List.find?_eq_none]
  intro d hd
  simp [Description.refuses, h d hd]

/-- Of the setting that an entry is about it is read why the entry is refused. -/
theorem refusal?_of_isSpelled (h : Apart ds) (hd : ds[i]? = some d) (hkey : d.isSpelled e.1) :
    refusal? ds e = if d.kind.admits e.2 then none else some (d.kind.fault d.name e.2) := by
  have honly {d' : Description} (hmem : d' ∈ ds) (hkey' : d'.isSpelled e.1) : d' = d := by
    obtain ⟨j, hj⟩ := List.mem_iff_getElem?.1 hmem
    have hsame := h.eq_of_isSpelled hj hd hkey' hkey
    rw [hsame, hd] at hj
    exact (Option.some.inj hj).symm
  unfold refusal?
  by_cases hadmits : d.kind.admits e.2 = true
  · rw [if_pos hadmits, Option.map_eq_none_iff, List.find?_eq_none]
    intro d' hmem hrefuses
    obtain ⟨hkey', hnot⟩ := Bool.and_eq_true_iff.1 hrefuses
    rw [honly hmem hkey', hadmits] at hnot
    exact absurd hnot Bool.false_ne_true
  · rw [if_neg hadmits]
    cases hfind : ds.find? fun d => d.refuses e with
    | none =>
      have hnot := List.find?_eq_none.1 hfind d (List.mem_of_getElem? hd)
      exact absurd (by simp [Description.refuses, hkey, hadmits]) hnot
    | some d' =>
      have hrefuses := List.find?_some hfind
      have hkey' := (Bool.and_eq_true_iff.1 hrefuses).1
      rw [honly (List.mem_of_find?_eq_some hfind) hkey']
      rfl

/-- An entry for a setting changes the line of that setting. -/
theorem valuesIn_concat (h : Apart ds) (hd : ds[i]? = some d) (hkey : d.isSpelled e.1) :
    valuesIn ds (es ++ [e]) = (valuesIn ds es).set i (d.name, d.kind.convert e.2) := by
  -- Line by line: that of the setting is replaced, the others have no part in the entry.
  refine List.ext_getElem? fun j => ?_
  unfold valuesIn
  rw [List.getElem?_set, List.getElem?_map, List.getElem?_map, List.length_map]
  by_cases hij : i = j
  · obtain ⟨hi, -⟩ := List.getElem?_eq_some_iff.1 hd
    rw [if_pos hij, ← hij, hd, if_pos hi, Option.map_some, valueIn_concat, if_pos hkey]
  · rw [if_neg hij]
    cases hj : ds[j]? with
    | none => rfl
    | some d' =>
      have hother : ¬d'.isSpelled e.1 = true := fun hkey' =>
        hij (h.eq_of_isSpelled hd hj hkey hkey')
      rw [Option.map_some, Option.map_some, valueIn_concat, if_neg hother]

theorem valuesIn_concat_of_not_isSpelled (h : ∀ d ∈ ds, d.isSpelled e.1 = false) :
    valuesIn ds (es ++ [e]) = valuesIn ds es := by
  refine List.map_congr_left fun d hd => ?_
  rw [valueIn_concat, h d hd]
  rfl

/-! ## Fields that are as described -/

/-- A field does as the setting in a line of the table is described. -/
structure Obeys (table : σ → List (String × Value)) (f : Field σ δ) (d : Description) (i : Nat) :
    Prop where
  spellings : f.spellings = d.spellings
  put : ∀ x s, (f.put x s).map table =
    (d.kind.read d.name x).map fun w => (table s).set i (d.name, w)

/-- All fields of a structure do as is described, and the structure to begin
    with has the values that are described. -/
structure Lawful (table : σ → List (String × Value)) (fs : List (Field σ δ))
    (ds : List Description) (start : σ) : Prop where
  obeys : List.Forall₂ (fun f line => Obeys table f line.1 line.2) fs ds.zipIdx
  apart : Apart ds
  start : table start = valuesIn ds ([] : List (δ × δ))

/-- A text leads to the field of the setting of which it is a spelling. -/
theorem fieldOf?_cases (k : String) {n : Nat}
    (h : List.Forall₂ (fun f line => Obeys table f line.1 line.2) fs (ds.zipIdx n)) :
    (fieldOf? fs k = none ∧ ∀ d ∈ ds, k ∉ d.spellings) ∨
    ∃ f d i, fieldOf? fs k = some f ∧ ds[i]? = some d ∧ k ∈ d.spellings ∧
      Obeys table f d (n + i) := by
  -- By the fields and the lines side by side; the number of the first line moves along.
  induction ds generalizing fs n with
  | nil =>
    cases h
    exact .inl ⟨rfl, fun d hd => absurd hd List.not_mem_nil⟩
  | cons d r ih =>
    rw [List.zipIdx_cons] at h
    cases h with
    | @cons f _ gs _ hfirst hrest =>
      by_cases hk : k ∈ d.spellings
      · refine .inr ⟨f, d, 0, ?_, rfl, hk, hfirst⟩
        unfold fieldOf?
        rw [List.find?_cons_of_pos]
        rw [hfirst.spellings]
        exact List.contains_iff_mem.2 hk
      · have hskip : fieldOf? (f :: gs) k = fieldOf? gs k := by
          unfold fieldOf?
          rw [List.find?_cons_of_neg]
          rw [hfirst.spellings]
          exact fun hcontains => hk (List.contains_iff_mem.1 hcontains)
        rw [hskip]
        rcases ih hrest with ⟨hnone, hothers⟩ | ⟨g, d', i, hfound, hd', hk', hobeys⟩
        · refine .inl ⟨hnone, fun d' hd' => ?_⟩
          rcases List.mem_cons.1 hd' with rfl | hmem
          · exact hk
          · exact hothers d' hmem
        · refine .inr ⟨g, d', i + 1, hfound, hd', hk', ?_⟩
          rw [show n + (i + 1) = n + 1 + i by omega]
          exact hobeys

/-- What one entry does: it is about no setting and changes nothing, or it
    gives a setting its value or is refused. -/
theorem putEntry_cases (h : Lawful table fs ds start) (s : σ) (e : δ × δ) :
    ((∀ d ∈ ds, d.isSpelled e.1 = false) ∧ putEntry fs s e = .ok s) ∨
    ∃ (d : Description) (i : Nat), ds[i]? = some d ∧ d.isSpelled e.1 ∧ (putEntry fs s e).map table =
      (d.kind.read d.name e.2).map fun w => (table s).set i (d.name, w) := by
  unfold putEntry
  cases hkey : Data.layer e.1 with
  | str k =>
    rcases fieldOf?_cases k h.obeys with ⟨hnone, hothers⟩ | ⟨f, d, i, hfound, hd, hk, hobeys⟩
    · refine .inl ⟨fun d hd => ?_, ?_⟩
      · rw [isSpelled_of_str hkey, Bool.eq_false_iff]
        exact fun hcontains => hothers d hd (List.contains_iff_mem.1 hcontains)
      · simp only [hnone]
    · refine .inr ⟨d, i, hd, isSpelled_iff.2 ⟨k, hkey, hk⟩, ?_⟩
      simp only [hfound]
      rw [hobeys.put e.2 s, Nat.zero_add]
  | _ =>
    refine .inl ⟨fun d _ => ?_, rfl⟩
    simp only [Description.isSpelled, hkey]

/-- One entry more, put into a structure that has the values of those before. -/
theorem putEntry_table (h : Lawful table fs ds start) {s : σ} (hs : table s = valuesIn ds es)
    (e : δ × δ) :
    (putEntry fs s e).map table =
      match refusal? ds e with
      | some fault => .error fault
      | none => .ok (valuesIn ds (es ++ [e])) := by
  rcases putEntry_cases h s e with ⟨hothers, hsame⟩ | ⟨d, i, hd, hkey, hput⟩
  · rw [hsame, refusal?_of_not_isSpelled hothers, valuesIn_concat_of_not_isSpelled hothers, ← hs]
    rfl
  · rw [hput, refusal?_of_isSpelled h.apart hd hkey, hs, Kind.read]
    by_cases hadmits : d.kind.admits e.2 = true
    · rw [if_pos hadmits, if_pos hadmits, valuesIn_concat h.apart hd hkey]
      rfl
    · rw [if_neg hadmits, if_neg hadmits]
      rfl

theorem putEntries_concat (fs : List (Field σ δ)) (s : σ) (es : List (δ × δ))
    (e : δ × δ) :
    putEntries fs s (es ++ [e]) = (putEntries fs s es).bind fun s => putEntry fs s e := by
  unfold putEntries
  rw [List.foldlM_append]
  simp only [List.foldlM_cons, List.foldlM_nil, bind_pure]
  rfl

/-- **What entries do.**  The first entry that is refused decides the fault; if
    none is, every setting has the value that it was given last. -/
theorem putEntries_table (h : Lawful table fs ds start) (es : List (δ × δ)) :
    (putEntries fs start es).map table =
      match es.findSome? (refusal? ds) with
      | some fault => .error fault
      | none => .ok (valuesIn ds es) := by
  induction es using List.reverseRecOn with
  | nil => exact congrArg Except.ok h.start
  | append_singleton es e ih =>
    rw [putEntries_concat, List.findSome?_append]
    cases hput : putEntries fs start es with
    | error fault =>
      -- What stopped the reading before stops it now.
      rw [hput] at ih
      cases hbefore : es.findSome? (refusal? ds) with
      | none =>
        rw [hbefore] at ih
        cases ih
      | some fault' =>
        rw [hbefore] at ih
        exact ih
    | ok s =>
      rw [hput] at ih
      cases hbefore : es.findSome? (refusal? ds) with
      | some fault =>
        rw [hbefore] at ih
        cases ih
      | none =>
        rw [hbefore] at ih
        have hs : table s = valuesIn ds es := Except.ok.inj ih
        rw [Option.none_or, List.findSome?_singleton]
        exact putEntry_table h hs e

end Kousei.Settings
