import Kousei.Proofs.Text.Stretch
import Mathlib.Data.List.Basic
import Mathlib.Data.List.TakeWhile

/-! # Blanks around a text

    Stripping takes away the blanks that stand around a text and nothing of
    the text itself (`Trimmed.strip_append`).  Where the text goes on with
    something else, only what follows is stripped
    (`stripEnd_append_of_solid`). -/

namespace Kousei.Text

variable {s t w w' : Text}

/-! ## Runs of characters -/

/-- A run of characters ends where the text does not go on with it. -/
theorem takeWhile_run {p : Char → Bool} (hs : ∀ x ∈ s, p x = true)
    (ht : ∀ x ∈ t.head?, p x = false) : (s ++ t).takeWhile p = s := by
  rw [List.takeWhile_append_of_pos hs]
  cases t with
  | nil => simp
  | cons x r =>
    have hx : p x = false := ht x rfl
    simp [hx]

/-- Every text begins with a run, perhaps an empty one, and goes on otherwise. -/
theorem exists_run (p : Char → Bool) (t : Text) :
    ∃ s u, t = s ++ u ∧ (∀ x ∈ s, p x = true) ∧ ∀ x ∈ u.head?, p x = false := by
  refine ⟨t.takeWhile p, t.dropWhile p, List.takeWhile_append_dropWhile.symm, ?_, ?_⟩
  · intro x hx
    exact List.mem_takeWhile_imp hx
  · intro x hx
    have hhead := List.head?_dropWhile_not p t
    rwa [Option.mem_def.1 hx] at hhead

/-! ## Stripping in parts -/

theorem stripStart_append_of_blank (hw : ∀ x ∈ w, isBlank x = true) :
    stripStart (w ++ t) = stripStart t :=
  List.dropWhile_append_of_pos hw

theorem stripEnd_append_of_blank (hw : ∀ x ∈ w, isBlank x = true) :
    stripEnd (t ++ w) = stripEnd t := by
  have hreverse : ∀ x ∈ w.reverse, isBlank x = true := by
    intro x hx
    exact hw x (List.mem_reverse.1 hx)
  rw [stripEnd, List.reverse_append, List.dropWhile_append_of_pos hreverse, stripEnd]

theorem stripStart_of_solid (hs : ∀ x ∈ s.head?, isBlank x = false) : stripStart s = s := by
  cases s with
  | nil => rfl
  | cons x r =>
    have hx : isBlank x = false := hs x rfl
    simp [stripStart, hx]

/-- What ends with no blank is not touched when the blanks after it are
    stripped. -/
theorem stripEnd_append_of_solid (hs : ∀ x ∈ s.getLast?, isBlank x = false) :
    stripEnd (s ++ t) = s ++ stripEnd t := by
  have hkept : s.reverse.dropWhile isBlank = s.reverse := by
    apply stripStart_of_solid
    intro x hx
    rw [List.head?_reverse] at hx
    exact hs x hx
  rw [stripEnd, List.reverse_append, List.dropWhile_append, hkept, stripEnd]
  split
  · next hblank => simp [List.isEmpty_iff.1 hblank]
  · simp

/-- The blanks around a text are all that is stripped. -/
theorem Trimmed.strip_append (h : Trimmed s) (hw : ∀ x ∈ w, isBlank x = true)
    (hw' : ∀ x ∈ w', isBlank x = true) : (w ++ s ++ w').strip = s := by
  rw [Text.strip, List.append_assoc, stripStart_append_of_blank hw]
  cases s with
  | nil =>
    have hblank : Text.stripStart (w' ++ []) = Text.stripStart [] := stripStart_append_of_blank hw'
    rw [List.nil_append, ← List.append_nil w', hblank]
    rfl
  | cons x r =>
    have hhead : ∀ y ∈ (x :: r ++ w').head?, isBlank y = false := h.head
    rw [stripStart_of_solid hhead, stripEnd_append_of_blank hw',
      ← List.append_nil (x :: r), stripEnd_append_of_solid h.last]
    rfl

end Kousei.Text
