import Kousei.Text.Position
import Mathlib.Data.List.TakeWhile

/-! # Places and positions

    The position of a place leads back to the place (`offset_position`).  The
    line of a place is counted by the line feeds before it, and its character
    by what follows the last of them, so both change with one more character
    in front in a way that depends on that character alone. -/

namespace Kousei.Text

/-! ## The last line -/

theorem lastLine_of_not_mem {t : Text} (h : '\n' ∉ t) : lastLine t = t := by
  have hall : ∀ c ∈ t.reverse, (c != '\n') = true := by
    intro c hc
    rw [bne_iff_ne]
    rintro rfl
    exact h (List.mem_reverse.1 hc)
  rw [lastLine, List.takeWhile_eq_self_iff.2 hall, List.reverse_reverse]

theorem lastLine_cons_of_mem {t : Text} (c : Char) (h : '\n' ∈ t) :
    lastLine (c :: t) = lastLine t := by
  have hstop : (t.reverse.takeWhile (· != '\n')).length ≠ t.reverse.length := by
    intro hlen
    have hself : t.reverse.takeWhile (· != '\n') = t.reverse :=
      (List.takeWhile_prefix _).eq_of_length hlen
    have hne := List.takeWhile_eq_self_iff.1 hself '\n' (List.mem_reverse.2 h)
    simp at hne
  rw [lastLine, List.reverse_cons, List.takeWhile_append, if_neg hstop, lastLine]

theorem lastLine_newline_cons (t : Text) : lastLine ('\n' :: t) = lastLine t := by
  by_cases h : '\n' ∈ t
  · exact lastLine_cons_of_mem '\n' h
  · have hall : (t.reverse.takeWhile (· != '\n')).length = t.reverse.length := by
      have hself := lastLine_of_not_mem h
      rw [lastLine] at hself
      have hlen := congrArg List.length hself
      rw [List.length_reverse] at hlen
      rw [hlen, List.length_reverse]
    rw [lastLine, List.reverse_cons, List.takeWhile_append, if_pos hall, lastLine_of_not_mem h]
    simp

/-! ## There and back -/

/-- The line feeds before a place and the rest of its line lead to the
    place. -/
theorem offsetOf_take (t : Text) {k : Nat} (hk : k ≤ t.length) :
    t.offsetOf ((t.take k).count '\n') (lastLine (t.take k)).length = k := by
  -- By the text: a character before the place is a line feed, or stands before
  -- one, or is the first of the line the place is in.
  induction t generalizing k with
  | nil =>
    rw [Nat.le_zero.1 hk]
    rfl
  | cons c r ih =>
    cases k with
    | zero => simp [offsetOf, lastLine]
    | succ k =>
      have hr := ih (Nat.le_of_succ_le_succ hk)
      rw [List.take_succ_cons]
      by_cases hc : c = '\n'
      · subst hc
        rw [List.count_cons_self, lastLine_newline_cons, offsetOf, if_pos rfl, hr, Nat.add_comm]
      · rw [List.count_cons_of_ne hc]
        by_cases hx : '\n' ∈ r.take k
        · -- The last line begins later than with this character.
          obtain ⟨l, hl⟩ := Nat.exists_eq_add_one.2 (List.count_pos_iff.2 hx)
          rw [hl] at hr
          rw [lastLine_cons_of_mem c hx, hl, offsetOf, if_neg hc, hr, Nat.add_comm]
        · -- There is one line only, and this character begins it.
          have hcount : (r.take k).count '\n' = 0 := List.count_eq_zero.2 hx
          have hlen : (r.take k).length = k := List.length_take_of_le (Nat.le_of_succ_le_succ hk)
          have hmem : '\n' ∉ c :: r.take k := by
            rintro (_ | ⟨_, h⟩)
            · exact hc rfl
            · exact hx h
          rw [hcount, lastLine_of_not_mem hx, hlen, offsetOf] at hr
          rw [hcount, lastLine_of_not_mem hmem, List.length_cons, hlen, offsetOf,
            List.takeWhile_cons, if_pos (by rwa [bne_iff_ne]), List.length_cons]
          omega

/-- **Round trip.**  The position of a place stands for the place, moved into
    the text if it was outside. -/
theorem offset_position (t : Text) (o : Int) : t.offset (t.position o) = t.clamp o := by
  have hle : t.clamp o ≤ t.length := Nat.min_le_right _ _
  rw [offset, position]
  simp only [Int.toNat_natCast]
  rw [if_neg (by omega), offsetOf_take t hle]

end Kousei.Text
