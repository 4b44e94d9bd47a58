import Kousei.Proofs.Text.Position

/-! # Order of places and positions

    Positions are compared by their lines first and by their characters
    within one line.  The positions of a text are in the order of its places:
    a position that comes later stands for a place that does not come earlier
    (`offset_mono`), and a place has the position that stands for it just when
    the position is one of the text (`position_offset_iff`).

    Which positions a text has is said by its lines, that is, its pieces
    between the line feeds (`HasPosition`).  The functions that count line
    feeds do not speak of lines, so a place is told here by the text before
    it. -/

namespace Kousei

/-- The position `p` comes before `q`: on an earlier line, or earlier on the same
    line. -/
def Position.Before (p q : Position) : Prop :=
  p.line < q.line ∨ (p.line = q.line ∧ p.character < q.character)

theorem Position.before_trichotomy (p q : Position) : p.Before q ∨ p = q ∨ q.Before p := by
  rcases p with ⟨l, k⟩
  rcases q with ⟨l', k'⟩
  simp only [Before, Position.mk.injEq]
  omega

theorem Position.Before.irrefl (p : Position) : ¬ p.Before p := by
  simp [Before]

namespace Text

/-! ## Lines -/

/-- The characters of a line, without the line feed at its end. -/
def line (t : Text) (l : Nat) : Text := (t.splitOn '\n').getD l []

/-- The position is one of the text: it has the line, and the line has the
    character or ends just before it. -/
def HasPosition (t : Text) (p : Position) : Prop :=
  0 ≤ p.line ∧ p.line ≤ t.count '\n' ∧ 0 ≤ p.character ∧
    p.character ≤ (t.line p.line.toNat).length

theorem splitOn_cons_of_ne {c sep : Char} (hc : c ≠ sep) (t : Text) :
    ∃ piece more, t.splitOn sep = piece :: more ∧ splitOn sep (c :: t) = (c :: piece) :: more := by
  -- A text has one piece at least, so the other branch of `splitOn` is never taken.
  have hne : t.splitOn sep ≠ [] := by
    cases t with
    | nil => simp [splitOn]
    | cons d r =>
      simp only [splitOn]
      split
      · simp
      · split <;> simp
  obtain ⟨piece, more, hpieces⟩ := List.exists_cons_of_ne_nil hne
  refine ⟨piece, more, hpieces, ?_⟩
  rw [splitOn, if_neg hc, hpieces]

@[simp] theorem line_newline_zero (t : Text) : line ('\n' :: t) 0 = [] := by
  simp [line, splitOn]

@[simp] theorem line_newline_succ (t : Text) (l : Nat) : line ('\n' :: t) (l + 1) = line t l := by
  simp [line, splitOn]

theorem line_cons_zero {c : Char} (hc : c ≠ '\n') (t : Text) : line (c :: t) 0 = c :: line t 0 := by
  obtain ⟨piece, more, hpieces, hcons⟩ := splitOn_cons_of_ne hc t
  simp [line, hpieces, hcons]

theorem line_cons_succ {c : Char} (hc : c ≠ '\n') (t : Text) (l : Nat) :
    line (c :: t) (l + 1) = line t (l + 1) := by
  obtain ⟨piece, more, hpieces, hcons⟩ := splitOn_cons_of_ne hc t
  simp [line, hpieces, hcons]

/-! ## The text before a place -/

/-- The last line before a place is the beginning of the line that the place is
    on. -/
theorem length_lastLine_le (a b : Text) :
    (lastLine a).length ≤ (line (a ++ b) (a.count '\n')).length := by
  -- By the text before the place; a character in front of it is on the last line
  -- only if no line feed follows.
  induction a with
  | nil => simp [lastLine]
  | cons c a ih =>
    by_cases hc : c = '\n'
    · subst hc
      rw [lastLine_newline_cons, List.count_cons_self, List.cons_append, line_newline_succ]
      exact ih
    · rw [List.count_cons_of_ne hc, List.cons_append]
      by_cases hmem : '\n' ∈ a
      · obtain ⟨l, hl⟩ := Nat.exists_eq_add_one.2 (List.count_pos_iff.2 hmem)
        rw [hl] at ih ⊢
        rw [lastLine_cons_of_mem c hmem, line_cons_succ hc]
        exact ih
      · have hmem' : '\n' ∉ c :: a := by
          rintro (_ | ⟨_, h⟩)
          · exact hc rfl
          · exact hmem h
        rw [List.count_eq_zero.2 hmem] at ih ⊢
        rw [lastLine_of_not_mem hmem] at ih
        rw [lastLine_of_not_mem hmem', line_cons_zero hc, List.length_cons, List.length_cons]
        exact Nat.succ_le_succ ih

/-- Every place of every line is somewhere in the text. -/
theorem exists_append_of_line {t : Text} {l k : Nat} (hl : l ≤ t.count '\n')
    (hk : k ≤ (t.line l).length) :
    ∃ a b : Text, t = a ++ b ∧ a.count '\n' = l ∧ (lastLine a).length = k := by
  induction t generalizing l k with
  | nil =>
    have hl0 : l = 0 := by simpa using hl
    subst hl0
    have hk0 : k = 0 := by simpa [line, splitOn] using hk
    exact ⟨[], [], rfl, rfl, by simp [lastLine, hk0]⟩
  | cons c r ih =>
    -- At the beginning of the text nothing is before the place.
    by_cases hzero : l = 0 ∧ k = 0
    · exact ⟨[], c :: r, rfl, by simp [hzero.1], by simp [lastLine, hzero.2]⟩
    by_cases hc : c = '\n'
    · subst hc
      cases l with
      | zero => simp at hk hzero; omega
      | succ l =>
        rw [line_newline_succ] at hk
        rw [List.count_cons_self] at hl
        obtain ⟨a, b, hr, hcount, hlen⟩ := ih (Nat.le_of_succ_le_succ hl) hk
        refine ⟨'\n' :: a, b, by rw [hr]; rfl, by rw [List.count_cons_self, hcount], ?_⟩
        rw [lastLine_newline_cons, hlen]
    · rw [List.count_cons_of_ne hc] at hl
      cases l with
      | zero =>
        obtain ⟨k, rfl⟩ : ∃ k', k = k' + 1 := ⟨k - 1, by omega⟩
        rw [line_cons_zero hc, List.length_cons] at hk
        obtain ⟨a, b, hr, hcount, hlen⟩ := ih hl (Nat.le_of_succ_le_succ hk)
        have hmem : '\n' ∉ a := List.count_eq_zero.1 hcount
        have hmem' : '\n' ∉ c :: a := by
          rintro (_ | ⟨_, h⟩)
          · exact hc rfl
          · exact hmem h
        rw [lastLine_of_not_mem hmem] at hlen
        refine ⟨c :: a, b, by rw [hr]; rfl, List.count_eq_zero.2 hmem', ?_⟩
        rw [lastLine_of_not_mem hmem', List.length_cons, hlen]
      | succ l =>
        rw [line_cons_succ hc] at hk
        obtain ⟨a, b, hr, hcount, hlen⟩ := ih hl hk
        have hmem : '\n' ∈ a := List.count_pos_iff.1 (by omega)
        refine ⟨c :: a, b, by rw [hr]; rfl, by rw [List.count_cons_of_ne hc, hcount], ?_⟩
        rw [lastLine_cons_of_mem c hmem, hlen]

theorem position_append (a b : Text) :
    position (a ++ b) a.length = ⟨a.count '\n', (lastLine a).length⟩ := by
  have hclamp : clamp (a ++ b) a.length = a.length := by simp [clamp]
  rw [position, hclamp, List.take_left]

/-! ## Positions of a text -/

/-- The position of a place, also of one outside, is one of the text. -/
theorem position_hasPosition (t : Text) (o : Int) : t.HasPosition (t.position o) := by
  have hsplit : t.take (t.clamp o) ++ t.drop (t.clamp o) = t := List.take_append_drop _ _
  have hcharacter := length_lastLine_le (t.take (t.clamp o)) (t.drop (t.clamp o))
  have hline : (t.take (t.clamp o)).count '\n' ≤ t.count '\n' :=
    (List.take_sublist _ _).count_le _
  rw [hsplit] at hcharacter
  unfold HasPosition position
  simp only [Int.toNat_natCast]
  omega

/-- Just the positions of the text are those of the places they stand for. -/
theorem position_offset_iff {t : Text} {p : Position} :
    t.position (t.offset p) = p ↔ t.HasPosition p := by
  constructor
  · intro h
    rw [← h]
    exact position_hasPosition t _
  · rintro ⟨hline, hlast, hcharacter, hend⟩
    have hl : p.line.toNat ≤ t.count '\n' := by omega
    have hk : p.character.toNat ≤ (t.line p.line.toNat).length := by omega
    obtain ⟨a, b, ht, hcount, hlen⟩ := exists_append_of_line hl hk
    -- There is a place with this position, and positions lead back to places.
    have hp : t.position a.length = p := by
      rw [ht, position_append, hcount, hlen, Int.toNat_of_nonneg hline,
        Int.toNat_of_nonneg hcharacter]
    have hclamp : t.clamp a.length = a.length := by simp [clamp, ht]
    have hback := offset_position t a.length
    rw [hp, hclamp] at hback
    rw [hback, hp]

/-! ## Order -/

/-- Later on one line is not earlier in the text. -/
theorem offsetOf_le_of_character (t : Text) (l : Nat) {k k' : Nat} (hk : k ≤ k') :
    t.offsetOf l k ≤ t.offsetOf l k' := by
  induction t generalizing l with
  | nil => cases l <;> simp [offsetOf]
  | cons c r ih =>
    cases l with
    | zero => simp only [offsetOf]; omega
    | succ l =>
      simp only [offsetOf]
      exact Nat.add_le_add_left (ih _) 1

/-- A later line is not earlier in the text, whatever the characters are. -/
theorem offsetOf_le_of_line (t : Text) {l l' : Nat} (hl : l < l') (k k' : Nat) :
    t.offsetOf l k ≤ t.offsetOf l' k' := by
  induction t generalizing l l' k with
  | nil => cases l <;> simp [offsetOf]
  | cons c r ih =>
    obtain ⟨l', rfl⟩ : ∃ n, l' = n + 1 := ⟨l' - 1, by omega⟩
    cases l with
    | zero =>
      simp only [offsetOf, List.takeWhile_cons]
      by_cases hc : c = '\n'
      · simp [hc]
      · -- The end of the first line is the end of what is left of it.
        have hrest : min (k - 1) (r.takeWhile (· != '\n')).length ≤ offsetOf r (l' + 1) k' := by
          have hih := ih (Nat.succ_pos l') (k - 1)
          rwa [offsetOf] at hih
        rw [if_pos (by rwa [bne_iff_ne]), if_neg hc, List.length_cons]
        omega
    | succ l =>
      simp only [offsetOf]
      refine Nat.add_le_add_left (ih ?_ k) 1
      split
      · omega
      · omega

/-- Positions that come later do not stand for earlier places, whether the text
    has them or not. -/
theorem offset_mono (t : Text) {p q : Position} (h : p.Before q) : t.offset p ≤ t.offset q := by
  unfold offset
  by_cases hp : p.line < 0
  · rw [if_pos hp]
    exact Nat.zero_le _
  · have hq : ¬ q.line < 0 := by
      rcases h with h | ⟨h, -⟩ <;> omega
    rw [if_neg hp, if_neg hq]
    rcases h with hline | ⟨hline, hcharacter⟩
    · exact offsetOf_le_of_line t (by omega) _ _
    · rw [hline]
      exact offsetOf_le_of_character t _ (by omega)

/-- Of two positions the one that stands for an earlier place comes before the other. -/
theorem before_of_offset_lt (t : Text) {p q : Position} (h : t.offset p < t.offset q) :
    p.Before q := by
  rcases Position.before_trichotomy p q with hpq | rfl | hqp
  · exact hpq
  · exact absurd h (Nat.lt_irrefl _)
  · exact absurd h (Nat.not_lt.2 (offset_mono t hqp))

theorem clamp_natCast_int (t : Text) (o : Int) : (t.clamp o : Int) = max 0 (min o t.length) := by
  unfold clamp
  omega

/-- **Places and positions are in the same order.**  Of two places the earlier
    one has the earlier position; the position of any place leads back to the
    place, moved into the text; just the positions of the text are led back to
    by their places; and of any two positions the later one does not stand for
    an earlier place. -/
theorem position_offset_order (t : Text) :
    (∀ o o' : Int, 0 ≤ o → o ≤ t.length → 0 ≤ o' → o' ≤ t.length →
      (o < o' ↔ (t.position o).Before (t.position o'))) ∧
    (∀ o : Int, (t.offset (t.position o) : Int) = max 0 (min o t.length)) ∧
    (∀ p, t.position (t.offset p) = p ↔ t.HasPosition p) ∧
    (∀ p q, p.Before q → t.offset p ≤ t.offset q) := by
  have hback : ∀ o : Int, (t.offset (t.position o) : Int) = max 0 (min o t.length) := by
    intro o
    rw [offset_position, clamp_natCast_int]
  refine ⟨?_, hback, fun p => position_offset_iff, fun p q => offset_mono t⟩
  intro o o' ho ho_le ho' ho'_le
  have hplace : (t.offset (t.position o) : Int) = o := by rw [hback]; omega
  have hplace' : (t.offset (t.position o') : Int) = o' := by rw [hback]; omega
  constructor
  · intro hlt
    -- The positions are in some order, and the other orders are those of other places.
    rcases Position.before_trichotomy (t.position o) (t.position o') with h | h | h
    · exact h
    · rw [h] at hplace
      omega
    · have hle := offset_mono t h
      omega
  · intro h
    have hle := offset_mono t h
    have hne : o ≠ o' := by
      rintro rfl
      exact Position.Before.irrefl _ h
    omega

/-- A text with an empty line, and a line feed at its end. -/
def sampleLines : Text := text "見る\n\n食べる。\n"

theorem position_offset_order_of_sampleLines :
    (3 < 4 ∧ (sampleLines.position 3).Before (sampleLines.position 4)) ∧
    (sampleLines.offset (sampleLines.position 99) : Int) = sampleLines.length ∧
    sampleLines.HasPosition ⟨3, 0⟩ ∧
    sampleLines.position (sampleLines.offset ⟨3, 0⟩) = ⟨3, 0⟩ ∧
    sampleLines.position (sampleLines.offset ⟨1, 5⟩) ≠ ⟨1, 5⟩ ∧
    Position.Before ⟨-1, 7⟩ ⟨9, -2⟩ ∧ sampleLines.offset ⟨-1, 7⟩ ≤ sampleLines.offset ⟨9, -2⟩ := by
  obtain ⟨horder, hback, hiff, hmono⟩ := position_offset_order sampleLines
  have hlen : sampleLines.length = 9 := by decide +kernel
  have hhas : sampleLines.HasPosition ⟨3, 0⟩ := by
    refine ⟨by decide, ?_, by decide, by simp⟩
    have hcount : sampleLines.count '\n' = 3 := by decide +kernel
    rw [hcount]
    decide
  have hbefore : Position.Before ⟨-1, 7⟩ ⟨9, -2⟩ := .inl (by decide)
  refine ⟨⟨by decide, ?_⟩, ?_, hhas, (hiff _).2 hhas, ?_, hbefore, hmono _ _ hbefore⟩
  · exact (horder 3 4 (by decide) (by rw [hlen]; decide) (by decide) (by rw [hlen]; decide)).1
      (by decide)
  · rw [hback, hlen]
    decide
  · decide +kernel

end Text

end Kousei
