import Mathlib.Algebra.Order.Ring.Nat
import Kousei.Decimal.Notation
import Kousei.Proofs.Encoding.Binary64

/-! # Integers beyond all floats

    The largest float is `2 ^ 1024 - 2 ^ 971`.  An integer that is nearer to
    `2 ^ 1024`, or as near, is made infinite (`isInf_ofInt_iff`).

    Up to the last power of two but one the exponent decides, and from
    `2 ^ 1024` on.  Between the two the mantissa does: it must be rounded up
    to one bit more, so it has to be the largest one, and the bit that is cut
    off first has to be set. -/

namespace Kousei.Decimal

open Encoding Float.Model Float.Model.UnpackedFloat

/-- The least number that is made an infinite float. -/
def overflowBound : Nat := 2 ^ 1024 - 2 ^ 970

theorem overflowBound_eq : overflowBound = (2 ^ 54 - 1) * 2 ^ 970 := by
  rw [overflowBound, Nat.sub_mul, ← Nat.pow_add, Nat.one_mul]

theorem largest_mantissa_bounds (j : Nat) :
    2 ^ (j + 53) ≤ (2 ^ 54 - 1) * 2 ^ j ∧ (2 ^ 54 - 1) * 2 ^ j < 2 ^ (j + 54) := by
  have hpos := Nat.two_pow_pos j
  rw [Nat.pow_add, Nat.pow_add]
  omega

theorem overflowBound_bounds :
    2 ^ (970 + 53) ≤ overflowBound ∧ overflowBound < 2 ^ (970 + 54) := by
  rw [overflowBound_eq]
  exact largest_mantissa_bounds 970

/-! ## Rounding up -/

theorem roundedMantissa_of_even {em : ExtendedMantissa} (h : em.mantissa % 2 = 0) :
    em.shiftRightOne.roundedMantissa = em.mantissa / 2 := by
  obtain ⟨m, round, sticky⟩ := em
  have hbit : (m % 2 != 0) = false := by simpa using h
  cases hsticky : round || sticky <;>
    simp [ExtendedMantissa.shiftRightOne, ExtendedMantissa.roundedMantissa,
      ExtendedMantissa.accuracy, Accuracy.roundToNearestEven, hbit, hsticky]

/-- An odd mantissa is rounded up whenever the bit after it is set. -/
theorem roundedMantissa_of_odd {em : ExtendedMantissa} (h : em.mantissa % 4 = 3) :
    em.shiftRightOne.roundedMantissa = em.mantissa / 2 + 1 := by
  obtain ⟨m, round, sticky⟩ := em
  have hm : m % 4 = 3 := h
  have hbit : (m % 2 != 0) = true := by
    rw [bne_iff_ne]
    omega
  have hodd : m / 2 % 2 = 1 := by omega
  cases hsticky : round || sticky <;>
    simp [ExtendedMantissa.shiftRightOne, ExtendedMantissa.roundedMantissa,
      ExtendedMantissa.accuracy, Accuracy.roundToNearestEven, hbit, hsticky, hodd]

theorem mul_div_two_pow (n j k : Nat) : n * 2 ^ k / 2 ^ (j + k) = n / 2 ^ j := by
  rw [Nat.pow_add, Nat.mul_div_mul_right _ _ (Nat.two_pow_pos k)]

theorem le_div_two_pow_iff {a n j : Nat} : a ≤ n / 2 ^ j ↔ a * 2 ^ j ≤ n :=
  Nat.le_div_iff_mul_le (Nat.two_pow_pos j)

theorem div_two_pow_lt {n j k : Nat} (h : n < 2 ^ (j + k)) : n / 2 ^ j < 2 ^ k := by
  rw [Nat.pow_add] at h
  exact Nat.div_lt_of_lt_mul h

/-- The mantissa of a number with the highest exponent is rounded to one bit
    more from halfway on. -/
theorem carry_iff {n : Nat} (hlog : n.log2 = 970 + 53) :
    2 ^ 53 ≤ (ExtendedMantissa.ofMantissaAndAccuracy (n * 2 ^ 53) .exact >>>
        (n.log2 + 1)).roundedMantissa ↔ overflowBound ≤ n := by
  -- All bits of the number that matter are those of `h`, the last of which is cut off.
  have hmantissa : (ExtendedMantissa.ofMantissaAndAccuracy (n * 2 ^ 53) .exact >>>
      n.log2).mantissa = n / 2 ^ 970 := by
    rw [mantissa_shiftRight, mantissa_ofMantissaAndAccuracy, hlog, mul_div_two_pow]
  have hhigh : n / 2 ^ 970 < 2 ^ 54 := by
    have hpower : n < 2 ^ (n.log2 + 1) := Nat.lt_log2_self
    rw [show n.log2 + 1 = 970 + 54 by omega] at hpower
    exact div_two_pow_lt hpower
  have hbound : overflowBound ≤ n ↔ 2 ^ 54 - 1 ≤ n / 2 ^ 970 := by
    rw [overflowBound_eq, le_div_two_pow_iff]
  rw [hbound]
  show 2 ^ 53 ≤ (ExtendedMantissa.ofMantissaAndAccuracy (n * 2 ^ 53) .exact >>>
    n.log2).shiftRightOne.roundedMantissa ↔ _
  generalize ExtendedMantissa.ofMantissaAndAccuracy (n * 2 ^ 53) .exact >>> n.log2 = em
    at hmantissa ⊢
  generalize n / 2 ^ 970 = h at hmantissa hhigh ⊢
  have hround := roundedMantissa_bounds em.shiftRightOne
  have hhalf : em.shiftRightOne.mantissa = h / 2 := by rw [← hmantissa]; rfl
  rw [hhalf] at hround
  constructor
  · intro hcarry
    by_cases heven : h % 2 = 0
    · have hkept : em.shiftRightOne.roundedMantissa = em.mantissa / 2 :=
        roundedMantissa_of_even (by rw [hmantissa]; exact heven)
      rw [hkept, hmantissa] at hcarry
      omega
    · omega
  · intro hle
    have hup : em.shiftRightOne.roundedMantissa = em.mantissa / 2 + 1 :=
      roundedMantissa_of_odd (by rw [hmantissa]; omega)
    rw [hup, hmantissa]
    omega

/-! ## Infinite floats -/

theorem log2_mul_two_pow {n : Nat} (hn : n ≠ 0) (k : Nat) : (n * 2 ^ k).log2 = n.log2 + k := by
  induction k with
  | zero => simp
  | succ k ih =>
    have hne : n * 2 ^ k ≠ 0 := Nat.mul_ne_zero hn (Nat.ne_of_gt (Nat.two_pow_pos k))
    rw [Nat.pow_succ', Nat.mul_left_comm, Nat.log2_two_mul hne, ih, Nat.add_assoc]

/-- A full mantissa with too high an exponent is packed as an infinite number. -/
theorem unpack_pack_full (s : Sign) {m : Nat} {e : Int} (hm : 0 < m) (hlow : 2 ^ 52 ≤ m)
    (hhigh : m < 2 ^ 53) (he : -1074 ≤ e) :
    (pack (.finite s m e hm)).unpack = if 971 < e then .infinity s else .finite s m e hm := by
  by_cases hlarge : 971 < e
  · rw [if_pos hlarge, unpack_pack_overflow s hm hlow hhigh hlarge]
  · rw [if_neg hlarge, unpack_pack_finite s hm hlow hhigh he (Int.not_lt.1 hlarge)]

/-- A number beyond the mantissa keeps its highest bits, rounded, and its
    exponent, which one more bit of the mantissa makes one more. -/
theorem unpack_ofNat_rounded {n : Nat} (hn : 2 ^ 53 ≤ n) {r : Nat}
    (hr : (ExtendedMantissa.ofMantissaAndAccuracy (n * 2 ^ 53) .exact >>>
      (n.log2 + 1)).roundedMantissa = r) :
    ∃ m e, ∃ hm : 0 < m, (2 ^ 52 ≤ m ∧ m < 2 ^ 53) ∧
      (e = (n.log2 : Int) - 52 ∧ r < 2 ^ 53 ∨ e = (n.log2 : Int) - 51 ∧ 2 ^ 53 ≤ r) ∧
      (Float.ofNat n).toModel.unpack =
        if 971 < e then .infinity .positive else .finite .positive m e hm := by
  have hlog : (n * 2 ^ 53).log2 = 52 + (n.log2 + 1) := by
    rw [log2_mul_two_pow (by omega)]
    omega
  obtain ⟨hlow, hhigh⟩ := div_two_pow_bounds hlog
  have hbounds := roundedMantissa_bounds
    (ExtendedMantissa.ofMantissaAndAccuracy (n * 2 ^ 53) .exact >>> (n.log2 + 1))
  rw [mantissa_shiftRight, mantissa_ofMantissaAndAccuracy, hr] at hbounds
  rw [unpack_ofNat_of_ge hn, roundWithAccuracy_rounded .positive .exact hlog (by decide) hr
    (by omega)]
  by_cases hcarry : r < 2 ^ 53
  · refine ⟨r, -53 + (n.log2 + 1 : Nat), by omega, by omega, .inl ⟨by omega, hcarry⟩, ?_⟩
    rw [if_pos hcarry, unpack_pack_full .positive _ (by omega) hcarry (by omega)]
  · refine ⟨2 ^ 52, -53 + (n.log2 + 1 : Nat) + 1, by decide, by decide,
      .inr ⟨by omega, by omega⟩, ?_⟩
    rw [if_neg hcarry, unpack_pack_full .positive _ (by decide) (by decide) (by omega)]

/-- The exponent decides but for the numbers of the highest one, of which the
    mantissa does. -/
theorem isInf_ofNat_iff (n : Nat) : (Float.ofNat n).isInf = true ↔ overflowBound ≤ n := by
  show (Float.ofNat n).toModel.unpack.isInf = true ↔ _
  obtain ⟨habove, hbelow⟩ := overflowBound_bounds
  by_cases hsmall : n < 2 ^ 53
  · -- Small numbers are made floats exactly, zero as the float zero.
    have hless : n < overflowBound := by
      rw [overflowBound_eq]
      have hpos := Nat.two_pow_pos 970
      omega
    refine iff_of_false ?_ (Nat.not_le.2 hless)
    obtain rfl | hpos := Nat.eq_zero_or_pos n
    · decide +kernel
    · rw [unpack_ofNat hpos hsmall]
      exact Bool.false_ne_true
  · obtain ⟨m, e, hm, -, hexponent, hunpack⟩ := unpack_ofNat_rounded (Nat.not_lt.1 hsmall) rfl
    have hinf : (Float.ofNat n).toModel.unpack.isInf = true ↔ 971 < e := by
      rw [hunpack]
      by_cases hlarge : 971 < e
      · rw [if_pos hlarge]
        exact iff_of_true rfl hlarge
      · rw [if_neg hlarge]
        exact iff_of_false Bool.false_ne_true hlarge
    rw [hinf]
    have hpower : n < 2 ^ (n.log2 + 1) := Nat.lt_log2_self
    have hself : 2 ^ n.log2 ≤ n := Nat.log2_self_le (by omega)
    rcases Nat.lt_trichotomy n.log2 (970 + 53) with hlt | heq | hgt
    · have hle : 2 ^ (n.log2 + 1) ≤ 2 ^ (970 + 53) := pow_le_pow_right₀ (by decide) hlt
      have hless : n < overflowBound :=
        calc n < 2 ^ (n.log2 + 1) := hpower
          _ ≤ 2 ^ (970 + 53) := hle
          _ ≤ overflowBound := habove
      exact iff_of_false (by omega) (Nat.not_le.2 hless)
    · rw [← carry_iff heq]
      omega
    · have hle : 2 ^ (970 + 54) ≤ 2 ^ n.log2 := pow_le_pow_right₀ (by decide) hgt
      have hmore : overflowBound ≤ n :=
        calc overflowBound ≤ 2 ^ (970 + 54) := Nat.le_of_lt hbelow
          _ ≤ 2 ^ n.log2 := hle
          _ ≤ n := hself
      exact iff_of_true (by omega) hmore

/-! ## Integers -/

/-- The sign does not matter. -/
theorem isInf_neg_ofNat (n : Nat) : (-Float.ofNat n).isInf = (Float.ofNat n).isInf := by
  show (pack (Float.ofNat n).toModel.unpack.neg).unpack.isInf = (Float.ofNat n).toModel.unpack.isInf
  have hfinite {m : Nat} {e : Int} (hm : 0 < m) (hlow : 2 ^ 52 ≤ m) (hhigh : m < 2 ^ 53)
      (he : -1074 ≤ e) (he' : e ≤ 971) :
      (pack (UnpackedFloat.finite .positive m e hm).neg).unpack.isInf = false := by
    show (pack (.finite .negative m e hm)).unpack.isInf = false
    rw [unpack_pack_finite .negative hm hlow hhigh he he']
    rfl
  by_cases hsmall : n < 2 ^ 53
  · obtain rfl | hpos := Nat.eq_zero_or_pos n
    · decide +kernel
    · obtain ⟨hlog, hlow, hhigh⟩ := full_bounds hpos hsmall
      rw [unpack_ofNat hpos hsmall, hfinite _ hlow hhigh (by omega) (by omega)]
      rfl
  · obtain ⟨m, e, hm, ⟨hlow, hhigh⟩, hexponent, hunpack⟩ :=
      unpack_ofNat_rounded (Nat.not_lt.1 hsmall) rfl
    rw [hunpack]
    by_cases hlarge : 971 < e
    · rw [if_pos hlarge]
      decide +kernel
    · rw [if_neg hlarge, hfinite hm hlow hhigh (by omega) (Int.not_lt.1 hlarge)]
      rfl

/-- A number of more digits than a power of ten has zeros is not below it. -/
theorem ten_pow_le_of_digitCount {k n : Nat} (hk : 0 < k) (h : k < digitCount n) :
    10 ^ k ≤ n := by
  refine Nat.not_lt.1 fun hlt => ?_
  have hle : n.repr.length ≤ k := (Nat.length_repr_le_iff hk).2 hlt
  exact absurd hle (Nat.not_le.2 h)

theorem overflowBound_le_ten_pow {k : Nat} (h : 1024 ≤ 3 * k) : overflowBound ≤ 10 ^ k :=
  calc overflowBound ≤ 2 ^ 1024 := Nat.sub_le _ _
    _ ≤ 2 ^ (3 * k) := pow_le_pow_right₀ (by decide) h
    _ = 8 ^ k := Nat.pow_mul 2 3 k
    _ ≤ 10 ^ k := Nat.pow_le_pow_left (by decide) k

/-- **Integers beyond all floats.**  An integer is made infinite exactly if it is
    not below the bound, whatever its sign. -/
theorem isInf_ofInt_iff (n : Int) : (ofInt n).isInf = true ↔ overflowBound ≤ n.natAbs := by
  have hsigned (x : Float) (hx : x.isInf = true ↔ overflowBound ≤ n.natAbs)
      (hneg : (-x).isInf = x.isInf) :
      (if decide (n < 0) = true then -x else x).isInf = true ↔ overflowBound ≤ n.natAbs := by
    by_cases hn : n < 0
    · rw [decide_eq_true hn, if_pos rfl, hneg]
      exact hx
    · rw [decide_eq_false hn, if_neg Bool.false_ne_true]
      exact hx
  unfold ofInt read
  simp only [Int.add_zero, Int.natAbs_zero, if_neg (show ¬(0 : Int) < 0 by decide)]
  by_cases hzero : n.natAbs = 0
  · rw [if_pos hzero]
    have hbelow : ¬overflowBound ≤ n.natAbs := by
      rw [hzero]
      decide +kernel
    exact hsigned _ (iff_of_false (by decide +kernel) hbelow) (by decide +kernel)
  rw [if_neg hzero]
  by_cases hlong : 400 < (digitCount n.natAbs : Int)
  · -- So many digits are told to be beyond all floats without any rounding.
    rw [if_pos hlong]
    have hmore : overflowBound ≤ n.natAbs :=
      Nat.le_trans (overflowBound_le_ten_pow (k := 400) (by decide))
        (ten_pow_le_of_digitCount (by decide) (by omega))
    exact hsigned _ (iff_of_true (by decide +kernel) hmore) (by decide +kernel)
  · rw [if_neg hlong, if_neg (show ¬(digitCount n.natAbs : Int) < -400 by omega)]
    exact hsigned _ (isInf_ofNat_iff n.natAbs) (isInf_neg_ofNat n.natAbs)

end Kousei.Decimal
