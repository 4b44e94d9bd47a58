import Mathlib.Algebra.Group.Nat.Defs
import Kousei.Encoding.Detect

/-! # Counts as floating numbers

    A share is a quotient of two counts, each of which is made a floating
    number of 64 bits first.  Counts that fit the mantissa are made so
    exactly (`unpack_ofNat`), and their quotient is off by one in its last
    place at most (`unpack_div`).

    Of larger counts it is enough to know that they do not become zero, nor
    something that is no number.  Such numbers are called sizable here: their
    mantissa is full, and their exponent is not smaller than one that is
    known.  Rounding, packing and multiplication keep them so
    (`sizable_ofNat`). -/

namespace Kousei.Encoding

open Float.Model Float.Model.UnpackedFloat

/-! ## Mantissas -/

theorem mantissaBits_binary64 : Format.binary64.mantissaBits = 53 := rfl

theorem log2_eq_of_full {m : Nat} (hlow : 2 ^ 52 ≤ m) (hhigh : m < 2 ^ 53) : m.log2 = 52 :=
  (Nat.log2_eq_iff (by omega)).2 ⟨hlow, hhigh⟩

/-- The bits of a number are moved up until the mantissa is full. -/
theorem full_bounds {n : Nat} (hn : 0 < n) (hlt : n < 2 ^ 53) :
    n.log2 ≤ 52 ∧ 2 ^ 52 ≤ n * 2 ^ (52 - n.log2) ∧ n * 2 ^ (52 - n.log2) < 2 ^ 53 := by
  have hlog : n.log2 < 53 := (Nat.log2_lt (Nat.ne_of_gt hn)).2 hlt
  obtain ⟨hlow, hhigh⟩ := (Nat.log2_eq_iff (Nat.ne_of_gt hn)).1 rfl
  refine ⟨by omega, ?_, ?_⟩
  · calc 2 ^ 52 = 2 ^ n.log2 * 2 ^ (52 - n.log2) := by rw [← Nat.pow_add]; congr 1; omega
      _ ≤ n * 2 ^ (52 - n.log2) := Nat.mul_le_mul_right _ hlow
  · calc n * 2 ^ (52 - n.log2) < 2 ^ (n.log2 + 1) * 2 ^ (52 - n.log2) :=
          Nat.mul_lt_mul_of_pos_right hhigh (Nat.two_pow_pos _)
      _ = 2 ^ 53 := by rw [← Nat.pow_add]; congr 1; omega

theorem div_two_pow_bounds {m k : Nat} (hlog : m.log2 = 52 + k) :
    2 ^ 52 ≤ m / 2 ^ k ∧ m / 2 ^ k < 2 ^ 53 := by
  have hm : m ≠ 0 := by
    rintro rfl
    simp at hlog
    omega
  obtain ⟨hlow, hhigh⟩ := (Nat.log2_eq_iff hm).1 hlog
  constructor
  · rw [Nat.le_div_iff_mul_le (Nat.two_pow_pos k), ← Nat.pow_add]
    exact hlow
  · rw [Nat.div_lt_iff_lt_mul (Nat.two_pow_pos k), ← Nat.pow_add]
    rwa [show 53 + k = 52 + k + 1 by omega]

theorem exists_log2_eq {m : Nat} (hm : 2 ^ 52 ≤ m) : ∃ k, m.log2 = 52 + k := by
  have hle : 52 ≤ m.log2 := (Nat.le_log2 (by omega)).2 hm
  exact ⟨m.log2 - 52, by omega⟩

theorem mantissa_shiftRight (em : ExtendedMantissa) (k : Nat) :
    (em >>> k).mantissa = em.mantissa / 2 ^ k := by
  induction k with
  | zero => simp [HShiftRight.hShiftRight, Nat.repeat]
  | succ k ih =>
    change (em >>> k).mantissa / 2 = _
    rw [ih, Nat.div_div_eq_div_mul, Nat.pow_succ]

theorem mantissa_ofMantissaAndAccuracy (m : Nat) (a : Accuracy) :
    (ExtendedMantissa.ofMantissaAndAccuracy m a).mantissa = m := by
  rcases a with _ | (_ | _ | _) <;> rfl

/-- Bits that are zero are shifted out without a loss. -/
theorem shiftRight_exact (m k : Nat) :
    ExtendedMantissa.ofMantissaAndAccuracy (m * 2 ^ k) .exact >>> k =
      ExtendedMantissa.ofMantissaAndAccuracy m .exact := by
  induction k generalizing m with
  | zero => simp [HShiftRight.hShiftRight, Nat.repeat]
  | succ k ih =>
    change (ExtendedMantissa.ofMantissaAndAccuracy (m * 2 ^ (k + 1)) .exact >>> k).shiftRightOne = _
    rw [Nat.pow_succ', ← Nat.mul_assoc, ih]
    simp [ExtendedMantissa.shiftRightOne, ExtendedMantissa.ofMantissaAndAccuracy]

theorem roundedMantissa_bounds (em : ExtendedMantissa) :
    em.mantissa ≤ em.roundedMantissa ∧ em.roundedMantissa ≤ em.mantissa + 1 := by
  rcases em with ⟨m, _ | _, _ | _⟩ <;>
    simp only [ExtendedMantissa.roundedMantissa, ExtendedMantissa.accuracy,
      Accuracy.roundToNearestEven] <;> omega

/-! ## Rounding -/

theorem finite_congr (s : Sign) {m m' : Nat} {e e' : Int} {hm : 0 < m} {hm' : 0 < m'} (h : m = m')
    (he : e = e') : UnpackedFloat.finite s m e hm = .finite s m' e' hm' := by
  subst h he
  rfl

/-- A mantissa with `k` bits too many is shifted by as many. -/
theorem shiftToTargetExponent_eq {m k : Nat} {e : Int} (a : Accuracy) (hlog : m.log2 = 52 + k)
    (he : -1000 ≤ e) :
    shiftToTargetExponent Format.binary64 m e a =
      (ExtendedMantissa.ofMantissaAndAccuracy m a >>> k, e + k) := by
  have htarget : Format.binary64.targetExponent (totalExponent m e) = e + k := by
    simp only [Format.targetExponent, totalExponent, mantissaBits_binary64, Format.minExponent,
      hlog]
    omega
  have hshift : (e + k - e).toNat = k := by omega
  rw [shiftToTargetExponent, htarget, shiftToExponent, hshift]

/-- The bits too many are cut off, and the mantissa is rounded by them.  If that
    makes one bit more, the mantissa is the smallest that is full. -/
theorem roundWithAccuracy_rounded (s : Sign) {m k r : Nat} {e : Int} (a : Accuracy)
    (hlog : m.log2 = 52 + k) (he : -1000 ≤ e)
    (hr : (ExtendedMantissa.ofMantissaAndAccuracy m a >>> k).roundedMantissa = r) (hpos : 0 < r) :
    roundWithAccuracy Format.binary64 s m e a =
      if r < 2 ^ 53 then .finite s r (e + k) hpos
      else .finite s (2 ^ 52) (e + k + 1) (by decide) := by
  obtain ⟨hlow, hhigh⟩ := div_two_pow_bounds hlog
  have hround := roundedMantissa_bounds (ExtendedMantissa.ofMantissaAndAccuracy m a >>> k)
  rw [mantissa_shiftRight, mantissa_ofMantissaAndAccuracy, hr] at hround
  rw [roundWithAccuracy, shiftToTargetExponent_eq a hlog he]
  dsimp only
  rw [hr]
  by_cases hcarry : r < 2 ^ 53
  · have hlog' : r.log2 = 52 + 0 := log2_eq_of_full (by omega) hcarry
    rw [if_pos hcarry, shiftToTargetExponent_eq .exact hlog' (by omega)]
    have hmantissa : (ExtendedMantissa.ofMantissaAndAccuracy r .exact >>> 0).mantissa = r := rfl
    rw [dif_neg (by rw [hmantissa]; omega)]
    exact finite_congr s hmantissa (Int.add_zero _)
  · -- The bit that was added has been carried to the top.
    obtain rfl : r = 2 ^ 53 := by omega
    rw [if_neg hcarry, shiftToTargetExponent_eq (k := 1) .exact (by decide) (by omega)]
    have hmantissa :
        (ExtendedMantissa.ofMantissaAndAccuracy (2 ^ 53) .exact >>> 1).mantissa = 2 ^ 52 := rfl
    rw [dif_neg (by rw [hmantissa]; decide)]
    exact finite_congr s hmantissa rfl

/-- Rounding adds one at most. -/
theorem roundWithAccuracy_eq (s : Sign) {m k : Nat} {e : Int} (a : Accuracy)
    (hlog : m.log2 = 52 + k) (he : -1000 ≤ e) :
    ∃ r, ∃ hr : 0 < r, (m / 2 ^ k ≤ r ∧ r ≤ m / 2 ^ k + 1) ∧
      roundWithAccuracy Format.binary64 s m e a =
        if r < 2 ^ 53 then .finite s r (e + k) hr
        else .finite s (2 ^ 52) (e + k + 1) (by decide) := by
  obtain ⟨hlow, -⟩ := div_two_pow_bounds hlog
  have hround := roundedMantissa_bounds (ExtendedMantissa.ofMantissaAndAccuracy m a >>> k)
  rw [mantissa_shiftRight, mantissa_ofMantissaAndAccuracy] at hround
  exact ⟨_, by omega, hround, roundWithAccuracy_rounded s a hlog he rfl _⟩

/-- A full mantissa is rounded to itself, whatever zeros follow it. -/
theorem roundWithAccuracy_exact (s : Sign) {m n k : Nat} {e e' : Int} (hn : n = m * 2 ^ k)
    (hlow : 2 ^ 52 ≤ m) (hhigh : m < 2 ^ 53) (he : -1000 ≤ e) (he' : e' = e + k) :
    roundWithAccuracy Format.binary64 s n e .exact = .finite s m e' (by omega) := by
  subst hn he'
  have hlog : (m * 2 ^ k).log2 = 52 + k := by
    rw [Nat.log2_eq_iff (Nat.mul_ne_zero (by omega) (Nat.ne_of_gt (Nat.two_pow_pos k))),
      Nat.pow_add, show 52 + k + 1 = 53 + k by omega, Nat.pow_add 2 53 k]
    exact ⟨Nat.mul_le_mul_right _ hlow, Nat.mul_lt_mul_of_pos_right hhigh (Nat.two_pow_pos k)⟩
  have hlog' : m.log2 = 52 + 0 := log2_eq_of_full hlow hhigh
  have hround : (ExtendedMantissa.ofMantissaAndAccuracy m .exact).roundedMantissa = m := rfl
  rw [roundWithAccuracy, shiftToTargetExponent_eq _ hlog he]
  dsimp only
  rw [shiftRight_exact, hround, shiftToTargetExponent_eq _ hlog' (by omega)]
  have hmantissa : (ExtendedMantissa.ofMantissaAndAccuracy m .exact >>> 0).mantissa = m := rfl
  rw [dif_neg (by rw [hmantissa]; omega)]
  exact finite_congr s hmantissa (Int.add_zero _)

/-! ## Packing -/

theorem unpackSign_packComponents (s : Sign) (e : BitVec 11) (m : BitVec 52) :
    Sign.ofBitVec (unpackSign (packComponents Format.binary64 s e m)) = s := by
  have hsign : unpackSign (packComponents Format.binary64 s e m) = s.toBitVec := by
    change (s.toBitVec ++ e ++ m).extractLsb' 63 1 = s.toBitVec
    rw [BitVec.extractLsb'_append_eq_of_le (by decide),
      BitVec.extractLsb'_append_eq_of_le (by decide)]
    cases s <;> rfl
  rw [hsign]
  cases s <;> rfl

/-- The bit that is not packed makes the mantissa full again. -/
theorem toNat_implicitBit {m : Nat} (hlow : 2 ^ 52 ≤ m) (hhigh : m < 2 ^ 53) :
    (1#1 ++ BitVec.ofNat 52 m).toNat = m := by
  have hsum : (1#1 ++ BitVec.ofNat 52 m).toNat = 2 ^ 52 + (BitVec.ofNat 52 m).toNat := by
    rw [BitVec.toNat_append, ← Nat.shiftLeft_add_eq_or_of_lt (BitVec.ofNat 52 m).isLt]
    rfl
  rw [hsum, BitVec.toNat_ofNat]
  omega

/-- An exponent that fits is neither that of zero nor that of infinity. -/
theorem ofNat_exponent {b : Nat} (hpos : 0 < b) (hlt : b + 1 < 2 ^ 11) :
    (BitVec.ofNat 11 b).toNat = b ∧ BitVec.ofNat 11 b ≠ -1#11 ∧ BitVec.ofNat 11 b ≠ 0#11 := by
  have hb : (BitVec.ofNat 11 b).toNat = b := by
    rw [BitVec.toNat_ofNat, Nat.mod_eq_of_lt (by omega)]
  refine ⟨hb, ?_, ?_⟩
  · intro h
    have hmax : b = (-1#11).toNat := by rw [← h, hb]
    have hvalue : (-1#11).toNat = 2047 := by decide
    omega
  · intro h
    have hmin : b = (0#11).toNat := by rw [← h, hb]
    have hvalue : (0#11).toNat = 0 := by decide
    omega

theorem unpack_packedInfinity (s : Sign) :
    UnpackedFloat.unpack Format.binary64 (packedInfinity Format.binary64 s) = .infinity s := by
  unfold UnpackedFloat.unpack packedInfinity
  dsimp only
  rw [if_pos (unpackExponent_packComponents ..), unpackMantissa_packComponents,
    unpackSign_packComponents]
  rfl

section Packing

variable (s : Sign) {m : Nat} {e : Int} (hm : 0 < m) (hlow : 2 ^ 52 ≤ m) (hhigh : m < 2 ^ 53)

include hlow hhigh

theorem pack_finite {b : Nat} (hb : (e + 1023 + 52).toNat = b) :
    UnpackedFloat.pack Format.binary64 (.finite s m e hm) =
      if 2 ^ 11 ≤ b + 1 then packedInfinity Format.binary64 s
      else packComponents Format.binary64 s (BitVec.ofNat 11 b) (BitVec.ofNat 52 m) := by
  unfold UnpackedFloat.pack
  simp only [log2_eq_of_full hlow hhigh]
  rw [← hb]
  rfl

/-- A number with a full mantissa is unpacked as it was packed. -/
theorem unpack_pack_finite (he : -1074 ≤ e) (he' : e ≤ 971) :
    (pack (.finite s m e hm)).unpack = .finite s m e hm := by
  generalize hb : (e + 1023 + 52).toNat = b
  obtain ⟨hexponent, hmax, hmin⟩ := ofNat_exponent (b := b) (by omega) (by omega)
  show UnpackedFloat.unpack Format.binary64 (UnpackedFloat.pack Format.binary64 _) = _
  rw [pack_finite s hm hlow hhigh hb, if_neg (by omega)]
  have hbias : (b : Int) - (Format.binary64.exponentBias + 52) = e := by
    simp only [Format.exponentBias]
    omega
  unfold UnpackedFloat.unpack
  dsimp only
  rw [if_neg (by rwa [unpackExponent_packComponents]),
    if_neg (by rwa [unpackExponent_packComponents]), unpackSign_packComponents]
  refine finite_congr s ?_ ?_
  · rw [unpackMantissa_packComponents]
    exact toNat_implicitBit hlow hhigh
  · rw [unpackExponent_packComponents, hexponent]
    exact hbias

/-- One with too large an exponent is unpacked as an infinite one. -/
theorem unpack_pack_overflow (he : 971 < e) : (pack (.finite s m e hm)).unpack = .infinity s := by
  show UnpackedFloat.unpack Format.binary64 (UnpackedFloat.pack Format.binary64 _) = _
  rw [pack_finite s hm hlow hhigh rfl, if_pos (by omega), unpack_packedInfinity]

end Packing

/-! ## Counts -/

theorem unpack_ofUInt64 {n : Nat} (hn : 0 < n) (hlt : n < 2 ^ 53) :
    (Float.Model.ofUInt64 n.toUInt64).unpack =
      .finite .positive (n * 2 ^ (52 - n.log2)) ((n.log2 : Int) - 52)
        (Nat.mul_pos hn (Nat.two_pow_pos _)) := by
  obtain ⟨hlog, hlow, hhigh⟩ := full_bounds hn hlt
  have hnat : n.toUInt64.toNat = n := by
    simp [Nat.toUInt64]
    omega
  have htarget : Format.binary64.targetExponent (totalExponent n 0) = (n.log2 : Int) - 52 := by
    simp only [Format.targetExponent, totalExponent, mantissaBits_binary64, Format.minExponent]
    omega
  have hshift : (0 - ((n.log2 : Int) - 52)).toNat = 52 - n.log2 := by omega
  have hofUInt64 : UnpackedFloat.ofUInt64 Format.binary64 n.toUInt64 =
      roundWithAccuracy Format.binary64 .positive (n <<< (52 - n.log2))
        (0 - (52 - n.log2 : Nat)) .exact := by
    unfold UnpackedFloat.ofUInt64 UnpackedFloat.ofNat UnpackedFloat.ofInt UnpackedFloat.normalize
    rw [hnat, Int.compare_eq_gt.2 (by omega)]
    simp only [Int.toNat_natCast, UnpackedFloat.round, htarget, decreaseExponent, hshift]
  have hzeros : n <<< (52 - n.log2) = n * 2 ^ (52 - n.log2) * 2 ^ 0 := by
    rw [Nat.shiftLeft_eq, Nat.pow_zero, Nat.mul_one]
  have hexponent : (n.log2 : Int) - 52 = 0 - (52 - n.log2 : Nat) + (0 : Nat) := by omega
  unfold Float.Model.ofUInt64
  rw [hofUInt64, roundWithAccuracy_exact _ hzeros hlow hhigh (by omega) hexponent]
  exact unpack_pack_finite _ _ hlow hhigh (by omega) (by omega)

theorem unpack_one : Float.exactlyRepresentablePowersOfTen[0].toModel.unpack =
    .finite .positive (2 ^ 52) (-52) (by decide) := rfl

/-- A count that fits the mantissa is made a floating number exactly. -/
theorem unpack_ofNat {n : Nat} (hn : 0 < n) (hlt : n < 2 ^ 53) :
    (Float.ofNat n).toModel.unpack =
      .finite .positive (n * 2 ^ (52 - n.log2)) ((n.log2 : Int) - 52)
        (Nat.mul_pos hn (Nat.two_pow_pos _)) := by
  obtain ⟨hlog, hlow, hhigh⟩ := full_bounds hn hlt
  have hproduct : UnpackedFloat.mul Format.binary64 (Float.Model.ofUInt64 n.toUInt64).unpack
      Float.exactlyRepresentablePowersOfTen[0].toModel.unpack =
      .finite .positive (n * 2 ^ (52 - n.log2)) ((n.log2 : Int) - 52)
        (Nat.mul_pos hn (Nat.two_pow_pos _)) := by
    rw [unpack_ofUInt64 hn hlt, unpack_one]
    change roundWithAccuracy Format.binary64 (.positive * .positive)
      (n * 2 ^ (52 - n.log2) * 2 ^ 52) ((n.log2 : Int) - 52 + -52) .exact = _
    exact roundWithAccuracy_exact _ rfl hlow hhigh (by omega) (by omega)
  change (Float.ofScientific n false 0).toModel.unpack = _
  unfold Float.ofScientific
  rw [dif_pos ⟨hlt, Nat.zero_le _⟩]
  change (pack (UnpackedFloat.mul Format.binary64 (Float.Model.ofUInt64 n.toUInt64).unpack
      Float.exactlyRepresentablePowersOfTen[0].toModel.unpack)).unpack = _
  rw [hproduct]
  exact unpack_pack_finite _ _ hlow hhigh (by omega) (by omega)

/-! ## Large counts -/

/-- An infinite number, or one whose mantissa is full and whose exponent is
    `least` or more. -/
inductive Sizable (least : Int) : UnpackedFloat → Prop where
  | infinity (s : Sign) : Sizable least (.infinity s)
  | finite (s : Sign) {m : Nat} {e : Int} (hm : 0 < m) (hlow : 2 ^ 52 ≤ m) (hhigh : m < 2 ^ 53)
    (he : least ≤ e) : Sizable least (.finite s m e hm)

/-- Zero can be divided by a sizable number. -/
theorem Sizable.zero_div {least : Int} {u : UnpackedFloat} (h : Sizable least u) :
    ∃ s, UnpackedFloat.div Format.binary64 (.zero .positive) u = .zero s := by
  cases h with
  | infinity s => exact ⟨_, rfl⟩
  | finite s hm hlow hhigh he => exact ⟨_, rfl⟩

/-- What is rounded from a mantissa that has enough bits is sizable. -/
theorem sizable_roundWithAccuracy (s : Sign) {m : Nat} {e : Int} (a : Accuracy)
    (hm : 2 ^ 52 ≤ m) (he : -1000 ≤ e) :
    Sizable e (roundWithAccuracy Format.binary64 s m e a) := by
  obtain ⟨k, hlog⟩ := exists_log2_eq hm
  obtain ⟨hlow, -⟩ := div_two_pow_bounds hlog
  obtain ⟨r, hr, hbounds, hround⟩ := roundWithAccuracy_eq s a hlog he
  rw [hround]
  by_cases hlt : r < 2 ^ 53
  · rw [if_pos hlt]
    exact .finite s hr (by omega) hlt (by omega)
  · rw [if_neg hlt]
    exact .finite s _ (by decide) (by decide) (by omega)

/-- A sizable number is packed as it is, or as an infinite one. -/
theorem Sizable.unpack_pack {least : Int} {u : UnpackedFloat} (h : Sizable least u)
    (hleast : -1000 ≤ least) : Sizable least (pack u).unpack := by
  cases h with
  | infinity s =>
    change Sizable least (UnpackedFloat.unpack Format.binary64 (packedInfinity Format.binary64 s))
    rw [unpack_packedInfinity]
    exact .infinity s
  | @finite s m e hm hlow hhigh he =>
    by_cases hlarge : e ≤ 971
    · rw [unpack_pack_finite s hm hlow hhigh (by omega) hlarge]
      exact .finite s hm hlow hhigh he
    · rw [unpack_pack_overflow s hm hlow hhigh (Int.not_le.1 hlarge)]
      exact .infinity s

/-- A count beyond the mantissa is rounded once. -/
theorem unpack_ofNat_of_ge {n : Nat} (hn : 2 ^ 53 ≤ n) :
    (Float.ofNat n).toModel.unpack =
      (pack (roundWithAccuracy Format.binary64 .positive (n * 2 ^ 53) (-53) .exact)).unpack := by
  have hexponent : ¬ (0 : Int) < -(2 ^ 11 + (n.log2 : Int)) := by omega
  have hproduct : UnpackedFloat.ofScientific Format.binary64 n 0 =
      roundWithAccuracy Format.binary64 .positive (n * 2 ^ 53) (-53) .exact := by
    unfold UnpackedFloat.ofScientific
    rw [dif_neg (by omega), if_neg (by decide), if_neg hexponent, if_pos (by decide)]
    show roundWithAccuracy Format.binary64 (.positive * .positive) (n <<< 53 * 1) (-53 + 0) .exact =
      _
    rw [Nat.shiftLeft_eq, Nat.mul_one]
    rfl
  change (Float.ofScientific n false 0).toModel.unpack = _
  unfold Float.ofScientific
  rw [dif_neg (by omega), ← hproduct]
  rfl

/-- A count that is not zero is made a sizable number. -/
theorem sizable_ofNat {n : Nat} (hn : 0 < n) : Sizable (-53) (Float.ofNat n).toModel.unpack := by
  by_cases hlt : n < 2 ^ 53
  · obtain ⟨hlog, hlow, hhigh⟩ := full_bounds hn hlt
    rw [unpack_ofNat hn hlt]
    exact .finite _ _ hlow hhigh (by omega)
  · rw [unpack_ofNat_of_ge (Nat.not_lt.1 hlt)]
    have hfull : 2 ^ 52 ≤ n * 2 ^ 53 := by omega
    exact (sizable_roundWithAccuracy .positive .exact hfull (by decide)).unpack_pack (by decide)

/-! ## Quotients of counts -/

/-- The quotient of two full mantissas has enough bits, and one too many at
    most. -/
theorem divCore_eq {m n : Nat} {e f : Int} (hm : m.log2 = 52) (hn : n.log2 = 52)
    (hlow : -900 ≤ e - f) :
    UnpackedFloat.divCore Format.binary64 m e n f =
      (m * 2 ^ 53 / n, e - f - 53, accuracyOfFraction (m * 2 ^ 53 % n) n) := by
  have htarget : Format.binary64.targetExponent (totalExponent m e - totalExponent n f) =
      e - f - 53 := by
    simp only [Format.targetExponent, totalExponent, mantissaBits_binary64, Format.minExponent,
      hm, hn]
    omega
  have hmin : min (e - f) (e - f - 53) = e - f - 53 := by omega
  have hshift : (e - f - (e - f - 53)).toNat = 53 := by omega
  unfold divCore
  simp only [htarget, hmin, hshift, Nat.shiftLeft_eq]

theorem div_finite {s s' : Sign} {m n r : Nat} {e f d : Int} {a : Accuracy} {hm : 0 < m}
    {hn : 0 < n} (h : UnpackedFloat.divCore Format.binary64 m e n f = (r, d, a)) :
    UnpackedFloat.div Format.binary64 (.finite s m e hm) (.finite s' n f hn) =
      roundWithAccuracy Format.binary64 (s / s') r d a := by
  show (match UnpackedFloat.divCore Format.binary64 m e n f with
    | (r, d, a) => roundWithAccuracy Format.binary64 (s / s') r d a) = _
  rw [h]

/-- The quotient of the mantissas is that of the counts, moved up. -/
theorem full_div_full {c l : Nat} (hlog : c.log2 ≤ l.log2) (hl : l.log2 ≤ 52) :
    c * 2 ^ (52 - c.log2) * 2 ^ 53 / (l * 2 ^ (52 - l.log2)) =
      c * 2 ^ (53 + (l.log2 - c.log2)) / l := by
  have hpow : 52 - c.log2 + 53 = 53 + (l.log2 - c.log2) + (52 - l.log2) := by omega
  rw [Nat.mul_assoc, ← Nat.pow_add, hpow, Nat.pow_add, ← Nat.mul_assoc,
    Nat.mul_div_mul_right _ _ (Nat.two_pow_pos _)]

/-- The mantissa of a quotient is what is left of the bits that are too many,
    or one more. -/
theorem unpack_div {c l : Nat} (hc : 0 < c) (hcl : c ≤ l) (hl : l < 2 ^ 53) :
    ∃ k d r : Nat, ∃ hr : 0 < r, (c * 2 ^ (53 + d) / l).log2 = 52 + k ∧
      (c * 2 ^ (53 + d) / l / 2 ^ k ≤ r ∧ r ≤ c * 2 ^ (53 + d) / l / 2 ^ k + 1) ∧
      (Float.ofNat c / Float.ofNat l).toModel.unpack =
        if r < 2 ^ 53 then .finite .positive r ((k : Int) - d - 53) hr
        else .finite .positive (2 ^ 52) ((k : Int) - d - 52) (by decide) := by
  obtain ⟨hclog, hclow, hchigh⟩ := full_bounds hc (Nat.lt_of_le_of_lt hcl hl)
  obtain ⟨hllog, hllow, hlhigh⟩ := full_bounds (Nat.lt_of_lt_of_le hc hcl) hl
  have hlog : c.log2 ≤ l.log2 :=
    (Nat.le_log2 (by omega)).2 (Nat.le_trans (Nat.log2_self_le (by omega)) hcl)
  have hq := full_div_full hlog hllog
  have hqlow : 2 ^ 52 ≤ c * 2 ^ (52 - c.log2) * 2 ^ 53 / (l * 2 ^ (52 - l.log2)) := by
    rw [Nat.le_div_iff_mul_le (by omega)]
    omega
  have hqhigh : c * 2 ^ (52 - c.log2) * 2 ^ 53 / (l * 2 ^ (52 - l.log2)) < 2 ^ 54 := by
    rw [Nat.div_lt_iff_lt_mul (by omega)]
    omega
  have hdiv : UnpackedFloat.div Format.binary64 (Float.ofNat c).toModel.unpack
      (Float.ofNat l).toModel.unpack =
      roundWithAccuracy Format.binary64 (.positive / .positive)
        (c * 2 ^ (53 + (l.log2 - c.log2)) / l) (-((l.log2 - c.log2 : Nat) : Int) - 53)
        (accuracyOfFraction (c * 2 ^ (52 - c.log2) * 2 ^ 53 % (l * 2 ^ (52 - l.log2)))
          (l * 2 ^ (52 - l.log2))) := by
    have hcore := divCore_eq (e := (c.log2 : Int) - 52) (f := (l.log2 : Int) - 52)
      (log2_eq_of_full hclow hchigh) (log2_eq_of_full hllow hlhigh) (by omega)
    rw [hq, show (c.log2 : Int) - 52 - (l.log2 - 52) - 53 = -((l.log2 - c.log2 : Nat) : Int) - 53 by
      omega] at hcore
    rw [unpack_ofNat hc (Nat.lt_of_le_of_lt hcl hl), unpack_ofNat (Nat.lt_of_lt_of_le hc hcl) hl,
      div_finite hcore]
  have hd : l.log2 - c.log2 ≤ 52 := by omega
  generalize l.log2 - c.log2 = d at hq hdiv hd
  rw [hq] at hqlow hqhigh
  obtain ⟨k, hk⟩ := exists_log2_eq hqlow
  have hk' : k ≤ 1 := by
    have := (Nat.log2_lt (by omega)).2 hqhigh
    omega
  obtain ⟨r, hr, hbounds, hround⟩ := roundWithAccuracy_eq (.positive / .positive)
    (accuracyOfFraction (c * 2 ^ (52 - c.log2) * 2 ^ 53 % (l * 2 ^ (52 - l.log2)))
      (l * 2 ^ (52 - l.log2))) hk (e := -(d : Int) - 53) (by omega)
  refine ⟨k, d, r, hr, hk, hbounds, ?_⟩
  obtain ⟨hfulllow, -⟩ := div_two_pow_bounds hk
  change (pack (UnpackedFloat.div Format.binary64 _ _)).unpack = _
  rw [hdiv, hround]
  by_cases hlt : r < 2 ^ 53
  · rw [if_pos hlt, if_pos hlt, unpack_pack_finite _ hr (by omega) hlt (by omega) (by omega)]
    exact finite_congr _ rfl (by omega)
  · rw [if_neg hlt, if_neg hlt,
      unpack_pack_finite _ _ (by decide) (by decide) (by omega) (by omega)]
    exact finite_congr _ rfl (by omega)

end Kousei.Encoding
