import Kousei.Proofs.Encoding.Binary64

/-! # Shares of bytes

    Whether a file is taken for a text is decided by the share of its control
    bytes, which is a quotient of two floating numbers.  Up to a petabyte
    the floating numbers decide as the counts would (`isProbablyText_iff`).
    A file without control bytes is taken for a text whatever its size is
    (`isProbablyText_of_noControl`). -/

namespace Kousei.Encoding

open Float.Model Float.Model.UnpackedFloat

/-! ## The share of nothing -/

theorem unpack_zero : (Float.ofNat 0).toModel.unpack = .zero .positive := rfl

theorem zero_div_ofNat {n : Nat} (hn : 0 < n) :
    ∃ s, Float.ofNat 0 / Float.ofNat n = ⟨pack (.zero s)⟩ := by
  obtain ⟨s, hs⟩ := (sizable_ofNat hn).zero_div
  refine ⟨s, ?_⟩
  change (⟨pack (UnpackedFloat.div Format.binary64 _ _)⟩ : Float) = _
  rw [unpack_zero, hs]

/-- No file has so many bytes that none of them are a share of them. -/
theorem zero_share {n : Nat} (hn : 0 < n) : Float.ofNat 0 / Float.ofNat n < binaryThreshold := by
  obtain ⟨s, hs⟩ := zero_div_ofNat hn
  rw [hs]
  cases s <;> decide +kernel

/-! ## The threshold -/

/-- The floating number that is nearest to three tenths, and a little less. -/
theorem unpack_threshold :
    binaryThreshold.toModel.unpack = .finite .positive 5404319552844595 (-54) (by decide) := rfl

/-- Floating numbers with full mantissas are compared by their exponents
    first. -/
theorem finite_lt_iff {m n : Nat} {e f : Int} {hm : 0 < m} {hn : 0 < n} :
    UnpackedFloat.lt (.finite .positive m e hm) (.finite .positive n f hn) = true ↔
      e < f ∨ e = f ∧ m < n := by
  show (some ((compare e f).then (compare m n)) == some Ordering.lt) = true ↔ _
  rw [beq_iff_eq, Option.some_inj, Ordering.then_eq_lt, Int.compare_eq_lt, Int.compare_eq_eq,
    Nat.compare_eq_lt]

theorem lt_threshold_iff {x : Float} {m : Nat} {e : Int} {hm : 0 < m}
    (hx : x.toModel.unpack = .finite .positive m e hm) :
    x < binaryThreshold ↔ e < -54 ∨ e = -54 ∧ m < 5404319552844595 := by
  show decide (x.toModel.unpack.lt binaryThreshold.toModel.unpack = true) = true ↔ _
  rw [hx, unpack_threshold, decide_eq_true_eq, finite_lt_iff]

/-- A mantissa that is carried to the top is less than that of the threshold. -/
theorem lt_threshold_iff_of_rounded {x : Float} {r : Nat} {e f : Int} {hr : 0 < r}
    (hx : x.toModel.unpack = if r < 2 ^ 53 then .finite .positive r e hr
      else .finite .positive (2 ^ 52) f (by decide)) :
    x < binaryThreshold ↔ r < 2 ^ 53 ∧ (e < -54 ∨ e = -54 ∧ r < 5404319552844595) ∨
      2 ^ 53 ≤ r ∧ f ≤ -54 := by
  by_cases hlt : r < 2 ^ 53
  · rw [if_pos hlt] at hx
    rw [lt_threshold_iff hx]
    omega
  · rw [if_neg hlt] at hx
    rw [lt_threshold_iff hx]
    omega

/-- A mantissa that is off by one at most is on the same side of that of the
    threshold as the share is of three tenths. -/
theorem mantissa_lt_iff {c l r : Nat} (hpos : 0 < l) (hl : l ≤ 2 ^ 50)
    (hlow : c * 2 ^ 54 / l ≤ r) (hhigh : r ≤ c * 2 ^ 54 / l + 1) :
    r < 5404319552844595 ↔ 10 * c < 3 * l := by
  have hfloor := Nat.div_add_mod (c * 2 ^ 54) l
  have hrest := Nat.mod_lt (c * 2 ^ 54) hpos
  generalize c * 2 ^ 54 / l = x at *
  constructor
  · intro hr
    have hx : l * x ≤ l * 5404319552844594 := Nat.mul_le_mul_left l (by omega)
    omega
  · intro hc
    apply Nat.lt_of_not_le
    intro hr
    have hx : l * 5404319552844594 ≤ l * x := Nat.mul_le_mul_left l (by omega)
    omega

/-- A share is below the threshold exactly if it is less than three tenths. -/
theorem share_lt_iff {c l : Nat} (hcl : c ≤ l) (hpos : 0 < l) (hl : l ≤ 2 ^ 50) :
    Float.ofNat c / Float.ofNat l < binaryThreshold ↔ 10 * c < 3 * l := by
  obtain rfl | hc := Nat.eq_zero_or_pos c
  · exact iff_of_true (zero_share hpos) (by omega)
  obtain ⟨k, d, r, hr, hlog, ⟨hrlow, hrhigh⟩, hunpack⟩ := unpack_div hc hcl (by omega)
  obtain ⟨hlow, hhigh⟩ := div_two_pow_bounds hlog
  rw [Nat.div_div_eq_div_mul] at hrlow hrhigh hlow hhigh
  -- The exponent of the threshold is that of a share with `d = k + 1`.
  obtain hlarge | rfl | ⟨j, rfl⟩ : d ≤ k ∨ d = k + 1 ∨ ∃ j, d = k + 2 + j := by
    by_cases h : k + 2 ≤ d
    · exact .inr (.inr ⟨d - (k + 2), by omega⟩)
    · omega
  · have hshare : ¬ 10 * c < 3 * l := by
      rw [Nat.le_div_iff_mul_le (Nat.mul_pos hpos (Nat.two_pow_pos k))] at hlow
      have hhalf : 2 ^ 52 * l * 2 ^ k ≤ c * 2 ^ 53 * 2 ^ k := by
        calc 2 ^ 52 * l * 2 ^ k = 2 ^ 52 * (l * 2 ^ k) := Nat.mul_assoc _ _ _
          _ ≤ c * 2 ^ (53 + d) := hlow
          _ ≤ c * 2 ^ (53 + k) :=
            Nat.mul_le_mul_left c (Nat.pow_le_pow_right (by decide) (by omega))
          _ = c * 2 ^ 53 * 2 ^ k := by rw [Nat.pow_add, Nat.mul_assoc]
      have := Nat.le_of_mul_le_mul_right hhalf (Nat.two_pow_pos k)
      omega
    refine iff_of_false ?_ hshare
    rw [lt_threshold_iff_of_rounded hunpack]
    omega
  · have hmantissa : c * 2 ^ (53 + (k + 1)) / (l * 2 ^ k) = c * 2 ^ 54 / l := by
      rw [show 53 + (k + 1) = 54 + k by omega, Nat.pow_add, ← Nat.mul_assoc,
        Nat.mul_div_mul_right _ _ (Nat.two_pow_pos k)]
    rw [hmantissa] at hrlow hrhigh
    rw [← mantissa_lt_iff hpos hl hrlow hrhigh]
    rw [lt_threshold_iff_of_rounded hunpack]
    omega
  · have hshare : 10 * c < 3 * l := by
      rw [Nat.div_lt_iff_lt_mul (Nat.mul_pos hpos (Nat.two_pow_pos k))] at hhigh
      have hquarter : c * 2 ^ 55 * 2 ^ k < 2 ^ 53 * l * 2 ^ k := by
        calc c * 2 ^ 55 * 2 ^ k = c * 2 ^ (55 + k) := by rw [Nat.pow_add, Nat.mul_assoc]
          _ ≤ c * 2 ^ (53 + (k + 2 + j)) :=
            Nat.mul_le_mul_left c (Nat.pow_le_pow_right (by decide) (by omega))
          _ < 2 ^ 53 * (l * 2 ^ k) := hhigh
          _ = 2 ^ 53 * l * 2 ^ k := (Nat.mul_assoc _ _ _).symm
      have := Nat.lt_of_mul_lt_mul_right hquarter
      omega
    refine iff_of_true ?_ hshare
    rw [lt_threshold_iff_of_rounded hunpack]
    omega

/-! ## Texts -/

/-- A file of a petabyte at most is taken for a text if it is empty or less
    than three tenths of its bytes are control bytes. -/
theorem isProbablyText_iff {bytes : List UInt8} (hsize : bytes.length ≤ 2 ^ 50) :
    isProbablyText bytes = true ↔
      bytes = [] ∨ 10 * bytes.countP isBinaryByte < 3 * bytes.length := by
  rw [isProbablyText, Bool.or_eq_true, decide_eq_true_eq, List.isEmpty_iff]
  by_cases hempty : bytes = []
  · exact iff_of_true (.inl hempty) (.inl hempty)
  · rw [share_lt_iff List.countP_le_length (List.length_pos_iff.2 hempty) hsize]

/-- A file without control bytes is taken for a text. -/
theorem isProbablyText_of_noControl {bytes : List UInt8}
    (h : ∀ b ∈ bytes, isBinaryByte b = false) : isProbablyText bytes = true := by
  have hcount : bytes.countP isBinaryByte = 0 := by
    rw [List.countP_eq_zero]
    intro b hb
    simp [h b hb]
  unfold isProbablyText
  cases bytes with
  | nil => rfl
  | cons b r =>
    have hshare := zero_share (n := (b :: r).length) (Nat.succ_pos _)
    rw [hcount, decide_eq_true hshare]
    rfl

/-! ## Plain texts -/

/-- Is it no control character below the space but the tab, the line feed or
    the carriage return? -/
def isPlainChar (c : Char) : Bool := 32 ≤ c.toNat || c == '\t' || c == '\n' || c == '\r'

/-- A text without control characters below the space but the tab, the line
    feed and the carriage return. -/
def Plain (t : Text) : Prop := ∀ c ∈ t, isPlainChar c = true

instance (t : Text) : Decidable (Plain t) :=
  decidable_of_iff (t.all isPlainChar = true) List.all_eq_true

theorem isBinaryByte_eq_false {b : UInt8}
    (h : 32 ≤ b.toNat ∨ b.toNat = 9 ∨ b.toNat = 10 ∨ b.toNat = 13) : isBinaryByte b = false := by
  have hall : ∀ n < 256, (32 ≤ n ∨ n = 9 ∨ n = 10 ∨ n = 13) →
      isBinaryByte (UInt8.ofNat n) = false := by decide +kernel
  have hb := hall b.toNat b.toNat_lt h
  rwa [UInt8.ofNat_toNat] at hb

/-- A byte with the number of a plain character is no control byte. -/
theorem isBinaryByte_of_isPlainChar {b : UInt8} {c : Char} (hb : b.toNat = c.toNat)
    (hc : isPlainChar c = true) : isBinaryByte b = false := by
  apply isBinaryByte_eq_false
  rw [hb]
  simp only [isPlainChar, Bool.or_eq_true, decide_eq_true_eq, beq_iff_eq] at hc
  obtain ((h | rfl) | rfl) | rfl := hc
  · exact .inl h
  · exact .inr (.inl rfl)
  · exact .inr (.inr (.inl rfl))
  · exact .inr (.inr (.inr rfl))

end Kousei.Encoding
