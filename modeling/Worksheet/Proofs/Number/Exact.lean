import Mathlib.Tactic.Positivity
import Worksheet.Proofs.Number.Double

/-!
# Results that need no rounding

A number that is a double is not changed by rounding, however it is given: with zeros behind its
mantissa and a smaller exponent, or as a quotient of other numbers.

Results:
* `IsDouble.round_eq`: rounding a double with zeros behind its mantissa.
* `IsDouble.div_eq`: a quotient that is a double.
* `normalize_mul_pow`: a natural number with zeros behind it.
* `IsDouble.ofScientific_fraction`, `IsDouble.ofScientific_whole`: a decimal that is a double, with
  a fraction and without.
-/

namespace Worksheet.Number.Binary

open Float.Model (Format UnpackedFloat totalExponent)
open Float.Model.UnpackedFloat (ExtendedMantissa Accuracy Sign shiftToExponent
  shiftToTargetExponent roundWithAccuracy divCore accuracyOfFraction)

/-! ## Leading bits -/

theorem log2_mul_pow {m : Nat} (hm : m ≠ 0) (k : Nat) : (m * 2 ^ k).log2 = m.log2 + k := by
  induction k with
  | zero => simp
  | succ k ih =>
    have hne : m * 2 ^ k ≠ 0 := by positivity
    rw [pow_succ, ← Nat.mul_assoc, Nat.mul_comm _ 2, Nat.log2_two_mul hne, ih, Nat.add_assoc]

theorem log2_mul_le {m n : Nat} (hm : m ≠ 0) (hn : n ≠ 0) :
    (m * n).log2 ≤ m.log2 + n.log2 + 1 := by
  have hne : m * n ≠ 0 := Nat.mul_ne_zero hm hn
  refine Nat.lt_succ_iff.mp ((Nat.log2_lt hne).mpr ?_)
  calc m * n < 2 ^ (m.log2 + 1) * 2 ^ (n.log2 + 1) :=
        Nat.mul_lt_mul'' Nat.lt_log2_self Nat.lt_log2_self
    _ = 2 ^ (m.log2 + n.log2 + 1 + 1) := by
        rw [← pow_add]
        congr 1
        omega

/-! ## Exponents -/

theorem targetExponent_eq (total : Int) :
    Format.binary64.targetExponent total = max (total - 53) (-1074) := rfl

theorem targetExponent_mono {a b : Int} (h : a ≤ b) :
    Format.binary64.targetExponent a ≤ Format.binary64.targetExponent b := by
  rw [targetExponent_eq, targetExponent_eq]
  omega

variable {b : Binary}

/-- The exponent of a double is the one that its format asks for. -/
theorem IsDouble.targetExponent (h : b.IsDouble) :
    Format.binary64.targetExponent (totalExponent b.mantissa b.exponent) = b.exponent := by
  rw [targetExponent_eq, totalExponent]
  have hle : b.mantissa.log2 < 53 := (Nat.log2_lt h.pos.ne').mpr h.lt
  have hleast := h.least
  rcases h.normal with hn | hn
  · have := h.log2_normal hn
    omega
  · omega

/-! ## Rounding -/

theorem shiftRight_zeros (m k : Nat) :
    (ExtendedMantissa.mk (m * 2 ^ k) false false) >>> k = ⟨m, false, false⟩ := by
  show k.repeat ExtendedMantissa.shiftRightOne ⟨m * 2 ^ k, false, false⟩ = ⟨m, false, false⟩
  induction k generalizing m with
  | zero => simp [Nat.repeat]
  | succ k ih =>
    have hshift : m * 2 ^ (k + 1) = m * 2 * 2 ^ k := by
      rw [pow_succ, Nat.mul_assoc, Nat.mul_comm 2]
    rw [Nat.repeat, hshift, ih (m * 2)]
    simp [ExtendedMantissa.shiftRightOne]

theorem IsDouble.shift_eq (h : b.IsDouble) (k : Nat) :
    shiftToTargetExponent Format.binary64 (b.mantissa * 2 ^ k) (b.exponent - k) .exact =
      (⟨b.mantissa, false, false⟩, b.exponent) := by
  have htotal : totalExponent (b.mantissa * 2 ^ k) (b.exponent - k) =
      totalExponent b.mantissa b.exponent := by
    unfold totalExponent
    rw [log2_mul_pow h.pos.ne']
    push_cast
    omega
  have hamount : (b.exponent - (b.exponent - k)).toNat = k := by omega
  unfold shiftToTargetExponent shiftToExponent
  rw [htotal, h.targetExponent]
  simp only [hamount, ExtendedMantissa.ofMantissaAndAccuracy, shiftRight_zeros]
  congr 1
  omega

/-- A double with zeros behind its mantissa is rounded to itself. -/
theorem IsDouble.round_eq (h : b.IsDouble) (sign : Sign) (k : Nat) :
    roundWithAccuracy Format.binary64 sign (b.mantissa * 2 ^ k) (b.exponent - k) .exact =
      .finite sign b.mantissa b.exponent h.pos := by
  have hfirst := h.shift_eq k
  have hsecond := h.shift_eq 0
  rw [pow_zero, Nat.mul_one, Nat.cast_zero, Int.sub_zero] at hsecond
  unfold roundWithAccuracy
  rw [hfirst]
  dsimp only [ExtendedMantissa.roundedMantissa, ExtendedMantissa.accuracy,
    Accuracy.roundToNearestEven]
  rw [hsecond]
  exact dif_neg h.pos.ne'

/-! ## Quotients -/

/-- The leading bit of a quotient stands where it does in the double that it is. -/
theorem IsDouble.total_le (h : b.IsDouble) {m₁ m₂ i j : Nat} {e₁ e₂ : Int} (h₁ : 0 < m₁)
    (h₂ : 0 < m₂) (hij : (i : Int) - j = e₁ - e₂ - b.exponent)
    (heq : m₁ * 2 ^ i = b.mantissa * m₂ * 2 ^ j) :
    totalExponent m₁ e₁ - totalExponent m₂ e₂ ≤ totalExponent b.mantissa b.exponent := by
  have hlog : m₁.log2 + i = (b.mantissa * m₂).log2 + j := by
    rw [← log2_mul_pow h₁.ne', heq, log2_mul_pow (Nat.mul_ne_zero h.pos.ne' h₂.ne')]
  have hle := log2_mul_le h.pos.ne' h₂.ne'
  unfold totalExponent
  omega

/-- A quotient that is a double has no remainder, once enough zeros stand behind the dividend. -/
theorem IsDouble.divCore_eq (h : b.IsDouble) {m₁ m₂ i j : Nat} {e₁ e₂ : Int} (h₁ : 0 < m₁)
    (h₂ : 0 < m₂) (hij : (i : Int) - j = e₁ - e₂ - b.exponent)
    (heq : m₁ * 2 ^ i = b.mantissa * m₂ * 2 ^ j) :
    ∃ k : Nat, divCore Format.binary64 m₁ e₁ m₂ e₂ =
      (b.mantissa * 2 ^ k, b.exponent - k, .exact) := by
  let target := min (e₁ - e₂)
    (Format.binary64.targetExponent (totalExponent m₁ e₁ - totalExponent m₂ e₂))
  let shift := (e₁ - e₂ - target).toNat
  let k := (b.exponent - target).toNat
  have hmono := targetExponent_mono (h.total_le h₁ h₂ hij heq)
  rw [h.targetExponent] at hmono
  have htarget : target ≤ b.exponent := Int.le_trans (Int.min_le_right _ _) hmono
  have hquotient : target ≤ e₁ - e₂ := Int.min_le_left _ _
  have hexponent : target = b.exponent - k := by omega
  have hzeros : shift + j = k + i := by omega
  have hdividend : m₁ <<< shift = b.mantissa * 2 ^ k * m₂ := by
    rw [Nat.shiftLeft_eq]
    refine Nat.eq_of_mul_eq_mul_right (Nat.two_pow_pos i) ?_
    calc m₁ * 2 ^ shift * 2 ^ i = m₁ * 2 ^ i * 2 ^ shift := by ring
      _ = b.mantissa * m₂ * 2 ^ (shift + j) := by rw [heq, pow_add]; ring
      _ = b.mantissa * 2 ^ k * m₂ * 2 ^ i := by rw [hzeros, pow_add]; ring
  refine ⟨k, ?_⟩
  show (m₁ <<< shift / m₂, target, accuracyOfFraction (m₁ <<< shift % m₂) m₂) = _
  rw [hdividend, Nat.mul_div_cancel _ h₂, Nat.mul_mod_left, ← hexponent]
  rfl

theorem IsDouble.div_eq (h : b.IsDouble) {m₁ m₂ i j : Nat} {e₁ e₂ : Int} (h₁ : 0 < m₁)
    (h₂ : 0 < m₂) (hij : (i : Int) - j = e₁ - e₂ - b.exponent)
    (heq : m₁ * 2 ^ i = b.mantissa * m₂ * 2 ^ j) :
    UnpackedFloat.div Format.binary64 (.finite .positive m₁ e₁ h₁) (.finite .positive m₂ e₂ h₂) =
      .finite .positive b.mantissa b.exponent h.pos := by
  obtain ⟨k, hcore⟩ := h.divCore_eq h₁ h₂ hij heq
  unfold UnpackedFloat.div
  dsimp only
  rw [hcore]
  exact h.round_eq _ k

/-! ## Decimals -/

/-- All digits of a double with a fraction are too many for the fast path. -/
theorem IsDouble.not_fast (h : b.IsDouble) {k : Nat} (hk : b.exponent = -(k : Int))
    (hpos : 0 < k) : ¬ (b.mantissa * 5 ^ k < 2 ^ 53 ∧ k ≤ 22) := by
  rintro ⟨hshort, hle⟩
  rcases h.normal with hn | hn
  · have hfive : 5 ≤ 5 ^ k := Nat.le_self_pow (by omega) 5
    have hlong : hiddenBit * 5 ≤ b.mantissa * 5 ^ k := Nat.mul_le_mul hn hfive
    unfold hiddenBit at hlong
    omega
  · omega

/-- All digits of a double with a fraction are read as the double. -/
theorem IsDouble.ofScientific_fraction (h : b.IsDouble) {k : Nat} (hk : b.exponent = -(k : Int))
    (hpos : 0 < k) : Float.ofScientific (b.mantissa * 5 ^ k) true k = b.toFloat h := by
  have hmantissa : 0 < b.mantissa * 5 ^ k := Nat.mul_pos h.pos (by positivity)
  have hleast := h.least
  have hneg : Int.negOfNat k = -(k : Int) := rfl
  have hnat : (-(-(k : Int))).toNat = k := by omega
  have hdiv := @IsDouble.div_eq b h _ (10 ^ (-(-(k : Int))).toNat) k 0 0 0 hmantissa (by positivity)
    (by omega) (by rw [hnat, pow_zero, Nat.mul_one, Nat.mul_assoc, ← Nat.mul_pow])
  have hsmall : ¬ (-(k : Int)) > 2 ^ Format.binary64.exponentBits := by
    show ¬ (-(k : Int)) > 2048
    omega
  have hlarge : ¬ (-(k : Int)) < -((2 ^ Format.binary64.exponentBits : Int) +
      (b.mantissa * 5 ^ k).log2) := by
    show ¬ (-(k : Int)) < -(2048 + ((b.mantissa * 5 ^ k).log2 : Int))
    omega
  have hsign : ¬ (0 : Int) ≤ -(k : Int) := by omega
  unfold Float.ofScientific
  rw [dif_neg (h.not_fast hk hpos)]
  simp only [if_true, hneg]
  unfold Float.Model.ofScientific UnpackedFloat.ofScientific
  rw [dif_neg hmantissa.ne', if_neg hsmall, if_neg hlarge, if_neg hsign, hdiv]
  rfl

/-! ## Natural numbers -/

/-- A positive natural number with zeros behind it, up to fifty-three binary digits. -/
def ofNat (n : Nat) : Binary :=
  ⟨n * 2 ^ (52 - n.log2), (n.log2 : Int) - 52⟩

variable {n : Nat}

theorem isDouble_ofNat (hpos : 0 < n) (hlt : n < 2 ^ 53) : (ofNat n).IsDouble := by
  have hlog : n.log2 < 53 := (Nat.log2_lt hpos.ne').mpr hlt
  have hlow : 2 ^ n.log2 ≤ n := Nat.log2_self_le hpos.ne'
  have hhigh : n < 2 ^ (n.log2 + 1) := Nat.lt_log2_self
  constructor
  case pos => exact Nat.mul_pos hpos (Nat.two_pow_pos _)
  case lt =>
    calc n * 2 ^ (52 - n.log2) < 2 ^ (n.log2 + 1) * 2 ^ (52 - n.log2) :=
          Nat.mul_lt_mul_of_pos_right hhigh (Nat.two_pow_pos _)
      _ = 2 ^ 53 := by rw [← Nat.pow_add]; congr 1; omega
  case least =>
    show (-1074 : Int) ≤ n.log2 - 52
    omega
  case most =>
    show (n.log2 : Int) - 52 ≤ 971
    omega
  case normal =>
    refine .inl ?_
    calc hiddenBit = 2 ^ n.log2 * 2 ^ (52 - n.log2) := by
          rw [← Nat.pow_add, Nat.add_sub_cancel' (by omega)]
          rfl
      _ ≤ n * 2 ^ (52 - n.log2) := Nat.mul_le_mul_right _ hlow

/-- However many zeros stand behind a natural number, it is rounded to its double. -/
theorem normalize_mul_pow (hpos : 0 < n) (hlt : n < 2 ^ 53) (k : Nat) :
    UnpackedFloat.normalize Format.binary64 ((n * 2 ^ k : Nat) : Int) (-(k : Int)) .positive =
      .finite .positive (ofNat n).mantissa (ofNat n).exponent (isDouble_ofNat hpos hlt).pos := by
  have hlog : n.log2 < 53 := (Nat.log2_lt hpos.ne').mpr hlt
  have hcompare : compare ((n * 2 ^ k : Nat) : Int) 0 = .gt := by
    rw [compare_gt_iff_gt]
    exact Int.natCast_pos.mpr (Nat.mul_pos hpos (Nat.two_pow_pos _))
  have htarget : Format.binary64.targetExponent (totalExponent (n * 2 ^ k) (-(k : Int))) =
      (n.log2 : Int) - 52 := by
    rw [targetExponent_eq, totalExponent, log2_mul_pow hpos.ne']
    push_cast
    omega
  -- Zeros are put behind the number until it has the digits of a double, none if it has more.
  let zeros := (-(k : Int) - ((n.log2 : Int) - 52)).toNat
  have hsplit : k + zeros = 52 - n.log2 + (k + zeros - (52 - n.log2)) := by omega
  have hmantissa : (n * 2 ^ k) <<< zeros =
      (ofNat n).mantissa * 2 ^ (k + zeros - (52 - n.log2)) := by
    show _ = n * 2 ^ (52 - n.log2) * _
    rw [Nat.shiftLeft_eq, Nat.mul_assoc, Nat.mul_assoc, ← Nat.pow_add, ← Nat.pow_add, ← hsplit]
  have hexponent : -(k : Int) - zeros =
      (ofNat n).exponent - ((k + zeros - (52 - n.log2) : Nat) : Int) := by
    show _ = (n.log2 : Int) - 52 - _
    omega
  unfold UnpackedFloat.normalize
  rw [hcompare]
  dsimp only
  rw [Int.toNat_natCast]
  unfold UnpackedFloat.round
  rw [htarget]
  show roundWithAccuracy Format.binary64 .positive ((n * 2 ^ k) <<< zeros) (-(k : Int) - zeros)
    .exact = _
  rw [hmantissa, hexponent]
  exact (isDouble_ofNat hpos hlt).round_eq .positive _

/-- A natural number with at most fifty-three binary digits is converted exactly. -/
theorem toFloat_toUInt64 (hpos : 0 < n) (hlt : n < 2 ^ 53) :
    n.toUInt64.toFloat = (ofNat n).toFloat (isDouble_ofNat hpos hlt) := by
  have hnat : n.toUInt64.toNat = n := Nat.mod_eq_of_lt (Nat.lt_trans hlt (by decide))
  have hnormal := normalize_mul_pow hpos hlt 0
  rw [Nat.pow_zero, Nat.mul_one] at hnormal
  show Float.ofModel (.pack (UnpackedFloat.normalize Format.binary64
    (n.toUInt64.toNat : Int) 0 .positive)) = _
  rw [hnat]
  exact congrArg (fun u => Float.ofModel (.pack u)) hnormal

/-! ## Whole decimals -/

/-- The number one, as the fast path multiplies by it. -/
theorem unpack_one : (Float.exactlyRepresentablePowersOfTen[0]).toModel.unpack =
    .finite .positive hiddenBit (-52) (by decide) := rfl

theorem IsDouble.mul_one (h : b.IsDouble) :
    b.toFloat h * Float.exactlyRepresentablePowersOfTen[0] = b.toFloat h := by
  show Float.ofModel (.pack (UnpackedFloat.mul Format.binary64 (b.toFloat h).toModel.unpack
    (Float.exactlyRepresentablePowersOfTen[0]).toModel.unpack)) = _
  rw [unpack_toFloat, unpack_one]
  unfold UnpackedFloat.mul
  dsimp only
  have hround := h.round_eq .positive 52
  have hexponent : b.exponent + -52 = b.exponent - (52 : Nat) := rfl
  rw [hexponent, show hiddenBit = 2 ^ 52 from rfl]
  show Float.ofModel (.pack (roundWithAccuracy Format.binary64 .positive _ _ .exact)) = _
  rw [hround]
  rfl

/-- A whole double without zeros behind its mantissa is made from its mantissa. -/
theorem IsDouble.toFloat_mantissa (h : b.IsDouble) (he : b.exponent = 0) :
    b.mantissa.toUInt64.toFloat = b.toFloat h := by
  have hn : hiddenBit ≤ b.mantissa := h.normal.resolve_right (by omega)
  have hself : ofNat b.mantissa = b := by
    unfold ofNat
    rw [h.log2_normal hn, Nat.sub_self, Nat.pow_zero, Nat.mul_one]
    exact congrArg (Binary.mk b.mantissa) he.symm
  rw [toFloat_toUInt64 h.pos h.lt]
  congr 1

theorem IsDouble.ofScientific_whole (h : b.IsDouble) {k : Nat} (hk : b.exponent = k) :
    Float.ofScientific (b.mantissa * 2 ^ k) false 0 = b.toFloat h := by
  have hmantissa : 0 < b.mantissa * 2 ^ k := Nat.mul_pos h.pos (by positivity)
  have hn : hiddenBit ≤ b.mantissa := h.normal.resolve_right (by omega)
  unfold Float.ofScientific
  by_cases hfast : b.mantissa * 2 ^ k < 2 ^ 53 ∧ 0 ≤ 22
  · have hzero : k = 0 := by
      refine Nat.eq_zero_of_not_pos fun hpos => ?_
      have htwo : 2 ≤ 2 ^ k := Nat.le_self_pow (by omega) 2
      have hlong : hiddenBit * 2 ≤ b.mantissa * 2 ^ k := Nat.mul_le_mul hn htwo
      unfold hiddenBit at hlong
      omega
    subst hzero
    rw [dif_pos hfast]
    simp only [pow_zero, Nat.mul_one, Bool.false_eq_true, if_false]
    rw [h.toFloat_mantissa hk]
    exact h.mul_one
  · rw [dif_neg hfast]
    simp only [Bool.false_eq_true, if_false]
    have hlarge : ¬ (0 : Int) < -((2 ^ Format.binary64.exponentBits : Int) +
        (b.mantissa * 2 ^ k).log2) := by
      show ¬ (0 : Int) < -(2048 + ((b.mantissa * 2 ^ k).log2 : Int))
      omega
    have hround := h.round_eq .positive (k + 53)
    have hshift : (b.mantissa * 2 ^ k) <<< Format.binary64.mantissaBits * 10 ^ (0 : Int).toNat =
        b.mantissa * 2 ^ (k + 53) := by
      show (b.mantissa * 2 ^ k) <<< 53 * 1 = _
      rw [Nat.shiftLeft_eq, Nat.mul_one, Nat.mul_assoc, pow_add]
    have hexponent : -((Format.binary64.mantissaBits : Nat) : Int) + 0 =
        b.exponent - ((k + 53 : Nat) : Int) := by
      show -((53 : Nat) : Int) + 0 = _
      omega
    show Float.ofModel (.pack (UnpackedFloat.ofScientific Format.binary64 _ 0)) = _
    unfold UnpackedFloat.ofScientific
    rw [dif_neg hmantissa.ne', if_neg (by decide), if_neg hlarge, if_pos (Int.le_refl 0)]
    unfold UnpackedFloat.mul
    simp only [hshift, hexponent]
    show Float.ofModel (.pack (roundWithAccuracy Format.binary64 .positive _ _ .exact)) = _
    rw [hround]
    rfl

end Worksheet.Number.Binary
