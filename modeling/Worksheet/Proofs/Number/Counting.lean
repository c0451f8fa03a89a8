import Worksheet.Proofs.Number.Literal
import Worksheet.Proofs.Number.Sums

/-!
# Doubles of counts

Rounding does not make a positive number zero, unless the number is smaller than every double. So
the double of a natural number, however large, equals zero for the number zero only.

Results:
* `round_pos`: rounding a positive number.
* `toNat_pack_ne_zero`, `toNat_pack_round_ne_zero`: the bits of a positive number.
* `ofNat_beq_zero`: when the double of a natural number is zero.
-/

namespace Worksheet.Number

open Float.Model (Format UnpackedFloat totalExponent)
open Float.Model.UnpackedFloat (ExtendedMantissa Accuracy Sign shiftToExponent
  shiftToTargetExponent roundWithAccuracy)

/-! ## Shifting -/

theorem shiftRight_mantissa (em : ExtendedMantissa) (k : Nat) :
    (em >>> k).mantissa = em.mantissa / 2 ^ k := by
  show (k.repeat ExtendedMantissa.shiftRightOne em).mantissa = em.mantissa / 2 ^ k
  induction k with
  | zero => simp [Nat.repeat]
  | succ k ih =>
    show (k.repeat ExtendedMantissa.shiftRightOne em).mantissa / 2 = _
    rw [ih, Nat.div_div_eq_div_mul, Nat.pow_succ]

theorem mantissa_ofMantissaAndAccuracy (m : Nat) (accuracy : Accuracy) :
    (ExtendedMantissa.ofMantissaAndAccuracy m accuracy).mantissa = m := by
  cases accuracy with
  | exact => rfl
  | inexact order => cases order <;> rfl

theorem le_roundedMantissa (em : ExtendedMantissa) : em.mantissa ≤ em.roundedMantissa := by
  unfold ExtendedMantissa.roundedMantissa
  cases em.accuracy with
  | exact => exact Nat.le_refl _
  | inexact order => cases order <;> simp [Accuracy.roundToNearestEven]

/-- A shift to the exponent that the format asks for drops all bits but the first fifty-three, and
so not the leading one. -/
theorem shift_bounds {m : Nat} {e : Int} (hm : 0 < m) (he : -1074 ≤ e) (accuracy : Accuracy) :
    0 < (shiftToTargetExponent Format.binary64 m e accuracy).1.mantissa ∧
      (shiftToTargetExponent Format.binary64 m e accuracy).1.mantissa < 2 * hiddenBit ∧
      e ≤ (shiftToTargetExponent Format.binary64 m e accuracy).2 := by
  unfold shiftToTargetExponent shiftToExponent
  rw [Binary.targetExponent_eq, totalExponent]
  simp only [shiftRight_mantissa, mantissa_ofMantissaAndAccuracy]
  have hlow : 2 ^ m.log2 ≤ m := Nat.log2_self_le hm.ne'
  have hhigh : m < 2 ^ (m.log2 + 1) := Nat.lt_log2_self
  rcases Nat.le_total m.log2 52 with hshort | hlong
  · -- Nothing is dropped: the format asks for no exponent above the one that is there.
    have hamount : (max (((m.log2 + 1 : Nat) : Int) + e - 53) (-1074) - e).toNat = 0 := by omega
    have hbound : 2 ^ (m.log2 + 1) ≤ 2 * hiddenBit :=
      Nat.pow_le_pow_right (by decide : 0 < 2) (show m.log2 + 1 ≤ 53 by omega)
    push_cast at hamount
    rw [hamount, Nat.pow_zero, Nat.div_one]
    exact ⟨hm, Nat.lt_of_lt_of_le hhigh hbound, by omega⟩
  · obtain ⟨k, hk⟩ := Nat.exists_eq_add_of_le hlong
    have hamount : (max (((m.log2 : Nat) : Int) + 1 + e - 53) (-1074) - e).toNat = k := by omega
    rw [hamount]
    rw [hk] at hlow hhigh
    refine ⟨Nat.div_pos ?_ (Nat.two_pow_pos k), ?_, by omega⟩
    · exact Nat.le_trans (Nat.pow_le_pow_right (by decide) (by omega)) hlow
    · rw [Nat.div_lt_iff_lt_mul (Nat.two_pow_pos k)]
      calc m < 2 ^ (52 + k + 1) := hhigh
        _ = 2 * hiddenBit * 2 ^ k := by
          rw [show 52 + k + 1 = 53 + k by omega, Nat.pow_add]
          rfl

/-! ## Rounding -/

/-- Rounding keeps a positive number positive. -/
theorem round_pos {m : Nat} {e : Int} (hm : 0 < m) (he : -1074 ≤ e) (sign : Sign)
    (accuracy : Accuracy) :
    ∃ mantissa exponent pos, roundWithAccuracy Format.binary64 sign m e accuracy =
      .finite sign mantissa exponent pos ∧ mantissa < 2 * hiddenBit ∧ -1074 ≤ exponent := by
  obtain ⟨hfirst, -, hexponent⟩ := shift_bounds hm he accuracy
  have hrounded := Nat.lt_of_lt_of_le hfirst (le_roundedMantissa _)
  obtain ⟨hpos, hlt, hlast⟩ := shift_bounds hrounded (Int.le_trans he hexponent) .exact
  exact ⟨_, _, hpos, dif_neg hpos.ne', hlt, by omega⟩

/-- A positive number does not have the bits of zero. -/
theorem toNat_pack_ne_zero {mantissa : Nat} {exponent : Int} (pos : 0 < mantissa)
    (hmantissa : mantissa < 2 * hiddenBit) (hexponent : -1074 ≤ exponent) :
    (UnpackedFloat.pack Format.binary64 (.finite .positive mantissa exponent pos)).toNat ≠ 0 := by
  unfold UnpackedFloat.pack
  dsimp only
  split
  · decide
  · next hroom =>
    have hroom : ¬ 2048 ≤ (exponent + 1023 + 52).toNat + 1 := hroom
    split
    · have hbiased : (BitVec.ofNat 11 (exponent + 1023 + 52).toNat).toNat ≠ 0 := by
        rw [BitVec.toNat_ofNat]
        omega
      rw [toNat_packComponents]
      show (0 * 0x800 + (BitVec.ofNat 11 (exponent + 1023 + 52).toNat).toNat) * hiddenBit + _ ≠ 0
      exact Nat.ne_of_gt (Nat.add_pos_left (Nat.mul_pos (by omega) (by decide)) _)
    · next hlog =>
      have hshort : mantissa < hiddenBit := by
        have hlog : mantissa.log2 ≠ 52 := fun heq => hlog (congrArg (· + 1) heq)
        exact Nat.lt_of_not_le fun hle => hlog ((Nat.log2_eq_iff pos.ne').mpr ⟨hle, hmantissa⟩)
      rw [toNat_packComponents, BitVec.toNat_ofNat]
      have hmod : mantissa % 2 ^ 52 = mantissa := Nat.mod_eq_of_lt hshort
      show (0 * 0x800 + 0) * hiddenBit + mantissa % 2 ^ 52 ≠ 0
      omega

/-- A positive number, no smaller than every double, is not rounded to the bits of zero. -/
theorem toNat_pack_round_ne_zero {m : Nat} {e : Int} (hm : 0 < m) (he : -1074 ≤ e) :
    (UnpackedFloat.pack Format.binary64
      (roundWithAccuracy Format.binary64 .positive m e .exact)).toNat ≠ 0 := by
  obtain ⟨_, _, pos, hround, hbound, hleast⟩ := round_pos hm he .positive .exact
  rw [hround]
  exact toNat_pack_ne_zero pos hbound hleast

/-! ## Counts -/

/-- A double without a sign whose bits are not those of zero does not equal zero. -/
theorem beq_zero_of_toBits {x : Float} (h : x.toBits.toNat ≤ infinityBits)
    (hne : x.toBits.toNat ≠ 0) : (x == 0) = false := by
  rcases isFinite_or_eq_infinity h with hfinite | rfl
  · show (x.toModel.unpack.beq (0 : Float).toModel.unpack) = false
    rw [Binary.unpack_ofFloat hfinite (isNegative_of_le h) hne]
    rfl
  · rfl

theorem toBits_ofNat_ne_zero {n : Nat} (hpos : 0 < n) : (Float.ofNat n).toBits.toNat ≠ 0 := by
  by_cases hlt : n < 2 ^ 53
  · have hdouble := Binary.isDouble_ofNat hpos hlt
    rw [ofNat_eq_toFloat hpos hlt]
    exact toNat_pack_ne_zero hdouble.pos hdouble.lt hdouble.least
  · show (Float.ofScientific n false 0).toBits.toNat ≠ 0
    unfold Float.ofScientific
    rw [dif_neg fun hfast => hlt hfast.1]
    simp only [Bool.false_eq_true, if_false]
    show (UnpackedFloat.pack Format.binary64
      (UnpackedFloat.ofScientific Format.binary64 n 0)).toNat ≠ 0
    have hlarge : ¬ (0 : Int) < -((2 ^ Format.binary64.exponentBits : Int) + n.log2) := by
      show ¬ (0 : Int) < -(2048 + (n.log2 : Int))
      omega
    have hmantissa : 0 < n <<< 53 * 10 ^ 0 := by
      rw [Nat.shiftLeft_eq]
      positivity
    unfold UnpackedFloat.ofScientific
    rw [dif_neg hpos.ne', if_neg (by decide), if_neg hlarge, if_pos (Int.le_refl 0)]
    unfold UnpackedFloat.mul
    exact toNat_pack_round_ne_zero hmantissa (by decide : (-1074 : Int) ≤ -53 + 0)

/-- The double of a natural number is zero only for zero. -/
theorem ofNat_beq_zero (n : Nat) : (Float.ofNat n == 0) = decide (n = 0) := by
  rcases Nat.eq_zero_or_pos n with rfl | hpos
  · rfl
  · have hle : (Float.ofNat n).toBits.toNat ≤ infinityBits := toBits_ofScientific_le n false 0
    rw [beq_zero_of_toBits hle (toBits_ofNat_ne_zero hpos), decide_eq_false hpos.ne']

end Worksheet.Number
