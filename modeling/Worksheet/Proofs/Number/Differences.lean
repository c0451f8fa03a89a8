import Worksheet.Proofs.Number.Literal

/-!
# Differences of doubles

Rounding yields no NaN, and packing makes none of other numbers. So the difference of two doubles is
NaN only if one of them is, or both are infinite.

Results:
* `isNaN_unpack_pack`: packing and NaN.
* `isNaN_sub`: the difference from a finite number.
* `isNaN_abs`: the magnitude of a number.
-/

namespace Worksheet.Number

open Float.Model (Format UnpackedFloat)
open Float.Model.UnpackedFloat (Sign Accuracy roundWithAccuracy)

/-! ## NaN and the packed form -/

theorem isNaN_eq_false_of_isFinite {u : UnpackedFloat} (h : u.isFinite = true) :
    u.isNaN = false := by
  cases u with
  | notANumber => cases h
  | _ => rfl

/-- A number that is packed is NaN only if it was NaN before. -/
theorem isNaN_unpack_pack (u : UnpackedFloat) : (Float.Model.pack u).unpack.isNaN = u.isNaN := by
  cases u with
  | notANumber => rfl
  | infinity sign => cases sign <;> rfl
  | zero sign => cases sign <;> rfl
  | finite sign mantissa exponent pos =>
    show (UnpackedFloat.unpack Format.binary64 (UnpackedFloat.pack Format.binary64 _)).isNaN = false
    unfold UnpackedFloat.pack
    dsimp only
    split
    · cases sign <;> rfl
    · next hroom =>
      have hroom : ¬ 2048 ≤ (exponent + 1023 + 52).toNat + 1 := hroom
      apply isNaN_eq_false_of_isFinite
      split
      · apply isFinite_of_exponent
        rw [UnpackedFloat.unpackExponent_packComponents]
        refine ne_of_toNat ?_
        rw [BitVec.toNat_ofNat]
        show (exponent + 1023 + 52).toNat % 2048 ≠ 2047
        omega
      · apply isFinite_of_exponent
        rw [UnpackedFloat.unpackExponent_packComponents]
        decide

/-! ## Operations -/

theorem isNaN_of_mantissa (sign : Sign) (mantissa : Nat) (exponent : Int) :
    UnpackedFloat.isNaN (if h : mantissa = 0 then .zero sign
      else .finite sign mantissa exponent (Nat.pos_of_ne_zero h)) = false := by
  cases mantissa with
  | zero => rfl
  | succ n => rfl

theorem isNaN_roundWithAccuracy (sign : Sign) (mantissa : Nat) (exponent : Int)
    (accuracy : Accuracy) :
    (roundWithAccuracy Format.binary64 sign mantissa exponent accuracy).isNaN = false :=
  isNaN_of_mantissa _ _ _

theorem isNaN_normalize (mantissa exponent : Int) (sign : Sign) :
    (UnpackedFloat.normalize Format.binary64 mantissa exponent sign).isNaN = false := by
  unfold UnpackedFloat.normalize
  split
  · exact isNaN_roundWithAccuracy _ _ _ _
  · rfl
  · exact isNaN_roundWithAccuracy _ _ _ _

theorem isNaN_sub_of_isFinite {u w : UnpackedFloat} (hu : u.isNaN = false)
    (hw : w.isFinite = true) : (UnpackedFloat.sub Format.binary64 u w).isNaN = false := by
  cases w with
  | notANumber => cases hw
  | infinity => cases hw
  | zero sign' =>
    cases u with
    | notANumber => cases hu
    | infinity => rfl
    | zero sign => cases sign <;> cases sign' <;> rfl
    | finite => rfl
  | finite =>
    cases u with
    | notANumber => cases hu
    | infinity => rfl
    | zero => rfl
    | finite => exact isNaN_normalize _ _ _

variable {x y : Float}

/-- The difference from a finite number. -/
theorem isNaN_sub (hx : x.isNaN = false) (hy : y.isFinite = true) : (x - y).isNaN = false :=
  (isNaN_unpack_pack _).trans (isNaN_sub_of_isFinite hx hy)

theorem isNaN_abs : x.abs.isNaN = x.isNaN := by
  refine (isNaN_unpack_pack _).trans ?_
  show (x.toModel.unpack.abs).isNaN = x.toModel.unpack.isNaN
  cases x.toModel.unpack <;> rfl

end Worksheet.Number
