import Worksheet.Proofs.Number.Exact

/-!
# Sums of counts

A natural number with at most fifty-three binary digits is a double, and so is the sum of two of
them if it has no more digits. Such numbers are added without rounding.

Results:
* `ofNat_eq_toFloat`: the double of a natural number.
* `ofNat_add`: the sum of two natural numbers.
-/

namespace Worksheet.Number

open Float.Model (Format UnpackedFloat)
open Float.Model.UnpackedFloat (decreaseExponent)

namespace Binary

/-- A natural number with more zeros behind it, up to any place behind the point. -/
theorem decreaseExponent_ofNat {n k : Nat} (hlog : n.log2 ≤ 52) (hk : 52 - n.log2 ≤ k) :
    (decreaseExponent (ofNat n).mantissa (ofNat n).exponent (-(k : Int))).1 = n * 2 ^ k := by
  have hamount : ((n.log2 : Int) - 52 - -(k : Int)).toNat = k - (52 - n.log2) := by omega
  show (n * 2 ^ (52 - n.log2)) <<< ((n.log2 : Int) - 52 - -(k : Int)).toNat = n * 2 ^ k
  rw [hamount, Nat.shiftLeft_eq, Nat.mul_assoc, ← Nat.pow_add, Nat.add_sub_cancel' hk]

end Binary

variable {m n : Nat}

/-- The double of a natural number. -/
theorem ofNat_eq_toFloat (hpos : 0 < n) (hlt : n < 2 ^ 53) :
    Float.ofNat n = (Binary.ofNat n).toFloat (Binary.isDouble_ofNat hpos hlt) := by
  show Float.ofScientific n false 0 = _
  unfold Float.ofScientific
  rw [dif_pos ⟨hlt, by decide⟩]
  simp only [Bool.false_eq_true, if_false]
  rw [Binary.toFloat_toUInt64 hpos hlt]
  exact (Binary.isDouble_ofNat hpos hlt).mul_one

theorem unpack_ofNat (hpos : 0 < n) (hlt : n < 2 ^ 53) :
    (Float.ofNat n).toModel.unpack = .finite .positive (Binary.ofNat n).mantissa
      (Binary.ofNat n).exponent (Binary.isDouble_ofNat hpos hlt).pos := by
  rw [ofNat_eq_toFloat hpos hlt, Binary.unpack_toFloat]

/-- Zero is added to a natural number without a change, on either side. -/
theorem ofNat_add_zero (hlt : n < 2 ^ 53) :
    Float.ofNat n + Float.ofNat 0 = Float.ofNat n ∧
      Float.ofNat 0 + Float.ofNat n = Float.ofNat n := by
  have hzero : (Float.ofNat 0).toModel.unpack = .zero .positive := rfl
  rcases Nat.eq_zero_or_pos n with rfl | hpos
  · exact ⟨rfl, rfl⟩
  · constructor
    · show Float.ofModel (.pack (UnpackedFloat.add Format.binary64 _ _)) = _
      rw [unpack_ofNat hpos hlt, hzero, ofNat_eq_toFloat hpos hlt]
      rfl
    · show Float.ofModel (.pack (UnpackedFloat.add Format.binary64 _ _)) = _
      rw [unpack_ofNat hpos hlt, hzero, ofNat_eq_toFloat hpos hlt]
      rfl

/-- Natural numbers whose sum has at most fifty-three binary digits are added exactly. -/
theorem ofNat_add (h : m + n < 2 ^ 53) :
    Float.ofNat m + Float.ofNat n = Float.ofNat (m + n) := by
  rcases Nat.eq_zero_or_pos m with rfl | hm
  · rw [Nat.zero_add] at h ⊢
    exact (ofNat_add_zero h).2
  rcases Nat.eq_zero_or_pos n with rfl | hn
  · exact (ofNat_add_zero h).1
  have hmlt : m < 2 ^ 53 := by omega
  have hnlt : n < 2 ^ 53 := by omega
  have hmlog : m.log2 < 53 := (Nat.log2_lt hm.ne').mpr hmlt
  have hnlog : n.log2 < 53 := (Nat.log2_lt hn.ne').mpr hnlt
  -- Both numbers are written with as many zeros behind them as the shorter one has.
  let k := max (52 - m.log2) (52 - n.log2)
  have hsmaller : min (Binary.ofNat m).exponent (Binary.ofNat n).exponent = -(k : Int) := by
    show min ((m.log2 : Int) - 52) (n.log2 - 52) = -(k : Int)
    omega
  have hmdigits := Binary.decreaseExponent_ofNat (by omega) (Nat.le_max_left _ _ : _ ≤ k)
  have hndigits := Binary.decreaseExponent_ofNat (by omega) (Nat.le_max_right _ _ : _ ≤ k)
  have hsum : ((m * 2 ^ k : Nat) : Int) + ((n * 2 ^ k : Nat) : Int) =
      (((m + n) * 2 ^ k : Nat) : Int) := by
    rw [Nat.add_mul]
    rfl
  show Float.ofModel (.pack (UnpackedFloat.add Format.binary64 _ _)) = _
  rw [unpack_ofNat hm hmlt, unpack_ofNat hn hnlt]
  unfold UnpackedFloat.add
  dsimp only
  rw [hsmaller, hmdigits, hndigits]
  show Float.ofModel (.pack (UnpackedFloat.normalize Format.binary64
    (((m * 2 ^ k : Nat) : Int) + ((n * 2 ^ k : Nat) : Int)) _ _)) = _
  rw [hsum, Binary.normalize_mul_pow (Nat.add_pos_left hm n) h k,
    ofNat_eq_toFloat (Nat.add_pos_left hm n) h]
  rfl

end Worksheet.Number
