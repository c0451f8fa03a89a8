import Worksheet.Proofs.Number.Digits
import Worksheet.Proofs.Number.Double

/-!
# Doubles of decimals

A decimal has no sign, and neither has its double: it is finite, or infinity if the decimal is too
large. So the bits of such a double are at most those of infinity, whichever way it is computed:
by one exact operation on a short coefficient, or by rounding.

Results:
* `toNat_pack_le`, `unsigned_unpack`: the bits of numbers without a sign.
* `toBits_toFloat_le`: the bits of the double of a decimal.
* `isFinite_or_eq_infinity`: a double with such bits is finite or infinity.
* `toBits_le_of_read`: a text that starts with a digit is read as such a double.
-/

namespace Worksheet.Number

open Float.Model (Format UnpackedFloat)
open Float.Model.UnpackedFloat (unpackMantissa unpackExponent unpackSign roundWithAccuracy Accuracy)

/-! ## Numbers without a sign -/

/-- The bits of infinity. -/
def infinityBits : Nat := 0x7FF0000000000000

/-- Zero, a positive finite number or infinity. -/
inductive Unsigned : UnpackedFloat → Prop
  | zero : Unsigned (.zero .positive)
  | infinity : Unsigned (.infinity .positive)
  | finite (mantissa exponent pos) : Unsigned (.finite .positive mantissa exponent pos)

/-- Fields of bits without the sign bit, the exponent not the one of infinity. -/
theorem toNat_packComponents_le {biased : BitVec 11} {fraction : BitVec 52}
    (h : biased.toNat < 0x7FF) :
    (UnpackedFloat.packComponents Format.binary64 .positive biased fraction).toNat ≤
      infinityBits := by
  have hfraction : fraction.toNat < hiddenBit := fraction.isLt
  rw [toNat_packComponents]
  show (0 * 0x800 + biased.toNat) * hiddenBit + fraction.toNat ≤ infinityBits
  unfold hiddenBit infinityBits at *
  omega

theorem toNat_pack_le {u : UnpackedFloat} (h : Unsigned u) :
    (UnpackedFloat.pack Format.binary64 u).toNat ≤ infinityBits := by
  cases h with
  | zero => decide
  | infinity => decide
  | finite mantissa exponent pos =>
    unfold UnpackedFloat.pack
    dsimp only
    split
    · decide
    · next hroom =>
      have hbiased : ∀ biased : Nat, ¬ 2 ^ Format.binary64.exponentBits ≤ biased + 1 →
          (BitVec.ofNat 11 biased).toNat < 0x7FF := by
        intro biased hlt
        have hlt : ¬ 2048 ≤ biased + 1 := hlt
        rw [BitVec.toNat_ofNat]
        omega
      split
      · exact toNat_packComponents_le (hbiased _ hroom)
      · exact toNat_packComponents_le (by decide)

theorem unsigned_unpack {bits : BitVec Format.binary64.numBits} (h : bits.toNat ≤ infinityBits) :
    Unsigned (UnpackedFloat.unpack Format.binary64 bits) := by
  have hsign : unpackSign bits = 0#1 := by
    refine unpackSign_eq ?_
    unfold infinityBits at h
    unfold signBit
    omega
  have hpositive : UnpackedFloat.Sign.ofBitVec (unpackSign bits) = .positive := by
    rw [hsign]
    rfl
  unfold UnpackedFloat.unpack
  dsimp only
  rw [hpositive]
  by_cases hones : unpackExponent bits = -1#_
  · have hmantissa : unpackMantissa bits = 0#_ := by
      have hexponent := congrArg BitVec.toNat hones
      rw [toNat_unpackExponent] at hexponent
      have hexponent : bits.toNat / hiddenBit % 0x800 = 0x7FF := hexponent
      refine BitVec.eq_of_toNat_eq ?_
      rw [toNat_unpackMantissa]
      show bits.toNat % hiddenBit = 0
      unfold hiddenBit infinityBits at *
      omega
    rw [if_pos hones, if_pos hmantissa]
    exact .infinity
  · rw [if_neg hones]
    by_cases hleast : unpackExponent bits = 0#_
    · rw [if_pos hleast]
      by_cases hmantissa : unpackMantissa bits = 0#_
      · rw [dif_pos hmantissa]
        exact .zero
      · rw [dif_neg hmantissa]
        exact .finite ..
    · rw [if_neg hleast]
      exact .finite ..

/-- Bits whose exponent is not the greatest are those of a finite number. -/
theorem isFinite_of_exponent {bits : BitVec Format.binary64.numBits}
    (h : unpackExponent bits ≠ -1#_) :
    (UnpackedFloat.unpack Format.binary64 bits).isFinite = true := by
  unfold UnpackedFloat.unpack
  dsimp only
  rw [if_neg h]
  by_cases hleast : unpackExponent bits = 0#_
  · rw [if_pos hleast]
    by_cases hmantissa : unpackMantissa bits = 0#_
    · rw [dif_pos hmantissa]
      rfl
    · rw [dif_neg hmantissa]
      rfl
  · rw [if_neg hleast]
    rfl

/-- Fewer bits than those of infinity are those of a finite number. -/
theorem isFinite_unpack {bits : BitVec Format.binary64.numBits} (h : bits.toNat < infinityBits) :
    (UnpackedFloat.unpack Format.binary64 bits).isFinite = true := by
  refine isFinite_of_exponent (ne_of_toNat ?_)
  rw [toNat_unpackExponent]
  show bits.toNat / hiddenBit % 0x800 ≠ 0x7FF
  unfold hiddenBit infinityBits at *
  omega

theorem Unsigned.unpack_pack {u : UnpackedFloat} (h : Unsigned u) :
    Unsigned (Float.Model.pack u).unpack :=
  unsigned_unpack (toNat_pack_le h)

/-! ## Operations -/

theorem unsigned_of_mantissa (mantissa : Nat) (exponent : Int) :
    Unsigned (if h : mantissa = 0 then .zero .positive
      else .finite .positive mantissa exponent (Nat.pos_of_ne_zero h)) := by
  cases mantissa with
  | zero => exact .zero
  | succ n => exact .finite ..

theorem unsigned_round (mantissa : Nat) (exponent : Int) (accuracy : Accuracy) :
    Unsigned (roundWithAccuracy Format.binary64 .positive mantissa exponent accuracy) := by
  exact unsigned_of_mantissa _ _

theorem Unsigned.mul {u : UnpackedFloat} (h : Unsigned u) (mantissa : Nat) (exponent : Int)
    (pos : 0 < mantissa) :
    Unsigned (UnpackedFloat.mul Format.binary64 u (.finite .positive mantissa exponent pos)) := by
  cases h with
  | zero => exact .zero
  | infinity => exact .infinity
  | finite _ _ _ => exact unsigned_round _ _ _

theorem Unsigned.div {u : UnpackedFloat} (h : Unsigned u) (mantissa : Nat) (exponent : Int)
    (pos : 0 < mantissa) :
    Unsigned (UnpackedFloat.div Format.binary64 u (.finite .positive mantissa exponent pos)) := by
  cases h with
  | zero => exact .zero
  | infinity => exact .infinity
  | finite _ _ _ => exact unsigned_round _ _ _

theorem unsigned_ofNat (n : Nat) : Unsigned (UnpackedFloat.ofNat Format.binary64 n) := by
  unfold UnpackedFloat.ofNat UnpackedFloat.ofInt UnpackedFloat.normalize
  split
  · next hlt =>
    rw [compare_lt_iff_lt] at hlt
    omega
  · exact .zero
  · exact unsigned_round _ _ _

theorem unsigned_ofScientific (m : Nat) (e : Int) :
    Unsigned (UnpackedFloat.ofScientific Format.binary64 m e) := by
  unfold UnpackedFloat.ofScientific
  by_cases hzero : m = 0
  · rw [dif_pos hzero]
    exact .zero
  · rw [dif_neg hzero]
    by_cases hlarge : e > 2 ^ Format.binary64.exponentBits
    · rw [if_pos hlarge]
      exact .infinity
    · rw [if_neg hlarge]
      by_cases hsmall : e < -(2 ^ Format.binary64.exponentBits + m.log2)
      · rw [if_pos hsmall]
        exact .zero
      · rw [if_neg hsmall]
        by_cases hsign : 0 ≤ e
        · rw [if_pos hsign]
          exact (Unsigned.finite ..).mul _ _ _
        · rw [if_neg hsign]
          exact (Unsigned.finite ..).div _ _ _

/-- The powers of ten that are doubles are positive. -/
theorem exists_unpack_power {e : Nat} (h : e < 23) :
    ∃ mantissa exponent pos, Float.exactlyRepresentablePowersOfTen[e].toModel.unpack =
      .finite .positive mantissa exponent pos := by
  have hall : ∀ e : Fin 23, (Float.exactlyRepresentablePowersOfTen[e]).isFinite = true ∧
      isNegative Float.exactlyRepresentablePowersOfTen[e] = false ∧
      (Float.exactlyRepresentablePowersOfTen[e]).toBits.toNat ≠ 0 := by
    decide +kernel
  obtain ⟨hfinite, hsign, hne⟩ := hall ⟨e, h⟩
  exact ⟨_, _, _, Binary.unpack_ofFloat hfinite hsign hne⟩

/-! ## Doubles of decimals -/

theorem toBits_ofModel_le {u : UnpackedFloat} (h : Unsigned u) :
    (Float.ofModel (.pack u)).toBits.toNat ≤ infinityBits :=
  toNat_pack_le h

theorem toBits_ofScientific_le (m : Nat) (negative : Bool) (e : Nat) :
    (Float.ofScientific m negative e).toBits.toNat ≤ infinityBits := by
  unfold Float.ofScientific
  split
  · next hshort =>
    obtain ⟨mantissa, exponent, pos, hpower⟩ :=
      exists_unpack_power (show e < 23 by omega)
    have hwhole : Unsigned (m.toUInt64.toFloat).toModel.unpack := (unsigned_ofNat _).unpack_pack
    have hmul := hwhole.mul _ exponent pos
    have hdiv := hwhole.div _ exponent pos
    rw [← hpower] at hmul hdiv
    cases negative with
    | false => exact toBits_ofModel_le hmul
    | true => exact toBits_ofModel_le hdiv
  · exact toBits_ofModel_le (unsigned_ofScientific _ _)

/-- The double of a decimal has no sign and is a number. -/
theorem toBits_toFloat_le (d : Decimal) : d.toFloat.toBits.toNat ≤ infinityBits := by
  unfold Decimal.toFloat
  split
  · decide
  · split
    · decide
    · split
      · exact toBits_ofScientific_le _ _ _
      · exact toBits_ofScientific_le _ _ _

theorem isNegative_of_le {x : Float} (h : x.toBits.toNat ≤ infinityBits) :
    isNegative x = false := by
  unfold isNegative
  unfold infinityBits at h
  exact decide_eq_false (by omega)

/-- A double without a sign that is a number is finite or infinity. -/
theorem isFinite_or_eq_infinity {x : Float} (h : x.toBits.toNat ≤ infinityBits) :
    x.isFinite = true ∨ x = infinity := by
  rcases Nat.lt_or_eq_of_le h with hlt | heq
  · exact .inl (isFinite_unpack hlt)
  · exact .inr (eq_of_toBits heq)

/-- What starts with a digit is read without a sign. -/
theorem toBits_le_of_read {c : Char} {rest : List Char} {x : Float} (hc : c.isDigit = true)
    (h : read (c :: rest) = some x) : x.toBits.toNat ≤ infinityBits := by
  rw [read_of_isDigit hc] at h
  obtain ⟨d, _, rfl⟩ := Option.map_eq_some_iff.mp h
  exact toBits_toFloat_le d

theorem text_infinity : text infinity = "inf" := by
  rfl

end Worksheet.Number
