import Worksheet.Number.Rounding
import Worksheet.Proofs.Number.Counting

/-!
# Whole parts of doubles

The whole part of a double is its mantissa shifted to the exponent zero, the digits behind the
point dropped. So a whole number of at most fifty-three binary digits is its own whole part, numbers
below one have none, and equal numbers have the same, the two zeros as well.

Results:
* `roundToInt_eq`: the whole part of a mantissa and an exponent.
* `toNat_toUInt64_ofNat`, `toNat_toUInt64_of_lt_one`: whole numbers, and numbers below one.
* `count?_eq`, `offset_eq`: counts and positions that are given as whole numbers.
-/

namespace Worksheet.Number

open Float.Model (Format UnpackedFloat)
open Float.Model.UnpackedFloat (Sign unpackMantissa unpackExponent roundToInt decreaseExponent
  shiftToExponent)

/-! ## Whole parts -/

theorem roundToInt_eq (sign : Sign) (mantissa : Nat) (exponent : Int) :
    roundToInt sign mantissa exponent =
      sign.apply ((mantissa * 2 ^ exponent.toNat / 2 ^ (-exponent).toNat : Nat) : Int) := by
  have hup : (exponent - 0).toNat = exponent.toNat := by omega
  have hdown : (0 - (exponent - (exponent.toNat : Int))).toNat = (-exponent).toNat := by omega
  unfold roundToInt decreaseExponent shiftToExponent
  simp only [shiftRight_mantissa, mantissa_ofMantissaAndAccuracy, hup, hdown, Nat.shiftLeft_eq]

theorem toNat_toUInt64 {x : Float} {n : Nat} (hn : n < UInt64.size)
    (h : (x.toModel.unpack.toInt 0 (UInt64.size - 1)).toNat = n) : x.toUInt64.toNat = n := by
  show (UInt64.ofNatClamp (x.toModel.unpack.toInt 0 (UInt64.size - 1)).toNat).toNat = n
  rw [h, UInt64.ofNatClamp, dif_pos hn]
  rfl

/-- A whole number is its own whole part. -/
theorem toNat_toUInt64_ofNat {n : Nat} (h : n ≤ 2 ^ 53) : (Float.ofNat n).toUInt64.toNat = n := by
  rcases Nat.lt_or_eq_of_le h with hlt | rfl
  · rcases Nat.eq_zero_or_pos n with rfl | hpos
    · rfl
    · have hlog : n.log2 < 53 := (Nat.log2_lt hpos.ne').mpr hlt
      have hup : (Binary.ofNat n).exponent.toNat = 0 := by
        show ((n.log2 : Int) - 52).toNat = 0
        omega
      have hdown : (-(Binary.ofNat n).exponent).toNat = 52 - n.log2 := by
        show (-((n.log2 : Int) - 52)).toNat = 52 - n.log2
        omega
      refine toNat_toUInt64 (Nat.lt_trans hlt (by decide)) ?_
      rw [unpack_ofNat hpos hlt]
      show (roundToInt .positive _ _).toNat = n
      rw [roundToInt_eq, hup, hdown, pow_zero, Nat.mul_one]
      exact Nat.mul_div_cancel n (Nat.two_pow_pos _)
  · decide +kernel

/-- The mantissa of a double has at most fifty-three binary digits. -/
theorem mantissa_lt_of_unpack {bits : BitVec Format.binary64.numBits} {sign : Sign}
    {mantissa : Nat} {exponent : Int} {pos : 0 < mantissa}
    (h : UnpackedFloat.unpack Format.binary64 bits = .finite sign mantissa exponent pos) :
    mantissa < 2 ^ 53 := by
  unfold UnpackedFloat.unpack at h
  dsimp only at h
  by_cases hones : unpackExponent bits = -1#_
  · rw [if_pos hones] at h
    by_cases hinfinite : unpackMantissa bits = 0#_
    · rw [if_pos hinfinite] at h
      cases h
    · rw [if_neg hinfinite] at h
      cases h
  · rw [if_neg hones] at h
    by_cases hleast : unpackExponent bits = 0#_
    · rw [if_pos hleast] at h
      by_cases hzero : unpackMantissa bits = 0#_
      · rw [dif_pos hzero] at h
        cases h
      · rw [dif_neg hzero] at h
        cases h
        exact Nat.lt_trans (BitVec.isLt _) (by decide)
    · rw [if_neg hleast] at h
      cases h
      exact BitVec.isLt _

/-- Numbers below one have no whole part. -/
theorem toNat_toUInt64_of_lt_one {x : Float} (h : x < 1) : x.toUInt64.toNat = 0 := by
  have hcompare : x.toModel.unpack.compare (1 : Float).toModel.unpack = some .lt := by
    have hlt : decide ((x.toModel.unpack.compare (1 : Float).toModel.unpack == some .lt) = true) =
      true := h
    simpa using hlt
  have hone : (1 : Float).toModel.unpack = .finite .positive (2 ^ 52) (-52) (by decide) := rfl
  rw [hone] at hcompare
  refine toNat_toUInt64 (by decide) ?_
  cases hx : x.toModel.unpack with
  | notANumber => rfl
  | zero => rfl
  | infinity sign =>
    rw [hx] at hcompare
    cases sign <;> cases hcompare
    rfl
  | finite sign mantissa exponent pos =>
    show (roundToInt sign mantissa exponent).toNat = 0
    rw [roundToInt_eq]
    cases sign with
    | negative => exact Int.toNat_eq_zero.mpr (Int.neg_nonpos_of_nonneg (Int.natCast_nonneg _))
    | positive =>
      have hmantissa : mantissa < 2 ^ 53 := mantissa_lt_of_unpack hx
      rw [hx] at hcompare
      have hthen : (compare exponent (-52)).then (compare mantissa (2 ^ 52)) = .lt :=
        Option.some.inj hcompare
      have hbound : exponent ≤ 0 ∧ mantissa < 2 ^ (-exponent).toNat := by
        rw [Ordering.then_eq_lt, compare_lt_iff_lt, compare_lt_iff_lt, compare_eq_iff_eq] at hthen
        rcases hthen with hexponent | ⟨rfl, hlt⟩
        · refine ⟨by omega, Nat.lt_of_lt_of_le hmantissa ?_⟩
          exact Nat.pow_le_pow_right (by decide) (by omega)
        · exact ⟨by decide, hlt⟩
      have hup : exponent.toNat = 0 := by omega
      rw [hup, pow_zero, Nat.mul_one, Nat.div_eq_of_lt hbound.2]
      rfl

/-! ## Comparisons -/

variable {x y : Float}

theorem le_iff_compare :
    x ≤ y ↔ (x.toModel.unpack.compare y.toModel.unpack).any (·.isLE) = true :=
  decide_eq_true_iff

theorem beq_iff_compare :
    (x == y) = true ↔ x.toModel.unpack.compare y.toModel.unpack = some .eq :=
  (beq_iff_eq : (x.toModel.unpack.compare y.toModel.unpack == some .eq) = true ↔ _)

/-- Numbers that compare as equal are the same, or both are zero. -/
theorem eq_or_zero_of_compare {u w : UnpackedFloat} (h : u.compare w = some .eq) :
    u = w ∨ ∃ sign sign', u = .zero sign ∧ w = .zero sign' := by
  cases u with
  | notANumber => cases h
  | infinity sign =>
    cases w with
    | infinity sign' =>
      cases sign <;> cases sign'
      · exact .inl rfl
      · cases h
      · cases h
      · exact .inl rfl
    | _ => cases sign <;> cases h
  | zero sign =>
    cases w with
    | zero sign' => exact .inr ⟨sign, sign', rfl, rfl⟩
    | notANumber => cases h
    | infinity sign' | finite sign' => cases sign' <;> cases h
  | finite sign m e pos =>
    cases w with
    | notANumber => cases h
    | zero => cases sign <;> cases h
    | infinity sign' => cases sign' <;> cases sign <;> cases h
    | finite sign' m' e' pos' =>
      have hkeys : ((compare e e').then (compare m m')) = .eq ∧ sign = sign' := by
        cases sign <;> cases sign'
        · exact ⟨Ordering.swap_eq_eq.mp (Option.some.inj h), rfl⟩
        · cases h
        · cases h
        · exact ⟨Option.some.inj h, rfl⟩
      rw [Ordering.then_eq_eq, compare_eq_iff_eq, compare_eq_iff_eq] at hkeys
      obtain ⟨⟨rfl, rfl⟩, rfl⟩ := hkeys
      exact .inl rfl

theorem toUInt64_congr (h : (x == y) = true) : x.toUInt64 = y.toUInt64 := by
  show x.toModel.unpack.toUInt64 = y.toModel.unpack.toUInt64
  obtain heq | ⟨_, _, hx, hy⟩ := eq_or_zero_of_compare (beq_iff_compare.mp h)
  · rw [heq]
  · rw [hx, hy]
    rfl

theorem zero_le_congr (h : (x == y) = true) (hy : 0 ≤ y) : 0 ≤ x := by
  rw [le_iff_compare] at hy ⊢
  obtain heq | ⟨_, _, hx, -⟩ := eq_or_zero_of_compare (beq_iff_compare.mp h)
  · rwa [heq]
  · rw [hx]
    rfl

theorem not_le_neg_one (h : 0 ≤ x) : ¬ x ≤ -1 := by
  have hzero : (0 : Float).toModel.unpack = .zero .positive := rfl
  have hone : (-1 : Float).toModel.unpack = .finite .negative (2 ^ 52) (-52) (by decide) := rfl
  rw [le_iff_compare, hzero] at h
  rw [le_iff_compare, hone]
  cases hx : x.toModel.unpack with
  | notANumber =>
    rw [hx] at h
    cases h
  | zero => exact Bool.false_ne_true
  | infinity sign | finite sign =>
    rw [hx] at h
    cases sign
    · cases h
    · exact Bool.false_ne_true

theorem zero_le_ofNat (n : Nat) : 0 ≤ Float.ofNat n := by
  have hunsigned : Unsigned (Float.ofNat n).toModel.unpack :=
    unsigned_unpack (toBits_ofScientific_le n false 0)
  rw [le_iff_compare]
  generalize (Float.ofNat n).toModel.unpack = u at hunsigned ⊢
  cases hunsigned <;> rfl

/-! ## Counts and positions -/

variable {n : Nat}

/-- Whatever is not negative is a count. -/
theorem count?_of_nonneg (h : 0 ≤ x) : count? x = some x.toUInt64.toNat :=
  if_neg (not_le_neg_one h)

theorem count?_eq (h : (x == Float.ofNat n) = true) (hn : n ≤ 2 ^ 53) : count? x = some n := by
  rw [count?_of_nonneg (zero_le_congr h (zero_le_ofNat n)), toUInt64_congr h,
    toNat_toUInt64_ofNat hn]

/-- As many characters come before a position as its number less one. -/
theorem offset_eq (h : (x == Float.ofNat (n + 1)) = true) (hn : n + 1 ≤ 2 ^ 53) :
    offset x = n := by
  rw [offset, toUInt64_congr h, toNat_toUInt64_ofNat hn, Nat.add_sub_cancel]

/-- No character comes before a position below one. -/
theorem offset_of_lt_one (h : x < 1) : offset x = 0 := by
  rw [offset, toNat_toUInt64_of_lt_one h]

end Worksheet.Number
