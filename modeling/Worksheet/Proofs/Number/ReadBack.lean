import Worksheet.Proofs.Number.Digits
import Worksheet.Proofs.Number.Exact

/-!
# Written doubles read back

The text of a finite double without a sign is a digit, then digits and at most one point, and it
reads as that double. Either the search has found digits that do so, or all digits are written:
these stand for the double itself, and reading them needs no rounding.

Results:
* `toFloat_exactly`: all digits of a double read as the double.
* `toFloat_shortest`: the digits that are written read as the double.
* `text_shape`, `read_text`: the text of a finite double without a sign.
-/

namespace Worksheet.Number

open Float.Model (UnpackedFloat)

/-! ## All digits -/

theorem digitCount_le_iff {n k : Nat} (h : 0 < k) : digitCount n ≤ k ↔ n < 10 ^ k :=
  Nat.length_toDigits_le_iff (by decide) h

theorem digitCount_pos (n : Nat) : 0 < digitCount n :=
  Nat.length_toDigits_pos

namespace Binary

variable {b : Binary}

/-- No double is so small that its decimal would be taken for zero. -/
theorem IsDouble.magnitude_ge (h : b.IsDouble) {k : Nat} (hk : b.exponent = -(k : Int)) :
    -330 ≤ -(k : Int) + digitCount (b.mantissa * 5 ^ k) := by
  by_contra hlow
  have hleast := h.least
  have hdigits := digitCount_pos (b.mantissa * 5 ^ k)
  have hpos : 0 < k - 331 := by omega
  have hsmall : b.mantissa * 5 ^ k < 10 ^ (k - 331) := (digitCount_le_iff hpos).mp (by omega)
  have hle : 5 ^ k ≤ b.mantissa * 5 ^ k := Nat.le_mul_of_pos_left _ h.pos
  have htwo : 2 ^ k < 10 ^ 331 :=
    calc 2 ^ k ≤ 2 ^ 1074 := Nat.pow_le_pow_right (by decide) (by omega)
      _ < 10 ^ 331 := by decide +kernel
  have hsplit : 10 ^ 331 * 10 ^ (k - 331) = 10 ^ k := by
    rw [← pow_add, Nat.add_sub_cancel' (by omega)]
  have hten : 2 ^ k * 5 ^ k = 10 ^ k := (Nat.mul_pow 2 5 k).symm
  generalize 10 ^ 331 = large at htwo hsplit
  have hproduct := Nat.mul_lt_mul'' htwo (Nat.lt_of_le_of_lt hle hsmall)
  rw [hsplit, hten] at hproduct
  exact Nat.lt_irrefl _ hproduct

/-- No double with a fraction is so large that its decimal would be taken for infinity. -/
theorem IsDouble.magnitude_le (h : b.IsDouble) (k : Nat) :
    -(k : Int) + digitCount (b.mantissa * 5 ^ k) ≤ 310 := by
  have hmantissa : b.mantissa < 10 ^ 16 := Nat.lt_of_lt_of_le h.lt (by decide)
  have hlt : b.mantissa * 5 ^ k < 10 ^ (16 + k) :=
    calc b.mantissa * 5 ^ k < 10 ^ 16 * 5 ^ k :=
          Nat.mul_lt_mul_of_pos_right hmantissa (by positivity)
      _ ≤ 10 ^ 16 * 10 ^ k := Nat.mul_le_mul_left _ (Nat.pow_le_pow_left (by decide) k)
      _ = 10 ^ (16 + k) := by rw [pow_add]
  have hcount := (digitCount_le_iff (by omega)).mpr hlt
  omega

/-- Nor is a whole one. -/
theorem IsDouble.digitCount_le (h : b.IsDouble) {k : Nat} (hk : b.exponent = k) :
    digitCount (b.mantissa * 2 ^ k) ≤ 310 := by
  have hmost := h.most
  refine (digitCount_le_iff (by decide)).mpr ?_
  calc b.mantissa * 2 ^ k ≤ 2 * hiddenBit * 2 ^ 971 :=
        Nat.mul_le_mul h.lt.le (Nat.pow_le_pow_right (by decide) (by omega))
    _ < 10 ^ 310 := by decide +kernel

/-- All digits of a double read as the double. -/
theorem toFloat_exactly (h : b.IsDouble) : b.exactly.toFloat = b.toFloat h := by
  unfold exactly
  rcases lt_or_ge b.exponent 0 with hneg | hnonneg
  · obtain ⟨k, hk⟩ : ∃ k : Nat, b.exponent = -(k : Int) := ⟨b.exponent.natAbs, by omega⟩
    have hcoefficient : b.mantissa * 5 ^ k ≠ 0 := by
      have := h.pos
      positivity
    rw [if_pos hneg, hk, Int.neg_neg, Int.toNat_natCast]
    have hlow := h.magnitude_ge hk
    have hhigh := h.magnitude_le k
    have hfraction := h.ofScientific_fraction hk (by omega)
    unfold Decimal.toFloat Decimal.magnitude
    simp only [Nat.pow_eq]
    rw [if_neg, if_neg, if_pos, Int.natAbs_neg, Int.natAbs_natCast, hfraction]
    · omega
    · omega
    · omega
  · obtain ⟨k, hk⟩ := Int.eq_ofNat_of_zero_le hnonneg
    have hcoefficient : b.mantissa * 2 ^ k ≠ 0 := by
      have := h.pos
      positivity
    have hcount := h.digitCount_le hk
    rw [if_neg (Int.not_lt.mpr hnonneg), hk, Int.toNat_natCast]
    unfold Decimal.toFloat Decimal.magnitude
    simp only [Nat.pow_eq]
    rw [if_neg, if_neg, if_neg, Int.toNat_zero, pow_zero, Nat.mul_one, h.ofScientific_whole hk]
    · omega
    · omega
    · omega

end Binary

/-! ## Written digits -/

/-- The digits that are written for a positive finite double read as the double. -/
theorem toFloat_shortest {x : Float} (tie : Tie) (hfinite : x.isFinite = true)
    (hsign : isNegative x = false) (hne : x.toBits.toNat ≠ 0) : (shortest tie x).toFloat = x := by
  unfold shortest
  cases hfound : Search.run tie x with
  | some d => exact Search.toFloat_eq hfound
  | none =>
    have hdouble := Binary.isDouble_ofFloat hfinite hsign hne
    show (Binary.ofFloat x).exactly.toFloat = x
    rw [Binary.toFloat_exactly hdouble, Binary.toFloat_ofFloat hfinite hsign hne]

/-! ## Texts of doubles -/

theorem eq_zero_of_toBits {x : Float} (h : x.toBits.toNat = 0) : x = Float.ofBits 0 :=
  eq_of_toBits h

/-- A positive finite double is not zero and is its own magnitude. -/
theorem abs_of_positive {x : Float} (hfinite : x.isFinite = true) (hsign : isNegative x = false)
    (hne : x.toBits.toNat ≠ 0) : (x == 0) = false ∧ x.abs = x := by
  have hunpack := Binary.unpack_ofFloat hfinite hsign hne
  constructor
  · show UnpackedFloat.beq x.toModel.unpack (0 : Float).toModel.unpack = false
    rw [hunpack]
    rfl
  · show Float.ofModel (.pack x.toModel.unpack.abs) = x
    rw [hunpack]
    exact Binary.toFloat_ofFloat hfinite hsign hne

theorem not_special_of_isFinite {x : Float} (h : x.isFinite = true) :
    x.isNaN = false ∧ x.isInf = false := by
  unfold Float.isFinite Float.Model.isFinite at h
  unfold Float.isNaN Float.isInf Float.Model.isNaN Float.Model.isInf
  cases hunpack : x.toModel.unpack with
  | notANumber | infinity sign =>
    rw [hunpack] at h
    cases h
  | zero sign | finite sign mantissa exponent hpos => exact ⟨rfl, rfl⟩

/-- The text of a finite double without a sign is a positional numeral of a decimal whose double
it is. -/
theorem text_eq_positional {x : Float} (hfinite : x.isFinite = true)
    (hsign : isNegative x = false) :
    ∃ d : Decimal, (text x).toList = d.positional "" ∧ d.toFloat = x := by
  obtain ⟨hnan, hinf⟩ := not_special_of_isFinite hfinite
  have htext : (text x).toList = Layout.plain.magnitude x := by
    unfold text Layout.write
    rw [hnan, hinf, hsign]
    exact String.toList_ofList
  rw [htext]
  by_cases hzero : x.toBits.toNat = 0
  · have hx := eq_zero_of_toBits hzero
    subst hx
    exact ⟨⟨0, 0⟩, rfl, rfl⟩
  · obtain ⟨hne, habs⟩ := abs_of_positive hfinite hsign hzero
    refine ⟨shortest .upper x, ?_, toFloat_shortest .upper hfinite hsign hzero⟩
    unfold Layout.magnitude
    simp [hne, habs, Layout.plain]

/-- The text of a finite double without a sign is a digit, then digits and at most one point. -/
theorem text_shape {x : Float} (hfinite : x.isFinite = true) (hsign : isNegative x = false) :
    ∃ c rest, (text x).toList = c :: rest ∧ c.isDigit = true ∧
      (∀ a ∈ rest, a.isDigit = true ∨ a = '.') ∧ rest.count '.' ≤ 1 := by
  obtain ⟨d, htext, _⟩ := text_eq_positional hfinite hsign
  rw [htext]
  exact positional_shape d

/-- **Written doubles read back.** -/
theorem read_text {x : Float} (hfinite : x.isFinite = true) (hsign : isNegative x = false) :
    read (text x).toList = some x := by
  obtain ⟨d, htext, hd⟩ := text_eq_positional hfinite hsign
  rw [htext, read_positional, hd]

end Worksheet.Number
