import Worksheet.Proofs.Number.Literal
import Worksheet.Proofs.Number.ReadBack

/-!
# Signs of doubles

The opposite of a finite double has the same bits but for the sign bit, so every finite double with
a sign is the opposite of one without. Its text is a minus and the text of that one, and a minus in
front of a text of a number is read as the opposite. So the text of every finite double reads back,
that of negative zero as well.

Results:
* `toBits_neg`, `unpack_neg`: the bits of an opposite, and what they stand for.
* `exists_neg_eq`: finite doubles with a sign are opposites.
* `text_neg`: the text of an opposite.
* `read_text_of_isFinite`: the text of every finite double reads back.
-/

namespace Worksheet.Number

open Float.Model (Format UnpackedFloat)
open Float.Model.UnpackedFloat (unpackMantissa unpackExponent unpackSign packComponents)

/-! ## The sign bit -/

theorem toNat_packComponents_negative (biased : BitVec 11) (fraction : BitVec 52) :
    (packComponents Format.binary64 .negative biased fraction).toNat =
      signBit + (packComponents Format.binary64 .positive biased fraction).toNat := by
  rw [toNat_packComponents, toNat_packComponents]
  show (1 * 0x800 + biased.toNat) * hiddenBit + fraction.toNat =
    signBit + ((0 * 0x800 + biased.toNat) * hiddenBit + fraction.toNat)
  unfold hiddenBit signBit
  omega

theorem toNat_pack_negative (mantissa : Nat) (exponent : Int) (pos : 0 < mantissa) :
    (UnpackedFloat.pack Format.binary64 (.finite .negative mantissa exponent pos)).toNat =
      signBit +
        (UnpackedFloat.pack Format.binary64 (.finite .positive mantissa exponent pos)).toNat := by
  unfold UnpackedFloat.pack
  dsimp only
  split
  · decide
  · split
    · exact toNat_packComponents_negative _ _
    · exact toNat_packComponents_negative _ _

/-- Bits with the sign bit in front stand for the opposite. -/
theorem unpack_signBit_add {bits signed : BitVec Format.binary64.numBits}
    (h : bits.toNat < signBit) (hsigned : signed.toNat = signBit + bits.toNat) :
    UnpackedFloat.unpack Format.binary64 signed =
      (UnpackedFloat.unpack Format.binary64 bits).neg := by
  have hmantissa : unpackMantissa signed = unpackMantissa bits := by
    refine BitVec.eq_of_toNat_eq ?_
    rw [toNat_unpackMantissa, toNat_unpackMantissa, hsigned]
    unfold hiddenBit signBit
    omega
  have hexponent : unpackExponent signed = unpackExponent bits := by
    refine BitVec.eq_of_toNat_eq ?_
    rw [toNat_unpackExponent, toNat_unpackExponent, hsigned]
    unfold hiddenBit signBit
    omega
  have hnegative : unpackSign signed = 1#1 := by
    refine BitVec.eq_of_toNat_eq ?_
    rw [toNat_unpackSign, hsigned]
    unfold signBit at *
    show _ = 1
    omega
  -- both sides branch on the same exponent and fraction, so they are taken to the branch together
  unfold UnpackedFloat.unpack
  dsimp only
  rw [hexponent, hnegative, unpackSign_eq h]
  by_cases hones : unpackExponent bits = -1#_
  · rw [if_pos hones, if_pos hones, hmantissa]
    split <;> rfl
  · rw [if_neg hones, if_neg hones]
    by_cases hleast : unpackExponent bits = 0#_
    · rw [if_pos hleast, if_pos hleast]
      by_cases hzero : unpackMantissa bits = 0#_
      · rw [dif_pos (hmantissa.trans hzero), dif_pos hzero]
        rfl
      · rw [dif_neg (hmantissa ▸ hzero), dif_neg hzero]
        exact (UnpackedFloat.finite.injEq ..).mpr ⟨rfl, congrArg BitVec.toNat hmantissa, rfl⟩
    · rw [if_neg hleast, if_neg hleast]
      have himplicit := congrArg (fun fraction => (1#1 ++ fraction).toNat) hmantissa
      exact (UnpackedFloat.finite.injEq ..).mpr ⟨rfl, himplicit, rfl⟩

/-! ## Opposites -/

variable {x : Float}

theorem toBits_neg (hfinite : x.isFinite = true) (hsign : isNegative x = false) :
    (-x).toBits.toNat = signBit + x.toBits.toNat := by
  by_cases hzero : x.toBits.toNat = 0
  · obtain rfl := eq_zero_of_toBits hzero
    rfl
  · obtain ⟨hdouble, hbits⟩ := Binary.ofFloat_spec hfinite hsign hzero
    show (UnpackedFloat.pack Format.binary64 x.toModel.unpack.neg).toNat = _
    rw [Binary.unpack_ofFloat hfinite hsign hzero, ← hbits, ← Binary.toNat_pack hdouble]
    exact toNat_pack_negative _ _ hdouble.pos

theorem unpack_neg (hfinite : x.isFinite = true) (hsign : isNegative x = false) :
    (-x).toModel.unpack = x.toModel.unpack.neg :=
  unpack_signBit_add (isNegative_eq_false_iff.mp hsign) (toBits_neg hfinite hsign)

/-- The numbers below the bits of infinity are the bits of finite doubles. -/
theorem exists_toBits_eq {n : Nat} (h : n < infinityBits) :
    ∃ x : Float, x.isFinite = true ∧ x.toBits.toNat = n := by
  obtain ⟨x, hbits⟩ : ∃ x : Float, x.toBits.toNat = n := by
    rcases Nat.eq_zero_or_pos n with rfl | hpos
    · exact ⟨Float.ofBits 0, rfl⟩
    · have hlt : n < signBit := by
        unfold signBit infinityBits at *
        omega
      have hbiased : n / hiddenBit % 0x800 ≠ 0x7FF := by
        unfold hiddenBit infinityBits at *
        omega
      obtain ⟨hdouble, hbits⟩ := Binary.ofBits_spec hlt hbiased hpos.ne'
      exact ⟨(Binary.ofBits n).toFloat hdouble, (Binary.toNat_pack hdouble).trans hbits⟩
  exact ⟨x, isFinite_unpack (hbits.trans_lt h), hbits⟩

/-- A finite double with a sign is the opposite of one without. -/
theorem exists_neg_eq (hfinite : x.isFinite = true) (hsign : isNegative x = true) :
    ∃ y : Float, y.isFinite = true ∧ isNegative y = false ∧ x = -y := by
  have hbiased : x.toBits.toNat / hiddenBit % 0x800 ≠ 0x7FF := biased_ne_of_isFinite hfinite
  have hword : x.toBits.toNat < 0x10000000000000000 := x.toBits.toNat_lt
  have hge : signBit ≤ x.toBits.toNat := by simpa [isNegative, signBit] using hsign
  have hlt : x.toBits.toNat - signBit < infinityBits := by
    unfold hiddenBit signBit infinityBits at *
    omega
  obtain ⟨y, hy, hbits⟩ := exists_toBits_eq hlt
  have hnegative : isNegative y = false := by
    rw [isNegative_eq_false_iff, hbits]
    unfold signBit infinityBits at *
    omega
  refine ⟨y, hy, hnegative, eq_of_toBits ?_⟩
  rw [toBits_neg hy hnegative, hbits]
  omega

/-! ## Texts -/

section Opposite

variable (hfinite : x.isFinite = true) (hsign : isNegative x = false)
include hfinite hsign

theorem isFinite_neg : (-x).isFinite = true := by
  have hfinite : x.toModel.unpack.isFinite = true := hfinite
  show (-x).toModel.unpack.isFinite = true
  rw [unpack_neg hfinite hsign]
  cases hx : x.toModel.unpack with
  | notANumber | infinity sign =>
    rw [hx] at hfinite
    cases hfinite
  | zero sign | finite sign mantissa exponent pos => rfl

theorem neg_beq_zero : (-x == 0) = (x == 0) := by
  show UnpackedFloat.beq (-x).toModel.unpack (.zero .positive) =
    UnpackedFloat.beq x.toModel.unpack (.zero .positive)
  rw [unpack_neg hfinite hsign]
  rcases x.toModel.unpack with (_ | _) | _ | _ | (_ | _) <;> rfl

theorem abs_neg_eq : (-x).abs = x.abs := by
  show Float.ofModel (.pack (-x).toModel.unpack.abs) = Float.ofModel (.pack x.toModel.unpack.abs)
  rw [unpack_neg hfinite hsign]
  cases x.toModel.unpack <;> rfl

/-- The text of an opposite is a minus and the text. -/
theorem text_neg : (text (-x)).toList = '-' :: (text x).toList := by
  obtain ⟨hnan, hinf⟩ := not_special_of_isFinite hfinite
  obtain ⟨hnanNeg, hinfNeg⟩ := not_special_of_isFinite (isFinite_neg hfinite hsign)
  have hsignNeg : isNegative (-x) = true := by
    simp [isNegative, toBits_neg hfinite hsign, signBit]
  have hmagnitude : Layout.plain.magnitude (-x) = Layout.plain.magnitude x := by
    unfold Layout.magnitude
    rw [neg_beq_zero hfinite hsign, abs_neg_eq hfinite hsign]
  unfold text Layout.write
  rw [hnan, hinf, hsign, hnanNeg, hinfNeg, hsignNeg, hmagnitude]
  simp

end Opposite

/-- A minus before a number is read as the opposite of the number. -/
theorem read_minus {c : Char} {rest : List Char} (h : c.isDigit = true) :
    read ('-' :: c :: rest) = (read (c :: rest)).map fun x => -x := by
  rw [read_of_isDigit h]
  simp [read, splitSign, readWord_of_isDigit h]

/-- **Written doubles read back**, with a sign or without. -/
theorem read_text_of_isFinite (hfinite : x.isFinite = true) : read (text x).toList = some x := by
  cases hsign : isNegative x with
  | false => exact read_text hfinite hsign
  | true =>
    obtain ⟨y, hy, hnegative, rfl⟩ := exists_neg_eq hfinite hsign
    obtain ⟨c, rest, hcons, hc, _⟩ := text_shape hy hnegative
    rw [text_neg hy hnegative, hcons, read_minus hc, ← hcons, read_text hy hnegative]
    rfl

end Worksheet.Number
