import Mathlib.Tactic.Ring
import Worksheet.Number.Shortest

/-!
# Doubles as mantissas and exponents

A double is its sign bit, eleven bits of a biased exponent and fifty-two bits of a mantissa that
leaves the hidden bit out. The positive finite doubles are the numbers `mantissa * 2 ^ exponent`
within certain bounds, each in one way, and packing and unpacking go forth and back between them
and the bits.

Results:
* `Binary.toNat_pack`, `Binary.unpack_eq`: the bits of a mantissa and an exponent, and back.
* `Binary.unpack_toFloat`: the double of a mantissa and an exponent unpacks to them.
* `Binary.ofBits_spec`: the mantissa and the exponent that bits without a sign stand for.
* `Binary.isDouble_ofFloat`, `Binary.toFloat_ofFloat`: a positive finite double is that of its
  mantissa and its exponent.
-/

namespace Worksheet.Number

open Float.Model (Format UnpackedFloat)
open Float.Model.UnpackedFloat (unpackMantissa unpackExponent unpackSign packComponents)

/-! ## Fields of bits -/

/-- The sign bit. -/
def signBit : Nat := 0x8000000000000000

theorem toNat_unpackMantissa (bits : BitVec Format.binary64.numBits) :
    (unpackMantissa bits).toNat = bits.toNat % hiddenBit := by
  simp [unpackMantissa, hiddenBit]

theorem toNat_unpackExponent (bits : BitVec Format.binary64.numBits) :
    (unpackExponent bits).toNat = bits.toNat / hiddenBit % 0x800 := by
  simp [unpackExponent, hiddenBit, Nat.shiftRight_eq_div_pow]

theorem toNat_unpackSign (bits : BitVec Format.binary64.numBits) :
    (unpackSign bits).toNat = bits.toNat / signBit := by
  have hlt : bits.toNat < 0x10000000000000000 := bits.isLt
  unfold unpackSign signBit
  simp [Nat.shiftRight_eq_div_pow]
  omega

theorem unpackSign_eq {bits : BitVec Format.binary64.numBits} (h : bits.toNat < signBit) :
    unpackSign bits = 0#1 := by
  refine BitVec.eq_of_toNat_eq ?_
  rw [toNat_unpackSign, Nat.div_eq_of_lt h]
  rfl

theorem toNat_packComponents (sign : UnpackedFloat.Sign) (exponent : BitVec 11)
    (mantissa : BitVec 52) :
    (packComponents Format.binary64 sign exponent mantissa).toNat =
      (sign.toBitVec.toNat * 0x800 + exponent.toNat) * hiddenBit + mantissa.toNat := by
  unfold packComponents
  rw [BitVec.toNat_append, BitVec.toNat_append, ← Nat.shiftLeft_add_eq_or_of_lt exponent.isLt,
    ← Nat.shiftLeft_add_eq_or_of_lt mantissa.isLt, Nat.shiftLeft_eq, Nat.shiftLeft_eq]
  rfl

theorem ne_of_toNat {n : Nat} {v w : BitVec n} (h : v.toNat ≠ w.toNat) : v ≠ w :=
  fun heq => h (congrArg BitVec.toNat heq)

/-- The biased exponent of a finite double is not the greatest one. -/
theorem biased_ne_of_isFinite {bits : BitVec Format.binary64.numBits}
    (h : (UnpackedFloat.unpack Format.binary64 bits).isFinite = true) :
    bits.toNat / hiddenBit % 0x800 ≠ 0x7FF := by
  intro hbiased
  have hones : unpackExponent bits = -1#_ := by
    refine BitVec.eq_of_toNat_eq ?_
    rw [toNat_unpackExponent, hbiased]
    rfl
  unfold UnpackedFloat.unpack at h
  dsimp only at h
  rw [if_pos hones] at h
  split at h <;> cases h

theorem isNegative_eq_false_iff {x : Float} :
    isNegative x = false ↔ x.toBits.toNat < signBit := by
  simp [isNegative, signBit]

/-- Doubles with the same bits are the same. -/
theorem eq_of_toBits {x y : Float} (h : x.toBits.toNat = y.toBits.toNat) : x = y := by
  obtain ⟨⟨bits, _⟩⟩ := x
  obtain ⟨⟨others, _⟩⟩ := y
  obtain rfl : bits = others := UInt64.toNat_inj.mp h
  rfl

namespace Binary

/-! ## Mantissas and exponents of doubles -/

/-- A mantissa and an exponent that a positive finite double has: the leading bit is the hidden
one, unless the exponent is the least. -/
structure IsDouble (b : Binary) : Prop where
  pos : 0 < b.mantissa
  lt : b.mantissa < 2 * hiddenBit
  least : -1074 ≤ b.exponent
  most : b.exponent ≤ 971
  normal : hiddenBit ≤ b.mantissa ∨ b.exponent = -1074

/-- The bits of a mantissa and an exponent. -/
def bits (b : Binary) : Nat :=
  if hiddenBit ≤ b.mantissa then
    (b.exponent + 1075).toNat * hiddenBit + (b.mantissa - hiddenBit)
  else b.mantissa

variable {b : Binary}

theorem IsDouble.log2_normal (h : b.IsDouble) (hn : hiddenBit ≤ b.mantissa) :
    b.mantissa.log2 = 52 :=
  (Nat.log2_eq_iff h.pos.ne').mpr ⟨hn, h.lt⟩

theorem bits_normal (hn : hiddenBit ≤ b.mantissa) :
    b.bits = (b.exponent + 1075).toNat * hiddenBit + (b.mantissa - hiddenBit) :=
  if_pos hn

theorem bits_subnormal (hn : b.mantissa < hiddenBit) : b.bits = b.mantissa :=
  if_neg (Nat.not_le.mpr hn)

/-! ## Packing -/

theorem toNat_pack_normal (h : b.IsDouble) (hn : hiddenBit ≤ b.mantissa) :
    (UnpackedFloat.pack Format.binary64 (.finite .positive b.mantissa b.exponent h.pos)).toNat =
      b.bits := by
  have hbiased : (b.exponent + (Format.binary64.exponentBias : Nat) +
      (Format.binary64.mantissaBitsWithoutImplicit : Nat)).toNat = (b.exponent + 1075).toNat := by
    rw [Int.add_assoc]
    rfl
  have hleast := h.least
  have hmost := h.most
  have hroom : ¬ 2 ^ Format.binary64.exponentBits ≤ (b.exponent + 1075).toNat + 1 := by
    show ¬ 2 ^ 11 ≤ _
    omega
  have hlog : b.mantissa.log2 + 1 = Format.binary64.mantissaBits := by
    rw [h.log2_normal hn]
    rfl
  unfold UnpackedFloat.pack
  simp only [hbiased]
  rw [if_neg hroom, if_pos hlog, toNat_packComponents, BitVec.toNat_ofNat, BitVec.toNat_ofNat,
    bits_normal hn]
  have hlt := h.lt
  unfold hiddenBit at *
  have hexponent : (b.exponent + 1075).toNat % 2 ^ 11 = (b.exponent + 1075).toNat :=
    Nat.mod_eq_of_lt (by omega)
  have hmantissa : b.mantissa % 2 ^ 52 = b.mantissa - 0x10000000000000 := by omega
  rw [hexponent, hmantissa]
  show (0 * 0x800 + (b.exponent + 1075).toNat) * _ + _ = _
  rw [Nat.zero_mul, Nat.zero_add]

theorem toNat_pack_subnormal (h : b.IsDouble) (hn : b.mantissa < hiddenBit) :
    (UnpackedFloat.pack Format.binary64 (.finite .positive b.mantissa b.exponent h.pos)).toNat =
      b.bits := by
  have hexponent : b.exponent = -1074 := h.normal.resolve_left (Nat.not_le.mpr hn)
  have hlog : b.mantissa.log2 < 52 := (Nat.log2_lt h.pos.ne').mpr hn
  have hbits : ¬ b.mantissa.log2 + 1 = Format.binary64.mantissaBits := by
    show ¬ b.mantissa.log2 + 1 = 53
    omega
  have hroom : ¬ 2 ^ Format.binary64.exponentBits ≤ (b.exponent +
      (Format.binary64.exponentBias : Nat) +
      (Format.binary64.mantissaBitsWithoutImplicit : Nat)).toNat + 1 := by
    rw [hexponent]
    decide
  have hmantissa : b.mantissa % 2 ^ 52 = b.mantissa := Nat.mod_eq_of_lt hn
  unfold UnpackedFloat.pack
  simp only [hroom, hbits, if_false]
  rw [toNat_packComponents, BitVec.toNat_ofNat, BitVec.toNat_ofNat, bits_subnormal hn]
  show (0 * 0x800 + 0) * hiddenBit + b.mantissa % 2 ^ 52 = b.mantissa
  rw [hmantissa]
  omega

theorem toNat_pack (h : b.IsDouble) :
    (UnpackedFloat.pack Format.binary64 (.finite .positive b.mantissa b.exponent h.pos)).toNat =
      b.bits := by
  rcases Nat.lt_or_ge b.mantissa hiddenBit with hsmall | hlarge
  · exact toNat_pack_subnormal h hsmall
  · exact toNat_pack_normal h hlarge

/-! ## Unpacking -/

theorem unpack_eq_normal {bits : BitVec Format.binary64.numBits} (h : b.IsDouble)
    (hn : hiddenBit ≤ b.mantissa) (hbits : bits.toNat = b.bits) :
    UnpackedFloat.unpack Format.binary64 bits = .finite .positive b.mantissa b.exponent h.pos := by
  rw [bits_normal hn] at hbits
  have hlt := h.lt
  have hleast := h.least
  have hmost := h.most
  have hsign : bits.toNat < signBit := by
    unfold signBit
    unfold hiddenBit at *
    omega
  have hexponent : (unpackExponent bits).toNat = (b.exponent + 1075).toNat := by
    rw [toNat_unpackExponent]
    unfold hiddenBit at *
    omega
  have hmantissa : (unpackMantissa bits).toNat = b.mantissa - hiddenBit := by
    rw [toNat_unpackMantissa]
    unfold hiddenBit at *
    omega
  have hones : unpackExponent bits ≠ -1#_ := by
    refine ne_of_toNat ?_
    show _ ≠ 0x7FF
    omega
  have hzero : unpackExponent bits ≠ 0#_ := by
    refine ne_of_toNat ?_
    show _ ≠ 0
    omega
  have himplicit : (1#1 ++ unpackMantissa bits).toNat = b.mantissa := by
    rw [BitVec.toNat_append, ← Nat.shiftLeft_add_eq_or_of_lt (unpackMantissa bits).isLt, hmantissa]
    show hiddenBit + (b.mantissa - hiddenBit) = b.mantissa
    omega
  have hunbiased : ((b.exponent + 1075).toNat : Int) - ((Format.binary64.exponentBias : Nat) +
      (Format.binary64.mantissaBitsWithoutImplicit : Nat)) = b.exponent := by
    show ((b.exponent + 1075).toNat : Int) - 1075 = b.exponent
    omega
  unfold UnpackedFloat.unpack
  dsimp only
  rw [if_neg hones, if_neg hzero]
  refine (UnpackedFloat.finite.injEq ..).mpr ⟨?_, himplicit, ?_⟩
  · rw [unpackSign_eq hsign]
    rfl
  · rw [hexponent, hunbiased]

theorem unpack_eq_subnormal {bits : BitVec Format.binary64.numBits} (h : b.IsDouble)
    (hn : b.mantissa < hiddenBit) (hbits : bits.toNat = b.bits) :
    UnpackedFloat.unpack Format.binary64 bits = .finite .positive b.mantissa b.exponent h.pos := by
  rw [bits_subnormal hn] at hbits
  have hpos := h.pos
  have hsign : bits.toNat < signBit := by
    unfold signBit
    unfold hiddenBit at *
    omega
  have hmantissa : (unpackMantissa bits).toNat = b.mantissa := by
    rw [toNat_unpackMantissa, hbits, Nat.mod_eq_of_lt hn]
  have hzero : unpackExponent bits = 0#_ := by
    refine BitVec.eq_of_toNat_eq ?_
    rw [toNat_unpackExponent, hbits, Nat.div_eq_of_lt hn]
    rfl
  have hones : unpackExponent bits ≠ -1#_ := by
    rw [hzero]
    decide
  have hfraction : unpackMantissa bits ≠ 0#_ := by
    refine ne_of_toNat ?_
    show _ ≠ 0
    omega
  unfold UnpackedFloat.unpack
  dsimp only
  rw [if_neg hones, if_pos hzero, dif_neg hfraction]
  refine (UnpackedFloat.finite.injEq ..).mpr ⟨?_, hmantissa, ?_⟩
  · rw [unpackSign_eq hsign]
    rfl
  · rw [hzero, h.normal.resolve_left (Nat.not_le.mpr hn)]
    rfl

theorem unpack_eq {bits : BitVec Format.binary64.numBits} (h : b.IsDouble)
    (hbits : bits.toNat = b.bits) :
    UnpackedFloat.unpack Format.binary64 bits = .finite .positive b.mantissa b.exponent h.pos := by
  rcases Nat.lt_or_ge b.mantissa hiddenBit with hsmall | hlarge
  · exact unpack_eq_subnormal h hsmall hbits
  · exact unpack_eq_normal h hlarge hbits

/-! ## Doubles -/

/-- The double of a mantissa and an exponent. -/
def toFloat (b : Binary) (h : b.IsDouble) : Float :=
  .ofModel (.pack (.finite .positive b.mantissa b.exponent h.pos))

theorem unpack_toFloat (h : b.IsDouble) :
    (b.toFloat h).toModel.unpack = .finite .positive b.mantissa b.exponent h.pos :=
  unpack_eq h (toNat_pack h)

theorem isDouble_subnormal {n : Nat} (hpos : 0 < n) (hlt : n < hiddenBit) :
    IsDouble ⟨n, -1074⟩ where
  pos := hpos
  lt := by
    show n < 2 * hiddenBit
    omega
  least := Int.le_refl _
  most := by
    show (-1074 : Int) ≤ 971
    omega
  normal := .inr rfl

theorem isDouble_normal {fraction biased : Nat} (hfraction : fraction < hiddenBit)
    (hlow : 0 < biased) (hhigh : biased < 0x7FF) :
    IsDouble ⟨hiddenBit + fraction, (biased : Int) - 1075⟩ where
  pos := by
    show 0 < hiddenBit + fraction
    omega
  lt := by
    show hiddenBit + fraction < 2 * hiddenBit
    omega
  least := by
    show (-1074 : Int) ≤ biased - 1075
    omega
  most := by
    show (biased : Int) - 1075 ≤ 971
    omega
  normal := .inl (Nat.le_add_right _ _)

/-- The number that bits without a sign bit stand for. -/
def ofBits (n : Nat) : Binary :=
  let fraction : Nat := n % hiddenBit
  let biased : Nat := n / hiddenBit % 0x800
  if biased = 0 then ⟨fraction, -1074⟩ else ⟨hiddenBit + fraction, (biased : Int) - 1075⟩

theorem ofBits_spec {n : Nat} (hlt : n < signBit) (hbiased : n / hiddenBit % 0x800 ≠ 0x7FF)
    (hne : n ≠ 0) : (ofBits n).IsDouble ∧ (ofBits n).bits = n := by
  unfold ofBits
  simp only
  split
  · next hlow =>
    have hsmall : n < hiddenBit := by
      unfold hiddenBit signBit at *
      omega
    rw [Nat.mod_eq_of_lt hsmall]
    exact ⟨isDouble_subnormal (Nat.pos_of_ne_zero hne) hsmall, bits_subnormal hsmall⟩
  · next hlow =>
    have hfraction : n % hiddenBit < hiddenBit := Nat.mod_lt _ (by decide)
    refine ⟨isDouble_normal hfraction (Nat.pos_of_ne_zero hlow) (by omega), ?_⟩
    rw [bits_normal (Nat.le_add_right _ _)]
    show ((n / hiddenBit % 0x800 : Nat) - 1075 + 1075 : Int).toNat * hiddenBit +
      (hiddenBit + n % hiddenBit - hiddenBit) = n
    unfold hiddenBit signBit at *
    omega

/-- The mantissa and the exponent of a positive finite double, through its bits. -/
theorem ofFloat_spec {x : Float} (hfinite : x.isFinite = true) (hsign : isNegative x = false)
    (hne : x.toBits.toNat ≠ 0) :
    (ofFloat x).IsDouble ∧ (ofFloat x).bits = x.toBits.toNat :=
  ofBits_spec (isNegative_eq_false_iff.mp hsign) (biased_ne_of_isFinite hfinite) hne

theorem isDouble_ofFloat {x : Float} (hfinite : x.isFinite = true) (hsign : isNegative x = false)
    (hne : x.toBits.toNat ≠ 0) : (ofFloat x).IsDouble :=
  (ofFloat_spec hfinite hsign hne).1

/-- A positive finite double is that of its mantissa and its exponent. -/
theorem toFloat_ofFloat {x : Float} (hfinite : x.isFinite = true) (hsign : isNegative x = false)
    (hne : x.toBits.toNat ≠ 0) :
    (ofFloat x).toFloat (isDouble_ofFloat hfinite hsign hne) = x := by
  obtain ⟨hdouble, hbits⟩ := ofFloat_spec hfinite hsign hne
  exact eq_of_toBits ((toNat_pack hdouble).trans hbits)

theorem unpack_ofFloat {x : Float} (hfinite : x.isFinite = true) (hsign : isNegative x = false)
    (hne : x.toBits.toNat ≠ 0) :
    x.toModel.unpack = .finite .positive (ofFloat x).mantissa (ofFloat x).exponent
      (isDouble_ofFloat hfinite hsign hne).pos := by
  have h := isDouble_ofFloat hfinite hsign hne
  calc x.toModel.unpack = ((ofFloat x).toFloat h).toModel.unpack := by
        rw [toFloat_ofFloat hfinite hsign hne]
    _ = _ := unpack_toFloat h

end Binary

end Worksheet.Number
