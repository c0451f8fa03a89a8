/-!
# Decimals and the nearest double

A decimal is a natural coefficient with a power of ten. Its double is the nearest one, ties going
to the even mantissa. Exponents far outside the range of doubles are settled before any power of
ten is computed.
-/

namespace Worksheet.Number

/-- The number `coefficient * 10 ^ exponent`. -/
structure Decimal where
  coefficient : Nat
  exponent : Int
deriving DecidableEq, Repr

/-- The decimal `coefficient * 10 ^ exponent` without zeros at the end of its coefficient. -/
def Decimal.reduced (coefficient : Nat) (exponent : Int) : Decimal :=
  if coefficient ≠ 0 ∧ coefficient % 10 = 0 then reduced (coefficient / 10) (exponent + 1)
  else ⟨coefficient, exponent⟩
termination_by coefficient
decreasing_by omega

/-- How many decimal digits a natural number is written with. -/
def digitCount (n : Nat) : Nat :=
  (Nat.toDigits 10 n).length

/-- Positive infinity. -/
def infinity : Float :=
  Float.ofBits 0x7FF0000000000000

/-- Not a number. -/
def notANumber : Float :=
  Float.ofBits 0x7FF8000000000000

/-- The place of the digit before the leading one: the decimal lies below that power of ten. -/
def Decimal.magnitude (d : Decimal) : Int :=
  d.exponent + digitCount d.coefficient

/-- The double nearest to a decimal, a tie going to the even mantissa. -/
def Decimal.toFloat (d : Decimal) : Float :=
  if d.coefficient = 0 ∨ d.magnitude < -330 then Float.ofBits 0
  else if 310 < d.magnitude then infinity
  else if d.exponent < 0 then Float.ofScientific d.coefficient true d.exponent.natAbs
  else Float.ofScientific (d.coefficient * Nat.pow 10 d.exponent.toNat) false 0

end Worksheet.Number
