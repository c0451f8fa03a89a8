/-!
# Whole parts, powers and rounding

Counts are taken from numbers by dropping the fraction. Rounding to decimal places scales by a
power of ten, rounds half away from zero and scales back; the power is computed by repeated
squaring, a negative one as the reciprocal.
-/

namespace Worksheet.Number

/-! ## Whole parts -/

/-- The count that a number stands for, its fraction dropped; none below zero. -/
def count? (x : Float) : Option Nat :=
  if x ≤ -1 then none else some x.toUInt64.toNat

/-- How many characters come before the one at position `x`, counted from one. -/
def offset (x : Float) : Nat :=
  x.toUInt64.toNat - 1

/-- The whole part of a number, held between `-limit` and `limit`; NaN counts as the least. -/
def wholeWithin (limit : Nat) (x : Float) : Int :=
  if 0 ≤ x then min limit x.toUInt64.toNat
  else if x < 0 then -min limit (-x).toUInt64.toNat
  else -limit

/-! ## Powers -/

/-- The product of `result` and `base ^ n`, by repeated squaring from the lowest bit of `n`. -/
def squarings (result base : Float) (n : Nat) : Float :=
  if n = 0 then result
  else squarings (if n % 2 = 1 then result * base else result) (base * base) (n / 2)
termination_by n

/-- Ten to a whole power. -/
def tenTo (n : Int) : Float :=
  let magnitude := squarings 1 10 n.natAbs
  if n < 0 then 1 / magnitude else magnitude

/-! ## Rounding -/

/-- The most decimal places that rounding distinguishes. -/
def maxPlaces : Nat := 15

/-- A number rounded half away from zero to a number of decimal places. Numbers of `10 ^ 16` and
more, and those that scaling would carry beyond the doubles, are left as they are. -/
def round (x places : Float) : Float :=
  if 16 ≤ places then x
  else
    let unit := tenTo (wholeWithin maxPlaces places)
    let scaled := x * unit
    if 1e16 ≤ x.abs || !scaled.isFinite then x else scaled.round / unit

end Worksheet.Number
