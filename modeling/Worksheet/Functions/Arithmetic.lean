import Worksheet.Functions.Arguments
import Worksheet.Functions.Criteria
import Worksheet.Number.Rounding

/-!
# Arithmetic functions

Sums, rounding, roots and remainders. A sum adds from the left and starts from negative zero, the
number that addition leaves alone, so that the sum of nothing is negative zero.
-/

namespace Worksheet.Functions

/-- Negative zero. -/
def negativeZero : Float :=
  Float.ofBits 0x8000000000000000

/-- The sum of numbers, from the left. -/
def total (xs : List Float) : Float :=
  xs.foldl (· + ·) negativeZero

/-- `SUM`: the sum of all numbers among the arguments. -/
def sum (args : List Value) : Value :=
  .number (total (numbers args))

/-- The numbers of a list at the places where another list has an item that is selected. -/
def selectedNumbers (criterion : Criterion) (items partners : List Value) : List Float :=
  ((items.zip partners).filter fun pair => criterion.selectsValid pair.1).filterMap
    fun pair => pair.2.toNumber?

/-- `SUMIF`: the sum of the numbers at the places that a criterion selects. -/
def sumIf : List Value → Value
  | [range, criterion] =>
    .number (total (selectedNumbers (.ofValue criterion) range.elements range.elements))
  | [range, criterion, partners] =>
    .number (total (selectedNumbers (.ofValue criterion) range.elements partners.elements))
  | _ => .error .value

/-- `ROUND`: a number rounded to decimal places. -/
def rounded (args : List Value) : Value := settle do
  refuseErrors args
  let x ← numberAt args 0
  let places ← numberAt args 1
  return .number (Number.round x places)

/-- `ABS`: the magnitude of a number. -/
def absolute (args : List Value) : Value := settle do
  let x ← numberAt args 0
  return .number x.abs

/-- `SQRT`: the square root of a number that is not negative. -/
def squareRoot (args : List Value) : Value := settle do
  let x ← numberAt args 0
  if x < 0 then throw .number else return .number x.sqrt

/-- `MOD`: the remainder of a floored division, with the sign of the divisor. -/
def remainder (args : List Value) : Value := settle do
  refuseErrors args
  let x ← numberAt args 0
  let divisor ← numberAt args 1
  if divisor == 0 then throw .divisionByZero
  else return .number (x - divisor * (x / divisor).floor)

end Worksheet.Functions
