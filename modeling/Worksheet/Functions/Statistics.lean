import Worksheet.Functions.Arithmetic

/-!
# Statistical functions

Means, extremes and counts of the numbers among the arguments. Extremes pass over NaN; of two
zeros the later one is kept.
-/

namespace Worksheet.Functions

/-- `AVERAGE`: the mean of the numbers, an error where there are none. -/
def average (args : List Value) : Value :=
  let xs := numbers args
  if xs = [] then .error .divisionByZero else .number (total xs / Float.ofNat xs.length)

/-- The lesser of two numbers, or the one that is not NaN. -/
def lesser (x y : Float) : Float :=
  if x.isNaN || y ≤ x then y else x

/-- The greater of two numbers, or the one that is not NaN. -/
def greater (x y : Float) : Float :=
  if x.isNaN || x ≤ y then y else x

/-- The number that a choice between two leaves of many, zero where there are none. -/
def choose (better : Float → Float → Float) : List Float → Float
  | [] => 0
  | x :: rest => rest.foldl better x

/-- `MIN`: the least number. -/
def minimum (args : List Value) : Value :=
  .number (choose lesser (numbers args))

/-- `MAX`: the greatest number. -/
def maximum (args : List Value) : Value :=
  .number (choose greater (numbers args))

/-- `COUNT`: how many numbers there are. -/
def count (args : List Value) : Value :=
  .number (Float.ofNat (numbers args).length)

/-- `COUNTIF`: how many items a criterion selects. -/
def countIf : List Value → Value
  | [range, criterion] =>
    .number (Float.ofNat (range.elements.countP (Criterion.ofValue criterion).selectsValid))
  | _ => .error .value

end Worksheet.Functions
