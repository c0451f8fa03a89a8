import Worksheet.Value

/-!
# Comparing values

Two values that both read as numbers compare as numbers, with NaN below all others and equal to
itself; any others compare by the upper case of their texts, in the order of code points.
-/

namespace Worksheet.Comparison

/-- The order of two numbers, NaN first. -/
def ofNumbers (x y : Float) : Ordering :=
  if x.isNaN then if y.isNaN then .eq else .lt
  else if y.isNaN then .gt
  else if x < y then .lt
  else if y < x then .gt
  else .eq

/-- The order of two texts, upper and lower case taken as the same. -/
def ofTexts (s t : String) : Ordering :=
  compare (Text.upper s) (Text.upper t)

/-- The order of two values. -/
def ofValues (v w : Value) : Ordering :=
  match v.toNumber?, w.toNumber? with
  | some x, some y => ofNumbers x y
  | _, _ => ofTexts v.toText w.toText

end Worksheet.Comparison
