import Worksheet.Number.Shortest

/-!
# Layouts of numbers

A layout says when a number is written positionally, what follows the digits of a whole number,
what stands before a power of ten that is not negative, and which of two equally near decimals is
written. In all layouts the digits are the shortest that read back, powers are not padded, and
infinities and NaN are written by name.
-/

namespace Worksheet.Number

/-- The decisions that differ between the written forms of numbers. -/
structure Layout where
  /-- Whether numbers whose leading digit is at this place are written positionally. -/
  positional : Int → Bool
  /-- What follows the digits of a whole number that is written positionally. -/
  wholeMark : String
  /-- What stands before a power of ten that is not negative. -/
  powerMark : String
  /-- Which of two equally near decimals is written. -/
  tie : Tie

/-- Positional notation only, no mark on whole numbers, and the upper of two equally near
decimals. -/
def Layout.plain : Layout :=
  ⟨fun _ => true, "", "", .upper⟩

/-! ## Digits -/

/-- The digits of a decimal in positional notation, with `mark` after a whole number. -/
def Decimal.positional (mark : String) (d : Decimal) : List Char :=
  let digits := Nat.toDigits 10 d.coefficient
  if 0 ≤ d.exponent then digits ++ List.replicate d.exponent.toNat '0' ++ mark.toList
  else
    let places := d.exponent.natAbs
    let padded := List.replicate (places + 1 - digits.length) '0' ++ digits
    padded.take (padded.length - places) ++ '.' :: padded.drop (padded.length - places)

/-- The digits of a decimal with the point after the first one and a power of ten, `mark` before
a power that is not negative. -/
def Decimal.scientific (mark : String) (d : Decimal) : List Char :=
  let digits := Nat.toDigits 10 d.coefficient
  let fraction := digits.drop 1
  let power := d.magnitude - 1
  digits.take 1 ++ (if fraction = [] then [] else '.' :: fraction) ++
    'e' :: (if power < 0 then [] else mark.toList) ++ (toString power).toList

/-! ## Numbers -/

/-- The written form of the magnitude of a finite double. -/
def Layout.magnitude (layout : Layout) (x : Float) : List Char :=
  let d := if x == 0 then ⟨0, 0⟩ else shortest layout.tie x.abs
  if layout.positional (d.magnitude - 1) then d.positional layout.wholeMark
  else d.scientific layout.powerMark

/-- The written form of a double. -/
def Layout.write (layout : Layout) (x : Float) : String :=
  if x.isNaN then "NaN"
  else
    let magnitude := if x.isInf then ['i', 'n', 'f'] else layout.magnitude x
    String.ofList (if isNegative x then '-' :: magnitude else magnitude)

/-- The text of a number: the fewest digits that read back, positional, no mark on whole
numbers. -/
def text (x : Float) : String :=
  Layout.plain.write x

end Worksheet.Number
