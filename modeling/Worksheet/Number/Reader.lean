import Worksheet.Number.Decimal
import Worksheet.Text.Blank

/-!
# Reading numbers

A number is an optional sign and then either a word for infinity or NaN, in any case, or digits
with at most one point among them and an optional power of ten. At least one digit stands before
the power. The value is the nearest double; too large a magnitude reads as infinity.

Results:
* `ofText?_isFinite`: numbers inside a text are finite.
-/

namespace Worksheet.Number

/-! ## Pieces -/

/-- A sign, true for a minus, and what follows it; no sign is a plus. -/
def splitSign : List Char → Bool × List Char
  | '-' :: rest => (true, rest)
  | '+' :: rest => (false, rest)
  | s => (false, s)

/-- The value of a run of decimal digits. -/
def digitsValue (digits : List Char) : Nat :=
  digits.foldl (fun value digit => 10 * value + (digit.toNat - '0'.toNat)) 0

/-- A power of ten, `e` or `E` before it; nothing stands for the power zero. -/
def readPower : List Char → Option Int
  | [] => some 0
  | mark :: rest =>
    let (negative, digits) := splitSign rest
    if (mark = 'e' ∨ mark = 'E') ∧ digits ≠ [] ∧ digits.all Char.isDigit then
      some (if negative then -digitsValue digits else digitsValue digits)
    else none

/-- The digits after a point, and what follows them. -/
def splitFraction : List Char → List Char × List Char
  | '.' :: rest => (rest.takeWhile Char.isDigit, rest.dropWhile Char.isDigit)
  | s => ([], s)

/-- An unsigned decimal. -/
def readDecimal (s : List Char) : Option Decimal :=
  let whole := s.takeWhile Char.isDigit
  let (fraction, rest) := splitFraction (s.dropWhile Char.isDigit)
  if whole = [] ∧ fraction = [] then none
  else
    (readPower rest).map fun power =>
      ⟨digitsValue (whole ++ fraction), power - fraction.length⟩

/-- The words that stand for a number, in lower case. -/
def readWord (s : List Char) : Option Float :=
  match String.ofList (s.map Char.toLower) with
  | "inf" | "infinity" => some infinity
  | "nan" => some notANumber
  | _ => none

/-! ## Numbers -/

/-- The number that a text consists of. -/
def read (s : List Char) : Option Float :=
  let (negative, unsigned) := splitSign s
  (readWord unsigned <|> (readDecimal unsigned).map Decimal.toFloat).map fun x =>
    if negative then -x else x

/-- The finite number that a text holds, blanks around it ignored. -/
def ofText? (s : List Char) : Option Float :=
  (read (Text.trim s)).filter Float.isFinite

theorem ofText?_isFinite {s : List Char} {x : Float} (h : ofText? s = some x) :
    x.isFinite = true := by
  simp only [ofText?, Option.filter_eq_some_iff] at h
  exact h.2

end Worksheet.Number
