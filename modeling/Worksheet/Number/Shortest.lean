import Worksheet.Number.Decimal

/-!
# Shortest decimals of doubles

The decimal that stands for a finite double has the fewest digits that read back to it and, of
those, is the nearest; which of two equally near ones is taken is a choice of the caller. For one
to seventeen digits the search tests the two neighbours of the double on the grid of that many
digits; the comparison of the neighbours is exact.

Results:
* `Search.toFloat_eq`: what the search picks reads back to the double.
-/

namespace Worksheet.Number

/-! ## Exact binary form -/

/-- The number `mantissa * 2 ^ exponent`. -/
structure Binary where
  mantissa : Nat
  exponent : Int
deriving DecidableEq, Repr

/-- The leading bit of a mantissa, which the bits of a double leave out. -/
def hiddenBit : Nat := 0x10000000000000

/-- The magnitude of a finite double. -/
def Binary.ofFloat (x : Float) : Binary :=
  let bits := x.toBits.toNat
  let fraction : Nat := bits % hiddenBit
  let biased : Nat := bits / hiddenBit % 0x800
  if biased = 0 then ⟨fraction, -1074⟩ else ⟨hiddenBit + fraction, (biased : Int) - 1075⟩

/-- Whether the sign bit is set. -/
def isNegative (x : Float) : Bool :=
  0x8000000000000000 ≤ x.toBits.toNat

/-- The quotient of the number and `10 ^ place`, as a numerator and a denominator. -/
def Binary.ratio (b : Binary) (place : Int) : Nat × Nat :=
  (b.mantissa * Nat.pow 2 b.exponent.toNat * Nat.pow 10 (-place).toNat,
    Nat.pow 2 (-b.exponent).toNat * Nat.pow 10 place.toNat)

/-- The place of the leading digit of a positive number that is at least `10 ^ -400`. -/
def Binary.leadingPlace (b : Binary) : Int :=
  let scaled := b.ratio (-400)
  (digitCount (scaled.1 / scaled.2) : Int) - 401

/-- All digits of the number. -/
def Binary.exactly (b : Binary) : Decimal :=
  if b.exponent < 0 then ⟨b.mantissa * Nat.pow 5 (-b.exponent).toNat, b.exponent⟩
  else ⟨b.mantissa * Nat.pow 2 b.exponent.toNat, 0⟩

/-! ## Search -/

/-- Which of two equally near decimals comes first. -/
inductive Tie where
  | upper
  | even
deriving DecidableEq, Repr

/-- Whether the multiple of a grid below a number comes before the one above it: `below` counts
that multiple, and `part` of `whole` is how far the number lies above it. -/
def Tie.prefersBelow (tie : Tie) (below part whole : Nat) : Bool :=
  match tie with
  | upper => 2 * part < whole
  | even => 2 * part < whole || (2 * part == whole && below % 2 == 0)

namespace Search

/-- The neighbours of a positive double on the grid of `10 ^ place`, the preferred one first. -/
def neighbours (tie : Tie) (x : Float) (place : Int) : List Decimal :=
  let (numerator, denominator) := (Binary.ofFloat x).ratio place
  let count := numerator / denominator
  let below := Decimal.reduced count place
  let above := Decimal.reduced (count + 1) place
  if tie.prefersBelow count (numerator % denominator) denominator then [below, above]
  else [above, below]

/-- The neighbour with `count` digits that reads back to the double. -/
def withDigits (tie : Tie) (x : Float) (leading : Int) (count : Nat) : Option Decimal :=
  (neighbours tie x (leading + 1 - count)).find? fun d => d.toFloat = x

/-- The decimal of at most seventeen digits that stands for a positive double. -/
def run (tie : Tie) (x : Float) : Option Decimal :=
  (List.range' 1 17).findSome? (withDigits tie x (Binary.ofFloat x).leadingPlace)

theorem toFloat_eq {tie : Tie} {x : Float} {d : Decimal} (h : run tie x = some d) :
    d.toFloat = x := by
  obtain ⟨count, _, found⟩ := List.exists_of_findSome?_eq_some h
  simpa using List.find?_some found

end Search

/-- The shortest decimal that reads back to a positive finite double. -/
def shortest (tie : Tie) (x : Float) : Decimal :=
  (Search.run tie x).getD (Binary.ofFloat x).exactly

end Worksheet.Number
