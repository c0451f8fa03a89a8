import Worksheet.Address.Column
import Worksheet.Number.Reader

/-!
# Cell addresses

An address is a column and a row, both from one to the largest 32-bit number. It is written as
column letters and then the row in decimal; letters are read in either case and rows with any
number of leading zeros. Addresses are ordered by row and then by column.
-/

namespace Worksheet

/-- The place of a cell. -/
structure Address where
  row : UInt32
  column : UInt32
deriving DecidableEq, Repr

namespace Address

/-! ## Written form -/

/-- The characters of the written form. -/
def a1Chars (a : Address) : List Char :=
  Column.letters a.column.toNat ++ Nat.toDigits 10 a.row.toNat

/-- The written form: column letters and row number. -/
def a1 (a : Address) : String :=
  String.ofList a.a1Chars

/-- The row that digits name within an address. -/
def readRow (whole : String) (digits : List Char) : Except AddressError Nat :=
  if digits = [] then .error (.noRow whole)
  else if !digits.all Char.isDigit then .error (.malformedRow whole)
  else if Column.maxIndex < Number.digitsValue digits then .error (.rowTooLarge whole)
  else if Number.digitsValue digits = 0 then .error (.zeroRow whole)
  else .ok (Number.digitsValue digits)

/-- Reads an address. -/
def ofText (s : String) : Except AddressError Address :=
  let letters := s.toList.takeWhile Char.isAlpha
  let digits := s.toList.dropWhile Char.isAlpha
  if s.toList = [] then .error .empty
  else if letters = [] then .error (.noColumn s)
  else
    match Column.ofLetters letters, readRow s digits with
    | .error e, _ => .error e
    | .ok _, .error e => .error e
    | .ok column, .ok row => .ok ⟨row.toUInt32, column.toUInt32⟩

/-! ## Order -/

/-- Whether one address comes before another or is the same: by row, then by column. -/
def precedes (a b : Address) : Bool :=
  a.row < b.row || (a.row == b.row && a.column ≤ b.column)

/-- The addresses in order. -/
def sort (addresses : List Address) : List Address :=
  addresses.mergeSort precedes

end Address

end Worksheet
