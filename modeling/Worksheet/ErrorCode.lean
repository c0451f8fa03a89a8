import Worksheet.Text.Casing

/-!
# Error codes

The six error values that a cell or a formula can hold, and their codes. A code is recognised in
any case.
-/

namespace Worksheet

/-- The error values of a worksheet. -/
inductive ErrorCode where
  | divisionByZero
  | value
  | reference
  | name
  | notAvailable
  | number
deriving DecidableEq, Repr

namespace ErrorCode

/-- The code that stands for an error. -/
def code : ErrorCode → String
  | divisionByZero => "#DIV/0!"
  | value => "#VALUE!"
  | reference => "#REF!"
  | name => "#NAME?"
  | notAvailable => "#N/A"
  | number => "#NUM!"

/-- All errors. -/
def all : List ErrorCode :=
  [divisionByZero, value, reference, name, notAvailable, number]

/-- The error whose code is the upper case of a text. -/
def ofCode? (s : String) : Option ErrorCode :=
  all.find? fun error => error.code = Text.upper s

end ErrorCode

end Worksheet
