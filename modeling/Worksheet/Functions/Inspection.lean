import Worksheet.Functions.Arguments

/-!
# Functions on the kind of a value

Tests of a single argument, which never fail with that argument, and the error for a value that
is not available.
-/

namespace Worksheet.Functions

/-- The function that tests its only argument. -/
def test (holds : Value → Bool) : List Value → Value
  | [v] => .logical (holds v)
  | _ => .error .value

/-- `ISERROR`: whether a value is an error. -/
def isError : List Value → Value :=
  test Value.isError

/-- `ISNA`: whether a value is the error for one that is not available. -/
def isNotAvailable : List Value → Value :=
  test fun v => v.error? == some .notAvailable

/-- `ISNUMBER`: whether a value is a number. -/
def isNumber : List Value → Value :=
  test fun | .number _ => true | _ => false

/-- `ISTEXT`: whether a value is a text. -/
def isText : List Value → Value :=
  test fun | .text _ => true | _ => false

/-- `ISLOGICAL`: whether a value is a logical value. -/
def isLogical : List Value → Value :=
  test fun | .logical _ => true | _ => false

/-- `NA`: the error for a value that is not available. -/
def notAvailable (_ : List Value) : Value :=
  .error .notAvailable

end Worksheet.Functions
