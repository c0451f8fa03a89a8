import Worksheet.Cell
import Worksheet.Number.Reader

/-!
# Values of formulas

What a formula can yield, and how a value is read as a number, as a logical value and as text.
Text is read as a number when it consists of one; errors and lists are never numbers.
-/

namespace Worksheet

/-- A value that a formula yields or a function takes. -/
inductive Value where
  | number (x : Float)
  | text (s : String)
  | logical (b : Bool)
  | error (e : ErrorCode)
  | list (items : List Value)
  | blank

namespace Value

/-- The value of a cell. -/
def ofCell : Cell → Value
  | .blank => blank
  | .number x => number x
  | .text s => text s
  | .logical b => logical b
  | .error e => error e

/-! ## Reading a value -/

/-- The value as a number. -/
def toNumber? : Value → Option Float
  | number x => some x
  | logical b => some (if b then 1 else 0)
  | text s => Number.ofText? s.toList
  | blank => some 0
  | error _ | list _ => none

/-- The value as a logical value: a number is true unless it is zero. -/
def toLogical? : Value → Option Bool
  | logical b => some b
  | v => v.toNumber?.map fun x => x != 0

mutual

/-- The value as text; a list is written in braces. -/
def toText : Value → String
  | number x => Number.text x
  | text s => s
  | logical b => if b then "TRUE" else "FALSE"
  | error e => e.code
  | list items => "\x7b" ++ ",".intercalate (toTexts items) ++ "\x7d"
  | blank => ""

/-- The texts of values. -/
def toTexts : List Value → List String
  | [] => []
  | v :: rest => v.toText :: toTexts rest

end

/-- The error that a value is. -/
def error? : Value → Option ErrorCode
  | error e => some e
  | _ => none

/-- Whether a value is an error. -/
def isError (v : Value) : Bool :=
  v.error?.isSome

/-- Whether a value is blank. -/
def isBlank : Value → Bool
  | blank => true
  | _ => false

/-- The items of a list; any other value is its own only element. -/
def elements : Value → List Value
  | list items => items
  | v => [v]

end Value

end Worksheet
