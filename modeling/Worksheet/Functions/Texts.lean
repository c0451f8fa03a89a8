import Worksheet.Functions.Arguments
import Worksheet.Number.Rounding
import Worksheet.Text.Casing

/-!
# Text functions

Joining, cutting, case and blanks. Lengths and positions count characters.
-/

namespace Worksheet.Functions

/-- The count that an argument stands for. -/
def countAt (args : List Value) (index : Nat) : Except ErrorCode Nat := do
  let x ← numberAt args index
  match Number.count? x with
  | some n => return n
  | none => throw .value

/-- The texts of values joined, up to the first error. -/
def joinTexts : List Value → Except ErrorCode String
  | [] => .ok ""
  | .error e :: _ => .error e
  | v :: rest =>
    match joinTexts rest with
    | .ok s => .ok (v.toText ++ s)
    | .error e => .error e

/-- `CONCATENATE`: the texts of all elements of the arguments, joined. -/
def concatenate (args : List Value) : Value :=
  settle ((joinTexts (flatten args)).map .text)

/-- `LEFT`: the first characters of a text. -/
def left (args : List Value) : Value := settle do
  refuseErrors args
  let s ← textAt args 0
  let n ← countAt args 1
  return .text (String.ofList (s.toList.take n))

/-- `RIGHT`: the last characters of a text. -/
def right (args : List Value) : Value := settle do
  refuseErrors args
  let s ← textAt args 0
  let n ← countAt args 1
  return .text (String.ofList (s.toList.drop (s.toList.length - n)))

/-- `MID`: characters of a text from a position on. -/
def middle (args : List Value) : Value := settle do
  refuseErrors args
  let s ← textAt args 0
  let start ← numberAt args 1
  let n ← countAt args 2
  return .text (String.ofList ((s.toList.drop (Number.offset start)).take n))

/-- `LEN`: the number of characters of a text. -/
def textLength (args : List Value) : Value := settle do
  let s ← textAt args 0
  return .number (Float.ofNat s.toList.length)

/-- `UPPER`: a text in upper case. -/
def upperCase (args : List Value) : Value := settle do
  let s ← textAt args 0
  return .text (Text.upper s)

/-- `LOWER`: a text in lower case. -/
def lowerCase (args : List Value) : Value := settle do
  let s ← textAt args 0
  return .text (Text.lower s)

/-- `TRIM`: the words of a text, parted by single spaces. -/
def trimmed (args : List Value) : Value := settle do
  let s ← textAt args 0
  return .text (String.ofList (Text.squeeze s.toList))

end Worksheet.Functions
