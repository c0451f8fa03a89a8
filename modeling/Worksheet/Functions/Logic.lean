import Worksheet.Functions.Arguments

/-!
# Logical functions

Choice, conjunction, disjunction and negation. Conjunction and disjunction open lists and stop at
the first element that decides them or cannot be read.
-/

namespace Worksheet.Functions

/-- Whether all elements are true, up to the first that is false or cannot be read. -/
def allTrue : List Value → Except ErrorCode Bool
  | [] => .ok true
  | v :: rest =>
    match logicalOf v with
    | .ok true => allTrue rest
    | decided => decided

/-- Whether some element is true, up to the first that is true or cannot be read. -/
def someTrue : List Value → Except ErrorCode Bool
  | [] => .ok false
  | v :: rest =>
    match logicalOf v with
    | .ok false => someTrue rest
    | decided => decided

/-- `AND`: whether all elements of the arguments are true. -/
def conjunction (args : List Value) : Value :=
  settle ((allTrue (flatten args)).map .logical)

/-- `OR`: whether some element of the arguments is true. -/
def disjunction (args : List Value) : Value :=
  settle ((someTrue (flatten args)).map .logical)

/-- `NOT`: the opposite of a logical value. -/
def negation (args : List Value) : Value := settle do
  refuseErrors args
  match args with
  | [v] => return .logical (!(← logicalOf v))
  | _ => throw .value

/-- `IF`: one of two values, by a condition. -/
def ifThenElse : List Value → Value
  | [condition, whenTrue, whenFalse] => settle do
    return if ← logicalOf condition then whenTrue else whenFalse
  | _ => .error .value

/-- `IFERROR`: a value, or another one in place of an error. -/
def ifError : List Value → Value
  | [v, fallback] => if v.isError then fallback else v
  | _ => .error .value

end Worksheet.Functions
