import Worksheet.Value

/-!
# Arguments of functions

How functions read their arguments. Reading one may fail with an error code, which is then the
value of the function.

Results:
* `flatten_append`: lists among the arguments are opened one by one.
-/

namespace Worksheet.Functions

/-- A value, or the error that stands in its place. -/
def settle (result : Except ErrorCode Value) : Value :=
  match result with
  | .ok v => v
  | .error e => .error e

/-- The first error among arguments, lists not opened. -/
def firstError? (args : List Value) : Option ErrorCode :=
  args.findSome? Value.error?

/-- Fails with the first error among the arguments. -/
def refuseErrors (args : List Value) : Except ErrorCode Unit :=
  match firstError? args with
  | some e => .error e
  | none => .ok ()

/-- The number that an argument reads as. -/
def numberAt (args : List Value) (index : Nat) : Except ErrorCode Float :=
  match args[index]? with
  | some (.error e) => .error e
  | some v =>
    match v.toNumber? with
    | some x => .ok x
    | none => .error .value
  | none => .error .value

/-- The text that an argument reads as; a list is none. -/
def textAt (args : List Value) (index : Nat) : Except ErrorCode String :=
  match args[index]? with
  | some (.error e) => .error e
  | some (.list _) | none => .error .value
  | some v => .ok v.toText

/-- The logical value that a value reads as. -/
def logicalOf (v : Value) : Except ErrorCode Bool :=
  match v with
  | .error e => .error e
  | v =>
    match v.toLogical? with
    | some b => .ok b
    | none => .error .value

/-! ## Lists among the arguments -/

/-- The arguments with their lists opened. -/
def flatten (args : List Value) : List Value :=
  args.flatMap Value.elements

/-- The numbers among the arguments and in their lists, in order. -/
def numbers (args : List Value) : List Float :=
  (flatten args).filterMap Value.toNumber?

theorem flatten_append (args more : List Value) :
    flatten (args ++ more) = flatten args ++ flatten more := by
  simp [flatten]

end Worksheet.Functions
