import Worksheet.Address.Range
import Worksheet.Comparison
import Worksheet.Formula.Expr
import Worksheet.Functions.Registry
import Worksheet.Sheet

/-!
# Evaluating formulas

A formula is evaluated against cells, functions and a policy for cells that are not set. Errors
are values: operators pass on the first one, left operand before right, and functions see the
errors among their arguments. A function call that has no value yields an error value too.

Results:
* `values_eq_map`: arguments are evaluated one by one.
-/

namespace Worksheet

/-- What a reference to a single cell that is not set yields. -/
inductive MissingCell where
  | referenceError
  | blank
deriving DecidableEq, Repr

/-- What a formula is evaluated against. -/
structure Context where
  cell? : String → Option Cell
  registry : Registry
  missing : MissingCell

namespace Context

/-! ## References -/

/-- The value of a single cell. -/
def reference (context : Context) (name : String) : Value :=
  match context.cell? name, context.missing with
  | some cell, _ => .ofCell cell
  | none, .referenceError => .error .reference
  | none, .blank => .blank

/-- The value of a cell within a range, an error if it is not set. -/
def member (context : Context) (a : Address) : Value :=
  match context.cell? a.a1 with
  | some cell => .ofCell cell
  | none => .error .reference

/-- The values of a range, row by row. -/
def rangeValues (context : Context) (first last : String) : Value :=
  match Address.ofText first, Address.ofText last with
  | .ok a, .ok b => .list ((Range.between a b).cells.map context.member)
  | _, _ => .error .reference

/-! ## Operators -/

/-- The result of a comparison operator for an order of its operands. -/
def compares (op : Formula.BinaryOp) (order : Ordering) : Bool :=
  match op with
  | .equal => order == .eq
  | .notEqual => order != .eq
  | .less => order == .lt
  | .lessEqual => order != .gt
  | .greater => order == .gt
  | _ => order != .lt

/-- The result of an arithmetic operator. -/
def arithmetic (op : Formula.BinaryOp) (x y : Float) : Value :=
  match op with
  | .add => .number (x + y)
  | .subtract => .number (x - y)
  | .multiply => .number (x * y)
  | .divide => if y == 0 then .error .divisionByZero else .number (x / y)
  | .power => .number (x.pow y)
  | _ => .error .value

/-- The result of an operator for operands that are no errors. -/
def combine (op : Formula.BinaryOp) (v w : Value) : Value :=
  if op = .concat then .text (v.toText ++ w.toText)
  else if op.isComparison then .logical (compares op (Comparison.ofValues v w))
  else
    match v.toNumber?, w.toNumber? with
    | some x, some y => arithmetic op x y
    | _, _ => .error .value

/-- The result of a binary operator: the first error among the operands, or what it makes of
them. -/
def binary (op : Formula.BinaryOp) (v w : Value) : Value :=
  if v.isError then v else if w.isError then w else combine op v w

/-- The result of a sign. -/
def unary (op : Formula.UnaryOp) (v : Value) : Value :=
  if v.isError then v
  else
    match v.toNumber?, op with
    | some x, .negate => .number (-x)
    | some x, .plus => .number x
    | none, _ => .error .value

/-! ## Calls -/

/-- The value of a call: an unknown function and any other failure are errors of their own. -/
def outcome : Except Failure Value → Value
  | .ok v => v
  | .error (.refused (.unknownFunction _)) => .error .name
  | .error _ => .error .value

/-! ## Formulas -/

mutual

/-- The value of a formula. -/
def value (context : Context) : Formula.Expr → Value
  | .number x => .number x
  | .text s => .text s
  | .cell name => context.reference name
  | .range first last => context.rangeValues first last
  | .binary op left right => binary op (context.value left) (context.value right)
  | .unary op operand => unary op (context.value operand)
  | .call name args => outcome (context.registry.call name (context.values args))

/-- The values of formulas. -/
def values (context : Context) : List Formula.Expr → List Value
  | [] => []
  | e :: rest => context.value e :: context.values rest

end

theorem values_eq_map (context : Context) (es : List Formula.Expr) :
    context.values es = es.map context.value := by
  induction es with
  | nil => rfl
  | cons e rest ih => simp [values, ih]

end Context

end Worksheet
