/-!
# Operators

The operators of formulas, their symbols and how tightly they bind. All binary operators group to
the left; signs bind tighter than any of them.
-/

namespace Worksheet.Formula

/-- An operator between two operands. -/
inductive BinaryOp where
  | add
  | subtract
  | multiply
  | divide
  | power
  | equal
  | notEqual
  | less
  | lessEqual
  | greater
  | greaterEqual
  | concat
deriving DecidableEq, Repr

/-- A sign before an operand. -/
inductive UnaryOp where
  | negate
  | plus
deriving DecidableEq, Repr

namespace BinaryOp

/-- The symbol of an operator. -/
def symbol : BinaryOp → String
  | add => "+"
  | subtract => "-"
  | multiply => "*"
  | divide => "/"
  | power => "^"
  | equal => "="
  | notEqual => "<>"
  | less => "<"
  | lessEqual => "<="
  | greater => ">"
  | greaterEqual => ">="
  | concat => "&"

/-- How tightly an operator binds: comparisons least, powers most. -/
def level : BinaryOp → Nat
  | equal | notEqual | less | lessEqual | greater | greaterEqual => 0
  | concat => 1
  | add | subtract => 2
  | multiply | divide => 3
  | power => 4

/-- Whether an operator compares its operands. -/
def isComparison (op : BinaryOp) : Bool :=
  op.level == 0

end BinaryOp

/-- The symbol of a sign. -/
def UnaryOp.symbol : UnaryOp → String
  | negate => "-"
  | plus => "+"

end Worksheet.Formula
