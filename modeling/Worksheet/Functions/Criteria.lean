import Worksheet.Value

/-!
# Criteria

A criterion selects items of a list. A text that starts with a comparison and goes on with a
finite number selects numbers by that comparison; any criterion selects the items that are no
numbers, or all items where it holds no comparison, by equal text. Equality of numbers allows for
a small difference.
-/

namespace Worksheet.Functions

/-- A comparison of numbers. -/
inductive Relation where
  | equal
  | notEqual
  | less
  | lessEqual
  | greater
  | greaterEqual
deriving DecidableEq, Repr

namespace Relation

/-- The difference from which numbers count as different. -/
def tolerance : Float := 1e-9

/-- Whether a relation holds between an item and a bound. -/
def holds (relation : Relation) (item bound : Float) : Bool :=
  match relation with
  | equal => (item - bound).abs < tolerance
  | notEqual => (item - bound).abs > tolerance
  | less => item < bound
  | lessEqual => item ≤ bound
  | greater => item > bound
  | greaterEqual => item ≥ bound

/-- The relation that a text starts with, and what follows it. -/
def split? : List Char → Option (Relation × List Char)
  | '>' :: '=' :: rest => some (greaterEqual, rest)
  | '<' :: '=' :: rest => some (lessEqual, rest)
  | '<' :: '>' :: rest => some (notEqual, rest)
  | '>' :: rest => some (greater, rest)
  | '<' :: rest => some (less, rest)
  | '=' :: rest => some (equal, rest)
  | _ => none

end Relation

/-- What selects items: a text and the comparison that it holds. -/
structure Criterion where
  text : String
  comparison : Option (Relation × Float)

namespace Criterion

/-- The comparison that a text holds. -/
def comparison? (s : List Char) : Option (Relation × Float) :=
  match Relation.split? s with
  | some (relation, rest) => (Number.ofText? rest).map (relation, ·)
  | none => none

/-- The criterion that a value stands for. -/
def ofValue (v : Value) : Criterion :=
  ⟨v.toText, comparison? v.toText.toList⟩

/-- Whether an item is selected. -/
def selects (criterion : Criterion) (item : Value) : Bool :=
  match criterion.comparison, item.toNumber? with
  | some (relation, bound), some x => relation.holds x bound
  | _, _ => item.toText == criterion.text

/-- Whether an item is selected and is no error. -/
def selectsValid (criterion : Criterion) (item : Value) : Bool :=
  !item.isError && criterion.selects item

end Criterion

end Worksheet.Functions
