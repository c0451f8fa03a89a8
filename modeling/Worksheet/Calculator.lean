import Worksheet.Evaluation
import Worksheet.Formula.Reader
import Worksheet.Functions.Library

/-!
# Calculators

A calculator evaluates formula texts with its functions and keeps the trees of the texts it has
read. A text is stripped first: blanks around it, one equals sign at its start and the blanks
behind that sign are left out. A text that is then empty has the blank value and no tree.

Results:
* `evaluate_of_empty`: empty formulas are blank and leave the calculator as it is.
-/

namespace Worksheet

/-- Functions, the trees of texts already read, and the policy for cells that are not set. -/
structure Calculator where
  registry : Registry
  trees : Std.TreeMap String Formula.Expr
  missing : MissingCell

namespace Calculator

/-- A calculator with the functions of the library. -/
def start (missing : MissingCell) : Calculator :=
  ⟨Registry.standard, ∅, missing⟩

/-- A formula text without the blanks around it, the equals sign and the blanks behind that. -/
def strip (formula : String) : List Char :=
  Text.trim (Formula.dropEquals (Text.trim formula.toList))

/-! ## Trees -/

/-- The tree of a stripped text, as it is kept or else read and then kept. -/
def treeOf (calculator : Calculator) (s : List Char) :
    Except Formula.SyntaxError Formula.Expr × Calculator :=
  match calculator.trees[String.ofList s]? with
  | some e => (.ok e, calculator)
  | none =>
    match Formula.Expr.ofChars s with
    | .ok e => (.ok e, { calculator with trees := calculator.trees.insert (String.ofList s) e })
    | .error fault => (.error fault, calculator)

/-- The tree of a formula. -/
def treeOfFormula (calculator : Calculator) (formula : String) :
    Except Formula.SyntaxError Formula.Expr × Calculator :=
  calculator.treeOf (strip formula)

/-- How many trees are kept. -/
def kept (calculator : Calculator) : Nat :=
  calculator.trees.size

/-- Forgets the trees. -/
def forget (calculator : Calculator) : Calculator :=
  { calculator with trees := ∅ }

/-! ## Values -/

/-- What the calculator evaluates against, given the cells. -/
def context (calculator : Calculator) (cell? : String → Option Cell) : Context :=
  ⟨cell?, calculator.registry, calculator.missing⟩

/-- The value of a formula against cells. -/
def evaluate (calculator : Calculator) (cell? : String → Option Cell) (formula : String) :
    Except Formula.SyntaxError Value × Calculator :=
  if strip formula = [] then (.ok .blank, calculator)
  else
    match calculator.treeOfFormula formula with
    | (.ok e, after) => (.ok ((calculator.context cell?).value e), after)
    | (.error fault, after) => (.error fault, after)

/-! ## Changes -/

/-- Registers a function. -/
def register (calculator : Calculator) (d : Definition) : Calculator :=
  { calculator with registry := calculator.registry.register d }

/-- Sets the policy for cells that are not set. -/
def setMissing (calculator : Calculator) (missing : MissingCell) : Calculator :=
  { calculator with missing }

/-! ## Empty formulas -/

theorem evaluate_of_empty {calculator : Calculator} {cell? : String → Option Cell}
    {formula : String} (h : strip formula = []) :
    calculator.evaluate cell? formula = (.ok .blank, calculator) := by
  simp [evaluate, h]

end Calculator

end Worksheet
