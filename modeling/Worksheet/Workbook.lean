import Worksheet.Calculator

/-!
# Workbooks

A workbook is a sheet with a calculator. Formulas are evaluated on demand against the cells as
they are; nothing is recalculated.
-/

namespace Worksheet

/-- Cells and the calculator that evaluates formulas against them. -/
structure Workbook where
  sheet : Sheet
  calculator : Calculator

namespace Workbook

/-- A workbook without cells. -/
def start (missing : MissingCell) : Workbook :=
  ⟨Sheet.empty, Calculator.start missing⟩

/-- Writes a cell; a blank clears it. -/
def set (book : Workbook) (address : String) (cell : Cell) : Workbook :=
  { book with sheet := book.sheet.set address cell }

/-- The value of a formula against other cells. -/
def evaluateWith (book : Workbook) (cell? : String → Option Cell) (formula : String) :
    Except Formula.SyntaxError Value × Workbook :=
  let (result, calculator) := book.calculator.evaluate cell? formula
  (result, { book with calculator })

/-- The value of a formula. -/
def evaluate (book : Workbook) (formula : String) :
    Except Formula.SyntaxError Value × Workbook :=
  book.evaluateWith book.sheet.get? formula

end Workbook

end Worksheet
