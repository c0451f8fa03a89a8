import Worksheet.Workbook

/-!
# Sessions

A session is a run of requests on one workbook, each with its reply. Requests write and read
cells, evaluate and read formulas, and change functions and policies.
-/

namespace Worksheet.Session

/-- What a workbook can be asked to do. -/
inductive Request where
  | set (address : String) (cell : Cell)
  | get (address : String)
  | remove (address : String)
  | list
  | clear
  | forget
  | evaluate (formula : String)
  | evaluateWith (formula : String) (cells : List (String × Cell))
  | tree (formula : String)
  | setMissing (missing : MissingCell)
  | register (d : Definition)
  | defines (name : String)
  | call (name : String) (args : List Value)

/-- What a workbook replies. -/
inductive Reply where
  | done
  | cell (content : Option Cell)
  | cells (contents : List (String × Cell))
  | flag (b : Bool)
  | count (n : Nat)
  | missing (policy : MissingCell)
  | value (result : Except Formula.SyntaxError Value)
  | tree (result : Except Formula.SyntaxError Formula.Expr)
  | called (result : Except Failure Value)

/-- Carries out a request. -/
def perform (book : Workbook) : Request → Reply × Workbook
  | .set address cell => (.done, book.set address cell)
  | .get address => (.cell (book.sheet.get? address), book)
  | .remove address =>
    (.cell (book.sheet.get? address), { book with sheet := book.sheet.remove address })
  | .list => (.cells book.sheet.toList, book)
  | .clear => (.flag Sheet.empty.isEmpty, { book with sheet := Sheet.empty })
  | .forget => (.done, { book with calculator := book.calculator.forget })
  | .evaluate formula =>
    let (result, book) := book.evaluate formula
    (.value result, book)
  | .evaluateWith formula cells =>
    let (result, book) := book.evaluateWith (Sheet.empty.setAll cells).get? formula
    (.value result, book)
  | .tree formula =>
    let (result, calculator) := book.calculator.treeOfFormula formula
    (.tree result, { book with calculator })
  | .setMissing policy =>
    (.missing policy, { book with calculator := book.calculator.setMissing policy })
  | .register d =>
    let calculator := book.calculator.register d
    (.count calculator.registry.size, { book with calculator })
  | .defines name => (.flag (book.calculator.registry.get? name).isSome, book)
  | .call name args => (.called (book.calculator.registry.call name args), book)

/-- A reply, with the number of cells set and of trees kept behind it. -/
structure Step where
  reply : Reply
  cells : Nat
  trees : Nat

/-- Carries out requests one after the other. -/
def run (book : Workbook) : List Request → List Step × Workbook
  | [] => ([], book)
  | request :: rest =>
    let (reply, next) := perform book request
    let (steps, last) := run next rest
    (⟨reply, next.sheet.size, next.calculator.kept⟩ :: steps, last)

end Worksheet.Session
