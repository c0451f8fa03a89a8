import Worksheet.CommandLine.Assignment
import Worksheet.CommandLine.CellsFile
import Worksheet.CommandLine.Command
import Worksheet.Formula.Outline
import Worksheet.Workbook

/-!
# Running commands

A command prints lines and may end in trouble; what was printed before stays. Formulas are
evaluated in order up to the first that is malformed. Cells come from the cells file and then from
the assignments, later writes over earlier ones.

Results:
* `evaluateAll_nil`: without formulas nothing is printed.
-/

namespace Worksheet.CommandLine

/-- What a command leaves: its output and the trouble it ended in. -/
structure Outcome where
  output : String
  trouble : Option Trouble

/-- The exit code: 0 for success and 1 for trouble. -/
def Outcome.code (outcome : Outcome) : UInt32 :=
  if outcome.trouble.isSome then 1 else 0

/-- The name of the program. -/
def programName : String := "cellcalc"

/-- The name and the version of the program. -/
def versionLine : String :=
  programName ++ " 0.1.0"

/-- The reminder for a command line that makes no sense. -/
def usageLine : String :=
  s!"usage: {programName} [-v] (eval FORMULA... | tokens FORMULA | ast FORMULA | functions)"

/-- Lines, each with a line end. -/
def unlines (lines : List String) : String :=
  String.join (lines.map (· ++ "\n"))

/-! ## Evaluating -/

/-- The cells that a command evaluates against: those of the file and then the assigned ones. -/
def cellsFor (contents : Option String) (e : Evaluation) :
    Except Trouble (List (String × Cell)) := do
  let fromFile ← match e.cellsFile with
    | some path => readCellsFile path contents
    | none => .ok []
  let assigned ← e.assignments.mapM readAssignment
  return fromFile ++ assigned

/-- The line for the value of a formula, which is named only among several. -/
def valueLine (named : Bool) (formula : String) (v : Value) : String :=
  if named then formula ++ "\t" ++ v.toText else v.toText

/-- The lines for formulas up to the first malformed one, and the trouble with that. -/
def evaluateAll (named : Bool) (book : Workbook) : List String → List String × Option Trouble
  | [] => ([], none)
  | formula :: rest =>
    match book.evaluate formula with
    | (.ok v, next) =>
      let (lines, trouble) := evaluateAll named next rest
      (valueLine named formula v :: lines, trouble)
    | (.error fault, _) => ([], some (.evaluating formula fault))

theorem evaluateAll_nil (named : Bool) (book : Workbook) :
    evaluateAll named book [] = ([], none) := rfl

/-- Evaluates formulas; `contents` is what the cells file holds, if it can be read. -/
def runEvaluation (contents : Option String) (e : Evaluation) : Outcome :=
  match cellsFor contents e with
  | .error trouble => ⟨"", some trouble⟩
  | .ok cells =>
    let book : Workbook := ⟨Sheet.empty.setAll cells, Calculator.start e.missing⟩
    let (lines, trouble) := evaluateAll (1 < e.formulas.length) book e.formulas
    ⟨unlines lines, trouble⟩

/-! ## Listing -/

/-- A text with spaces in front up to a width. -/
def padStart (width : Nat) (s : String) : String :=
  String.ofList (List.replicate (width - s.length) ' ') ++ s

/-- A text with spaces behind it up to a width. -/
def padEnd (width : Nat) (s : String) : String :=
  s ++ String.ofList (List.replicate (width - s.length) ' ')

/-- The line for a token: position, kind and text. -/
def tokenLine (t : Formula.Token) : String :=
  padStart 4 (toString t.position) ++ "  " ++ padEnd 16 t.kind.wording ++ " " ++ t.text

/-- Lists the tokens of a formula. -/
def runTokens (formula : String) : Outcome :=
  match Formula.tokensFrom 0 (Formula.dropEquals (Text.trim formula.toList)) with
  | .ok tokens => ⟨unlines (tokens.map tokenLine), none⟩
  | .error fault => ⟨"", some (.tokenizing formula fault)⟩

/-- Shows the tree of a formula: its written form and its outline. -/
def runTree (formula : String) : Outcome :=
  match Formula.Expr.ofText formula with
  | .ok e => ⟨unlines [e.render, e.outline.render], none⟩
  | .error fault => ⟨"", some (.parsing formula fault)⟩

/-! ## Commands -/

/-- The file that a command reads. -/
def Command.file? : Command → Option String
  | .evaluate e => e.cellsFile
  | _ => none

/-- The exit code for a command line that makes no sense. -/
def usageCode : UInt32 := 2

/-- Runs a command; `contents` is what its file holds, if it can be read. -/
def Command.run (contents : Option String) : Command → Outcome
  | .evaluate e => runEvaluation contents e
  | .tokens formula => runTokens formula
  | .tree formula => runTree formula
  | .functions => ⟨unlines Registry.standard.names, none⟩
  | .version => ⟨unlines [versionLine], none⟩

end Worksheet.CommandLine
