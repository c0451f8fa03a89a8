import Worksheet.CommandLine.Words
import Worksheet.Evaluation

/-!
# Commands

A command line names one command: evaluating formulas, listing the tokens of a formula, showing
its tree, listing the functions, or telling the version. Every command takes the option for more
log output, which may also stand before it.
-/

namespace Worksheet.CommandLine

/-- What to evaluate and against which cells. -/
structure Evaluation where
  formulas : List String
  assignments : List String
  cellsFile : Option String
  missing : MissingCell
deriving DecidableEq, Repr

/-- A command with its arguments. -/
inductive Command where
  | evaluate (e : Evaluation)
  | tokens (formula : String)
  | tree (formula : String)
  | functions
  | version
deriving DecidableEq, Repr

/-- The commands that can be named. -/
inductive Verb where
  | evaluate
  | tokens
  | tree
  | functions
deriving DecidableEq, Repr

/-- The command of a name. -/
def Verb.ofName? : String → Option Verb
  | "eval" => some .evaluate
  | "tokens" => some .tokens
  | "ast" | "parse" => some .tree
  | "functions" => some .functions
  | _ => none

/-- The options of a command. -/
def Verb.options : Verb → OptionTable
  | .evaluate =>
    ⟨["verbose", "missing-as-empty"], ["cell", "cells"], [('v', "verbose"), ('c', "cell")]⟩
  | _ => ⟨["verbose"], [], [('v', "verbose")]⟩

/-! ## Arguments -/

/-- The operands among items. -/
def operands (items : List Item) : List String :=
  items.filterMap fun | .operand word => some word | _ => none

/-- The values of an option, in order. -/
def valuesOf (name : String) (items : List Item) : List String :=
  items.filterMap fun | .option n value => if n = name then some value else none | _ => none

/-- The evaluation that items ask for: at least one formula, at most one cells file, and no flag
but the one for log output more than once. -/
def evaluationOf? (items : List Item) : Option Evaluation :=
  let formulas := operands items
  let empties := items.count (.flag "missing-as-empty")
  if formulas = [] ∨ 1 < empties then none
  else
    let missing := if empties = 1 then MissingCell.blank else .referenceError
    match valuesOf "cells" items with
    | [] => some ⟨formulas, valuesOf "cell" items, none, missing⟩
    | [path] => if path = "" then none else some ⟨formulas, valuesOf "cell" items, path, missing⟩
    | _ => none

/-- The command that a verb and items make. -/
def Verb.command? (verb : Verb) (items : List Item) : Option Command :=
  match verb, operands items with
  | .evaluate, _ => (evaluationOf? items).map .evaluate
  | .tokens, [formula] => some (.tokens formula)
  | .tree, [formula] => some (.tree formula)
  | .functions, [] => some .functions
  | _, _ => none

/-! ## Command lines -/

/-- What a word before the command asks for. -/
inductive Lead where
  | more
  | version
deriving DecidableEq, Repr

/-- Reads a word before the command: the version counts as soon as it is reached. -/
def Lead.ofWord? (word : String) : Option Lead :=
  match word.toList with
  | '-' :: '-' :: name =>
    if name = "verbose".toList then some more
    else if name = "version".toList then some version
    else none
  | '-' :: c :: letters =>
    match (c :: letters).dropWhile (· = 'v') with
    | [] => some more
    | 'V' :: _ => some version
    | _ => none
  | _ => none

/-- The command that the words of a command line make, none if they make no sense. -/
def Command.ofWords? : List String → Option Command
  | [] => none
  | word :: rest =>
    match Verb.ofName? word with
    | some verb => (readWords verb.options none rest).bind verb.command?
    | none =>
      match Lead.ofWord? word with
      | some .more => ofWords? rest
      | some .version => some .version
      | none => none

end Worksheet.CommandLine
