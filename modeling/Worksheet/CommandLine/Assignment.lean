import Worksheet.Address.Basic
import Worksheet.Cell
import Worksheet.CommandLine.Trouble

/-!
# Assignments

An assignment names a cell and, behind an equals sign, what it holds: a text between quotes, a
number, `TRUE` or `FALSE`, an error code, nothing, or any other text as it stands.

Results:
* `contentOf_quoted`: a text between quotes is kept whatever it holds.
-/

namespace Worksheet.CommandLine

/-- The parts of a text before and behind its first equals sign. -/
def splitEquals : List Char → Option (List Char × List Char)
  | [] => none
  | c :: rest =>
    if c = '=' then some ([], rest)
    else (splitEquals rest).map fun (before, after) => (c :: before, after)

/-- What stands between two quotes. -/
def unquoted? (s : List Char) : Option (List Char) :=
  match s with
  | '"' :: rest =>
    match rest.reverse with
    | '"' :: inner => some inner.reverse
    | _ => none
  | _ => none

/-- What a text without quotes around it stands for, `trimmed` being that text without the blanks
at its ends. -/
def contentOfTrimmed (raw trimmed : List Char) : Cell :=
  let capital := String.ofList (trimmed.map Char.toUpper)
  if trimmed = [] then .blank
  else
    match (Number.read trimmed).filter Float.isFinite with
    | some x => .number x
    | none =>
      if capital = "TRUE" then .logical true
      else if capital = "FALSE" then .logical false
      else
        match ErrorCode.ofCode? (String.ofList trimmed) with
        | some e => .error e
        | none => .text (String.ofList raw)

/-- The cell content that a text stands for. -/
def contentOf (raw : List Char) : Cell :=
  match unquoted? raw with
  | some s => .text (String.ofList s)
  | none => contentOfTrimmed raw (Text.trim raw)

/-- The address and the content that an assignment gives. -/
def readAssignment (assignment : String) : Except Trouble (String × Cell) :=
  match splitEquals assignment.toList with
  | none => .error (.noAssignment assignment)
  | some (before, after) =>
    let address := String.ofList (Text.trim before)
    match Address.ofText address with
    | .error cause => .error (.badAddress address cause)
    | .ok _ => .ok (address, contentOf after)

theorem contentOf_quoted (s : List Char) :
    contentOf ('"' :: s ++ ['"']) = .text (String.ofList s) := by
  simp [contentOf, unquoted?]

end Worksheet.CommandLine
