import Worksheet.Address.Error
import Worksheet.Document.Basic
import Worksheet.Formula.Error

/-!
# Reports of failed commands

Why a command ends without success. A report names what failed and, where it is known, the cause,
indented below.
-/

namespace Worksheet.CommandLine

/-- Why a command fails. -/
inductive Trouble where
  | noAssignment (text : String)
  | badAddress (text : String) (cause : AddressError)
  | unreadableFile (path : String)
  | malformedFile (path : String)
  | noObject (path : String)
  | badKey (path key : String) (cause : AddressError)
  | unsupportedValue (value : Document)
  | evaluating (formula : String) (cause : Formula.SyntaxError)
  | tokenizing (formula : String) (cause : Formula.SyntaxError)
  | parsing (formula : String) (cause : Formula.SyntaxError)

namespace Trouble

/-- What failed. -/
def headline : Trouble → String
  | noAssignment text => s!"Expected ADDR=VALUE, got '{text}'"
  | badAddress text _ => s!"Invalid cell address: {text}"
  | unreadableFile path => s!"Failed to read cells file: {path}"
  | malformedFile path => s!"Failed to parse cells file: {path}"
  | noObject path => s!"Cells file must contain a JSON object: {path}"
  | badKey path key _ => s!"Invalid cell address in {path}: {key}"
  | unsupportedValue value => s!"Unsupported cell value: {value.compact}"
  | evaluating formula _ => s!"Failed to evaluate: {formula}"
  | tokenizing formula _ => s!"Failed to tokenize: {formula}"
  | parsing formula _ => s!"Failed to parse: {formula}"

/-- The message of the cause. -/
def cause? : Trouble → Option String
  | badAddress _ cause | badKey _ _ cause => some cause.message
  | evaluating _ cause | tokenizing _ cause | parsing _ cause => some cause.message
  | _ => none

/-- A text with every line moved four places to the right. -/
def indent (s : String) : String :=
  String.ofList (s!"    {s}".toList.flatMap fun c =>
    if c = '\n' then "\n    ".toList else [c])

/-- The report of a failure. -/
def report (t : Trouble) : String :=
  match t.cause? with
  | some cause => s!"Error: {t.headline}\n\nCaused by:\n{indent cause}"
  | none => s!"Error: {t.headline}"

end Trouble

end Worksheet.CommandLine
