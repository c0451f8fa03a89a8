import Worksheet.Address.Basic
import Worksheet.Cell
import Worksheet.CommandLine.Trouble
import Worksheet.Document.Reader

/-!
# Cells files

A cells file is a JSON object that gives contents by address. Its members are taken in the order
of their keys, and the first one that is no cell ends the reading.
-/

namespace Worksheet.CommandLine

/-- The cell content that a value of a cells file stands for; a text may be an error code. -/
def contentOfDocument : Document → Except Trouble Cell
  | .null => .ok .blank
  | .logical b => .ok (.logical b)
  | .whole n => .ok (.number (Document.wholeToFloat n))
  | .decimal x => .ok (.number x)
  | .text s =>
    match ErrorCode.ofCode? s with
    | some e => .ok (.error e)
    | none => .ok (.text s)
  | value => .error (.unsupportedValue value)

/-- The cell that a member of a cells file gives. -/
def cellOfMember (path : String) (member : String × Document) : Except Trouble (String × Cell) :=
  match Address.ofText member.1 with
  | .error cause => .error (.badKey path member.1 cause)
  | .ok _ => (contentOfDocument member.2).map (member.1, ·)

/-- The cells that a file gives; without `contents` it could not be read. -/
def readCellsFile (path : String) (contents : Option String) :
    Except Trouble (List (String × Cell)) :=
  match contents with
  | none => .error (.unreadableFile path)
  | some s =>
    match Document.ofText? s with
    | none => .error (.malformedFile path)
    | some (.object members) => members.mapM (cellOfMember path)
    | some _ => .error (.noObject path)

end Worksheet.CommandLine
