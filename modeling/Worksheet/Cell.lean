import Worksheet.ErrorCode
import Worksheet.Number.Layout

/-!
# Cell contents

What a cell can hold, and the text it shows.
-/

namespace Worksheet

/-- The content of a cell. -/
inductive Cell where
  | blank
  | logical (b : Bool)
  | number (x : Float)
  | text (s : String)
  | error (e : ErrorCode)
deriving DecidableEq

namespace Cell

/-- Whether nothing is held. -/
def isBlank (cell : Cell) : Bool :=
  cell = blank

/-- The text that a cell shows. -/
def display : Cell → String
  | blank => ""
  | logical true => "TRUE"
  | logical false => "FALSE"
  | number x => Number.text x
  | text s => s
  | error e => e.code

end Cell

end Worksheet
