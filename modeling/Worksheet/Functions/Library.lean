import Worksheet.Functions.Inspection
import Worksheet.Functions.Logic
import Worksheet.Functions.Registry
import Worksheet.Functions.Statistics
import Worksheet.Functions.Texts

/-!
# The library of functions

The functions that every worksheet starts with, with the number of arguments each takes.
-/

namespace Worksheet.Functions

/-- A function of the library, which always has a value. -/
def entry (name : String) (least : Nat) (most : Option Nat) (f : List Value → Value) :
    Definition :=
  .make name least most fun args => .ok (f args)

/-- The functions of the library. -/
def library : List Definition :=
  [entry "SUM" 0 none sum, entry "SUMIF" 2 (some 3) sumIf,
    entry "ROUND" 2 (some 2) rounded, entry "ABS" 1 (some 1) absolute,
    entry "SQRT" 1 (some 1) squareRoot, entry "MOD" 2 (some 2) remainder,
    entry "AVERAGE" 0 none average, entry "MIN" 0 none minimum,
    entry "MAX" 0 none maximum, entry "COUNT" 0 none count,
    entry "COUNTIF" 2 (some 2) countIf,
    entry "IF" 3 (some 3) ifThenElse, entry "AND" 0 none conjunction,
    entry "OR" 0 none disjunction, entry "NOT" 1 (some 1) negation,
    entry "IFERROR" 2 (some 2) ifError,
    entry "CONCATENATE" 0 none concatenate, entry "LEFT" 2 (some 2) left,
    entry "RIGHT" 2 (some 2) right, entry "MID" 3 (some 3) middle,
    entry "LEN" 1 (some 1) textLength, entry "UPPER" 1 (some 1) upperCase,
    entry "LOWER" 1 (some 1) lowerCase, entry "TRIM" 1 (some 1) trimmed,
    entry "ISERROR" 1 (some 1) isError, entry "ISNA" 1 (some 1) isNotAvailable,
    entry "ISNUMBER" 1 (some 1) isNumber, entry "ISTEXT" 1 (some 1) isText,
    entry "ISLOGICAL" 1 (some 1) isLogical, entry "NA" 0 (some 0) notAvailable]

end Worksheet.Functions

/-- The registry of the library. -/
def Worksheet.Registry.standard : Registry :=
  Registry.empty.registerAll Functions.library
