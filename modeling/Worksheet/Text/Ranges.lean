/-!
# Sets of characters given by ranges

A character class of Unicode is a list of ranges of code points; membership is a search in it.
-/

namespace Worksheet.Text

/-- Ranges of code points, both ends included, in increasing order. -/
abbrev Ranges := List (Nat × Nat)

/-- Whether a code point lies in one of the ranges. -/
def Ranges.hold (ranges : Ranges) (code : Nat) : Bool :=
  ranges.any fun range => range.1 ≤ code && code ≤ range.2

end Worksheet.Text
