import Worksheet.Text.CaseTable

/-!
# Upper and lower case

Full case mapping, independent of language. Upper case maps each character on its own, so it may
lengthen a text; lower case writes a sigma that ends a word in its final form.

Results:
* `upper_append`: upper case is computed character by character.
* `upperChar_of_ascii`: ASCII characters keep to ASCII.
-/

namespace Worksheet.Text

/-- The image of a character under an expansion table or, failing that, a table of runs. -/
def mapCase (expansions : List (Nat × List Nat)) (runs : List CaseRun) (c : Char) : List Char :=
  match expansions.lookup c.toNat with
  | some codes => codes.map Char.ofNat
  | none =>
    match runs.find? (·.holds c.toNat) with
    | some run => [Char.ofNat (c.toNat + run.shift).toNat]
    | none => [c]

/-- The upper case of a character. -/
def upperChar (c : Char) : List Char :=
  if c.toNat < 0x80 then [c.toUpper] else mapCase upperExpansions upperRuns c

/-- The lower case of a character outside any context. -/
def lowerChar (c : Char) : List Char :=
  if c.toNat < 0x80 then [c.toLower] else mapCase lowerExpansions lowerRuns c

theorem upperChar_of_ascii {c : Char} (h : c.toNat < 0x80) : upperChar c = [c.toUpper] := by
  simp [upperChar, h]

/-! ## Upper case of a text -/

/-- The upper case of a list of characters. -/
def upperChars (s : List Char) : List Char :=
  s.flatMap upperChar

theorem upper_append (s t : List Char) : upperChars (s ++ t) = upperChars s ++ upperChars t := by
  simp [upperChars]

/-- The upper case of a text. -/
def upper (s : String) : String :=
  String.ofList (upperChars s.toList)

/-! ## Lower case of a text -/

/-- Whether a cased character comes first, ignorable ones passed over. -/
def casedAhead (s : List Char) : Bool :=
  match s.dropWhile fun c => ignorableRanges.hold c.toNat with
  | [] => false
  | c :: _ => casedRanges.hold c.toNat

/-- The lower case of a capital sigma, `before` it the characters read so far, nearest first. -/
def lowerSigma (before after : List Char) : Char :=
  if casedAhead before && !casedAhead after then 'ς' else 'σ'

/-- The lower case of a list of characters that follows `before`, nearest first. -/
def lowerChars (before : List Char) : List Char → List Char
  | [] => []
  | c :: rest =>
    (if c = 'Σ' then [lowerSigma before rest] else lowerChar c) ++ lowerChars (c :: before) rest

/-- The lower case of a text. -/
def lower (s : String) : String :=
  String.ofList (lowerChars [] s.toList)

end Worksheet.Text
