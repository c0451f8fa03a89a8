/-!
# Address errors

Why a text is no cell address or no column.
-/

namespace Worksheet

/-- What is wrong with an address or with column letters. -/
inductive AddressError where
  | empty
  | noColumn (text : String)
  | noRow (text : String)
  | malformedRow (text : String)
  | rowTooLarge (text : String)
  | zeroRow (text : String)
  | noLetters
  | badLetter (letter : Char)
  | columnTooLarge (letters : String)
deriving DecidableEq, Repr

namespace AddressError

/-- What is wrong, in words. -/
def cause : AddressError → String
  | empty => "empty address"
  | noColumn text => s!"no column letters in '{text}'"
  | noRow text => s!"no row number in '{text}'"
  | malformedRow text => s!"invalid row number in '{text}'"
  | rowTooLarge text => s!"row number too large in '{text}'"
  | zeroRow text => s!"row number must be >= 1 in '{text}'"
  | noLetters => "empty column letters"
  | badLetter letter => s!"invalid column letter '{letter}'"
  | columnTooLarge letters => s!"column too large: {letters}"

/-- The message for an address error. -/
def message (error : AddressError) : String :=
  "Invalid cell address: " ++ error.cause

end AddressError

end Worksheet
