import Worksheet.Formula.Token

/-!
# Formula errors

Why a formula cannot be read, or why a function refuses its arguments, each with its message.
-/

namespace Worksheet.Formula

/-- What is wrong at some place of a formula. -/
inductive SyntaxFault where
  | unterminatedText
  | unexpectedCharacter (c : Char)
  | unexpected (found : Token)
  | missing (expected : TokenKind) (found : Token)
  | malformedNumber (text : String)
  | trailing (found : Token)
  /-- A fault that a function reports in its own words. -/
  | reported (message : String)
deriving DecidableEq, Repr

/-- A fault and the number of characters before it. -/
structure SyntaxError where
  position : Nat
  fault : SyntaxFault
deriving DecidableEq, Repr

namespace SyntaxError

/-- What is wrong, in words. -/
def cause (e : SyntaxError) : String :=
  match e.fault with
  | .unterminatedText => "unterminated string literal"
  | .unexpectedCharacter c => s!"unexpected character '{c}' at position {e.position}"
  | .unexpected found => s!"unexpected {found.wording}"
  | .missing expected found => s!"expected {expected.wording} but found {found.wording}"
  | .malformedNumber text => s!"invalid number '{text}'"
  | .trailing found => s!"unexpected {found.wording} after expression"
  | .reported message => message

/-- The message for a syntax error. -/
def message (e : SyntaxError) : String :=
  s!"Syntax error at position {e.position}: {e.cause}"

end SyntaxError

/-- An error outside the values of formulas. -/
inductive FormulaError where
  | malformed (e : SyntaxError)
  | evaluation (message : String)
  | unknownFunction (name : String)
  | argumentCount (function expected : String) (got : Nat)
deriving DecidableEq, Repr

/-- The message for a formula error. -/
def FormulaError.message : FormulaError → String
  | malformed e => e.message
  | evaluation message => s!"Evaluation error: {message}"
  | unknownFunction name => s!"Unknown function: {name}"
  | argumentCount function expected got =>
    s!"Wrong number of arguments for {function}: expected {expected}, got {got}"

/-- Whether an error is one of syntax. -/
def FormulaError.isSyntax : FormulaError → Bool
  | malformed _ => true
  | _ => false

end Worksheet.Formula
