import Worksheet.Formula.Error
import Worksheet.Text.Blank
import Worksheet.Text.Letter

/-!
# Reading tokens

A formula is cut into the longest tokens, blanks between them left out. A number is a run of
digits and points that starts with a digit, a name a run of name characters, and a text stands
between quotes, with quotes inside it doubled.

Results:
* `quoted?_quote`: what quoting writes, reading takes back.
-/

namespace Worksheet.Formula

/-! ## Texts in quotes -/

/-- A text with its quotes doubled. -/
def doubleQuotes : List Char → List Char
  | [] => []
  | c :: rest => if c = '"' then '"' :: '"' :: doubleQuotes rest else c :: doubleQuotes rest

/-- A text between quotes, its own quotes doubled. -/
def quote (s : List Char) : List Char :=
  '"' :: doubleQuotes s ++ ['"']

/-- The text up to the closing quote, and how many characters it takes with that quote. -/
def quoted? : List Char → Option (List Char × Nat)
  | [] => none
  | '"' :: '"' :: rest => (quoted? rest).map fun (s, width) => ('"' :: s, width + 2)
  | '"' :: _ => some ([], 1)
  | c :: rest => (quoted? rest).map fun (s, width) => (c :: s, width + 1)

/-! ## One token -/

/-- A token as it stands in a formula: its kind, its text and how many characters it takes. -/
structure Lexeme where
  kind : TokenKind
  text : List Char
  width : Nat
  width_pos : 0 < width
deriving DecidableEq, Repr

namespace Lexeme

/-- Whether a number may go on with this character. -/
def continuesNumber (c : Char) : Bool :=
  c.isDigit || c == '.'

/-- The longest run of characters of a class, whatever its first character. -/
def run (kind : TokenKind) (continues : Char → Bool) (c : Char) (rest : List Char) : Lexeme :=
  ⟨kind, c :: rest.takeWhile continues, (rest.takeWhile continues).length + 1, Nat.succ_pos _⟩

/-- A token that consists of one character. -/
def single (kind : TokenKind) (c : Char) : Lexeme :=
  ⟨kind, [c], 1, Nat.one_pos⟩

/-- A token that consists of two characters. -/
def double (kind : TokenKind) (c d : Char) : Lexeme :=
  ⟨kind, [c, d], 2, Nat.two_pos⟩

/-- The operator or delimiter at the head of a formula. -/
def symbol? (c : Char) (rest : List Char) : Option Lexeme :=
  match c, rest with
  | '+', _ => some (single .plus c)
  | '-', _ => some (single .minus c)
  | '*', _ => some (single .star c)
  | '/', _ => some (single .slash c)
  | '^', _ => some (single .caret c)
  | '(', _ => some (single .openParen c)
  | ')', _ => some (single .closeParen c)
  | ',', _ => some (single .comma c)
  | ':', _ => some (single .colon c)
  | '&', _ => some (single .ampersand c)
  | '=', _ => some (single .equal c)
  | '<', '>' :: _ => some (double .notEqual c '>')
  | '<', '=' :: _ => some (double .lessEqual c '=')
  | '<', _ => some (single .less c)
  | '>', '=' :: _ => some (double .greaterEqual c '=')
  | '>', _ => some (single .greater c)
  | _, _ => none

/-- The token at the head of a formula that does not start with a blank. -/
def ofHead (c : Char) (rest : List Char) : Except SyntaxFault Lexeme :=
  if c.isDigit then .ok (run .number continuesNumber c rest)
  else if Text.startsName c then .ok (run .identifier Text.continuesName c rest)
  else if c = '"' then
    match quoted? rest with
    | some (s, width) => .ok ⟨.text, s, width + 1, Nat.succ_pos _⟩
    | none => .error .unterminatedText
  else
    match symbol? c rest with
    | some lexeme => .ok lexeme
    | none => .error (.unexpectedCharacter c)

end Lexeme

/-! ## All tokens -/

/-- The tokens of a formula that `position` characters come before. -/
def tokensFrom (position : Nat) : List Char → Except SyntaxError (List Token)
  | [] => .ok [Token.endAt position]
  | c :: rest =>
    if Text.isBlank c then tokensFrom (position + 1) rest
    else
      match Lexeme.ofHead c rest with
      | .error fault => .error ⟨position, fault⟩
      | .ok lexeme =>
        (tokensFrom (position + lexeme.width) ((c :: rest).drop lexeme.width)).map
          (⟨lexeme.kind, String.ofList lexeme.text, position⟩ :: ·)
termination_by s => s.length
decreasing_by
  · simp
  · have := lexeme.width_pos
    simp only [List.length_drop, List.length_cons]
    omega

/-- The tokens of a formula. -/
def tokensOf (formula : String) : Except SyntaxError (List Token) :=
  tokensFrom 0 formula.toList

/-! ## Quoting -/

theorem quoted?_quote (s rest : List Char) (h : rest.head? ≠ some '"') :
    quoted? (doubleQuotes s ++ '"' :: rest) = some (s, (doubleQuotes s).length + 1) := by
  induction s with
  | nil =>
    cases rest with
    | nil => rfl
    | cons c rest =>
      have : c ≠ '"' := fun e => h (by simp [e])
      simp [doubleQuotes, quoted?, this]
  | cons c s ih =>
    by_cases hc : c = '"'
    · subst hc
      simp [doubleQuotes, quoted?, ih]
    · simp [doubleQuotes, hc, quoted?, ih]

end Worksheet.Formula
