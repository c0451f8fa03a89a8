import Worksheet.Formula.Operator

/-!
# Tokens

The smallest pieces of a formula: literals, names, operators and delimiters, each with its text
and the number of characters before it. A list of tokens ends with the end of input.
-/

namespace Worksheet.Formula

/-- The kinds of tokens. -/
inductive TokenKind where
  | number
  | text
  | identifier
  | plus
  | minus
  | star
  | slash
  | caret
  | openParen
  | closeParen
  | comma
  | colon
  | ampersand
  | equal
  | notEqual
  | less
  | greater
  | lessEqual
  | greaterEqual
  | endOfInput
deriving DecidableEq, Repr

namespace TokenKind

/-- What a kind is called in messages. -/
def wording : TokenKind → String
  | number => "number"
  | text => "string"
  | identifier => "identifier"
  | plus => "'+'"
  | minus => "'-'"
  | star => "'*'"
  | slash => "'/'"
  | caret => "'^'"
  | openParen => "'('"
  | closeParen => "')'"
  | comma => "','"
  | colon => "':'"
  | ampersand => "'&'"
  | equal => "'='"
  | notEqual => "'<>'"
  | less => "'<'"
  | greater => "'>'"
  | lessEqual => "'<='"
  | greaterEqual => "'>='"
  | endOfInput => "end of input"

/-- The label of a kind in listings. -/
def label : TokenKind → String
  | number => "Number"
  | text => "String"
  | identifier => "Identifier"
  | plus => "Plus"
  | minus => "Minus"
  | star => "Multiply"
  | slash => "Divide"
  | caret => "Power"
  | openParen => "LParen"
  | closeParen => "RParen"
  | comma => "Comma"
  | colon => "Colon"
  | ampersand => "Ampersand"
  | equal => "Equal"
  | notEqual => "NotEqual"
  | less => "LessThan"
  | greater => "GreaterThan"
  | lessEqual => "LessThanOrEqual"
  | greaterEqual => "GreaterThanOrEqual"
  | endOfInput => "EndOfInput"

/-- All kinds. -/
def all : List TokenKind :=
  [number, text, identifier, plus, minus, star, slash, caret, openParen, closeParen, comma, colon,
    ampersand, equal, notEqual, less, greater, lessEqual, greaterEqual, endOfInput]

/-- The kind with a label. -/
def ofLabel? (s : String) : Option TokenKind :=
  all.find? fun kind => kind.label = s

/-- The binary operator that a kind of token stands for. -/
def binary? : TokenKind → Option BinaryOp
  | plus => some .add
  | minus => some .subtract
  | star => some .multiply
  | slash => some .divide
  | caret => some .power
  | ampersand => some .concat
  | equal => some .equal
  | notEqual => some .notEqual
  | less => some .less
  | greater => some .greater
  | lessEqual => some .lessEqual
  | greaterEqual => some .greaterEqual
  | _ => none

end TokenKind

/-- A token: its kind, its text and the number of characters before it. -/
structure Token where
  kind : TokenKind
  text : String
  position : Nat
deriving DecidableEq, Repr

namespace Token

/-- A token as messages name it. -/
def wording (t : Token) : String :=
  match t.kind with
  | .number | .identifier => s!"{t.kind.wording} '{t.text}'"
  | .text => t.kind.wording ++ " \"" ++ t.text ++ "\""
  | _ => t.kind.wording

/-- A token as listings show it. -/
def display (t : Token) : String :=
  s!"{t.kind.label}: {t.text}"

/-- The end of an input of `position` characters. -/
def endAt (position : Nat) : Token :=
  ⟨.endOfInput, "", position⟩

end Token

end Worksheet.Formula
