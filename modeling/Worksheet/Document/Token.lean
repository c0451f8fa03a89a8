import Worksheet.Document.Literal

/-!
# Tokens of documents

A document text is cut into delimiters, words, texts and numbers. Blanks are the space, the tab
and the two line ends. Texts hold no control characters; an escaped character beyond 16 bits is
written as a pair of surrogates, and a surrogate without its partner is refused.
-/

namespace Worksheet.Document

/-- A token of a document. -/
inductive Token where
  | openObject
  | closeObject
  | openArray
  | closeArray
  | colon
  | comma
  | atom (value : Document)
  | text (s : String)

namespace Token

/-- Whether a character only parts tokens. -/
def isBlank (c : Char) : Bool :=
  c == ' ' || c == '\t' || c == '\n' || c == '\r'

/-! ## Texts -/

/-- The value of a hexadecimal digit. -/
def hexValue? (c : Char) : Option Nat :=
  if c.isDigit then some (c.toNat - '0'.toNat)
  else if 'a' ≤ c ∧ c ≤ 'f' then some (c.toNat - 'a'.toNat + 10)
  else if 'A' ≤ c ∧ c ≤ 'F' then some (c.toNat - 'A'.toNat + 10)
  else none

/-- The value of four hexadecimal digits. -/
def hexCode? (a b c d : Char) : Option Nat := do
  return 4096 * (← hexValue? a) + 256 * (← hexValue? b) + 16 * (← hexValue? c) + (← hexValue? d)

/-- The code of the character that a backslash and a letter stand for. -/
def escapeCode? : Char → Option Nat
  | '"' => some 0x22
  | '\\' => some 0x5C
  | '/' => some 0x2F
  | 'b' => some 0x08
  | 'f' => some 0x0C
  | 'n' => some 0x0A
  | 'r' => some 0x0D
  | 't' => some 0x09
  | _ => none

/-- The codes of a text up to its closing quote, and how many characters they take with it. -/
def codes? : List Char → Option (List Nat × Nat)
  | [] => none
  | '"' :: _ => some ([], 1)
  | '\\' :: 'u' :: a :: b :: c :: d :: rest => do
    let code ← hexCode? a b c d
    let (codes, width) ← codes? rest
    return (code :: codes, width + 6)
  | '\\' :: c :: rest => do
    let code ← escapeCode? c
    let (codes, width) ← codes? rest
    return (code :: codes, width + 2)
  | c :: rest =>
    if c.toNat < 0x20 then none
    else (codes? rest).map fun (codes, width) => (c.toNat :: codes, width + 1)

/-- Whether a code is the first half of a surrogate pair. -/
def isHighSurrogate (code : Nat) : Bool :=
  0xD800 ≤ code && code ≤ 0xDBFF

/-- Whether a code is the second half of a surrogate pair. -/
def isLowSurrogate (code : Nat) : Bool :=
  0xDC00 ≤ code && code ≤ 0xDFFF

/-- The characters of codes, surrogate pairs joined. -/
def joinCodes? : List Nat → Option (List Char)
  | [] => some []
  | high :: low :: rest =>
    if isHighSurrogate high && isLowSurrogate low then
      (joinCodes? rest).map
        (Char.ofNat (0x10000 + 0x400 * (high - 0xD800) + (low - 0xDC00)) :: ·)
    else if isHighSurrogate high || isLowSurrogate high then none
    else (joinCodes? (low :: rest)).map (Char.ofNat high :: ·)
  | [code] =>
    if isHighSurrogate code || isLowSurrogate code then none else some [Char.ofNat code]

/-! ## One token -/

/-- The token at the head of a text that does not start with a blank, and how many characters it
takes besides the first one. -/
def ofHead? (c : Char) (rest : List Char) : Option (Token × Nat) :=
  match c with
  | '\x7b' => some (openObject, 0)
  | '\x7d' => some (closeObject, 0)
  | '[' => some (openArray, 0)
  | ']' => some (closeArray, 0)
  | ':' => some (colon, 0)
  | ',' => some (comma, 0)
  | '"' => do
    let (codes, width) ← codes? rest
    return (text (String.ofList (← joinCodes? codes)), width)
  | 'n' => if "ull".toList.isPrefixOf rest then some (atom .null, 3) else none
  | 't' => if "rue".toList.isPrefixOf rest then some (atom (.logical true), 3) else none
  | 'f' => if "alse".toList.isPrefixOf rest then some (atom (.logical false), 4) else none
  | c => do
    let (literal, after) ← Literal.split? (c :: rest)
    return (atom (← literal.value?), rest.length - after.length)

/-! ## All tokens -/

/-- The tokens of a text. -/
def all? : List Char → Option (List Token)
  | [] => some []
  | c :: rest =>
    if isBlank c then all? rest
    else
      match ofHead? c rest with
      | some (token, width) => (all? (rest.drop width)).map (token :: ·)
      | none => none
termination_by s => s.length
decreasing_by
  · simp
  · simp only [List.length_drop, List.length_cons]
    omega

end Token

end Worksheet.Document
