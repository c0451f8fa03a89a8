import Worksheet.Formula.Expr
import Worksheet.Text.Unprinted

/-!
# Outlines of formula trees

An outline shows a tree over several lines, one level of indentation for each level of the tree:
nodes with unnamed fields in parentheses, nodes with named fields in braces, lists in brackets,
and a comma behind every field and item. Texts are quoted, with characters that have no printed
form given by their codes.
-/

namespace Worksheet.Formula

/-! ## Quoted texts -/

/-- The digits of a code in base sixteen. -/
def hexDigits (n : Nat) : List Char :=
  Nat.toDigits 16 n

/-- A character inside a quoted text. -/
def escapeChar (c : Char) : List Char :=
  match c with
  | '\x00' => ['\\', '0']
  | '\t' => ['\\', 't']
  | '\r' => ['\\', 'r']
  | '\n' => ['\\', 'n']
  | '\\' => ['\\', '\\']
  | '"' => ['\\', '"']
  | c => if Text.isUnprinted c then "\\u\x7b".toList ++ hexDigits c.toNat ++ ['\x7d'] else [c]

/-- A text between quotes with its escapes. -/
def quoteEscaped (s : String) : String :=
  String.ofList ('"' :: s.toList.flatMap escapeChar ++ ['"'])

/-! ## Outlines -/

/-- What an outline is made of. -/
inductive Outline where
  | leaf (s : String)
  | fields (label : String) (parts : List Outline)
  | named (label : String) (parts : List (String × Outline))
  | items (parts : List Outline)

namespace Outline

/-- Lines moved one level to the right, with a comma behind the last one. -/
def nest (lines : List String) : List String :=
  match lines.reverse with
  | [] => []
  | last :: before => (((last ++ ",") :: before).reverse).map ("    " ++ ·)

/-- Lines with a name before the first one. -/
def tag (name : String) : List String → List String
  | [] => []
  | first :: more => (name ++ ": " ++ first) :: more

mutual

/-- The lines of an outline. -/
def lines : Outline → List String
  | leaf s => [s]
  | fields label parts => (label ++ "(") :: partLines parts ++ [")"]
  | named label parts => (label ++ " \x7b") :: namedLines parts ++ ["\x7d"]
  | items [] => ["[]"]
  | items (part :: more) => "[" :: partLines (part :: more) ++ ["]"]

/-- The lines of unnamed parts. -/
def partLines : List Outline → List String
  | [] => []
  | part :: more => nest part.lines ++ partLines more

/-- The lines of named parts. -/
def namedLines : List (String × Outline) → List String
  | [] => []
  | (name, part) :: more => nest (tag name part.lines) ++ namedLines more

end

/-- An outline as text. -/
def render (o : Outline) : String :=
  "\n".intercalate o.lines

end Outline

/-! ## Outlines of trees -/

/-- Numbers in outlines: `.0` behind whole numbers, powers of ten from `10 ^ 16` on and below
`10 ^ -4`, and the upper of two equally near decimals. -/
def outlineLayout : Number.Layout :=
  ⟨fun place => -4 ≤ place && place < 16, ".0", "", .upper⟩

/-- The name of a binary operator in outlines. -/
def BinaryOp.outlineName : BinaryOp → String
  | add => "Add"
  | subtract => "Subtract"
  | multiply => "Multiply"
  | divide => "Divide"
  | power => "Power"
  | equal => "Equal"
  | notEqual => "NotEqual"
  | less => "LessThan"
  | lessEqual => "LessEqual"
  | greater => "GreaterThan"
  | greaterEqual => "GreaterEqual"
  | concat => "Concat"

/-- The name of a sign in outlines. -/
def UnaryOp.outlineName : UnaryOp → String
  | negate => "Negate"
  | plus => "Plus"

namespace Expr

/-- A quoted text in an outline. -/
def textLeaf (s : String) : Outline :=
  .leaf (quoteEscaped s)

mutual

/-- The outline of a tree. -/
def outline : Expr → Outline
  | number x => .fields "Number" [.leaf (outlineLayout.write x)]
  | text s => .fields "Text" [textLeaf s]
  | cell name => .fields "CellRef" [textLeaf name]
  | range first last => .named "Range" [("start", textLeaf first), ("end", textLeaf last)]
  | binary op left right =>
    .named "BinaryOp"
      [("op", .leaf op.outlineName), ("left", left.outline), ("right", right.outline)]
  | unary op operand =>
    .named "UnaryOp" [("op", .leaf op.outlineName), ("operand", operand.outline)]
  | call name args =>
    .named "Function" [("name", textLeaf name), ("args", .items (outlines args))]

/-- The outlines of trees. -/
def outlines : List Expr → List Outline
  | [] => []
  | e :: rest => e.outline :: outlines rest

end

end Expr

end Worksheet.Formula
