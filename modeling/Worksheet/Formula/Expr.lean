import Worksheet.Formula.Lexeme
import Worksheet.Number.Layout

/-!
# Formula trees

The tree of a formula and its written form, in which every operator stands in parentheses. Names
of cells, ranges and functions are kept as text.
-/

namespace Worksheet.Formula

/-- The tree of a formula. -/
inductive Expr where
  | number (x : Float)
  | text (s : String)
  | cell (name : String)
  | range (first last : String)
  | binary (op : BinaryOp) (left right : Expr)
  | unary (op : UnaryOp) (operand : Expr)
  | call (name : String) (args : List Expr)

namespace Expr

mutual

/-- The characters of the written form. -/
def chars : Expr → List Char
  | number x => (Number.text x).toList
  | text s => quote s.toList
  | cell name => name.toList
  | range first last => first.toList ++ ':' :: last.toList
  | binary op left right => '(' :: left.chars ++ op.symbol.toList ++ right.chars ++ [')']
  | unary op operand => '(' :: op.symbol.toList ++ operand.chars ++ [')']
  | call name args => name.toList ++ '(' :: argChars args ++ [')']

/-- The characters of arguments, commas between them. -/
def argChars : List Expr → List Char
  | [] => []
  | e :: rest => e.chars ++ moreArgChars rest

/-- The characters of the arguments after the first, a comma before each. -/
def moreArgChars : List Expr → List Char
  | [] => []
  | e :: rest => ',' :: e.chars ++ moreArgChars rest

end

/-- The written form. -/
def render (e : Expr) : String :=
  String.ofList e.chars

end Expr

end Worksheet.Formula
