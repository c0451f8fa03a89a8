import Std.Data.TreeMap
import Worksheet.Number.Layout

/-!
# JSON documents

A document is a JSON value. Members of an object are kept in the order of their keys, each key
once. In compact form a document has no blanks; numbers that are not whole have the shortest
digits that read back, positional from `10 ^ -5` up to `10 ^ 16`.
-/

namespace Worksheet

/-- A JSON value. -/
inductive Document where
  | null
  | logical (b : Bool)
  | whole (n : Int)
  | decimal (x : Float)
  | text (s : String)
  | array (items : List Document)
  | object (members : List (String × Document))

namespace Document

/-- The object with these members: of two with one key the later one counts. -/
def ofMembers (members : List (String × Document)) : Document :=
  .object (Std.TreeMap.ofList members).toList

/-- The double nearest to a whole number. -/
def wholeToFloat (n : Int) : Float :=
  if n < 0 then -Float.ofNat n.natAbs else Float.ofNat n.natAbs

/-! ## Compact form -/

/-- Numbers in documents: `.0` behind whole numbers, powers of ten from `10 ^ 16` on, with a plus,
and below `10 ^ -5`, and the even one of two equally near decimals. -/
def layout : Number.Layout :=
  ⟨fun place => -5 ≤ place && place < 16, ".0", "+", .even⟩

/-- A control character by its code. -/
def controlEscape (c : Char) : List Char :=
  let digits := Nat.toDigits 16 c.toNat
  '\\' :: 'u' :: List.replicate (4 - digits.length) '0' ++ digits

/-- A character inside a quoted text. -/
def escapeChar (c : Char) : List Char :=
  match c with
  | '"' => ['\\', '"']
  | '\\' => ['\\', '\\']
  | '\x08' => ['\\', 'b']
  | '\x0c' => ['\\', 'f']
  | '\n' => ['\\', 'n']
  | '\r' => ['\\', 'r']
  | '\t' => ['\\', 't']
  | c => if c.toNat < 0x20 then controlEscape c else [c]

/-- A text between quotes. -/
def quote (s : String) : String :=
  String.ofList ('"' :: s.toList.flatMap escapeChar ++ ['"'])

mutual

/-- The compact form of a document. -/
def compact : Document → String
  | null => "null"
  | logical b => if b then "true" else "false"
  | whole n => toString n
  | decimal x => layout.write x
  | text s => quote s
  | array items => "[" ++ ",".intercalate (compactItems items) ++ "]"
  | object members => "\x7b" ++ ",".intercalate (compactMembers members) ++ "\x7d"

/-- The compact forms of items. -/
def compactItems : List Document → List String
  | [] => []
  | item :: rest => item.compact :: compactItems rest

/-- The compact forms of members. -/
def compactMembers : List (String × Document) → List String
  | [] => []
  | (key, item) :: rest => (quote key ++ ":" ++ item.compact) :: compactMembers rest

end

end Document

end Worksheet
