import Worksheet.Document.Token

/-!
# From tokens to documents

Tokens are read one at a time with a stack of the arrays and objects that are still open. At most
`maxDepth` may be open at once.
-/

namespace Worksheet.Document

/-- An open array or object, what it holds so far last first. -/
inductive Frame where
  | array (items : List Document)
  | object (members : List (String × Document)) (key : String)

/-- What the tokens read so far lead to. -/
inductive State where
  /-- A value must follow. -/
  | value (stack : List Frame)
  /-- An array was opened: a value or its end must follow. -/
  | openedArray (stack : List Frame)
  /-- An object was opened: a key or its end must follow. -/
  | openedObject (stack : List Frame)
  /-- A key must follow. -/
  | nextKey (members : List (String × Document)) (stack : List Frame)
  /-- The colon behind a key must follow. -/
  | keyed (members : List (String × Document)) (key : String) (stack : List Frame)
  /-- A value is complete. -/
  | done (d : Document) (stack : List Frame)

/-- How many arrays and objects may be open at once. -/
def maxDepth : Nat := 127

/-- A state in which one more array or object is open. -/
def enter (stack : List Frame) (opened : State) : Option State :=
  if stack.length < maxDepth then some opened else none

/-- Reads a token where a value must follow. -/
def beginValue (stack : List Frame) : Token → Option State
  | .atom d => some (.done d stack)
  | .text s => some (.done (.text s) stack)
  | .openArray => enter stack (.openedArray stack)
  | .openObject => enter stack (.openedObject stack)
  | _ => none

/-- Reads one token. -/
def State.step (t : Token) : State → Option State
  | value stack => beginValue stack t
  | openedArray stack =>
    match t with
    | .closeArray => some (.done (.array []) stack)
    | t => beginValue (.array [] :: stack) t
  | openedObject stack =>
    match t with
    | .closeObject => some (.done (ofMembers []) stack)
    | .text s => some (.keyed [] s stack)
    | _ => none
  | nextKey members stack =>
    match t with
    | .text s => some (.keyed members s stack)
    | _ => none
  | keyed members key stack =>
    match t with
    | .colon => some (.value (.object members key :: stack))
    | _ => none
  | done d stack =>
    match stack, t with
    | .array items :: outer, .comma => some (.value (.array (d :: items) :: outer))
    | .array items :: outer, .closeArray => some (.done (.array (d :: items).reverse) outer)
    | .object members key :: outer, .comma => some (.nextKey ((key, d) :: members) outer)
    | .object members key :: outer, .closeObject =>
      some (.done (ofMembers ((key, d) :: members).reverse) outer)
    | _, _ => none

/-- Reads tokens to the end. -/
def State.run (state : State) : List Token → Option Document
  | [] =>
    match state with
    | done d [] => some d
    | _ => none
  | t :: rest =>
    match state.step t with
    | some next => next.run rest
    | none => none

/-- The document that a text holds. -/
def ofText? (s : String) : Option Document :=
  (Token.all? s.toList).bind (State.value []).run

end Worksheet.Document
