import Worksheet.Formula.Expr
import Worksheet.Number.Reader
import Worksheet.Text.Casing

/-!
# From tokens to trees

Tokens are read one at a time, left to right, with a stack of what has been begun: operands that
wait for their right neighbour, signs, parentheses and calls. A complete operand takes the signs
before it at once. An operator first closes the waiting operands whose operators bind at least as
tightly, so that operators of one level group to the left. Each token either takes the reader to
its next state or is the first one that no formula goes on with.

The end of input closes the formula. A list of tokens that lacks it is never a formula: its last
token is looked at once more, as the one that follows.
-/

namespace Worksheet.Formula

/-! ## States -/

/-- Something begun and not yet complete. -/
inductive Frame where
  /-- A sign that waits for its operand. -/
  | sign (op : UnaryOp)
  /-- A left operand with its operator. -/
  | left (operand : Expr) (op : BinaryOp)
  /-- An open parenthesis. -/
  | group
  /-- An open call with the arguments before the current one, last first. -/
  | call (name : String) (args : List Expr)

/-- What the tokens read so far lead to, the innermost of the things begun first. -/
inductive State where
  /-- An operand must follow. -/
  | operand (stack : List Frame)
  /-- A first argument or the end of the call must follow. -/
  | opened (name : String) (stack : List Frame)
  /-- A name was read that may still become a call or a range. -/
  | named (name : String) (stack : List Frame)
  /-- The last corner of a range must follow. -/
  | cornered (first : String) (stack : List Frame)
  /-- An operand is complete. -/
  | settled (e : Expr) (stack : List Frame)

/-- An operand with the signs before it applied. -/
def applySigns (e : Expr) : List Frame → Expr × List Frame
  | .sign op :: stack => applySigns (.unary op e) stack
  | stack => (e, stack)

/-- The state behind a complete operand. -/
def settle (e : Expr) (stack : List Frame) : State :=
  .settled (applySigns e stack).1 (applySigns e stack).2

/-- Joins an operand with the waiting ones whose operators bind at least as tightly as `level`. -/
def joinFrom (level : Nat) (e : Expr) : List Frame → Expr × List Frame
  | .left operand op :: stack =>
    if level ≤ op.level then joinFrom level (.binary op operand e) stack
    else (e, .left operand op :: stack)
  | stack => (e, stack)

/-- The call of a function with arguments given last first. -/
def Expr.callOf (name : String) (args : List Expr) : Expr :=
  .call (Text.upper name) args.reverse

/-! ## Reading one token -/

/-- Reads a token where an operand must follow. -/
def beginOperand (stack : List Frame) (t : Token) : Except SyntaxError State :=
  match t.kind with
  | .number =>
    match Number.read t.text.toList with
    | some x => .ok (settle (.number x) stack)
    | none => .error ⟨t.position, .malformedNumber t.text⟩
  | .text => .ok (settle (.text t.text) stack)
  | .identifier => .ok (.named t.text stack)
  | .minus => .ok (.operand (.sign .negate :: stack))
  | .plus => .ok (.operand (.sign .plus :: stack))
  | .openParen => .ok (.operand (.group :: stack))
  | _ => .error ⟨t.position, .unexpected t⟩

/-- Reads a token that is no operator behind a complete bracket level: its delimiter must be the
one that the level waits for. -/
def closeLevel (t : Token) : Expr × List Frame → Except SyntaxError State
  | (e, .group :: stack) =>
    if t.kind = .closeParen then .ok (settle e stack)
    else .error ⟨t.position, .missing .closeParen t⟩
  | (e, .call name args :: stack) =>
    if t.kind = .closeParen then .ok (settle (.callOf name (e :: args)) stack)
    else if t.kind = .comma then .ok (.operand (.call name (e :: args) :: stack))
    else .error ⟨t.position, .missing .closeParen t⟩
  | _ => .error ⟨t.position, .trailing t⟩

/-- Reads a token behind a complete operand. -/
def followOperand (e : Expr) (stack : List Frame) (t : Token) : Except SyntaxError State :=
  match t.kind.binary? with
  | some op =>
    let (operand, outer) := joinFrom op.level e stack
    .ok (.operand (.left operand op :: outer))
  | none => closeLevel t (joinFrom 0 e stack)

/-- Reads one token. -/
def State.step (t : Token) : State → Except SyntaxError State
  | operand stack => beginOperand stack t
  | opened name stack =>
    if t.kind = .closeParen then .ok (settle (.callOf name []) stack)
    else beginOperand (.call name [] :: stack) t
  | named name stack =>
    match t.kind with
    | .openParen => .ok (.opened name stack)
    | .colon => .ok (.cornered name stack)
    | _ =>
      let (e, outer) := applySigns (.cell name) stack
      followOperand e outer t
  | cornered first stack =>
    if t.kind = .identifier then .ok (settle (.range first t.text) stack)
    else .error ⟨t.position, .missing .identifier t⟩
  | settled e stack => followOperand e stack t

/-! ## Reading all tokens -/

/-- The operand that a state ends with, and what is begun around it. -/
def State.operand? : State → Option (Expr × List Frame)
  | named name stack => some (applySigns (.cell name) stack)
  | settled e stack => some (e, stack)
  | _ => none

/-- The tree of the tokens read, if a formula may end here. -/
def State.tree? (state : State) : Option Expr :=
  match state.operand?.map fun (e, stack) => joinFrom 0 e stack with
  | some (e, []) => some e
  | _ => none

/-- The error that a token raises where the formula cannot end. -/
def State.refuse (t : Token) (state : State) : SyntaxError :=
  match state.step t with
  | .error e => e
  | .ok _ => ⟨t.position, .trailing t⟩

/-- Reads tokens up to the end of input; `last` is the token before them. -/
def State.run (last : Token) (state : State) : List Token → Except SyntaxError Expr
  | [] => .error (state.refuse last)
  | t :: rest =>
    if t.kind = .endOfInput then
      match state.tree? with
      | some e => .ok e
      | none => .error (state.refuse t)
    else
      match state.step t with
      | .ok next => next.run t rest
      | .error e => .error e

/-- The tree of a list of tokens. -/
def Expr.ofTokens (tokens : List Token) : Except SyntaxError Expr :=
  (State.operand []).run (Token.endAt 0) tokens

/-! ## From text to trees -/

/-- A text without one equals sign at its start. -/
def dropEquals : List Char → List Char
  | '=' :: rest => rest
  | s => s

/-- The tree of the characters of a formula. -/
def Expr.ofChars (s : List Char) : Except SyntaxError Expr :=
  match tokensFrom 0 s with
  | .ok tokens => Expr.ofTokens tokens
  | .error e => .error e

/-- The tree of a formula, blanks around it and one equals sign at its start left out. -/
def Expr.ofText (formula : String) : Except SyntaxError Expr :=
  Expr.ofChars (dropEquals (Text.trim formula.toList))

end Worksheet.Formula
