import Worksheet.Evaluation
import Worksheet.Proofs.Functions.Lookup

/-!
# Values around a part of a tree

What stands around a part of a tree sees the part through its value alone, level by level. A call
that fails, for whatever reason, has one of two errors as its value, so what stands around it is
evaluated as it is around any other value.

Results:
* `value_within`: the value of a tree from that of a part of it.
* `CallFails.value_eq`: the value of a call that fails.
-/

namespace Worksheet

open Formula (Expr BinaryOp UnaryOp)

/-! ## Parts and what encloses them -/

/-- One level of what stands around a part of a tree. -/
inductive Formula.Enclosure where
  /-- The part is the left operand. -/
  | leftOf (op : BinaryOp) (right : Expr)
  /-- The part is the right operand. -/
  | rightOf (op : BinaryOp) (left : Expr)
  | sign (op : UnaryOp)
  /-- The part is an argument, with others before and behind it. -/
  | argument (name : String) (before after : List Expr)

open Formula (Enclosure)

/-- The tree that encloses a part by one level. -/
def Formula.Enclosure.around (part : Expr) : Enclosure → Expr
  | .leftOf op right => .binary op part right
  | .rightOf op left => .binary op left part
  | .sign op => .unary op part
  | .argument name before after => .call name (before ++ part :: after)

/-- The tree with a part at the end of a path, the innermost level first. -/
def Formula.Expr.within (part : Expr) (path : List Enclosure) : Expr :=
  path.foldl Enclosure.around part

namespace Context

/-- What one level makes of the value of the part that it encloses. -/
def valueAround (context : Context) (v : Value) : Enclosure → Value
  | .leftOf op right => binary op v (context.value right)
  | .rightOf op left => binary op (context.value left) v
  | .sign op => unary op v
  | .argument name before after =>
    outcome (context.registry.call name
      (before.map context.value ++ v :: after.map context.value))

/-- What a path makes of the value of the part at its end. -/
def valueWithin (context : Context) (v : Value) (path : List Enclosure) : Value :=
  path.foldl context.valueAround v

theorem value_around (context : Context) (part : Expr) (level : Enclosure) :
    context.value (level.around part) = context.valueAround (context.value part) level := by
  cases level with
  | leftOf op right => rfl
  | rightOf op left => rfl
  | sign op => rfl
  | argument name before after =>
    simp only [Enclosure.around, value, valueAround, values_eq_map, List.map_append, List.map_cons]

/-- The value of a tree is what the path to a part makes of the value of the part. -/
theorem value_within (context : Context) (part : Expr) (path : List Enclosure) :
    context.value (part.within path) = context.valueWithin (context.value part) path := by
  induction path generalizing part with
  | nil => rfl
  | cons level path ih =>
    have hvalue := ih (level.around part)
    rw [value_around] at hvalue
    exact hvalue

/-! ## Calls that fail -/

/-- The error that stands for a failure: one for unknown functions and one for all others. -/
def codeOf : Failure → ErrorCode
  | .refused (.unknownFunction _) => .name
  | _ => .value

theorem outcome_error (failure : Failure) : outcome (.error failure) = .error (codeOf failure) := by
  cases failure with
  | refused e => cases e <;> rfl
  | crashed => rfl

/-- A call fails, and an error stands for it: its function is not known, does not take that many
arguments, or fails with them, which includes that it crashes. -/
inductive CallFails (context : Context) (name : String) (args : List Expr) : ErrorCode → Prop
  | unknown : context.registry.get? name = none → CallFails context name args .name
  | miscounted {d} : context.registry.get? name = some d → ¬ d.Takes args.length →
      CallFails context name args .value
  | failed {d failure} : context.registry.get? name = some d → d.Takes args.length →
      d.body (context.values args) = .error failure → CallFails context name args (codeOf failure)

namespace CallFails

variable {context : Context} {name : String} {args : List Expr} {code : ErrorCode}

theorem code_eq (h : context.CallFails name args code) : code = .name ∨ code = .value := by
  cases h with
  | unknown => exact .inl rfl
  | miscounted => exact .inr rfl
  | @failed d failure =>
    unfold codeOf
    split
    · exact .inl rfl
    · exact .inr rfl

/-- The value of a call that fails is the error that stands for it. -/
theorem value_eq (h : context.CallFails name args code) :
    context.value (.call name args) = .error code := by
  have hlength : (context.values args).length = args.length := by
    rw [values_eq_map, List.length_map]
  cases h with
  | unknown hname =>
    rw [value, Registry.call_eq_of_get?_eq_none hname]
    rfl
  | miscounted hname htakes =>
    obtain ⟨expected, hcall⟩ := Definition.call_of_not_takes (hlength ▸ htakes)
    rw [value, Registry.call_of_get? hname, hcall]
    rfl
  | failed hname htakes hbody =>
    rw [value, Registry.call_of_get? hname, Definition.call_of_takes (hlength ▸ htakes), hbody,
      outcome_error]

end CallFails

end Context

end Worksheet
