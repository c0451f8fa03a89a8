import Worksheet.Evaluation

/-!
# The first error

Operators pass on the errors of their operands, that of the left one before that of the right one,
and raise errors of their own only where the operands are none. So the value of a tree is the first
error among the operands in it, in the order of evaluation, and no error if there is none. What
stands within the arguments of a call does not count: the function decides what to make of it.

Results:
* `error?_value`: the error of a tree is the first one among its operands.
* `operandsFirst_operations`: operands are evaluated before their operator.
* `raises_iff`: which errors start at a tree whose operands are no errors.
* `value_eq_error_iff_first`: the error of a tree, and where it starts.
-/

namespace Worksheet

open Formula (Expr BinaryOp UnaryOp)

/-! ## The order of evaluation -/

namespace Formula.Expr

/-- The operands that stand directly under the operator at the root. -/
def operands : Expr → List Expr
  | binary _ left right => [left, right]
  | unary _ operand => [operand]
  | _ => []

/-- A tree and all operands in it that nothing but operators stands around, in the order of
evaluation: operands before their operator, the left one before the right one. -/
def operations : Expr → List Expr
  | binary op left right => left.operations ++ right.operations ++ [binary op left right]
  | unary op operand => operand.operations ++ [unary op operand]
  | e => [e]

theorem self_mem_operations (e : Expr) : e ∈ e.operations := by
  unfold operations
  split <;> simp

/-- Wherever a tree stands in a list, its operands come before it, in the list or in what is put in
front of it. -/
def OperandsFirst (front es : List Expr) : Prop :=
  ∀ before s after, es = before ++ s :: after → ∀ t ∈ s.operands, t ∈ front ++ before

theorem OperandsFirst.append {es fs : List Expr} (he : OperandsFirst [] es)
    (hf : OperandsFirst es fs) : OperandsFirst [] (es ++ fs) := by
  intro before s after heq t ht
  rcases List.append_eq_append_iff.mp heq with ⟨more, rfl, hmore⟩ | ⟨more, rfl, hmore⟩
  · exact hf more s after hmore t ht
  · cases more with
    | nil =>
      have hfront := hf [] s after hmore.symm t ht
      rwa [List.append_nil, List.append_nil] at hfront
    | cons r rest =>
      obtain ⟨rfl, -⟩ := List.cons.inj hmore
      exact he before s rest rfl t ht

theorem OperandsFirst.mono {es : List Expr} (he : OperandsFirst [] es) (front : List Expr) :
    OperandsFirst front es :=
  fun before s after heq t ht => List.mem_append_right front (he before s after heq t ht)

theorem operandsFirst_singleton {front : List Expr} {e : Expr}
    (h : ∀ t ∈ e.operands, t ∈ front) : OperandsFirst front [e] := by
  intro before s after heq t ht
  cases before with
  | nil =>
    obtain ⟨rfl, -⟩ := List.cons.inj heq
    exact List.mem_append_left _ (h t ht)
  | cons r rest => simp at heq

theorem operandsFirst_operations (e : Expr) : OperandsFirst [] e.operations := by
  fun_induction operations e with
  | case1 op left right ihleft ihright =>
    refine (ihleft.append (ihright.mono _)).append (operandsFirst_singleton ?_)
    simp [operands, self_mem_operations]
  | case2 op operand ih =>
    refine ih.append (operandsFirst_singleton ?_)
    simp [operands, self_mem_operations]
  | case3 e hbinary hunary =>
    refine operandsFirst_singleton fun t ht => ?_
    unfold operands at ht
    split at ht
    · next op left right => exact absurd rfl (hbinary op left right)
    · next op operand => exact absurd rfl (hunary op operand)
    · exact ht

end Formula.Expr

namespace Context

variable {context : Context} {op : BinaryOp} {v w : Value} {code : ErrorCode}

theorem error?_eq_some_iff : v.error? = some code ↔ v = .error code := by
  cases v <;> simp [Value.error?]

/-- The error of an operation is the first one among its operands, or else its own. -/
theorem error?_binary (op : BinaryOp) (v w : Value) :
    (binary op v w).error? = (v.error?.or w.error?).or (binary op v w).error? := by
  unfold binary Value.isError
  cases hv : v.error? with
  | some code => simp [hv]
  | none =>
    cases hw : w.error? with
    | some code => simp [hw]
    | none => simp

theorem error?_unary (op : UnaryOp) (v : Value) :
    (unary op v).error? = v.error?.or (unary op v).error? := by
  unfold unary Value.isError
  cases hv : v.error? with
  | some code => simp [hv]
  | none => simp

/-- The error of a tree is the first one among its operands, in the order of evaluation. -/
theorem error?_value (context : Context) (e : Expr) :
    (context.value e).error? = e.operations.findSome? fun s => (context.value s).error? := by
  fun_induction Expr.operations e with
  | case1 op left right ihleft ihright =>
    rw [List.findSome?_append, List.findSome?_append, ← ihleft, ← ihright,
      List.findSome?_singleton]
    exact error?_binary op (context.value left) (context.value right)
  | case2 op operand ih =>
    rw [List.findSome?_append, ← ih, List.findSome?_singleton]
    exact error?_unary op (context.value operand)
  | case3 e => rw [List.findSome?_singleton]

/-! ## Where errors start -/

/-- Of the arithmetic operators, only a division makes an error of numbers, if the divisor is
zero. -/
theorem arithmetic_eq_error_iff {x y : Float} (hconcat : op ≠ .concat)
    (hcomparison : op.isComparison = false) :
    arithmetic op x y = .error code ↔
      op = .divide ∧ (y == 0) = true ∧ code = .divisionByZero := by
  cases op with
  | add | subtract | multiply | power => simp [arithmetic]
  | divide =>
    cases hy : y == 0 with
    | false => simp [arithmetic, hy]
    | true => simp [arithmetic, hy, eq_comm (a := code)]
  | concat => exact absurd rfl hconcat
  | equal | notEqual | less | lessEqual | greater | greaterEqual => cases hcomparison

/-- What an operator makes of operands that are no errors is an error only if it is arithmetic and
one operand is no number, or the divisor is zero. -/
theorem combine_eq_error_iff :
    combine op v w = .error code ↔
      (op ≠ .concat ∧ op.isComparison = false) ∧
        (((v.toNumber? = none ∨ w.toNumber? = none) ∧ code = .value) ∨
          (op = .divide ∧ code = .divisionByZero ∧
            ∃ x y, v.toNumber? = some x ∧ w.toNumber? = some y ∧ (y == 0) = true)) := by
  unfold combine
  by_cases hconcat : op = .concat
  · simp [hconcat]
  · cases hcomparison : op.isComparison with
    | true => simp [hconcat]
    | false =>
      cases hv : v.toNumber? with
      | none => simp [hconcat, eq_comm (a := code)]
      | some x =>
        cases hw : w.toNumber? with
        | none => simp [hconcat, eq_comm (a := code)]
        | some y => simp [hconcat, arithmetic_eq_error_iff hconcat hcomparison, and_comm]

/-- What a sign makes of an operand that is no error is an error only if the operand is no
number. -/
theorem unary_eq_error_iff {op : UnaryOp} (hv : v.isError = false) :
    unary op v = .error code ↔ v.toNumber? = none ∧ code = .value := by
  unfold unary
  cases hnumber : v.toNumber? with
  | none => simp [hv, eq_comm (a := code)]
  | some x => cases op <;> simp [hv]

/-- A tree yields an error that comes from none of its operands. -/
inductive Raises (context : Context) : Expr → ErrorCode → Prop
  | cell {name code} : context.reference name = .error code → Raises context (.cell name) code
  | range {first last code} : context.rangeValues first last = .error code →
      Raises context (.range first last) code
  | call {name args code} :
      outcome (context.registry.call name (context.values args)) = .error code →
      Raises context (.call name args) code
  | sign {op operand} : (context.value operand).toNumber? = none →
      Raises context (.unary op operand) .value
  | arithmetic {op left right} : op ≠ .concat → op.isComparison = false →
      ((context.value left).toNumber? = none ∨ (context.value right).toNumber? = none) →
      Raises context (.binary op left right) .value
  | division {left right x y} : (context.value left).toNumber? = some x →
      (context.value right).toNumber? = some y → (y == 0) = true →
      Raises context (.binary .divide left right) .divisionByZero

/-- Over operands that are no errors, an error is the tree's own. -/
theorem raises_iff {s : Expr} (h : ∀ t ∈ s.operands, (context.value t).isError = false) :
    context.value s = .error code ↔ context.Raises s code := by
  cases s with
  | number x | text s =>
    constructor
    · intro hvalue
      cases hvalue
    · intro hraises
      cases hraises
  | cell name =>
    refine ⟨fun hvalue => .cell hvalue, fun hraises => ?_⟩
    cases hraises with
    | cell hvalue => exact hvalue
  | range first last =>
    refine ⟨fun hvalue => .range hvalue, fun hraises => ?_⟩
    cases hraises with
    | range hvalue => exact hvalue
  | call name args =>
    refine ⟨fun hvalue => .call hvalue, fun hraises => ?_⟩
    cases hraises with
    | call hvalue => exact hvalue
  | unary op operand =>
    have hoperand := h operand (List.mem_singleton_self _)
    rw [value, unary_eq_error_iff hoperand]
    constructor
    · rintro ⟨hnumber, rfl⟩
      exact .sign hnumber
    · intro hraises
      cases hraises with
      | sign hnumber => exact ⟨hnumber, rfl⟩
  | binary op left right =>
    have hleft := h left (List.mem_cons_self ..)
    have hright := h right (List.mem_cons_of_mem _ (List.mem_singleton_self _))
    have hvalue : context.value (.binary op left right) =
        combine op (context.value left) (context.value right) := by
      simp only [value, binary, hleft, hright, Bool.false_eq_true, if_false]
    rw [hvalue, combine_eq_error_iff]
    constructor
    · rintro ⟨⟨hconcat, hcomparison⟩, ⟨hnumber, rfl⟩ | ⟨rfl, rfl, x, y, hx, hy, hzero⟩⟩
      · exact .arithmetic hconcat hcomparison hnumber
      · exact .division hx hy hzero
    · intro hraises
      cases hraises with
      | arithmetic hconcat hcomparison hnumber =>
        exact ⟨⟨hconcat, hcomparison⟩, .inl ⟨hnumber, rfl⟩⟩
      | @division _ _ x y hx hy hzero =>
        exact ⟨⟨by decide, rfl⟩, .inr ⟨rfl, rfl, x, y, hx, hy, hzero⟩⟩

/-! ## The first error -/

theorem isError_eq_false_iff : v.isError = false ↔ v.error? = none := by
  rw [Value.isError, Option.isSome_eq_false_iff, Option.isNone_iff_eq_none]

/-- **The first error.** A tree yields an error exactly when one of its operands does, the tree
itself among them, and it is then the error of the first one in the order of evaluation. That one
raises the error itself: it is a reference or a call, or an arithmetic operator or a sign over
operands that are no errors. -/
theorem value_eq_error_iff_first (context : Context) (e : Expr) (code : ErrorCode) :
    (context.value e = .error code ↔
      ∃ before s after, e.operations = before ++ s :: after ∧
        (∀ t ∈ before, (context.value t).isError = false) ∧ context.value s = .error code) ∧
      ∀ before s after, e.operations = before ++ s :: after →
        (∀ t ∈ before, (context.value t).isError = false) →
        (context.value s = .error code ↔ context.Raises s code) := by
  constructor
  · rw [← error?_eq_some_iff, error?_value, List.findSome?_eq_some_iff]
    simp only [error?_eq_some_iff, isError_eq_false_iff, and_comm]
  · intro before s after heq hbefore
    exact raises_iff fun t ht => hbefore t (Expr.operandsFirst_operations e before s after heq t ht)

/-- The tree of `(2&-"x")<(1/0)`. -/
def signedText : Expr :=
  .binary .less (.binary .concat (.number 2) (.unary .negate (.text "x")))
    (.binary .divide (.number 1) (.number 0))

/-- A context without cells and functions. -/
def bare : Context :=
  ⟨fun _ => none, .empty, .referenceError⟩

/-- The error of `(2&-"x")<(1/0)` is that of the sign, which comes before the division. -/
theorem value_eq_error_iff_first_signedText :
    signedText.operations = [.number 2, .text "x"] ++
        .unary .negate (.text "x") :: [.binary .concat (.number 2) (.unary .negate (.text "x")),
          .number 1, .number 0, .binary .divide (.number 1) (.number 0), signedText] ∧
      bare.value signedText = .error .value ∧
      bare.Raises (.unary .negate (.text "x")) .value := by
  obtain ⟨hfirst, hraised⟩ := value_eq_error_iff_first bare signedText .value
  have hoperations : signedText.operations = [.number 2, .text "x"] ++
      .unary .negate (.text "x") :: [.binary .concat (.number 2) (.unary .negate (.text "x")),
        .number 1, .number 0, .binary .divide (.number 1) (.number 0), signedText] := rfl
  have hbefore : ∀ t ∈ [Expr.number 2, .text "x"], (bare.value t).isError = false := by
    simp [value, Value.isError, Value.error?]
  have hsign : bare.value (.unary .negate (.text "x")) = .error .value := by rfl
  exact ⟨hoperations, hfirst.mpr ⟨_, _, _, hoperations, hbefore, hsign⟩,
    (hraised _ _ _ hoperations hbefore).mp hsign⟩

end Context

end Worksheet
