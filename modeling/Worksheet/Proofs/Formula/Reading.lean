import Worksheet.Formula.Reader

/-!
# Reading token by token

What a run of the reader does, one token after the other: reading up to the end of input, the
stacks that an operand may stand on, and the state that an operand leaves behind.

Results:
* `State.run_eq`: reading up to the end of input in one equation.
* `joinFrom_joinFrom`: joining down to a rank can stop on the way.
* `State.tree?_eq_some_iff`: where a formula may end.
* `State.Holds.step_binary`, `State.Holds.step_delimiter`: what may follow an operand.
-/

namespace Worksheet.Formula

/-! ## Reading without an end -/

/-- The state that tokens lead to. -/
def State.after (state : State) : List Token → Except SyntaxError State
  | [] => .ok state
  | t :: rest =>
    match state.step t with
    | .ok next => next.after rest
    | .error e => .error e

namespace State

theorem after_cons_of_step {state next : State} {t : Token} (h : state.step t = .ok next)
    (rest : List Token) : state.after (t :: rest) = next.after rest := by
  simp [after, h]

theorem after_append (state : State) (ts us : List Token) :
    state.after (ts ++ us) =
      match state.after ts with
      | .ok next => next.after us
      | .error e => .error e := by
  induction ts generalizing state with
  | nil => rfl
  | cons t ts ih =>
    cases h : state.step t with
    | ok next => simp [after, h, ih]
    | error e => simp [after, h]

theorem after_append_of_ok {state next : State} {ts : List Token} (h : state.after ts = .ok next)
    (us : List Token) : state.after (ts ++ us) = next.after us := by
  rw [after_append, h]

/-- What reading yields when the end of input follows. -/
def finish (stop : Token) (state : State) : Except SyntaxError Expr :=
  match state.tree? with
  | some e => .ok e
  | none => .error (state.refuse stop)

theorem finish_eq_ok_iff {stop : Token} {state : State} {e : Expr} :
    state.finish stop = .ok e ↔ state.tree? = some e := by
  unfold finish
  cases state.tree? with
  | none => simp
  | some f => simp

/-- Tokens before an end of input are read one by one, those behind it not at all. -/
theorem run_eq (state : State) (last : Token) {body : List Token} {stop : Token}
    (inner : ∀ t ∈ body, t.kind ≠ .endOfInput) (ends : stop.kind = .endOfInput)
    (ignored : List Token) :
    state.run last (body ++ stop :: ignored) = (state.after body).bind (finish stop) := by
  induction body generalizing state last with
  | nil =>
    rw [List.nil_append, run, if_pos ends]
    rfl
  | cons t body ih =>
    have ht : t.kind ≠ .endOfInput := inner t (List.mem_cons_self ..)
    rw [List.cons_append, run, if_neg ht]
    cases h : state.step t with
    | ok next =>
      rw [after_cons_of_step h]
      exact ih next t fun u hu => inner u (List.mem_cons_of_mem _ hu)
    | error e =>
      simp only [after, h]
      rfl

end State

/-! ## Open stacks -/

/-- Whether an operand of rank `n` may stand on a stack: no sign waits for it, and no operator
that binds at least as tightly waits below it. -/
def OpenTo (n : Nat) : List Frame → Prop
  | .sign _ :: _ => False
  | .left _ op :: _ => op.level < n
  | _ => True

theorem OpenTo.mono {m n : Nat} (le : m ≤ n) :
    ∀ {stack : List Frame}, OpenTo m stack → OpenTo n stack
  | [], _ => trivial
  | .left _ _ :: _, h => Nat.lt_of_lt_of_le h le
  | .group :: _, _ => trivial
  | .call _ _ :: _, _ => trivial

theorem applySigns_of_openTo {n : Nat} (e : Expr) :
    ∀ {stack : List Frame}, OpenTo n stack → applySigns e stack = (e, stack)
  | [], _ => rfl
  | .left _ _ :: _, _ => rfl
  | .group :: _, _ => rfl
  | .call _ _ :: _, _ => rfl

theorem joinFrom_of_openTo {n : Nat} (e : Expr) :
    ∀ {stack : List Frame}, OpenTo n stack → joinFrom n e stack = (e, stack)
  | [], _ => rfl
  | .left _ op :: _, (h : op.level < n) => by simp [joinFrom, Nat.not_le.mpr h]
  | .group :: _, _ => rfl
  | .call _ _ :: _, _ => rfl

theorem level_lt_five (op : BinaryOp) : op.level < 5 := by
  cases op <;> decide

/-- No operator binds as tightly as a sign. -/
theorem joinFrom_of_five_le {n : Nat} (h : 5 ≤ n) (e : Expr) (stack : List Frame) :
    joinFrom n e stack = (e, stack) := by
  match stack with
  | [] | .sign _ :: _ | .group :: _ | .call _ _ :: _ => rfl
  | .left _ op :: _ =>
    have := level_lt_five op
    simp [joinFrom, show ¬ n ≤ op.level by omega]

/-- Joining down to a rank can stop at a tighter one on the way. -/
theorem joinFrom_joinFrom {m n : Nat} (le : m ≤ n) (e : Expr) (stack : List Frame) :
    joinFrom m (joinFrom n e stack).1 (joinFrom n e stack).2 = joinFrom m e stack := by
  induction stack generalizing e with
  | nil => rfl
  | cons frame stack ih =>
    cases frame with
    | sign | group | call => rfl
    | left a op =>
      by_cases h : n ≤ op.level
      · simp only [joinFrom, h, Nat.le_trans le h, ↓reduceIte, ih]
      · simp [joinFrom, h]

/-! ## Single steps -/

/-- Behind an operand, any token but one that makes a name a call or a range follows it. -/
theorem State.step_of_operand? {state : State} {e : Expr} {stack : List Frame} {t : Token}
    (h : state.operand? = some (e, stack)) (call : t.kind ≠ .openParen)
    (range : t.kind ≠ .colon) : state.step t = followOperand e stack t := by
  cases state with
  | named name frames =>
    obtain ⟨rfl, rfl⟩ : (applySigns (.cell name) frames).1 = e ∧
        (applySigns (.cell name) frames).2 = stack := by
      simpa [operand?, Prod.ext_iff] using h
    simp only [step]
  | settled x frames =>
    obtain ⟨rfl, rfl⟩ : x = e ∧ frames = stack := by simpa [operand?] using h
    rfl
  | operand | opened | cornered => cases h

theorem operand?_settle (e : Expr) (stack : List Frame) :
    (settle e stack).operand? = some (applySigns e stack) := rfl

theorem followOperand_binary {t : Token} {op : BinaryOp} (h : t.kind.binary? = some op) (e : Expr)
    (stack : List Frame) :
    followOperand e stack t =
      .ok (.operand (.left (joinFrom op.level e stack).1 op :: (joinFrom op.level e stack).2)) := by
  simp [followOperand, h]

theorem followOperand_closer {t : Token} (h : t.kind.binary? = none) (e : Expr)
    (stack : List Frame) : followOperand e stack t = closeLevel t (joinFrom 0 e stack) := by
  simp [followOperand, h]

/-! ## Operands on a stack -/

/-- The state ends with an operand that joins, down to a rank, to `e` on `stack`. -/
def State.Holds (n : Nat) (e : Expr) (stack : List Frame) (state : State) : Prop :=
  ∃ x frames, state.operand? = some (x, frames) ∧ joinFrom n x frames = applySigns e stack

theorem State.holds_settle (n : Nat) (hn : 5 ≤ n) (e : Expr) (stack : List Frame) :
    (settle e stack).Holds n e stack :=
  ⟨_, _, operand?_settle e stack, joinFrom_of_five_le hn _ _⟩

/-- A formula may end with the operand that stands on the empty stack. -/
theorem State.tree?_eq_some_iff {state : State} {e : Expr} :
    state.tree? = some e ↔ state.Holds 0 e [] := by
  constructor
  · intro h
    cases hx : state.operand? with
    | none => simp [tree?, hx] at h
    | some pair =>
      obtain ⟨x, frames⟩ := pair
      rcases hj : joinFrom 0 x frames with ⟨y, _ | ⟨frame, rest⟩⟩
      · obtain rfl : y = e := by simpa [tree?, hx, hj] using h
        exact ⟨x, frames, hx, hj⟩
      · simp [tree?, hx, hj] at h
  · rintro ⟨x, frames, hx, hj⟩
    simp [tree?, hx, hj, applySigns]

/-- On a stack open to it, an operand may count as one of a looser rank. -/
theorem State.Holds.loosen {m n : Nat} {e : Expr} {stack : List Frame} {state : State}
    (h : state.Holds n e stack) (le : m ≤ n) (isOpen : m < 5 → OpenTo m stack) :
    state.Holds m e stack := by
  obtain ⟨x, frames, hx, hj⟩ := h
  refine ⟨x, frames, hx, ?_⟩
  by_cases hm : m < 5
  · have hopen := isOpen hm
    rw [applySigns_of_openTo e hopen] at hj ⊢
    rw [← joinFrom_joinFrom le, hj, joinFrom_of_openTo e hopen]
  · rw [joinFrom_of_five_le (by omega)] at hj ⊢
    exact hj

/-- An operator behind its left operand. -/
theorem State.Holds.step_binary {n : Nat} {e : Expr} {stack : List Frame} {state : State}
    {t : Token} {op : BinaryOp} (h : state.Holds n e stack) (isOpen : OpenTo n stack)
    (ht : t.kind.binary? = some op) (hop : op.level = n) :
    state.step t = .ok (.operand (.left e op :: stack)) := by
  obtain ⟨x, frames, hx, hj⟩ := h
  rw [State.step_of_operand? hx (by rintro hk; simp [hk, TokenKind.binary?] at ht)
    (by rintro hk; simp [hk, TokenKind.binary?] at ht), followOperand_binary ht, hop, hj,
    applySigns_of_openTo e isOpen]

/-- A delimiter behind the operand that it ends. -/
theorem State.Holds.step_delimiter {e : Expr} {stack : List Frame} {state : State} {t : Token}
    (h : state.Holds 0 e stack) (isOpen : OpenTo 0 stack)
    (ht : t.kind = .closeParen ∨ t.kind = .comma) : state.step t = closeLevel t (e, stack) := by
  obtain ⟨x, frames, hx, hj⟩ := h
  have hnone : t.kind.binary? = none := by rcases ht with hk | hk <;> rw [hk] <;> rfl
  rw [State.step_of_operand? hx (by rcases ht with hk | hk <;> simp [hk])
    (by rcases ht with hk | hk <;> simp [hk]), followOperand_closer hnone, hj,
    applySigns_of_openTo e isOpen]

end Worksheet.Formula
