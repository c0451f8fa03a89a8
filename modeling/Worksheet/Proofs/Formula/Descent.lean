import Worksheet.Proofs.Formula.Acceptance

/-!
# Reading by descent

The other way to read a formula is to descend: the phrases of a level are read by a function that
calls the one for the next level, and so on down to the primaries, where a parenthesis starts over.
The descent moves a cursor along the tokens. The cursor never leaves the last token: moved on from
there it stays, and the same token is found again. So nothing in the form of these functions says
that they come to an end, and on some lists they do not: behind a sign at the end of a list an
operand must follow, and what follows is that sign.

Each function is given the depth to which calls may still be nested, the rounds of a loop among
them. A descent that would go deeper is `none`.

Results:
* `lookup_operators_eq_some_iff`: the operators that the loop of a level goes on with.
* `phrase_of_next?`: the loop of a level behind its first operand.
* `phrase_of_misfit`: a token that no operand starts with.
-/

namespace Worksheet.Formula

/-! ## Cursors -/

/-- The token under a cursor, which is given by the tokens from there on. Where there is none, it is
the end of input. -/
def current : List Token → Token
  | [] => Token.endAt 0
  | t :: _ => t

/-- The cursor moved on by one token, or the same cursor on the last token. -/
def consume : List Token → List Token
  | _ :: u :: rest => u :: rest
  | ts => ts

theorem length_consume_le (ts : List Token) : (consume ts).length ≤ ts.length := by
  unfold consume
  split
  · exact Nat.le_succ _
  · exact Nat.le_refl _

/-- A cursor that does not move on is on the last token. -/
theorem eq_singleton_of_consume {ts : List Token} (h : ¬ (consume ts).length < ts.length)
    (hne : (current ts).kind ≠ .endOfInput) : ts = [current ts] := by
  match ts with
  | [] => exact absurd rfl hne
  | [t] => rfl
  | _ :: u :: rest => exact absurd (Nat.lt_succ_self _) h

/-! ## The descent -/

/-- What a descent gives: nothing if it goes too deep, and otherwise a result or an error. -/
abbrev Descent (α : Type) : Type :=
  ExceptT SyntaxError Option α

namespace Descent

/-- The descent goes deeper than it may. -/
def tooDeep {α : Type} : Descent α :=
  ExceptT.mk none

/-- Moves on from a token of this kind; any other is an error. -/
def expect (kind : TokenKind) (ts : List Token) : Descent (List Token) :=
  if (current ts).kind = kind then pure (consume ts)
  else throw ⟨(current ts).position, .missing kind (current ts)⟩

mutual

/-- A phrase of a level, and the cursor behind it. -/
def phrase (depth : Nat) (level : Level) (ts : List Token) : Descent (Expr × List Token) :=
  match depth with
  | 0 => tooDeep
  | depth + 1 =>
    if level = .signed then signed depth ts
    else
      match level.next? with
      | none => primary depth ts
      | some tighter => do
        let (left, ts) ← phrase depth tighter ts
        chain depth level tighter left ts
termination_by structural depth

/-- The operators of a level behind the left operand of the first, with the operands between. -/
def chain (depth : Nat) (level tighter : Level) (left : Expr) (ts : List Token) :
    Descent (Expr × List Token) :=
  match depth with
  | 0 => tooDeep
  | depth + 1 =>
    match level.operators.lookup (current ts).kind with
    | some op => do
      let (right, ts) ← phrase depth tighter (consume ts)
      chain depth level tighter (.binary op left right) ts
    | none => pure (left, ts)
termination_by structural depth

/-- A primary with the signs before it. -/
def signed (depth : Nat) (ts : List Token) : Descent (Expr × List Token) :=
  match depth with
  | 0 => tooDeep
  | depth + 1 =>
    match signs.lookup (current ts).kind with
    | some op => do
      let (operand, ts) ← signed depth (consume ts)
      pure (.unary op operand, ts)
    | none => primary depth ts
termination_by structural depth

/-- A literal, a name, a range, a call or a formula in parentheses. -/
def primary (depth : Nat) (ts : List Token) : Descent (Expr × List Token) :=
  match depth with
  | 0 => tooDeep
  | depth + 1 =>
    match (current ts).kind with
    | .number =>
      match Number.read (current ts).text.toList with
      | some x => pure (.number x, consume ts)
      | none => throw ⟨(current ts).position, .malformedNumber (current ts).text⟩
    | .text => pure (.text (current ts).text, consume ts)
    | .identifier =>
      match (current (consume ts)).kind with
      | .openParen => call depth (current ts).text (consume ts)
      | .colon => do
        let corner := consume (consume ts)
        let rest ← expect .identifier corner
        pure (.range (current ts).text (current corner).text, rest)
      | _ => pure (.cell (current ts).text, consume ts)
    | .openParen => do
      let (e, rest) ← phrase depth .comparison (consume ts)
      let rest ← expect .closeParen rest
      pure (e, rest)
    | _ => throw ⟨(current ts).position, .unexpected (current ts)⟩
termination_by structural depth

/-- A call from its parenthesis on. -/
def call (depth : Nat) (name : String) (ts : List Token) : Descent (Expr × List Token) :=
  match depth with
  | 0 => tooDeep
  | depth + 1 => do
    let ts ← expect .openParen ts
    if (current ts).kind = .closeParen then pure (.callOf name [], consume ts)
    else arguments depth name [] ts
termination_by structural depth

/-- A call from one of its arguments on, the arguments before it last first. -/
def arguments (depth : Nat) (name : String) (args : List Expr) (ts : List Token) :
    Descent (Expr × List Token) :=
  match depth with
  | 0 => tooDeep
  | depth + 1 => do
    let (e, ts) ← phrase depth .comparison ts
    if (current ts).kind = .comma then arguments depth name (e :: args) (consume ts)
    else do
      let ts ← expect .closeParen ts
      pure (.callOf name (e :: args), ts)
termination_by structural depth

end

/-- The formula that a list of tokens is, up to its end of input. -/
def formula (depth : Nat) (ts : List Token) : Option (Except SyntaxError Expr) := ExceptT.run do
  let (e, rest) ← phrase depth .comparison ts
  if (current rest).kind = .endOfInput then pure e
  else throw ⟨(current rest).position, .trailing (current rest)⟩

/-! ## Its equations -/

theorem throw_bind {α β : Type} (fault : SyntaxError) (k : α → Descent β) :
    (throw fault >>= k : Descent β) = throw fault := rfl

theorem throw_ne_pure {α : Type} (fault : SyntaxError) (a : α) :
    (throw fault : Descent α) ≠ pure a := by
  intro h
  cases h

theorem phrase_signed (depth : Nat) (ts : List Token) :
    phrase (depth + 1) .signed ts = signed depth ts := by
  rw [phrase, if_pos rfl]

theorem phrase_primary (depth : Nat) (ts : List Token) :
    phrase (depth + 1) .primary ts = primary depth ts := by
  rw [phrase]
  rfl

/-- The phrases of a level with operators: a phrase of the next level, and the loop behind it. -/
theorem phrase_of_next? {level tighter : Level} (hnext : level.next? = some tighter)
    (hrank : level.rank < 5) (depth : Nat) (ts : List Token) :
    phrase (depth + 1) level ts =
      phrase depth tighter ts >>= fun (left, ts) => chain depth level tighter left ts := by
  have hne : level ≠ .signed := by
    rintro rfl
    exact absurd hrank (by decide)
  rw [phrase, if_neg hne, hnext]

/-- The loop of a level goes on with the operators of its rank. -/
theorem lookup_operators_eq (level : Level) (kind : TokenKind) :
    level.operators.lookup kind = kind.binary?.filter fun op => op.level = level.rank := by
  cases level <;> cases kind <;> rfl

theorem lookup_operators_eq_some_iff {level : Level} {kind : TokenKind} {op : BinaryOp} :
    level.operators.lookup kind = some op ↔ kind.binary? = some op ∧ op.level = level.rank := by
  rw [lookup_operators_eq, Option.filter_eq_some_iff, decide_eq_true_iff]

/-- What holds of the signed phrases and the primaries, and of a level if it does of the next one,
holds of all levels. -/
theorem forall_level {P : Level → Prop} (primary : P .primary) (signed : P .signed)
    (loose : ∀ level tighter, level.next? = some tighter → level.rank < 5 → P tighter → P level) :
    ∀ level, P level := by
  have power := loose .power .signed rfl (by decide) signed
  have product := loose .product .power rfl (by decide) power
  have sum := loose .sum .product rfl (by decide) product
  have concatenation := loose .concatenation .sum rfl (by decide) sum
  have comparison := loose .comparison .concatenation rfl (by decide) concatenation
  intro level
  cases level <;> assumption

/-- Whether an operand starts with a token of this kind. -/
def startsOperand : TokenKind → Bool
  | .number | .text | .identifier | .plus | .minus | .openParen => true
  | _ => false

/-- A token that no operand starts with is an error at every level. -/
theorem phrase_of_misfit (ts : List Token) (h : startsOperand (current ts).kind = false)
    {level : Level} {depth : Nat} (hdepth : 8 ≤ depth + level.rank) :
    phrase depth level ts = throw ⟨(current ts).position, .unexpected (current ts)⟩ := by
  have hprimary : ∀ depth,
      primary (depth + 1) ts = throw ⟨(current ts).position, .unexpected (current ts)⟩ := by
    intro depth
    rw [primary]
    split <;> first | rfl | simp_all [startsOperand]
  induction level using forall_level generalizing depth with
  | primary =>
    change 8 ≤ depth + 6 at hdepth
    obtain ⟨depth, rfl⟩ := Nat.exists_eq_add_of_le' (show 2 ≤ depth by omega)
    rw [phrase_primary, hprimary]
  | signed =>
    change 8 ≤ depth + 5 at hdepth
    obtain ⟨depth, rfl⟩ := Nat.exists_eq_add_of_le' (show 3 ≤ depth by omega)
    have hnone : signs.lookup (current ts).kind = none := by
      cases hkind : (current ts).kind <;> rw [hkind] at h <;> first | rfl | cases h
    rw [phrase_signed, signed, hnone]
    exact hprimary depth
  | loose level tighter hnext hrank ih =>
    have htighter := Level.rank_of_next? hnext
    obtain ⟨depth, rfl⟩ := Nat.exists_eq_add_of_le' (show 1 ≤ depth by omega)
    rw [phrase_of_next? hnext hrank, ih (by omega), throw_bind]

end Descent

end Worksheet.Formula
