import Worksheet.Formula.Reader

/-!
# The grammar of formulas

The phrases of a formula and their trees, level by level. A level with binary operators joins
phrases of its own on the left to phrases of the next level on the right, so its operators group
to the left. Signs come next and bind tighter than any binary operator; last are the primaries.

The grammar is stated on tokens alone and says nothing of how they are read.

Results:
* `mem_operators_iff`: the operators of a level, through the kind of their token and their rank.
* `Derives.loosen`: a phrase of a tight level is a phrase of every looser one.
-/

namespace Worksheet.Formula

/-! ## Levels -/

/-- The levels of phrases, the loosest first. -/
inductive Level where
  | comparison
  | concatenation
  | sum
  | product
  | power
  | signed
  | primary
deriving DecidableEq, Repr

namespace Level

/-- The level whose phrases are the operands of a level. -/
def next? : Level → Option Level
  | comparison => some concatenation
  | concatenation => some sum
  | sum => some product
  | product => some power
  | power => some signed
  | signed => some primary
  | primary => none

/-- The binary operators of a level, each behind the kind of token that writes it. -/
def operators : Level → List (TokenKind × BinaryOp)
  | comparison =>
    [(.equal, .equal), (.notEqual, .notEqual), (.less, .less), (.greater, .greater),
      (.lessEqual, .lessEqual), (.greaterEqual, .greaterEqual)]
  | concatenation => [(.ampersand, .concat)]
  | sum => [(.plus, .add), (.minus, .subtract)]
  | product => [(.star, .multiply), (.slash, .divide)]
  | power => [(.caret, .power)]
  | signed | primary => []

/-- How many levels are looser. -/
def rank : Level → Nat
  | comparison => 0
  | concatenation => 1
  | sum => 2
  | product => 3
  | power => 4
  | signed => 5
  | primary => 6

theorem rank_of_next? {level tighter : Level} (h : level.next? = some tighter) :
    tighter.rank = level.rank + 1 := by
  cases level <;> cases h <;> rfl

theorem eq_of_rank_eq {a b : Level} (h : a.rank = b.rank) : a = b := by
  cases a <;> cases b <;> first | rfl | cases h

/-- The level of a binary operator. -/
def ofOperator : BinaryOp → Level
  | .equal | .notEqual | .less | .lessEqual | .greater | .greaterEqual => comparison
  | .concat => concatenation
  | .add | .subtract => sum
  | .multiply | .divide => product
  | .power => power

theorem rank_ofOperator (op : BinaryOp) : (ofOperator op).rank = op.level := by
  cases op <;> rfl

theorem of_mem_operators (level : Level) :
    ∀ p ∈ level.operators, p.1.binary? = some p.2 ∧ p.2.level = level.rank := by
  cases level <;> decide

/-- The operators of a level are those of its rank, written by the token they stand for. -/
theorem mem_operators_iff {kind : TokenKind} {op : BinaryOp} {level : Level} :
    (kind, op) ∈ level.operators ↔ kind.binary? = some op ∧ op.level = level.rank := by
  constructor
  · exact of_mem_operators level (kind, op)
  · rintro ⟨hkind, hrank⟩
    rw [← rank_ofOperator] at hrank
    rw [← eq_of_rank_eq hrank]
    cases kind <;> cases hkind <;> decide

theorem exists_next?_of_mem_operators {kind : TokenKind} {op : BinaryOp} {level : Level}
    (h : (kind, op) ∈ level.operators) : ∃ tighter, level.next? = some tighter := by
  cases level with
  | signed | primary => cases h
  | comparison | concatenation | sum | product | power => exact ⟨_, rfl⟩

end Level

/-- The signs, each behind the kind of token that writes it. -/
def signs : List (TokenKind × UnaryOp) :=
  [(.plus, .plus), (.minus, .negate)]

/-! ## Phrases -/

mutual

/-- `Derives level ts e`: the tokens `ts` are a phrase of `level` with the tree `e`. -/
inductive Derives : Level → List Token → Expr → Prop
  /-- A phrase of the next level. -/
  | next {level tighter ts e} : level.next? = some tighter → Derives tighter ts e →
      Derives level ts e
  /-- A phrase, an operator and a phrase of the next level. -/
  | binary {level tighter left right t op a b} : level.next? = some tighter →
      (t.kind, op) ∈ level.operators → Derives level left a → Derives tighter right b →
      Derives level (left ++ t :: right) (.binary op a b)
  | sign {t ts op e} : (t.kind, op) ∈ signs → Derives .signed ts e →
      Derives .signed (t :: ts) (.unary op e)
  /-- A number, if its text reads as one. -/
  | number {t x} : t.kind = .number → Number.read t.text.toList = some x →
      Derives .primary [t] (.number x)
  | text {t} : t.kind = .text → Derives .primary [t] (.text t.text)
  | cell {t} : t.kind = .identifier → Derives .primary [t] (.cell t.text)
  | range {t c u} : t.kind = .identifier → c.kind = .colon → u.kind = .identifier →
      Derives .primary [t, c, u] (.range t.text u.text)
  | group {o ts c e} : o.kind = .openParen → Derives .comparison ts e → c.kind = .closeParen →
      Derives .primary (o :: ts ++ [c]) e
  /-- A call without arguments, its name in upper case. -/
  | emptyCall {t o c} : t.kind = .identifier → o.kind = .openParen → c.kind = .closeParen →
      Derives .primary [t, o, c] (.call (Text.upper t.text) [])
  | call {t o ts c es} : t.kind = .identifier → o.kind = .openParen → DerivesAll ts es →
      c.kind = .closeParen → Derives .primary (t :: o :: ts ++ [c]) (.call (Text.upper t.text) es)

/-- `DerivesAll ts es`: the tokens `ts` are formulas parted by commas, with the trees `es`. -/
inductive DerivesAll : List Token → List Expr → Prop
  | one {ts e} : Derives .comparison ts e → DerivesAll ts [e]
  | more {us es c ts e} : DerivesAll us es → c.kind = .comma → Derives .comparison ts e →
      DerivesAll (us ++ c :: ts) (es ++ [e])

end

/-- A phrase of a tight level is a phrase of every looser one. -/
theorem Derives.loosen {loose level : Level} {ts : List Token} {e : Expr}
    (h : Derives level ts e) (le : loose.rank ≤ level.rank) : Derives loose ts e := by
  obtain ⟨gap, hgap⟩ := Nat.le.dest le
  induction gap generalizing loose with
  | zero => rwa [Level.eq_of_rank_eq (a := loose) (b := level) (by omega)]
  | succ gap ih =>
    cases hn : loose.next? with
    | none =>
      obtain rfl : loose = .primary := by cases loose <;> first | rfl | cases hn
      have : level.rank ≤ Level.primary.rank := by cases level <;> decide
      omega
    | some tighter =>
      have hrank := Level.rank_of_next? hn
      exact .next hn (ih (by omega) (by omega))

end Worksheet.Formula
