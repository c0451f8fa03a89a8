import Worksheet.Proofs.Formula.Faults

/-!
# Formulas further on

The places of tokens and of faults count the characters before them. When a formula stands further
on, behind blanks, its tokens and its faults do so too, by as many characters, and nothing else
changes: the reader of tokens keeps trees and names, but no places, and hands a token on only where
it finds fault with it.

Results:
* `step_moved`, `run_moved`: reading moved tokens.
* `tokensFrom_moved`: tokens read from a later start on.
* `ofChars_blanks_append`: a formula behind blanks.
-/

namespace Worksheet.Formula

/-! ## Moved tokens and faults -/

/-- The token `n` characters further on. -/
def Token.moved (n : Nat) (t : Token) : Token :=
  { t with position := t.position + n }

/-- The fault with the token that it is about moved on. -/
def SyntaxFault.moved (n : Nat) : SyntaxFault → SyntaxFault
  | .unexpected found => .unexpected (found.moved n)
  | .missing expected found => .missing expected (found.moved n)
  | .trailing found => .trailing (found.moved n)
  | fault => fault

/-- The error `n` characters further on. -/
def SyntaxError.moved (n : Nat) (e : SyntaxError) : SyntaxError :=
  ⟨e.position + n, e.fault.moved n⟩

variable {n : Nat}

/-! ## Reading moved tokens -/

theorem beginOperand_moved (stack : List Frame) (t : Token) :
    beginOperand stack (t.moved n) = (beginOperand stack t).mapError (SyntaxError.moved n) := by
  obtain ⟨kind, text, position⟩ := t
  cases kind with
  | number =>
    simp only [beginOperand, Token.moved]
    cases Number.read text.toList <;> rfl
  | _ => rfl

theorem closeLevel_moved (t : Token) (level : Expr × List Frame) :
    closeLevel (t.moved n) level = (closeLevel t level).mapError (SyntaxError.moved n) := by
  have hkind : (t.moved n).kind = t.kind := rfl
  unfold closeLevel
  rw [hkind]
  split
  · split <;> rfl
  · split
    · rfl
    · split <;> rfl
  · rfl

theorem followOperand_moved (e : Expr) (stack : List Frame) (t : Token) :
    followOperand e stack (t.moved n) =
      (followOperand e stack t).mapError (SyntaxError.moved n) := by
  have hkind : (t.moved n).kind = t.kind := rfl
  unfold followOperand
  rw [hkind]
  split
  · rfl
  · exact closeLevel_moved t _

/-- A moved token leads to the same state, or to the error moved on. -/
theorem step_moved (state : State) (t : Token) :
    state.step (t.moved n) = (state.step t).mapError (SyntaxError.moved n) := by
  have hkind : (t.moved n).kind = t.kind := rfl
  have htext : (t.moved n).text = t.text := rfl
  cases state with
  | operand stack => exact beginOperand_moved stack t
  | opened name stack =>
    simp only [State.step, hkind]
    split
    · rfl
    · exact beginOperand_moved _ t
  | named name stack =>
    simp only [State.step, hkind]
    split
    · rfl
    · rfl
    · exact followOperand_moved _ _ t
  | cornered first stack =>
    simp only [State.step, hkind, htext]
    split
    · rfl
    · rfl
  | settled e stack => exact followOperand_moved e stack t

theorem refuse_moved (state : State) (t : Token) :
    state.refuse (t.moved n) = (state.refuse t).moved n := by
  unfold State.refuse
  rw [step_moved]
  cases state.step t <;> rfl

theorem run_moved (state : State) (last : Token) (ts : List Token) :
    state.run (last.moved n) (ts.map (Token.moved n)) =
      (state.run last ts).mapError (SyntaxError.moved n) := by
  induction ts generalizing state last with
  | nil =>
    rw [List.map_nil, State.run, State.run, refuse_moved]
    rfl
  | cons t rest ih =>
    have hkind : (t.moved n).kind = t.kind := rfl
    simp only [List.map_cons, State.run, hkind, refuse_moved, step_moved]
    split
    · split <;> rfl
    · cases state.step t with
      | ok next => exact ih next t
      | error fault => rfl

/-- Where there is a token, it does not matter which one comes before it. -/
theorem ofTokens_moved {ts : List Token} (h : ts ≠ []) :
    Expr.ofTokens (ts.map (Token.moved n)) =
      (Expr.ofTokens ts).mapError (SyntaxError.moved n) := by
  cases ts with
  | nil => exact absurd rfl h
  | cons t rest => exact run_moved (.operand []) (Token.endAt 0) (t :: rest)

/-! ## Reading from a later start on -/

/-- Tokens, or an error, `n` characters further on. -/
def movedTokens (n : Nat) : Except SyntaxError (List Token) → Except SyntaxError (List Token)
  | .ok ts => .ok (ts.map (Token.moved n))
  | .error e => .error (e.moved n)

/-- The faults of characters name no tokens. -/
theorem moved_of_ofHead {c : Char} {rest : List Char} {fault : SyntaxFault}
    (h : Lexeme.ofHead c rest = .error fault) : fault.moved n = fault := by
  rcases ofHead_eq_error h with ⟨rfl, -⟩ | ⟨rfl, -⟩
  · rfl
  · rfl

theorem tokensFrom_moved (n start : Nat) (s : List Char) :
    tokensFrom (start + n) s = movedTokens n (tokensFrom start s) := by
  fun_induction tokensFrom start s with
  | case1 start => rw [tokensFrom]; rfl
  | case2 start c rest hb ih =>
    rw [tokensFrom, if_pos hb, ← ih, Nat.add_right_comm]
  | case3 start c rest hb fault hfault =>
    rw [tokensFrom, if_neg hb, hfault, movedTokens, SyntaxError.moved, moved_of_ofHead hfault]
  | case4 start c rest hb lexeme hlexeme ih =>
    rw [tokensFrom, if_neg hb, hlexeme]
    dsimp only
    rw [Nat.add_right_comm, ih]
    cases tokensFrom (start + lexeme.width) ((c :: rest).drop lexeme.width) <;> rfl

theorem tokensFrom_blanks_append {blanks : List Char} (h : ∀ c ∈ blanks, Text.isBlank c = true)
    (start : Nat) (s : List Char) :
    tokensFrom start (blanks ++ s) = tokensFrom (start + blanks.length) s := by
  induction blanks generalizing start with
  | nil => rfl
  | cons c rest ih =>
    have hfirst : Text.isBlank c = true := h c (List.mem_cons_self ..)
    have hrest := ih (fun d hd => h d (List.mem_cons_of_mem _ hd)) (start + 1)
    rw [List.cons_append, tokensFrom, if_pos hfirst, hrest, List.length_cons, Nat.add_assoc,
      Nat.add_comm 1]

/-- A formula behind blanks has the same tree, or the same fault further on. -/
theorem ofChars_blanks_append {blanks : List Char} (h : ∀ c ∈ blanks, Text.isBlank c = true)
    (s : List Char) :
    Expr.ofChars (blanks ++ s) =
      (Expr.ofChars s).mapError (SyntaxError.moved blanks.length) := by
  unfold Expr.ofChars
  rw [tokensFrom_blanks_append h, tokensFrom_moved]
  cases htokens : tokensFrom 0 s with
  | error e => rfl
  | ok ts =>
    obtain ⟨body, rfl, _⟩ := exists_body_of_tokensFrom htokens
    exact ofTokens_moved (by simp)

end Worksheet.Formula
