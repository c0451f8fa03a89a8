import Mathlib.Data.Nat.Basic
import Worksheet.Proofs.Formula.Acceptance
import Worksheet.Proofs.Formula.Decomposition

/-!
# Where a formula goes wrong

A formula that is refused is refused at the first token that no formula goes on with. The tokens
before it start some formula, since from every state that the reader comes to, the operand that is
missing and a parenthesis for every open level complete the formula. With the token itself the
reader stops, whatever tokens come behind it.

Results:
* `Behind.canEnd`: a phrase on an open stack can be completed.
* `State.Reads.canEnd`: so can the tokens that lead to a state.
* `State.about_of_step`, `about_of_ofTokens`: an error is about the token that raises it.
* `exists_step_error`: the token at which a run stops, and the state before it.
* `refused_at_first_hopeless_token`: the position of an error of syntax.
-/

namespace Worksheet.Formula

/-! ## Completions -/

/-- The tokens start a formula. -/
def CanEnd (ts : List Token) : Prop :=
  ∃ us e, (∀ u ∈ us, u.kind ≠ .endOfInput) ∧ Derives .comparison (ts ++ us) e

theorem Derives.canEnd {ts : List Token} {e : Expr} (h : Derives .comparison ts e) : CanEnd ts :=
  ⟨[], e, by simp, by rwa [List.append_nil]⟩

theorem CanEnd.of_append {ts : List Token} {t : Token} (ht : t.kind ≠ .endOfInput)
    (h : CanEnd (ts ++ [t])) : CanEnd ts := by
  obtain ⟨us, e, hus, he⟩ := h
  refine ⟨t :: us, e, fun u hu => ?_, by simpa using he⟩
  rcases List.mem_cons.mp hu with rfl | hu
  · exact ht
  · exact hus u hu

/-- A closing parenthesis, wherever it stands. -/
def closer : Token :=
  ⟨.closeParen, ")", 0⟩

/-- A name, wherever it stands. -/
def filler : Token :=
  ⟨.identifier, "A", 0⟩

/-- A phrase on a stack that is open to its level can be completed: what waits for it on the left
takes it in, and a parenthesis closes each open level. -/
theorem Behind.canEnd {ts us : List Token} {stack : List Frame} {level : Level} {e : Expr}
    (hb : Behind ts stack) (h : Derives level us e)
    (isOpen : level.rank < 5 → OpenTo level.rank stack) : CanEnd (ts ++ us) := by
  induction hb generalizing level us e with
  | nil => exact (h.loosen (Nat.zero_le _)).canEnd
  | sign _ ht ih =>
    have hrank : 5 ≤ level.rank := Nat.le_of_not_lt fun hlt => isOpen hlt
    have hloose : Derives .signed us e := h.loosen hrank
    have hsigned := hloose.sign ht
    simpa using ih hsigned fun hlt => absurd hlt (by decide)
  | @left _ _ _ _ _ op _ _ hopen ha ht ih =>
    obtain ⟨_, hop⟩ := Level.mem_operators_iff.mp ht
    obtain ⟨tighter, hnext⟩ := Level.exists_next?_of_mem_operators ht
    have htight := Level.rank_of_next? hnext
    have hlevel : op.level < level.rank := by
      rcases Nat.lt_or_ge level.rank 5 with hlt | hge
      · exact isOpen hlt
      · exact Nat.lt_of_lt_of_le (level_lt_five op) hge
    have hjoined := Derives.binary hnext ht ha (h.loosen (by omega))
    simpa using ih hjoined fun _ => hop ▸ hopen
  | group _ ho ih =>
    have hgroup := Derives.group ho (h.loosen (Nat.zero_le _)) (c := closer) rfl
    have hend := ih hgroup fun hlt => absurd hlt (by decide)
    exact CanEnd.of_append (t := closer) (by decide) (by simpa using hend)
  | call _ ht ho ih =>
    have hcall := Derives.call ht ho (.one (h.loosen (Nat.zero_le _))) (c := closer) rfl
    have hend := ih hcall fun hlt => absurd hlt (by decide)
    exact CanEnd.of_append (t := closer) (by decide) (by simpa using hend)
  | argument _ ht ho hargs hc ih =>
    have hcall := Derives.call ht ho (hargs.more hc (h.loosen (Nat.zero_le _))) (c := closer) rfl
    have hend := ih hcall fun hlt => absurd hlt (by decide)
    exact CanEnd.of_append (t := closer) (by decide) (by simpa using hend)

/-- A primary phrase can be completed on any stack. -/
theorem Behind.canEnd_primary {ts us : List Token} {stack : List Frame} {e : Expr}
    (hb : Behind ts stack) (h : Derives .primary us e) : CanEnd (ts ++ us) :=
  hb.canEnd h fun hlt => absurd hlt (by decide)

/-- The tokens that lead to a state start a formula. -/
theorem State.Reads.canEnd {ts : List Token} {state : State} (h : state.Reads ts) : CanEnd ts := by
  cases state with
  | operand stack =>
    exact CanEnd.of_append (t := filler) (by decide) (h.canEnd_primary (.cell rfl))
  | opened name stack =>
    obtain ⟨before, t, o, rfl, hb, ht, ho, _⟩ := h
    have hend := hb.canEnd_primary (.emptyCall ht ho (c := closer) rfl)
    exact CanEnd.of_append (t := closer) (by decide) (by simpa using hend)
  | named name stack =>
    obtain ⟨before, t, rfl, hb, ht, _⟩ := h
    exact hb.canEnd_primary (.cell ht)
  | cornered first stack =>
    obtain ⟨before, t, c, rfl, hb, ht, hc, _⟩ := h
    have hend := hb.canEnd_primary (.range ht hc (u := filler) rfl)
    exact CanEnd.of_append (t := filler) (by decide) (by simpa using hend)
  | settled e stack =>
    obtain ⟨⟨before, phrase, rfl, hb, hphrase⟩, hopen⟩ := h
    exact hb.canEnd hphrase fun _ => hopen

/-! ## What errors are about -/

/-- An error that a token raises: it names the token, or the text of it, and stands at it. -/
inductive SyntaxError.About (t : Token) : SyntaxError → Prop
  | unexpected : About t ⟨t.position, .unexpected t⟩
  | malformedNumber : About t ⟨t.position, .malformedNumber t.text⟩
  | missing (expected) : About t ⟨t.position, .missing expected t⟩
  | trailing : About t ⟨t.position, .trailing t⟩

theorem SyntaxError.About.position_eq {t : Token} {fault : SyntaxError} (h : fault.About t) :
    fault.position = t.position := by
  cases h <;> rfl

theorem about_of_beginOperand {stack : List Frame} {t : Token} {fault : SyntaxError}
    (h : beginOperand stack t = .error fault) : fault.About t := by
  unfold beginOperand at h
  split at h
  · split at h <;> cases h
    exact .malformedNumber
  all_goals cases h
  exact .unexpected

theorem about_of_closeLevel {t : Token} {e : Expr} {stack : List Frame} {fault : SyntaxError}
    (h : closeLevel t (e, stack) = .error fault) : fault.About t := by
  unfold closeLevel at h
  split at h
  · split at h <;> cases h
    exact .missing _
  · split at h
    · cases h
    · split at h <;> cases h
      exact .missing _
  · cases h
    exact .trailing

theorem about_of_followOperand {e : Expr} {stack : List Frame} {t : Token} {fault : SyntaxError}
    (h : followOperand e stack t = .error fault) : fault.About t := by
  unfold followOperand at h
  split at h
  · cases h
  · exact about_of_closeLevel h

/-- An error is about the token that raises it. -/
theorem State.about_of_step {state : State} {t : Token} {fault : SyntaxError}
    (h : state.step t = .error fault) : fault.About t := by
  cases state with
  | operand stack => exact about_of_beginOperand h
  | opened name stack =>
    simp only [step] at h
    split at h
    · cases h
    · exact about_of_beginOperand h
  | named name stack =>
    simp only [step] at h
    split at h
    · cases h
    · cases h
    · exact about_of_followOperand h
  | cornered first stack =>
    simp only [step] at h
    split at h <;> cases h
    exact .missing _
  | settled e stack => exact about_of_followOperand h

theorem State.about_refuse (t : Token) (state : State) : (state.refuse t).About t := by
  unfold refuse
  split
  · next h => exact about_of_step h
  · exact .trailing

/-! ## The token at which a run stops -/

/-- A run that fails stops at one token, behind a state that the tokens before it lead to. -/
theorem exists_step_error {state : State} {ts : List Token} {fault : SyntaxError}
    (h : state.after ts = .error fault) :
    ∃ before t rest final, ts = before ++ t :: rest ∧ state.after before = .ok final ∧
      final.step t = .error fault := by
  induction ts generalizing state with
  | nil => cases h
  | cons t ts ih =>
    cases hs : state.step t with
    | error e =>
      obtain rfl : e = fault := by simpa [State.after, hs] using h
      exact ⟨[], t, ts, state, rfl, rfl, hs⟩
    | ok next =>
      rw [State.after_cons_of_step hs] at h
      obtain ⟨before, u, rest, final, rfl, hbefore, hu⟩ := ih h
      exact ⟨t :: before, u, rest, final, rfl, by rw [State.after_cons_of_step hs, hbefore], hu⟩

/-- A run that has come to a state goes on from there. -/
theorem State.run_append {state final : State} {before : List Token}
    (inner : ∀ t ∈ before, t.kind ≠ .endOfInput) (h : state.after before = .ok final)
    (last : Token) (us : List Token) :
    ∃ previous, state.run last (before ++ us) = final.run previous us := by
  induction before generalizing state last with
  | nil =>
    cases h
    exact ⟨last, rfl⟩
  | cons t before ih =>
    cases hs : state.step t with
    | error e => simp [after, hs] at h
    | ok next =>
      rw [after_cons_of_step hs] at h
      obtain ⟨previous, hrun⟩ := ih (fun u hu => inner u (List.mem_cons_of_mem _ hu)) h t
      refine ⟨previous, ?_⟩
      rw [List.cons_append, run, if_neg (inner t (List.mem_cons_self ..)), hs]
      exact hrun

/-- Where the reader refuses a token, it does so whatever tokens come behind it. -/
theorem ofTokens_eq_error {before us : List Token} {t : Token} {final : State}
    {fault : SyntaxError} (inner : ∀ t ∈ before, t.kind ≠ .endOfInput)
    (h : (State.operand []).after before = .ok final)
    (hstop : ∀ previous, final.run previous (t :: us) = .error fault) :
    Expr.ofTokens (before ++ t :: us) = .error fault := by
  obtain ⟨previous, hrun⟩ := State.run_append inner h (Token.endAt 0) (t :: us)
  rw [Expr.ofTokens, hrun, hstop]

/-- What tokens leave open is completed by tokens that the reader accepts. -/
theorem CanEnd.exists_ofTokens {ts : List Token} (h : CanEnd ts)
    (inner : ∀ t ∈ ts, t.kind ≠ .endOfInput) :
    ∃ us e, ∀ position, Expr.ofTokens (ts ++ us ++ [Token.endAt position]) = .ok e := by
  obtain ⟨us, e, hus, he⟩ := h
  refine ⟨us, e, fun position => (ofTokens_eq_ok_iff (fun t ht => ?_) rfl e).mpr he⟩
  rcases List.mem_append.mp ht with ht | ht
  · exact inner t ht
  · exact hus t ht

/-- A list of tokens that is refused and whose only end of input comes last has a first token that
no formula goes on with, and the error is there. -/
theorem exists_hopeless_token {body : List Token} {stop : Token} {fault : SyntaxError}
    (inner : ∀ t ∈ body, t.kind ≠ .endOfInput) (ends : stop.kind = .endOfInput)
    (h : Expr.ofTokens (body ++ [stop]) = .error fault) :
    ∃ before t rest, body ++ [stop] = before ++ t :: rest ∧ fault.position = t.position ∧
      (∃ us e, ∀ position, Expr.ofTokens (before ++ us ++ [Token.endAt position]) = .ok e) ∧
      ∀ us, Expr.ofTokens (before ++ t :: us) = .error fault := by
  have start : (State.operand []).Reads [] := Behind.nil
  rw [Expr.ofTokens, State.run_eq _ _ inner ends] at h
  cases hbody : (State.operand []).after body with
  | error e =>
    obtain rfl : e = fault := by simpa [hbody, Except.bind] using h
    obtain ⟨before, t, rest, final, rfl, hbefore, ht⟩ := exists_step_error hbody
    have hinner : ∀ u ∈ before, u.kind ≠ .endOfInput := fun u hu => inner u (by simp [hu])
    have hkind : t.kind ≠ .endOfInput := inner t (by simp)
    refine ⟨before, t, rest ++ [stop], by simp, (State.about_of_step ht).position_eq,
      (start.after hbefore).canEnd.exists_ofTokens hinner, fun us => ?_⟩
    refine ofTokens_eq_error hinner hbefore fun previous => ?_
    rw [State.run, if_neg hkind, ht]
  | ok final =>
    have hfinish : final.finish stop = .error fault := by simpa [hbody, Except.bind] using h
    have hnone : final.tree? = none := by
      cases htree : final.tree? with
      | none => rfl
      | some e => cases (State.finish_eq_ok_iff.mpr htree).symm.trans hfinish
    obtain rfl : final.refuse stop = fault := by simpa [State.finish, hnone] using hfinish
    refine ⟨body, stop, [], rfl, (State.about_refuse stop final).position_eq,
      (start.after hbody).canEnd.exists_ofTokens inner, fun us => ?_⟩
    refine ofTokens_eq_error inner hbody fun previous => ?_
    rw [State.run, if_pos ends, hnone]

/-- A list of tokens whose only end of input comes last is refused for one of its tokens. -/
theorem about_of_ofTokens {body : List Token} {stop : Token} {fault : SyntaxError}
    (inner : ∀ t ∈ body, t.kind ≠ .endOfInput) (ends : stop.kind = .endOfInput)
    (h : Expr.ofTokens (body ++ [stop]) = .error fault) : ∃ t ∈ body ++ [stop], fault.About t := by
  rw [Expr.ofTokens, State.run_eq _ _ inner ends] at h
  cases hbody : (State.operand []).after body with
  | error e =>
    obtain rfl : e = fault := by simpa [hbody, Except.bind] using h
    obtain ⟨before, t, rest, final, rfl, _, ht⟩ := exists_step_error hbody
    exact ⟨t, by simp, State.about_of_step ht⟩
  | ok final =>
    have hfinish : final.finish stop = .error fault := by simpa [hbody, Except.bind] using h
    obtain rfl : final.refuse stop = fault := by
      unfold State.finish at hfinish
      split at hfinish
      · cases hfinish
      · exact Except.error.inj hfinish
    exact ⟨stop, by simp, State.about_refuse stop final⟩

/-- **Where a formula goes wrong.** If the tokens of a formula are refused, the error is at the
first one that no formula goes on with: the tokens before it start a formula, and with it they are
refused in the same way whatever comes behind. -/
theorem refused_at_first_hopeless_token {formula : String} {ts : List Token} {fault : SyntaxError}
    (hread : tokensOf formula = .ok ts) (hrefused : Expr.ofTokens ts = .error fault) :
    ∃ before t rest, ts = before ++ t :: rest ∧ fault.position = t.position ∧
      (∃ us e, ∀ position, Expr.ofTokens (before ++ us ++ [Token.endAt position]) = .ok e) ∧
      ∀ us, Expr.ofTokens (before ++ t :: us) = .error fault := by
  obtain ⟨body, rfl, hfits⟩ := exists_body_of_tokensFrom hread
  exact exists_hopeless_token (fun t ht => (hfits t ht).ne_endOfInput) rfl hrefused

/-- The tokens of `F(x,)*y`. -/
def callWithEmptyArgument : List Token :=
  [⟨.identifier, "F", 0⟩, ⟨.openParen, "(", 1⟩, ⟨.identifier, "x", 2⟩, ⟨.comma, ",", 3⟩,
    ⟨.closeParen, ")", 4⟩, ⟨.star, "*", 5⟩, ⟨.identifier, "y", 6⟩, Token.endAt 7]

/-- What is wrong with `F(x,)*y`: the parenthesis that follows the comma. -/
def emptyArgument : SyntaxError :=
  ⟨4, .unexpected ⟨.closeParen, ")", 4⟩⟩

theorem refused_callWithEmptyArgument :
    tokensOf "F(x,)*y" = .ok callWithEmptyArgument ∧
      Expr.ofTokens callWithEmptyArgument = .error emptyArgument ∧
      ∃ before t rest, callWithEmptyArgument = before ++ t :: rest ∧
        emptyArgument.position = t.position ∧
        (∃ us e, ∀ position, Expr.ofTokens (before ++ us ++ [Token.endAt position]) = .ok e) ∧
        ∀ us, Expr.ofTokens (before ++ t :: us) = .error emptyArgument := by
  have hread : tokensOf "F(x,)*y" = .ok callWithEmptyArgument := by decide +kernel
  have hrefused : Expr.ofTokens callWithEmptyArgument = .error emptyArgument := by rfl
  exact ⟨hread, hrefused, refused_at_first_hopeless_token hread hrefused⟩

end Worksheet.Formula
