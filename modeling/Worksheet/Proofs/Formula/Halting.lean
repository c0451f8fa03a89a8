import Worksheet.Proofs.Formula.Following

/-!
# Where the descent ends

The descent ends on every list that holds an end of input, and on every list whose last token is
neither a sign nor an opening parenthesis, and then it gives what the reader gives. The cursor may
stay on the last token and find it again and again, while the reader looks at no token more than
twice: what is read twice there and then refused closes the last level that was open.

Results:
* `State.run_of_leads`: the reader ends where it stops along the cursor.
* `Descent.endsWith_ofTokens`: on bounded lists the descent ends with what the reader gives.
* `Descent.formula_of_opening`: on a last token that is an opening one it does not end.
* `ofTokens_halts`: lists with and without an end of input.
-/

namespace Worksheet.Formula

/-! ## Runs of the reader -/

namespace State

variable {a b c : State} {t : Token} {fault : SyntaxError}

/-- Whether a state can be the one behind a token of this kind. -/
def IsBehind (kind : TokenKind) : State → Prop
  | operand _ => Descent.demandsOperand kind = true
  | opened _ _ => kind = .openParen
  | named _ _ => kind = .identifier
  | cornered _ _ => kind = .colon
  | settled _ _ => kind ∈ [.number, .text, .identifier, .closeParen]

theorem isBehind_beginOperand {stack : List Frame} (h : beginOperand stack t = .ok b) :
    b.IsBehind t.kind := by
  unfold beginOperand at h
  split at h
  · next hk =>
    split at h <;> cases h
    simp [IsBehind, settle, hk]
  · next hk => cases h; simp [IsBehind, settle, hk]
  · next hk => cases h; simp [IsBehind, hk]
  · next hk => cases h; rw [hk]; rfl
  · next hk => cases h; rw [hk]; rfl
  · next hk => cases h; rw [hk]; rfl
  · cases h

theorem isBehind_closeLevel {level : Expr × List Frame} (h : closeLevel t level = .ok b) :
    b.IsBehind t.kind := by
  unfold closeLevel at h
  split at h
  · split at h <;> cases h
    next hk => simp [IsBehind, settle, hk]
  · split at h
    · next hk => cases h; simp [IsBehind, settle, hk]
    · split at h <;> cases h
      next hk => rw [hk]; rfl
  · cases h

theorem isBehind_followOperand {e : Expr} {stack : List Frame}
    (h : followOperand e stack t = .ok b) : b.IsBehind t.kind := by
  unfold followOperand at h
  split at h
  · next op hop =>
    cases h
    simp [IsBehind, Descent.demandsOperand, hop]
  · exact isBehind_closeLevel h

theorem isBehind_of_step (h : a.step t = .ok b) : b.IsBehind t.kind := by
  cases a with
  | operand stack => exact isBehind_beginOperand h
  | opened name stack =>
    simp only [step] at h
    split at h
    · next hk => cases h; simp [IsBehind, settle, hk]
    · exact isBehind_beginOperand h
  | named name stack =>
    simp only [step] at h
    split at h
    · next hk => cases h; exact hk
    · next hk => cases h; exact hk
    · exact isBehind_followOperand h
  | cornered first stack =>
    simp only [step] at h
    split at h <;> cases h
    next hk => simp [IsBehind, settle, hk]
  | settled e stack => exact isBehind_followOperand h

theorem of_closeLevel_eq_ok {level : Expr × List Frame} (h : closeLevel t level = .ok b) :
    t.kind = .closeParen ∨ t.kind = .comma := by
  unfold closeLevel at h
  split at h
  · split at h <;> cases h
    exact .inl ‹_›
  · split at h
    · exact .inl ‹_›
    · split at h <;> cases h
      exact .inr ‹_›
  · cases h

theorem exists_beginOperand (hk : IsOpening t.kind) (stack : List Frame) :
    ∃ next, beginOperand stack t = .ok next := by
  rcases hk with hk | hk | hk <;> simp [beginOperand, hk]

/-- A token that is read behind one of its own kind is a sign or a parenthesis. -/
theorem opening_or_closing (hb : b.IsBehind t.kind) (h : b.step t = .ok c) :
    IsOpening t.kind ∨ t.kind = .closeParen := by
  cases b with
  | operand stack =>
    have hstarts : Descent.startsOperand t.kind = true := by
      cases hstarts : Descent.startsOperand t.kind with
      | true => rfl
      | false => cases h.symm.trans (Descent.beginOperand_of_misfit hstarts stack)
    exact .inl (Descent.isOpening_of_startsOperand hstarts hb)
  | opened name stack => exact .inl (.inr (.inr hb))
  | named name stack =>
    have hk : t.kind = .identifier := hb
    simp only [step, hk, followOperand, TokenKind.binary?] at h
    rcases of_closeLevel_eq_ok h with hk' | hk' <;> rw [hk] at hk' <;> cases hk'
  | cornered first stack =>
    have hk : t.kind = .colon := hb
    simp [step, hk] at h
  | settled e stack =>
    have hk : t.kind ∈ [.number, .text, .identifier, .closeParen] := hb
    have hnone : t.kind.binary? = none := by
      simp only [List.mem_cons, List.not_mem_nil, or_false] at hk
      rcases hk with hk | hk | hk | hk <;> rw [hk] <;> rfl
    rcases of_closeLevel_eq_ok ((followOperand_closer hnone e stack).symm.trans h) with hk' | hk'
    · exact .inr hk'
    · rw [hk'] at hk
      exact absurd hk (by decide)

/-- A token that is read twice in a row and then refused closes the last level that was open. -/
theorem trailing_of_step_step (ha : a.step t = .ok b) (hb : b.step t = .ok c)
    (hc : c.step t = .error fault) : fault = ⟨t.position, .trailing t⟩ := by
  have hbehind := isBehind_of_step hb
  rcases opening_or_closing (isBehind_of_step ha) hb with hk | hk
  · -- an opening token is read where an operand must follow, again and again
    cases c with
    | operand stack =>
      obtain ⟨next, hnext⟩ := exists_beginOperand hk stack
      cases hnext.symm.trans hc
    | opened name stack =>
      obtain ⟨next, hnext⟩ := exists_beginOperand hk (.call name [] :: stack)
      have hopen : t.kind = .openParen := hbehind
      simp only [step, hopen, reduceCtorEq, if_false] at hc
      cases hnext.symm.trans hc
    | named | cornered | settled =>
      rcases hk with hk | hk | hk <;> rw [hk] at hbehind <;> simp [IsBehind] at hbehind
  · rw [hk] at hbehind
    cases c with
    | operand | opened | named | cornered => cases hbehind
    | settled e stack =>
      have hnone : t.kind.binary? = none := by rw [hk]; rfl
      have hclose := (followOperand_closer hnone e stack).symm.trans hc
      unfold closeLevel at hclose
      split at hclose
      · simp [hk] at hclose
      · simp [hk] at hclose
      · cases hclose
        rfl

/-- The reader makes `result` of the token where it stops. -/
def Stops (result : Except SyntaxError Expr) (t : Token) (state : State) : Prop :=
  ∃ fault, state.step t = .error fault ∧
    result = if t.kind = .endOfInput then state.finish t else .error fault

theorem Stops.eq_error {result : Except SyntaxError Expr} (h : a.Stops result t)
    (hne : t.kind ≠ .endOfInput) : ∃ fault, a.step t = .error fault ∧ result = .error fault := by
  obtain ⟨fault, hfault, rfl⟩ := h
  exact ⟨fault, hfault, if_neg hne⟩

/-- On the last token, which is found again and again, the reader stops with the error that closes
the formula once it has read the token twice. -/
theorem trailing_of_leads {final : State} {ts us : List Token} {result : Except SyntaxError Expr}
    (h : Leads c ts final us) (hts : ts = [t]) (hne : t.kind ≠ .endOfInput)
    (hstops : final.Stops result (current us)) (ha : a.step t = .ok b) (hb : b.step t = .ok c) :
    result = .error ⟨t.position, .trailing t⟩ := by
  induction h generalizing a b with
  | refl =>
    subst hts
    obtain ⟨fault, hfault, rfl⟩ := Stops.eq_error hstops hne
    rw [trailing_of_step_step ha hb hfault]
  | step _ hs _ ih =>
    subst hts
    exact ih rfl hstops hb hs

/-- It is the error that the reader tells by a second look at the token. -/
theorem refuse_of_leads {final : State} {us : List Token} {result : Except SyntaxError Expr}
    (ha : a.step t = .ok b) (hne : t.kind ≠ .endOfInput) (h : Leads b [t] final us)
    (hstops : final.Stops result (current us)) : result = .error (b.refuse t) := by
  cases h with
  | refl =>
    obtain ⟨fault, hfault, rfl⟩ := Stops.eq_error hstops hne
    have hstep : b.step t = .error fault := hfault
    rw [refuse, hstep]
  | step _ hs hmore =>
    have hstep : b.step t = .ok _ := hs
    rw [trailing_of_leads hmore rfl hne hstops ha hs, refuse, hstep]

/-- The run of the reader ends where the reader stops along the cursor. -/
theorem run_of_leads {state final : State} {ts us : List Token}
    {result : Except SyntaxError Expr} (h : Leads state ts final us)
    (hstops : final.Stops result (current us)) (hts : ts ≠ []) (last : Token) :
    state.run last ts = result := by
  induction h generalizing last with
  | @refl state ts =>
    obtain ⟨t, rest, rfl⟩ := List.exists_cons_of_ne_nil hts
    obtain ⟨fault, hfault, rfl⟩ := hstops
    have hstep : state.step t = .error fault := hfault
    rw [run, hstep]
    rfl
  | @step state next final ts us hne hs hmore ih =>
    obtain ⟨t, rest, rfl⟩ := List.exists_cons_of_ne_nil hts
    have hkind : t.kind ≠ .endOfInput := hne
    have hstep : state.step t = .ok next := hs
    rw [run, if_neg hkind, hstep]
    cases rest with
    | nil => exact (refuse_of_leads hstep hkind hmore hstops).symm
    | cons u rest => exact ih hstops (List.cons_ne_nil u rest) t

end State

/-! ## Where the descent ends -/

namespace Descent

/-- The descent ends with a result: it gives it however deep it may go, from sixteen calls for each
token and sixteen more on. -/
def EndsWith (ts : List Token) (result : Except SyntaxError Expr) : Prop :=
  ∀ depth, 16 * (ts.length + 1) ≤ depth → formula depth ts = some result

/-- On a bounded list the descent ends where the reader stops. -/
theorem exists_leads {ts : List Token} (hb : Bounded ts) {depth : Nat}
    (hdepth : 16 * (ts.length + 1) ≤ depth) :
    ∃ result final us, formula depth ts = some result ∧ Leads (.operand []) ts final us ∧
      final.Stops result (current us) := by
  have h := along (ts.length + 1) .comparison ts depth (by decide) (Nat.lt_succ_self _) hb
    (Nat.le_add_right_of_le hdepth)
  obtain ⟨e, us, hp, _, _, hleads⟩ | ⟨fault, hp, hleads⟩ := h
  · obtain ⟨final, hfinal, hrests⟩ := hleads [] _ (fun _ => trivial) rfl
    refine ⟨if (current us).kind = .endOfInput then .ok e
      else .error ⟨(current us).position, .trailing (current us)⟩, final, us, ?_, hfinal,
      _, hrests.step_eq trivial, ?_⟩
    · rw [formula, hp, pure_bind]
      dsimp only
      split <;> rfl
    · have htree : final.tree? = some e := State.tree?_eq_some_iff.mpr hrests.holds
      rw [State.finish, htree]
  · obtain ⟨final, us, hfinal, hrefuses⟩ := hleads [] _ (fun _ => trivial) rfl
    refine ⟨.error fault, final, us, ?_, hfinal, fault, hrefuses.step_eq, ?_⟩
    · rw [formula, hp, throw_bind]
      rfl
    · rw [State.finish, hrefuses.tree?_eq, State.refuse, hrefuses.step_eq, ite_self]

/-- On a bounded list the descent ends with what the reader gives. -/
theorem endsWith_ofTokens {ts : List Token} (hb : Bounded ts) : EndsWith ts (Expr.ofTokens ts) := by
  intro depth hdepth
  cases ts with
  | nil =>
    rw [formula, phrase_of_misfit [] rfl (Nat.le_trans (by decide) (Nat.le_add_right_of_le hdepth)),
      throw_bind]
    rfl
  | cons t rest =>
    obtain ⟨result, final, us, hformula, hfinal, hstops⟩ := exists_leads hb hdepth
    rw [hformula, Expr.ofTokens,
      State.run_of_leads hfinal hstops (List.cons_ne_nil t rest) (Token.endAt 0)]

/-- Behind an opening token that is the last one, an operand starts with that token again. -/
theorem tooDeep_of_opening {t : Token} (h : IsOpening t.kind) (depth : Nat) :
    (∀ level, level ≠ .primary → phrase depth level [t] = tooDeep) ∧
      signed depth [t] = tooDeep ∧ (t.kind = .openParen → primary depth [t] = tooDeep) := by
  have hcurrent : current [t] = t := rfl
  have hconsume : consume [t] = [t] := rfl
  induction depth with
  | zero => exact ⟨fun _ _ => rfl, rfl, fun _ => rfl⟩
  | succ depth ih =>
    obtain ⟨hphrase, hsigned, hprimary⟩ := ih
    have hsign : ∀ op, signs.lookup t.kind = some op → signed (depth + 1) [t] = tooDeep := by
      intro op hop
      rw [signed, hcurrent, hop, hconsume, hsigned]
      rfl
    refine ⟨fun level hlevel => ?_, ?_, fun hk => ?_⟩
    · cases level with
      | primary => exact absurd rfl hlevel
      | signed => rw [phrase_signed, hsigned]
      | _ =>
        rw [phrase_of_next? rfl (by decide), hphrase _ (by decide)]
        rfl
    · rcases h with hk | hk | hk
      · exact hsign .plus (by rw [hk]; rfl)
      · exact hsign .negate (by rw [hk]; rfl)
      · rw [signed, hcurrent, hk]
        exact hprimary hk
    · rw [primary, hcurrent, hk]
      dsimp only
      rw [hconsume, hphrase _ (by decide)]
      rfl

/-- On an opening token alone the descent goes deeper than any depth. -/
theorem formula_of_opening {t : Token} (h : IsOpening t.kind) (depth : Nat) :
    formula depth [t] = none := by
  rw [formula, (tooDeep_of_opening h depth).1 _ (by decide)]
  rfl

end Descent

/-- Without an end of input there is no formula. -/
theorem exists_run_eq_error {ts : List Token} (h : ∀ t ∈ ts, t.kind ≠ .endOfInput) (state : State)
    (last : Token) : ∃ fault, state.run last ts = .error fault := by
  induction ts generalizing state last with
  | nil => exact ⟨_, rfl⟩
  | cons t rest ih =>
    rw [State.run, if_neg (h t (List.mem_cons_self ..))]
    cases state.step t with
    | ok next => exact ih (fun u hu => h u (List.mem_cons_of_mem _ hu)) next t
    | error fault => exact ⟨fault, rfl⟩

/-- **Reading lists of any tokens.** On a list that holds an end of input the descent ends, and both
it and the reader give what they give for the tokens up to the first end of input: those behind it
are not looked at. On a list without an end of input whose last token is neither a sign nor an
opening parenthesis, the descent ends too, although its cursor stays on the last token, and it ends
with an error, the same as the reader's; and so it does on the list without tokens. -/
theorem ofTokens_halts :
    (∀ body stop ignored, (∀ t ∈ body, t.kind ≠ .endOfInput) → stop.kind = .endOfInput →
      Descent.EndsWith (body ++ stop :: ignored) (Expr.ofTokens (body ++ [stop])) ∧
        Expr.ofTokens (body ++ stop :: ignored) = Expr.ofTokens (body ++ [stop])) ∧
    (∀ (front : List Token) (last : Token), (∀ t ∈ front ++ [last], t.kind ≠ .endOfInput) →
      last.kind ≠ .plus → last.kind ≠ .minus → last.kind ≠ .openParen →
      ∃ fault, Descent.EndsWith (front ++ [last]) (.error fault) ∧
        Expr.ofTokens (front ++ [last]) = .error fault) ∧
    ∃ fault, Descent.EndsWith [] (.error fault) ∧ Expr.ofTokens [] = .error fault := by
  refine ⟨fun body stop ignored inner ends => ?_, fun front last inner hplus hminus hopen => ?_, ?_⟩
  · have hignored : Expr.ofTokens (body ++ stop :: ignored) = Expr.ofTokens (body ++ [stop]) := by
      rw [Expr.ofTokens, Expr.ofTokens, State.run_eq _ _ inner ends, State.run_eq _ _ inner ends]
    have hb : Bounded (body ++ stop :: ignored) := .inl ⟨stop, by simp, ends⟩
    exact ⟨hignored ▸ Descent.endsWith_ofTokens hb, hignored⟩
  · have hb : Bounded (front ++ [last]) := by
      refine .inr fun t ht => ?_
      rw [List.getLast?_concat, Option.mem_some_iff] at ht
      subst ht
      exact fun h => h.elim hplus (Or.rec hminus hopen)
    obtain ⟨fault, hfault⟩ := exists_run_eq_error inner (.operand []) (Token.endAt 0)
    have herror : Expr.ofTokens (front ++ [last]) = .error fault := hfault
    exact ⟨fault, herror ▸ Descent.endsWith_ofTokens hb, herror⟩
  · exact ⟨_, Descent.endsWith_ofTokens (.inr (by simp)), rfl⟩

end Worksheet.Formula
