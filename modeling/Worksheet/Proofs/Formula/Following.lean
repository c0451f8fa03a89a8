import Worksheet.Proofs.Formula.Descent

/-!
# The reader along the descent

A list of tokens is bounded if it holds an end of input, or if its last token is neither a sign nor
an opening parenthesis. What remains of a bounded list is bounded. The descent is followed on
shorter and shorter lists, and the reader along with it: it reads the same tokens, and rests where
the descent has found a phrase. Only on the last token does the cursor stay where it is, and there
one more step of the descent decides, since no operand starts with the token that demanded it.

Results:
* `GoesAlong.bind`: a phrase on the way, on a stack with more begun.
* `Descent.Along.primary`, `Descent.Along.signed`, `Descent.Along.chain`: one step for each function
  of the descent.
* `Descent.along`: the descent ends on every bounded list, and the reader goes along with it.
-/

namespace Worksheet.Formula

/-! ## Cursors that come to an end -/

/-- Signs and opening parentheses: an operand must follow, and may start with another one. -/
def IsOpening (kind : TokenKind) : Prop :=
  kind = .plus ∨ kind = .minus ∨ kind = .openParen

/-- There is an end of input ahead, or the last token is no opening one. -/
def Bounded (ts : List Token) : Prop :=
  (∃ t ∈ ts, t.kind = .endOfInput) ∨ ∀ t ∈ ts.getLast?, ¬ IsOpening t.kind

theorem Bounded.consume {ts : List Token} (h : Bounded ts)
    (hne : (current ts).kind ≠ .endOfInput) : Bounded (consume ts) := by
  match ts with
  | [] | [_] => exact h
  | t :: u :: rest =>
    refine h.imp ?_ fun hlast => by simpa [Formula.consume] using hlast
    rintro ⟨s, hs, hend⟩
    rcases List.mem_cons.mp hs with rfl | hs
    · exact absurd hend hne
    · exact ⟨s, hs, hend⟩

/-! ## The reader along a cursor -/

/-- `Leads state ts final us`: reading the tokens from the cursor `ts` to the cursor `us`, no end of
input among them, takes the reader from `state` to `final`. -/
inductive Leads : State → List Token → State → List Token → Prop
  | refl {state ts} : Leads state ts state ts
  | step {state next final ts us} : (current ts).kind ≠ .endOfInput →
      state.step (current ts) = .ok next → Leads next (consume ts) final us →
      Leads state ts final us

theorem Leads.trans {a b c : State} {ts us vs : List Token} (h : Leads a ts b us)
    (h' : Leads b us c vs) : Leads a ts c vs := by
  induction h with
  | refl => exact h'
  | step hne hs _ ih => exact .step hne hs (ih h')

/-- The state ends with an operand that joins, down to rank `n`, to `e` on `stack`; the token `t`
that follows does not make a name of it a call or a range, and is no operator of rank `bound` or
above. -/
structure State.RestsOn (n bound : Nat) (e : Expr) (stack : List Frame) (t : Token)
    (state : State) : Prop where
  holds : state.Holds n e stack
  follows : ∀ x frames, state.operand? = some (x, frames) → state.step t = followOperand x frames t
  loose : ∀ op, t.kind.binary? = some op → op.level < bound

/-- The reader refuses a token, and the formula cannot end before it. -/
structure State.Refuses (fault : SyntaxError) (t : Token) (state : State) : Prop where
  step_eq : state.step t = .error fault
  tree?_eq : state.tree? = none

/-- Whether a phrase of a level may stand on a stack. -/
def Admits (level : Level) (stack : List Frame) : Prop :=
  level.rank < 5 → OpenTo level.rank stack

/-- The descent `p` from a cursor ends, and the reader goes along with it: from every state that
`begins` it, the reader comes to rest on the phrase that the descent finds, or to the token that the
descent finds fault with. -/
def GoesAlong (level : Level) (begins : List Frame → State → Prop) (ts : List Token)
    (p : Descent (Expr × List Token)) : Prop :=
  (∃ e us, p = pure (e, us) ∧ us.length ≤ ts.length ∧ Bounded us ∧
    ∀ stack state, Admits level stack → begins stack state → ∃ final,
      Leads state ts final us ∧ final.RestsOn level.rank level.rank e stack (current us)) ∨
  ∃ fault, p = throw fault ∧ ∀ stack state, Admits level stack → begins stack state →
    ∃ final us, Leads state ts final us ∧ final.Refuses fault (current us)

/-- The states in which an operand must follow. -/
def Begins (stack : List Frame) (state : State) : Prop :=
  state = .operand stack

namespace GoesAlong

variable {level inner : Level} {begins weaker : List Frame → State → Prop} {ts : List Token}
  {p : Descent (Expr × List Token)}

theorem mono (h : GoesAlong level begins ts p)
    (hle : ∀ stack state, Admits level stack → weaker stack state → begins stack state) :
    GoesAlong level weaker ts p := by
  obtain ⟨e, us, hp, hlength, hbounded, hleads⟩ | ⟨fault, hp, hleads⟩ := h
  · exact .inl ⟨e, us, hp, hlength, hbounded, fun stack state ha hw =>
      hleads stack state ha (hle stack state ha hw)⟩
  · exact .inr ⟨fault, hp, fun stack state ha hw => hleads stack state ha (hle stack state ha hw)⟩

theorem rest {e : Expr} (hb : Bounded ts)
    (h : ∀ stack state, Admits level stack → begins stack state →
      state.RestsOn level.rank level.rank e stack (current ts)) :
    GoesAlong level begins ts (pure (e, ts)) :=
  .inl ⟨e, ts, rfl, Nat.le_refl _, hb, fun stack state ha hs =>
    ⟨state, .refl, h stack state ha hs⟩⟩

theorem refuse {fault : SyntaxError}
    (h : ∀ stack state, Admits level stack → begins stack state →
      state.Refuses fault (current ts)) :
    GoesAlong level begins ts (throw fault) :=
  .inr ⟨fault, rfl, fun stack state ha hs => ⟨state, ts, .refl, h stack state ha hs⟩⟩

/-- One token before a descent. -/
theorem step (after : List Frame → State → Prop) (hne : (current ts).kind ≠ .endOfInput)
    (hstep : ∀ stack state, Admits level stack → begins stack state →
      ∃ next, state.step (current ts) = .ok next ∧ after stack next)
    (h : GoesAlong level after (consume ts) p) : GoesAlong level begins ts p := by
  obtain ⟨e, us, hp, hlength, hbounded, hleads⟩ | ⟨fault, hp, hleads⟩ := h
  · refine .inl ⟨e, us, hp, Nat.le_trans hlength (length_consume_le ts), hbounded, ?_⟩
    intro stack state ha hs
    obtain ⟨next, hnext, hafter⟩ := hstep stack state ha hs
    obtain ⟨final, hfinal, hrests⟩ := hleads stack next ha hafter
    exact ⟨final, .step hne hnext hfinal, hrests⟩
  · refine .inr ⟨fault, hp, fun stack state ha hs => ?_⟩
    obtain ⟨next, hnext, hafter⟩ := hstep stack state ha hs
    obtain ⟨final, us, hfinal, hrefuses⟩ := hleads stack next ha hafter
    exact ⟨final, us, .step hne hnext hfinal, hrefuses⟩

/-- A phrase that a descent reads on the way, on a stack with more begun. -/
theorem bind {k : Expr × List Token → Descent (Expr × List Token)}
    (h : GoesAlong inner begins ts p) (wrap : List Frame → List Frame)
    (hadmits : ∀ stack, Admits level stack → Admits inner (wrap stack))
    (hk : ∀ e us, p = pure (e, us) → us.length ≤ ts.length → Bounded us →
      GoesAlong level (fun stack state =>
        state.RestsOn inner.rank inner.rank e (wrap stack) (current us)) us (k (e, us))) :
    GoesAlong level (fun stack => begins (wrap stack)) ts (p >>= k) := by
  obtain ⟨e, us, rfl, hlength, hbounded, hleads⟩ | ⟨fault, rfl, hleads⟩ := h
  · rw [pure_bind]
    obtain ⟨f, vs, hp, hlength', hbounded', hrest⟩ | ⟨fault, hp, hrest⟩ :=
      hk e us rfl hlength hbounded
    · refine .inl ⟨f, vs, hp, Nat.le_trans hlength' hlength, hbounded', ?_⟩
      intro stack state ha hs
      obtain ⟨middle, hmiddle, hrests⟩ := hleads _ state (hadmits stack ha) hs
      obtain ⟨final, hfinal, hfinally⟩ := hrest stack middle ha hrests
      exact ⟨final, hmiddle.trans hfinal, hfinally⟩
    · refine .inr ⟨fault, hp, fun stack state ha hs => ?_⟩
      obtain ⟨middle, hmiddle, hrests⟩ := hleads _ state (hadmits stack ha) hs
      obtain ⟨final, vs, hfinal, hrefuses⟩ := hrest stack middle ha hrests
      exact ⟨final, vs, hmiddle.trans hfinal, hrefuses⟩
  · exact .inr ⟨fault, rfl, fun stack state ha hs => hleads _ state (hadmits stack ha) hs⟩

end GoesAlong

/-! ## Where the reader rests -/

namespace State

variable {m n bound : Nat} {e : Expr} {stack : List Frame} {t : Token} {state : State}

theorem restsOn_settle (e : Expr) (stack : List Frame) (t : Token) :
    (settle e stack).RestsOn 6 6 e stack t where
  holds := holds_settle 6 (by decide) e stack
  follows := by
    intro x frames h
    cases h
    rfl
  loose op _ := Nat.lt_succ_of_lt (level_lt_five op)

theorem restsOn_named (name : String) (stack : List Frame) (hcall : t.kind ≠ .openParen)
    (hrange : t.kind ≠ .colon) : (named name stack).RestsOn 6 6 (.cell name) stack t where
  holds := ⟨_, _, rfl, joinFrom_of_five_le (by decide) _ _⟩
  follows _ _ h := step_of_operand? h hcall hrange
  loose op _ := Nat.lt_succ_of_lt (level_lt_five op)

theorem RestsOn.loosen (h : state.RestsOn n bound e stack t) (hle : m ≤ n)
    (isOpen : m < 5 → OpenTo m stack) : state.RestsOn m bound e stack t :=
  { h with holds := h.holds.loosen hle isOpen }

/-- The token behind a whole formula is the one that the level around it is closed with, or not. -/
theorem RestsOn.step_eq (h : state.RestsOn 0 0 e stack t) (isOpen : OpenTo 0 stack) :
    state.step t = closeLevel t (e, stack) := by
  obtain ⟨x, frames, hx, hjoin⟩ := h.holds
  have hnone : t.kind.binary? = none := by
    cases hop : t.kind.binary? with
    | none => rfl
    | some op => exact absurd (h.loose op hop) (Nat.not_lt_zero _)
  rw [h.follows x frames hx, followOperand_closer hnone, hjoin, applySigns_of_openTo e isOpen]

/-- A formula cannot end while a level around it is open. -/
theorem RestsOn.tree?_eq_none (h : state.RestsOn 0 0 e stack t) (isOpen : OpenTo 0 stack)
    (hne : stack ≠ []) : state.tree? = none := by
  cases htree : state.tree? with
  | none => rfl
  | some f =>
    obtain ⟨x, frames, hx, hjoin⟩ := h.holds
    obtain ⟨y, others, hy, hjoin'⟩ := tree?_eq_some_iff.mp htree
    cases hx.symm.trans hy
    rw [applySigns_of_openTo e isOpen] at hjoin
    exact absurd (congrArg Prod.snd (hjoin.symm.trans hjoin')) hne

end State

/-! ## Tokens behind which an operand must follow -/

namespace Descent

/-- Whether an operand must follow a token of this kind, at least once a name is read as a name. -/
def demandsOperand (kind : TokenKind) : Bool :=
  kind.binary?.isSome || kind == .comma || kind == .openParen

theorem ne_endOfInput_of_demandsOperand {kind : TokenKind} (h : demandsOperand kind = true) :
    kind ≠ .endOfInput := by
  rintro rfl
  cases h

/-- What demands an operand and starts one too is an opening token. -/
theorem isOpening_of_startsOperand {kind : TokenKind} (hs : startsOperand kind = true)
    (hd : demandsOperand kind = true) : IsOpening kind := by
  cases kind <;> first
    | exact .inl rfl | exact .inr (.inl rfl) | exact .inr (.inr rfl)
    | exact absurd hs (by decide) | exact absurd hd (by decide)

/-- On the last token of a bounded list, what demands an operand starts none. -/
theorem startsOperand_of_demandsOperand {t : Token} (hb : Bounded [t])
    (hd : demandsOperand t.kind = true) : startsOperand t.kind = false := by
  rcases hb with ⟨s, hs, hend⟩ | hlast
  · rw [List.mem_singleton.mp hs] at hend
    exact absurd hend (ne_endOfInput_of_demandsOperand hd)
  · exact Bool.eq_false_iff.mpr fun hs => hlast t rfl (isOpening_of_startsOperand hs hd)

theorem beginOperand_of_misfit {t : Token} (h : startsOperand t.kind = false)
    (stack : List Frame) : beginOperand stack t = .error ⟨t.position, .unexpected t⟩ := by
  unfold beginOperand
  cases hk : t.kind <;> rw [hk] at h <;> first | rfl | cases h

/-- The descent goes along on every list of fewer than `n` tokens if it may go deep enough: sixteen
calls for a token are enough for all levels and the functions between them. A primary is left out,
since the signs before it are not its own. -/
def Along (n : Nat) : Prop :=
  ∀ level ts depth, level ≠ .primary → ts.length < n → Bounded ts →
    16 * ts.length + 16 ≤ depth + level.rank → GoesAlong level Begins ts (phrase depth level ts)

variable {n depth : Nat} {ts : List Token} {level : Level}

/-- On the last token of a bounded list, what demands an operand is refused in its place. -/
theorem phrase_consume_of_singleton {t : Token} (hb : Bounded [t])
    (hd : demandsOperand t.kind = true) (hdepth : 8 ≤ depth) :
    phrase depth level (consume [t]) = throw ⟨t.position, .unexpected t⟩ :=
  phrase_of_misfit [t] (startsOperand_of_demandsOperand hb hd) (Nat.le_add_right_of_le hdepth)

/-- A phrase goes along behind a token that demands it. -/
theorem Along.consume (ih : Along n) (hlength : ts.length ≤ n) (hb : Bounded ts)
    (hd : demandsOperand (current ts).kind = true) (hdepth : 16 * ts.length ≤ depth)
    (level : Level) (hlevel : level ≠ .primary) :
    GoesAlong level Begins (consume ts) (phrase depth level (consume ts)) := by
  have hne := ne_endOfInput_of_demandsOperand hd
  by_cases hlt : (Formula.consume ts).length < ts.length
  · exact ih level _ depth hlevel (Nat.lt_of_lt_of_le hlt hlength) (hb.consume hne) (by omega)
  · -- the cursor is on the last token, which is found again where an operand must start
    obtain ⟨t, rfl⟩ : ∃ t, ts = [t] := ⟨_, eq_singleton_of_consume hlt hne⟩
    rw [phrase_consume_of_singleton hb hd (by simp at hdepth; omega)]
    refine .refuse ?_
    rintro stack state _ rfl
    exact ⟨beginOperand_of_misfit (startsOperand_of_demandsOperand hb hd) stack, rfl⟩

/-- Behind a token that demands it, a phrase is found only if the cursor has moved. -/
theorem length_consume_lt (hb : Bounded ts) (hd : demandsOperand (current ts).kind = true)
    (hdepth : 16 * ts.length ≤ depth) {found : Expr × List Token}
    (hp : phrase depth level (consume ts) = pure found) : (consume ts).length < ts.length := by
  refine Decidable.byContradiction fun hlt => ?_
  obtain ⟨t, rfl⟩ : ∃ t, ts = [t] :=
    ⟨_, eq_singleton_of_consume hlt (ne_endOfInput_of_demandsOperand hd)⟩
  rw [phrase_consume_of_singleton hb hd (by simp at hdepth; omega)] at hp
  exact throw_ne_pure _ _ hp

/-! ## Primaries -/

theorem goesAlong_literal {e : Expr} (hb : Bounded ts) (hne : (current ts).kind ≠ .endOfInput)
    (hstep : ∀ stack, beginOperand stack (current ts) = .ok (settle e stack)) :
    GoesAlong .primary Begins ts (pure (e, consume ts)) := by
  refine .step (fun stack state => state = settle e stack) hne ?_ (.rest (hb.consume hne) ?_)
  · rintro stack state _ rfl
    exact ⟨_, hstep stack, rfl⟩
  · rintro stack state _ rfl
    exact State.restsOn_settle e stack _

/-- A closing parenthesis behind a formula: the level that was opened before it is complete. -/
theorem goesAlong_close {e result : Expr} {frame : Frame} (hb : Bounded ts)
    (hframe : ∀ stack, OpenTo 0 (frame :: stack))
    (hclose : ∀ stack, closeLevel (current ts) (e, frame :: stack) =
      if (current ts).kind = .closeParen then .ok (settle result stack)
      else .error ⟨(current ts).position, .missing .closeParen (current ts)⟩) :
    GoesAlong .primary (fun stack state => state.RestsOn 0 0 e (frame :: stack) (current ts)) ts
      (expect .closeParen ts >>= fun rest => pure (result, rest)) := by
  unfold expect
  split
  · next hk =>
    have hne : (current ts).kind ≠ .endOfInput := by rw [hk]; decide
    rw [pure_bind]
    refine .step (fun stack state => state = settle result stack) hne ?_
      (.rest (hb.consume hne) ?_)
    · intro stack state _ hrests
      refine ⟨_, ?_, rfl⟩
      rw [hrests.step_eq (hframe stack), hclose, if_pos hk]
    · rintro stack state _ rfl
      exact State.restsOn_settle result stack _
  · next hk =>
    rw [throw_bind]
    refine .refuse fun stack state _ hrests => ⟨?_, ?_⟩
    · rw [hrests.step_eq (hframe stack), hclose, if_neg hk]
    · exact hrests.tree?_eq_none (hframe stack) (List.cons_ne_nil _ _)

/-- A formula in parentheses. -/
theorem Along.group (ih : Along n) (hlength : ts.length ≤ n) (hb : Bounded ts)
    (hk : (current ts).kind = .openParen) (hdepth : 16 * ts.length ≤ depth) :
    GoesAlong .primary Begins ts (phrase depth .comparison (Formula.consume ts) >>=
      fun (e, rest) => expect .closeParen rest >>= fun rest => pure (e, rest)) := by
  have hne : (current ts).kind ≠ .endOfInput := by rw [hk]; decide
  refine .step (fun stack => Begins (.group :: stack)) hne ?_ ?_
  · rintro stack state _ rfl
    refine ⟨_, ?_, rfl⟩
    simp [State.step, beginOperand, hk]
  · refine GoesAlong.bind (ih.consume hlength hb (by rw [hk]; rfl) hdepth .comparison (by decide))
      (.group :: ·) (fun _ _ _ => trivial) fun e us _ _ hbounded => ?_
    exact goesAlong_close hbounded (fun _ => trivial) fun stack => rfl

/-- The arguments of a call, from one on. -/
theorem Along.arguments (ih : Along n) (name : String) {args : List Expr} {ts : List Token}
    {depth : Nat} (hlength : ts.length ≤ n) (hb : Bounded ts)
    (hd : demandsOperand (current ts).kind = true) (hdepth : 16 * ts.length ≤ depth) :
    GoesAlong .primary (fun stack => Begins (.call name args :: stack)) (Formula.consume ts)
      (arguments (depth + 1) name args (Formula.consume ts)) := by
  rw [Descent.arguments]
  refine GoesAlong.bind (ih.consume hlength hb hd hdepth .comparison (by decide))
    (.call name args :: ·) (fun _ _ _ => trivial) fun e us hp hle hbounded => ?_
  have hlt : us.length < ts.length := Nat.lt_of_le_of_lt hle (length_consume_lt hb hd hdepth hp)
  obtain ⟨depth, rfl⟩ := Nat.exists_eq_add_of_le' (show 1 ≤ depth by omega)
  dsimp only
  split
  · next hk =>
    have hcomma : demandsOperand (current us).kind = true := by rw [hk]; rfl
    refine .step (fun stack => Begins (.call name (e :: args) :: stack))
      (ne_endOfInput_of_demandsOperand hcomma) ?_
      (ih.arguments name (by omega) hbounded hcomma (by omega))
    intro stack state _ hrests
    refine ⟨_, ?_, rfl⟩
    rw [hrests.step_eq trivial]
    simp [closeLevel, hk]
  · next hk =>
    refine goesAlong_close hbounded (fun _ => trivial) fun stack => ?_
    simp [closeLevel, hk]
termination_by ts.length

/-- The first argument of a call starts like an operand, so a call that is opened goes along with
its arguments. -/
theorem goesAlong_opened {name : String} {p : Descent (Expr × List Token)}
    (hk : (current ts).kind ≠ .closeParen)
    (h : GoesAlong .primary (fun stack => Begins (.call name [] :: stack)) ts p) :
    GoesAlong .primary (fun stack state => state = .opened name stack) ts p := by
  have hstep : ∀ stack, (State.opened name stack).step (current ts) =
      (State.operand (.call name [] :: stack)).step (current ts) := fun stack => by
    simp only [State.step, if_neg hk]
  obtain ⟨e, us, hp, hlength, hbounded, hleads⟩ | ⟨fault, hp, hleads⟩ := h
  · refine .inl ⟨e, us, hp, hlength, hbounded, ?_⟩
    rintro stack state ha rfl
    obtain ⟨final, hfinal, hrests⟩ := hleads stack _ ha rfl
    cases hfinal with
    | refl =>
      obtain ⟨x, frames, hx, _⟩ := hrests.holds
      cases hx
    | step hne hnext hmore =>
      exact ⟨final, .step hne ((hstep stack).trans hnext) hmore, hrests⟩
  · refine .inr ⟨fault, hp, ?_⟩
    rintro stack state ha rfl
    obtain ⟨final, us, hfinal, hrefuses⟩ := hleads stack _ ha rfl
    cases hfinal with
    | refl => exact ⟨_, ts, .refl, (hstep stack).trans hrefuses.step_eq, rfl⟩
    | step hne hnext hmore =>
      exact ⟨final, us, .step hne ((hstep stack).trans hnext) hmore, hrefuses⟩

/-- A call, from its parenthesis on. -/
theorem Along.call (ih : Along n) (name : String) (hlength : ts.length ≤ n) (hb : Bounded ts)
    (hk : (current ts).kind = .openParen) (hdepth : 16 * ts.length ≤ depth) :
    GoesAlong .primary (fun stack state => state = .named name stack) ts
      (call (depth + 2) name ts) := by
  have hne : (current ts).kind ≠ .endOfInput := by rw [hk]; decide
  have hbounded := hb.consume hne
  rw [Descent.call, expect, if_pos hk, pure_bind]
  refine .step (fun stack state => state = .opened name stack) hne ?_ ?_
  · rintro stack state _ rfl
    refine ⟨_, ?_, rfl⟩
    simp [State.step, hk]
  · split
    · next hclose =>
      have hne' : (current (Formula.consume ts)).kind ≠ .endOfInput := by rw [hclose]; decide
      refine .step (fun stack state => state = settle (.callOf name []) stack) hne' ?_
        (.rest (hbounded.consume hne') ?_)
      · rintro stack state _ rfl
        refine ⟨_, ?_, rfl⟩
        simp [State.step, hclose]
      · rintro stack state _ rfl
        exact State.restsOn_settle _ stack _
    · next hclose =>
      exact goesAlong_opened hclose (ih.arguments name hlength hb (by rw [hk]; rfl) hdepth)

/-- A range, from its colon on. -/
theorem goesAlong_range (name : String) (hb : Bounded ts) (hk : (current ts).kind = .colon) :
    GoesAlong .primary (fun stack state => state = .named name stack) ts
      (expect .identifier (Formula.consume ts) >>= fun rest =>
        pure (.range name (current (Formula.consume ts)).text, rest)) := by
  have hne : (current ts).kind ≠ .endOfInput := by rw [hk]; decide
  have hbounded := hb.consume hne
  refine .step (fun stack state => state = .cornered name stack) hne ?_ ?_
  · rintro stack state _ rfl
    refine ⟨_, ?_, rfl⟩
    simp [State.step, hk]
  · unfold expect
    split
    · next hlast =>
      have hne' : (current (Formula.consume ts)).kind ≠ .endOfInput := by rw [hlast]; decide
      rw [pure_bind]
      refine .step (fun stack state =>
        state = settle (.range name (current (Formula.consume ts)).text) stack) hne' ?_
        (.rest (hbounded.consume hne') ?_)
      · rintro stack state _ rfl
        refine ⟨_, ?_, rfl⟩
        simp [State.step, hlast]
      · rintro stack state _ rfl
        exact State.restsOn_settle _ stack _
    · next hlast =>
      rw [throw_bind]
      refine .refuse ?_
      rintro stack state _ rfl
      refine ⟨?_, rfl⟩
      simp [State.step, hlast]

/-- A name, and what it turns out to be. -/
theorem Along.name (ih : Along n) (hlength : ts.length ≤ n) (hb : Bounded ts)
    (hk : (current ts).kind = .identifier) (hdepth : 16 * ts.length ≤ depth) :
    GoesAlong .primary Begins ts (primary (depth + 3) ts) := by
  have hne : (current ts).kind ≠ .endOfInput := by rw [hk]; decide
  have hbounded := hb.consume hne
  have hle := length_consume_le ts
  refine .step (fun stack state => state = .named (current ts).text stack) hne ?_ ?_
  · rintro stack state _ rfl
    refine ⟨_, ?_, rfl⟩
    simp [State.step, beginOperand, hk]
  · rw [primary, hk]
    dsimp only
    split
    · next hcall =>
      exact ih.call _ (Nat.le_trans hle hlength) hbounded hcall (by omega)
    · next hrange => exact goesAlong_range _ hbounded hrange
    · next hcall hrange =>
      refine .rest hbounded ?_
      rintro stack state _ rfl
      exact State.restsOn_named _ stack hcall hrange

/-- A primary without signs before it. -/
theorem Along.primary (ih : Along n) (hlength : ts.length ≤ n) (hb : Bounded ts)
    (hsign : signs.lookup (current ts).kind = none) (hdepth : 16 * ts.length ≤ depth) :
    GoesAlong .primary Begins ts (primary (depth + 3) ts) := by
  rw [Descent.primary]
  split
  · next hk =>
    split
    · next x hx =>
      refine goesAlong_literal hb (by rw [hk]; decide) fun stack => ?_
      simp [beginOperand, hk, hx]
    · next hx =>
      refine .refuse ?_
      rintro stack state _ rfl
      refine ⟨?_, rfl⟩
      simp [State.step, beginOperand, hk, hx]
  · next hk =>
    refine goesAlong_literal hb (by rw [hk]; decide) fun stack => ?_
    simp [beginOperand, hk]
  · next hk =>
    have h := ih.name hlength hb hk hdepth
    rw [Descent.primary, hk] at h
    exact h
  · next hk => exact ih.group hlength hb hk (by omega)
  · next hnumber htext hname hgroup =>
    have hmisfit : startsOperand (current ts).kind = false := by
      cases hk : (current ts).kind <;> rw [hk] at hsign <;>
        first | rfl | exact absurd hk ‹_› | cases hsign
    refine .refuse ?_
    rintro stack state _ rfl
    exact ⟨beginOperand_of_misfit hmisfit stack, rfl⟩

/-! ## Levels -/

theorem of_lookup_signs {kind : TokenKind} {op : UnaryOp} (h : signs.lookup kind = some op) :
    (kind, op) ∈ signs ∧ demandsOperand kind = true := by
  cases kind <;> cases h <;> decide

/-- A primary is a signed phrase. -/
theorem goesAlong_signed {begins : List Frame → State → Prop} {p : Descent (Expr × List Token)}
    (h : GoesAlong .primary begins ts p) : GoesAlong .signed begins ts p := by
  have hadmits : ∀ stack, Admits .primary stack := fun _ h => absurd h (by decide)
  obtain ⟨e, us, hp, hlength, hbounded, hleads⟩ | ⟨fault, hp, hleads⟩ := h
  · refine .inl ⟨e, us, hp, hlength, hbounded, fun stack state _ hs => ?_⟩
    obtain ⟨final, hfinal, hrests⟩ := hleads stack state (hadmits stack) hs
    have hloose := hrests.loosen (m := Level.signed.rank) (by decide) fun h => absurd h (by decide)
    exact ⟨final, hfinal, { hloose with loose := fun op _ => level_lt_five op }⟩
  · exact .inr ⟨fault, hp, fun stack state _ hs => hleads stack state (hadmits stack) hs⟩

/-- Signs and the primary behind them. -/
theorem Along.signed (ih : Along n) (hlength : ts.length ≤ n) (hb : Bounded ts)
    (hdepth : 16 * ts.length ≤ depth) : GoesAlong .signed Begins ts (signed (depth + 4) ts) := by
  rw [Descent.signed]
  split
  · next op hop =>
    obtain ⟨hmem, hd⟩ := of_lookup_signs hop
    have hoperand := ih.consume hlength hb hd (show 16 * ts.length ≤ depth + 4 by omega) .signed
      (by decide)
    rw [phrase_signed] at hoperand
    refine .step (fun stack => Begins (.sign op :: stack))
      (ne_endOfInput_of_demandsOperand hd) ?_ (hoperand.bind (.sign op :: ·) ?_ ?_)
    · rintro stack state _ rfl
      exact ⟨_, step_operand_sign hmem stack, rfl⟩
    · exact fun _ _ h => absurd h (by decide)
    · intro e us _ _ hbounded
      refine .rest hbounded fun stack state _ hrests => { hrests with holds := ?_ }
      obtain ⟨x, frames, hx, hjoin⟩ := hrests.holds
      exact ⟨x, frames, hx, hjoin⟩
  · next hsign => exact goesAlong_signed (ih.primary hlength hb hsign hdepth)

theorem ne_primary_of_next? {tighter : Level} (hnext : level.next? = some tighter)
    (hrank : level.rank < 5) : tighter ≠ .primary := by
  rintro rfl
  have htighter : Level.primary.rank = level.rank + 1 := Level.rank_of_next? hnext
  have hprimary : Level.primary.rank = 6 := rfl
  omega

/-- The loop of a level behind a left operand. -/
theorem Along.chain (ih : Along n) {tighter : Level} (hnext : level.next? = some tighter)
    (hrank : level.rank < 5) (left : Expr) {ts : List Token} {depth : Nat}
    (hlength : ts.length ≤ n) (hb : Bounded ts) (hdepth : 16 * ts.length ≤ depth) :
    GoesAlong level (fun stack state =>
      state.RestsOn level.rank tighter.rank left stack (current ts)) ts
      (chain (depth + 1) level tighter left ts) := by
  have htighter := Level.rank_of_next? hnext
  have hprimary := ne_primary_of_next? hnext hrank
  rw [Descent.chain]
  split
  · next op hlookup =>
    obtain ⟨hop, hlevel⟩ := lookup_operators_eq_some_iff.mp hlookup
    have hd : demandsOperand (current ts).kind = true := by simp [demandsOperand, hop]
    refine .step (fun stack => Begins (.left left op :: stack))
      (ne_endOfInput_of_demandsOperand hd) ?_
      ((ih.consume hlength hb hd hdepth tighter hprimary).bind (.left left op :: ·) ?_ ?_)
    · exact fun stack state hadmits hrests =>
        ⟨_, hrests.holds.step_binary (hadmits hrank) hop hlevel, rfl⟩
    · exact fun _ _ _ => show op.level < tighter.rank by omega
    · intro right us hp hle hbounded
      have hlt : us.length < ts.length := Nat.lt_of_le_of_lt hle (length_consume_lt hb hd hdepth hp)
      obtain ⟨depth, rfl⟩ := Nat.exists_eq_add_of_le' (show 1 ≤ depth by omega)
      refine (ih.chain hnext hrank (.binary op left right) (by omega) hbounded (by omega)).mono
        fun stack state hadmits hrests => { hrests with holds := ?_ }
      obtain ⟨x, frames, hx, hjoin⟩ := hrests.holds
      refine ⟨x, frames, hx, ?_⟩
      have hopen := hadmits hrank
      rw [← joinFrom_joinFrom (show level.rank ≤ tighter.rank by omega), hjoin,
        applySigns_of_openTo _ hopen]
      simp [applySigns, joinFrom, hlevel, joinFrom_of_openTo _ hopen]
  · next hlookup =>
    refine .rest hb fun stack state _ hrests => { hrests with loose := fun op hop => ?_ }
    have hloose := hrests.loose op hop
    have hne : op.level ≠ level.rank := fun hlevel => by
      rw [lookup_operators_eq_some_iff.mpr ⟨hop, hlevel⟩] at hlookup
      cases hlookup
    omega
termination_by ts.length

/-- The descent ends on every bounded list, and the reader goes along with it. -/
theorem along (n : Nat) : Along n := by
  induction n with
  | zero => exact fun _ _ _ _ hlt => absurd hlt (Nat.not_lt_zero _)
  | succ n ih =>
    intro level ts depth hlevel hlt hb hdepth
    have hlength := Nat.le_of_lt_succ hlt
    induction level using forall_level generalizing depth with
    | primary => exact absurd rfl hlevel
    | signed =>
      change 16 * ts.length + 16 ≤ depth + 5 at hdepth
      obtain ⟨depth, rfl⟩ := Nat.exists_eq_add_of_le' (show 5 ≤ depth by omega)
      rw [phrase_signed]
      exact ih.signed hlength hb (by omega)
    | loose level tighter hnext hrank hphrase =>
      have htighter := Level.rank_of_next? hnext
      have hprimary := ne_primary_of_next? hnext hrank
      obtain ⟨depth, rfl⟩ := Nat.exists_eq_add_of_le' (show 2 ≤ depth by omega)
      rw [phrase_of_next? hnext hrank]
      refine GoesAlong.bind (hphrase _ hprimary (by omega)) id ?_ fun left us _ hle hbounded => ?_
      · exact fun stack hadmits h => (hadmits hrank).mono (by omega)
      · refine (ih.chain hnext hrank left (Nat.le_trans hle hlength) hbounded (by omega)).mono
          fun stack state hadmits hrests => hrests.loosen (by omega) fun _ => hadmits hrank

end Descent

end Worksheet.Formula
