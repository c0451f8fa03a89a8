import Worksheet.Proofs.Formula.Grammar
import Worksheet.Proofs.Formula.Reading

/-!
# The reader and the grammar

The reader accepts exactly the phrases of the grammar and builds their trees. In one direction a
phrase is read from any stack that its level is open to, by induction on its derivation. In the
other a state is described by the tokens that lead to it: every frame of the stack and the operand
in front of it have phrases behind them, and each step keeps that.

Results:
* `Derives.after_operand`: the state behind a phrase.
* `State.Reads.step`, `State.Reads.after`: what the tokens behind a state are, step by step and
  over a run.
* `Derives.unique`: no list of tokens has two trees.
* `ofTokens_eq_ok_iff_derives`: the reader accepts exactly the grammar.
-/

namespace Worksheet.Formula

/-! ## From phrases to states -/

theorem step_operand_sign {t : Token} {op : UnaryOp} (h : (t.kind, op) ∈ signs)
    (stack : List Frame) : (State.operand stack).step t = .ok (.operand (.sign op :: stack)) := by
  simp only [signs, List.mem_cons, Prod.mk.injEq, List.not_mem_nil, or_false] at h
  rcases h with ⟨hk, rfl⟩ | ⟨hk, rfl⟩ <;> simp [State.step, beginOperand, hk]

/-- The first argument of a call starts like an operand. -/
theorem State.after_opened {ts : List Token} {name : String} {stack : List Frame} {state : State}
    (h : (State.operand (.call name [] :: stack)).after ts = .ok state) (hts : ts ≠ []) :
    (State.opened name stack).after ts = .ok state := by
  obtain ⟨t, ts, rfl⟩ := List.exists_cons_of_ne_nil hts
  have hk : t.kind ≠ .closeParen := by
    intro hk
    simp [State.after, State.step, beginOperand, hk] at h
  simpa [State.after, State.step, hk] using h

theorem Derives.ne_nil {level : Level} {ts : List Token} {e : Expr} :
    Derives level ts e → ts ≠ []
  | .next _ h => h.ne_nil
  | .binary _ _ _ _ => by simp
  | .sign _ _ | .number _ _ | .text _ | .cell _ | .range _ _ _ | .emptyCall _ _ _ =>
    List.cons_ne_nil _ _
  | .group _ _ _ | .call _ _ _ _ => List.cons_ne_nil _ _

theorem DerivesAll.ne_nil {ts : List Token} {es : List Expr} (h : DerivesAll ts es) : ts ≠ [] := by
  cases h with
  | one h => exact h.ne_nil
  | more => simp

mutual

/-- A phrase is read from any stack that is open to its level, and then stands on that stack. -/
theorem Derives.after_operand {level : Level} {ts : List Token} {e : Expr} :
    Derives level ts e → ∀ stack, (level.rank < 5 → OpenTo level.rank stack) →
      ∃ state, (State.operand stack).after ts = .ok state ∧ state.Holds level.rank e stack
  | .next hn h => by
    intro stack isOpen
    have hrank := Level.rank_of_next? hn
    obtain ⟨state, hs, holds⟩ :=
      h.after_operand stack fun _ => (isOpen (by omega)).mono (by omega)
    exact ⟨state, hs, holds.loosen (by omega) isOpen⟩
  | @Derives.binary _ tighter _ _ _ op a _ hn ht ha hb => by
    intro stack isOpen
    have hrank := Level.rank_of_next? hn
    obtain ⟨hk, hop⟩ := Level.mem_operators_iff.mp ht
    have hopen : OpenTo level.rank stack := isOpen (hop ▸ level_lt_five op)
    obtain ⟨left, hleft, holdsA⟩ := ha.after_operand stack isOpen
    obtain ⟨right, hright, x, frames, hx, hj⟩ :=
      hb.after_operand (.left a op :: stack) fun _ => show op.level < tighter.rank by omega
    refine ⟨right, ?_, x, frames, hx, ?_⟩
    · rw [State.after_append_of_ok hleft,
        State.after_cons_of_step (holdsA.step_binary hopen hk hop), hright]
    · have hle : level.rank ≤ tighter.rank := by omega
      rw [← joinFrom_joinFrom hle, hj, applySigns_of_openTo _ hopen]
      simp [applySigns, joinFrom, hop, joinFrom_of_openTo _ hopen]
  | .sign ht h => by
    intro stack isOpen
    obtain ⟨state, hs, holds⟩ := h.after_operand (.sign _ :: stack) fun h => absurd h (by decide)
    exact ⟨state, by rw [State.after_cons_of_step (step_operand_sign ht stack), hs], holds⟩
  | .number ht hx => by
    intro stack _
    refine ⟨_, ?_, State.holds_settle 6 (by decide) _ stack⟩
    simp [State.after, State.step, beginOperand, ht, hx]
  | .text ht => by
    intro stack _
    refine ⟨_, ?_, State.holds_settle 6 (by decide) _ stack⟩
    simp [State.after, State.step, beginOperand, ht]
  | .cell (t := t) ht => by
    intro stack _
    refine ⟨.named t.text stack, ?_, _, _, rfl, joinFrom_of_five_le (by decide) _ _⟩
    simp [State.after, State.step, beginOperand, ht]
  | .range ht hc hu => by
    intro stack _
    refine ⟨_, ?_, State.holds_settle 6 (by decide) _ stack⟩
    simp [State.after, State.step, beginOperand, ht, hc, hu]
  | .group (o := o) ho h hc => by
    intro stack _
    obtain ⟨state, hs, holds⟩ := h.after_operand (.group :: stack) fun _ => trivial
    have hopen : (State.operand stack).step o = .ok (.operand (.group :: stack)) := by
      simp [State.step, beginOperand, ho]
    have hclose := holds.step_delimiter trivial (.inl hc)
    refine ⟨_, ?_, State.holds_settle 6 (by decide) _ stack⟩
    rw [List.cons_append, State.after_cons_of_step hopen, State.after_append_of_ok hs]
    simp [State.after, hclose, closeLevel, hc]
  | .emptyCall ht ho hc => by
    intro stack _
    refine ⟨_, ?_, State.holds_settle 6 (by decide) _ stack⟩
    simp [State.after, State.step, beginOperand, ht, ho, hc, Expr.callOf]
  | .call ht ho h hc => by
    intro stack _
    obtain ⟨state, e, before, hs, rfl, holds⟩ := h.after_operand _ stack
    have hclose := holds.step_delimiter trivial (.inl hc)
    refine ⟨_, ?_, State.holds_settle 6 (by decide) _ stack⟩
    have hfirst := State.after_opened hs h.ne_nil
    simp only [List.cons_append, State.after, State.step, beginOperand, ht, ho]
    rw [State.after_append_of_ok hfirst]
    simp [State.after, hclose, closeLevel, hc, Expr.callOf]

theorem DerivesAll.after_operand {ts : List Token} {es : List Expr} :
    DerivesAll ts es → ∀ name stack, ∃ state e before,
      (State.operand (.call name [] :: stack)).after ts = .ok state ∧ es = before ++ [e] ∧
        state.Holds 0 e (.call name before.reverse :: stack)
  | .one h => by
    intro name stack
    obtain ⟨state, hs, holds⟩ := h.after_operand (.call name [] :: stack) fun _ => trivial
    exact ⟨state, _, [], hs, rfl, holds⟩
  | .more hs hc h => by
    intro name stack
    obtain ⟨first, e, before, hfirst, rfl, holdsFirst⟩ := hs.after_operand name stack
    obtain ⟨state, hs, holds⟩ :=
      h.after_operand (.call name (e :: before.reverse) :: stack) fun _ => trivial
    have hcomma := holdsFirst.step_delimiter trivial (.inr hc)
    refine ⟨state, _, before ++ [e], ?_, rfl, by simpa [Level.rank] using holds⟩
    rw [State.after_append_of_ok hfirst]
    simp [State.after, hcomma, closeLevel, hc, hs]

end

/-! ## From states to phrases -/

/-- `Behind ts stack`: the tokens `ts` lead to a place where an operand must follow, with `stack`
begun. -/
inductive Behind : List Token → List Frame → Prop
  | nil : Behind [] []
  | sign {ts stack t op} : Behind ts stack → (t.kind, op) ∈ signs →
      Behind (ts ++ [t]) (.sign op :: stack)
  /-- An operator closes what binds at least as tightly, so looser ones are below it. -/
  | left {ts stack us a t op level} : Behind ts stack → OpenTo op.level stack →
      Derives level us a → (t.kind, op) ∈ level.operators →
      Behind (ts ++ us ++ [t]) (.left a op :: stack)
  | group {ts stack o} : Behind ts stack → o.kind = .openParen →
      Behind (ts ++ [o]) (.group :: stack)
  | call {ts stack t o} : Behind ts stack → t.kind = .identifier → o.kind = .openParen →
      Behind (ts ++ [t, o]) (.call t.text [] :: stack)
  | argument {ts stack t o us es c} : Behind ts stack → t.kind = .identifier →
      o.kind = .openParen → DerivesAll us es → c.kind = .comma →
      Behind (ts ++ t :: o :: us ++ [c]) (.call t.text es.reverse :: stack)

/-- `Ends level ts e stack`: the tokens `ts` lead to `stack` and then are a phrase of `level` with
the tree `e`. -/
def Ends (level : Level) (ts : List Token) (e : Expr) (stack : List Frame) : Prop :=
  ∃ before phrase, ts = before ++ phrase ∧ Behind before stack ∧ Derives level phrase e

/-- What the tokens before a state are. -/
def State.Reads (ts : List Token) : State → Prop
  | operand stack => Behind ts stack
  | opened name stack => ∃ before t o, ts = before ++ [t, o] ∧ Behind before stack ∧
      t.kind = .identifier ∧ o.kind = .openParen ∧ t.text = name
  | named name stack => ∃ before t, ts = before ++ [t] ∧ Behind before stack ∧
      t.kind = .identifier ∧ t.text = name
  | cornered first stack => ∃ before t c, ts = before ++ [t, c] ∧ Behind before stack ∧
      t.kind = .identifier ∧ c.kind = .colon ∧ t.text = first
  | settled e stack => Ends .signed ts e stack ∧ OpenTo 5 stack

/-- The signs before an operand end with it as one phrase. -/
theorem ends_applySigns {before ts : List Token} {e : Expr} {stack : List Frame}
    (hb : Behind before stack) (h : Derives .signed ts e) :
    Ends .signed (before ++ ts) (applySigns e stack).1 (applySigns e stack).2 ∧
      OpenTo 5 (applySigns e stack).2 := by
  induction stack generalizing before ts e with
  | nil => exact ⟨⟨before, ts, rfl, hb, h⟩, trivial⟩
  | cons frame stack ih =>
    cases frame with
    | sign op =>
      cases hb with
      | sign hb ht => simpa [applySigns] using ih hb (h.sign ht)
    | left a op => exact ⟨⟨before, ts, rfl, hb, h⟩, level_lt_five op⟩
    | group | call => exact ⟨⟨before, ts, rfl, hb, h⟩, trivial⟩

/-- Joining down to a level ends with a phrase of it, on a stack open to it. -/
theorem ends_joinFrom {level : Level} (loose : Level) {before ts : List Token} {e : Expr}
    {stack : List Frame} (hb : Behind before stack) (h : Derives level ts e)
    (isOpen : OpenTo level.rank stack) (le : loose.rank ≤ level.rank) :
    Ends loose (before ++ ts) (joinFrom loose.rank e stack).1 (joinFrom loose.rank e stack).2 ∧
      OpenTo loose.rank (joinFrom loose.rank e stack).2 := by
  induction stack generalizing level before ts e with
  | nil => exact ⟨⟨before, ts, rfl, hb, h.loosen le⟩, trivial⟩
  | cons frame stack ih =>
    cases frame with
    | sign op => cases isOpen
    | left a op =>
      by_cases hop : loose.rank ≤ op.level
      · cases hb with
        | @left before _ us _ t _ own hb ho ha ht =>
          obtain ⟨_, hrank⟩ := Level.mem_operators_iff.mp ht
          obtain ⟨tighter, hn⟩ := Level.exists_next?_of_mem_operators ht
          have htight := Level.rank_of_next? hn
          have isOpen : op.level < level.rank := isOpen
          have joined := Derives.binary hn ht ha (h.loosen (by omega))
          simpa [joinFrom, hop] using ih hb joined (hrank ▸ ho) (by omega)
      · simp only [joinFrom, hop, ↓reduceIte]
        exact ⟨⟨before, ts, rfl, hb, h.loosen le⟩, Nat.not_le.mp hop⟩
    | group | call => exact ⟨⟨before, ts, rfl, hb, h.loosen le⟩, trivial⟩

/-- An open call, with what an argument makes of its tokens. -/
theorem Behind.of_call {ts : List Token} {name : String} {args : List Expr} {stack : List Frame}
    (h : Behind ts (.call name args :: stack)) :
    ∃ before t o us, ts = before ++ t :: o :: us ∧ Behind before stack ∧ t.kind = .identifier ∧
      o.kind = .openParen ∧ t.text = name ∧
      ∀ vs e, Derives .comparison vs e → DerivesAll (us ++ vs) (args.reverse ++ [e]) := by
  cases h with
  | @call before _ t o hb ht ho =>
    exact ⟨before, t, o, [], rfl, hb, ht, ho, rfl, fun vs e h => .one h⟩
  | @argument before _ t o us es c hb ht ho hs hc =>
    refine ⟨before, t, o, us ++ [c], by simp, hb, ht, ho, rfl, fun vs e h => ?_⟩
    simpa using hs.more hc h

/-! ## What a step reads -/

theorem reads_settle {before ts : List Token} {e : Expr} {stack : List Frame}
    (hb : Behind before stack) (h : Derives .primary ts e) :
    (settle e stack).Reads (before ++ ts) :=
  ends_applySigns hb (.next rfl h)

theorem reads_beginOperand {ts : List Token} {stack : List Frame} {t : Token} {next : State}
    (hb : Behind ts stack) (h : beginOperand stack t = .ok next) : next.Reads (ts ++ [t]) := by
  unfold beginOperand at h
  split at h
  · next ht =>
    split at h
    · next x hx => cases h; exact reads_settle hb (.number ht hx)
    · cases h
  · next ht => cases h; exact reads_settle hb (.text ht)
  · next ht => cases h; exact ⟨ts, t, rfl, hb, ht, rfl⟩
  · next ht => cases h; exact hb.sign (by simp [signs, ht])
  · next ht => cases h; exact hb.sign (by simp [signs, ht])
  · next ht => cases h; exact hb.group ht
  · cases h

theorem reads_closeLevel {ts : List Token} {e : Expr} {stack : List Frame} {t : Token}
    {next : State} (he : Ends .comparison ts e stack) (h : closeLevel t (e, stack) = .ok next) :
    next.Reads (ts ++ [t]) := by
  obtain ⟨before, us, rfl, hb, he⟩ := he
  match stack with
  | .group :: stack =>
    simp only [closeLevel] at h
    split at h
    · next hc =>
      cases h
      cases hb with
      | group hb ho => simpa using reads_settle hb (.group ho he hc)
    · cases h
  | .call name args :: stack =>
    obtain ⟨outer, n, o, vs, rfl, houter, hn, ho, rfl, hall⟩ := hb.of_call
    have hargs := hall us e he
    simp only [closeLevel] at h
    split at h
    · next hc =>
      cases h
      simpa [Expr.callOf] using reads_settle houter (.call hn ho hargs hc)
    · split at h
      · next hc =>
        cases h
        simpa [State.Reads] using houter.argument hn ho hargs hc
      · cases h
  | [] | .sign _ :: _ | .left _ _ :: _ => cases h

theorem reads_followOperand {ts : List Token} {e : Expr} {stack : List Frame} {t : Token}
    {next : State} (he : Ends .signed ts e stack) (isOpen : OpenTo 5 stack)
    (h : followOperand e stack t = .ok next) : next.Reads (ts ++ [t]) := by
  obtain ⟨before, us, rfl, hb, he⟩ := he
  cases hop : t.kind.binary? with
  | some op =>
    have hrank := Level.rank_ofOperator op
    have hlt := level_lt_five op
    obtain ⟨⟨outer, phrase, heq, hb, ha⟩, hopen⟩ :=
      ends_joinFrom (.ofOperator op) hb he isOpen (show _ ≤ 5 by omega)
    rw [followOperand_binary hop] at h
    cases h
    rw [hrank] at hb ha hopen
    rw [heq]
    exact hb.left hopen ha (Level.mem_operators_iff.mpr ⟨hop, hrank.symm⟩)
  | none =>
    rw [followOperand_closer hop] at h
    exact reads_closeLevel (ends_joinFrom .comparison hb he isOpen (Nat.zero_le _)).1 h

/-- The operand that a state ends with is a signed phrase. -/
theorem State.Reads.ends {ts : List Token} {state : State} {e : Expr} {stack : List Frame}
    (h : state.Reads ts) (he : state.operand? = some (e, stack)) :
    Ends .signed ts e stack ∧ OpenTo 5 stack := by
  cases state with
  | named name frames =>
    obtain ⟨before, t, rfl, hb, ht, rfl⟩ := h
    have hends := ends_applySigns hb (.next rfl (.cell ht))
    rwa [Option.some.inj he] at hends
  | settled x frames =>
    cases he
    exact h
  | operand | opened | cornered => cases he

/-- Each step keeps the description of the tokens read. -/
theorem State.Reads.step {ts : List Token} {state next : State} {t : Token} (h : state.Reads ts)
    (hs : state.step t = .ok next) : next.Reads (ts ++ [t]) := by
  cases state with
  | operand stack => exact reads_beginOperand h hs
  | opened name stack =>
    obtain ⟨before, n, o, rfl, hb, hn, ho, rfl⟩ := h
    simp only [State.step] at hs
    split at hs
    · next hc =>
      cases hs
      simpa [Expr.callOf] using reads_settle hb (.emptyCall hn ho hc)
    · exact reads_beginOperand (hb.call hn ho) hs
  | named name stack =>
    by_cases hp : t.kind = .openParen
    · obtain ⟨before, n, rfl, hb, hn, rfl⟩ := h
      simp only [State.step, hp] at hs
      cases hs
      exact ⟨before, n, t, by simp, hb, hn, hp, rfl⟩
    · by_cases hc : t.kind = .colon
      · obtain ⟨before, n, rfl, hb, hn, rfl⟩ := h
        simp only [State.step, hc] at hs
        cases hs
        exact ⟨before, n, t, by simp, hb, hn, hc, rfl⟩
      · obtain ⟨he, hopen⟩ := h.ends rfl
        rw [State.step_of_operand? rfl hp hc] at hs
        exact reads_followOperand he hopen hs
  | cornered first stack =>
    obtain ⟨before, n, c, rfl, hb, hn, hc, rfl⟩ := h
    simp only [State.step] at hs
    split at hs
    · next hk =>
      cases hs
      simpa using reads_settle hb (.range hn hc hk)
    · cases hs
  | settled e stack => exact reads_followOperand h.1 h.2 hs

/-- What a whole run reads. -/
theorem State.Reads.after {ts us : List Token} {state final : State} (h : state.Reads ts)
    (hs : state.after us = .ok final) : final.Reads (ts ++ us) := by
  induction us generalizing ts state with
  | nil =>
    cases hs
    simpa using h
  | cons u us ih =>
    cases hu : state.step u with
    | ok next =>
      rw [State.after_cons_of_step hu] at hs
      simpa using ih (h.step hu) hs
    | error e => simp [State.after, hu] at hs

/-- Where a formula may end, its tokens derive the tree. -/
theorem State.Reads.derives {ts : List Token} {state : State} {e : Expr} (h : state.Reads ts)
    (he : state.tree? = some e) : Derives .comparison ts e := by
  obtain ⟨x, frames, hx, hj⟩ := State.tree?_eq_some_iff.mp he
  obtain ⟨⟨before, us, rfl, hb, hd⟩, hopen⟩ := h.ends hx
  obtain ⟨⟨outer, phrase, heq, houter, hphrase⟩, _⟩ :=
    ends_joinFrom .comparison hb hd hopen (Nat.zero_le _)
  have hj : joinFrom Level.comparison.rank x frames = (e, []) := hj
  rw [hj] at houter hphrase
  cases houter
  rw [heq]
  exact hphrase

/-! ## The reader accepts the grammar -/

/-- No list of tokens has two trees. -/
theorem Derives.unique {ts : List Token} {e f : Expr} (he : Derives .comparison ts e)
    (hf : Derives .comparison ts f) : e = f := by
  obtain ⟨state, hs, holds⟩ := he.after_operand [] fun _ => trivial
  obtain ⟨state', hs', holds'⟩ := hf.after_operand [] fun _ => trivial
  obtain rfl : state = state' := Except.ok.inj (hs.symm.trans hs')
  exact Option.some.inj
    ((State.tree?_eq_some_iff.mpr holds).symm.trans (State.tree?_eq_some_iff.mpr holds'))

/-- Tokens that end with the only end of input read as a formula just when they derive one. -/
theorem ofTokens_eq_ok_iff {body : List Token} {stop : Token}
    (inner : ∀ t ∈ body, t.kind ≠ .endOfInput) (ends : stop.kind = .endOfInput) (e : Expr) :
    Expr.ofTokens (body ++ [stop]) = .ok e ↔ Derives .comparison body e := by
  rw [Expr.ofTokens, State.run_eq _ _ inner ends]
  constructor
  · intro h
    cases hs : (State.operand []).after body with
    | ok final =>
      rw [hs] at h
      have start : (State.operand []).Reads [] := Behind.nil
      exact (start.after hs).derives (State.finish_eq_ok_iff.mp h)
    | error e => rw [hs] at h; cases h
  · intro h
    obtain ⟨state, hs, holds⟩ := h.after_operand [] fun _ => trivial
    rw [hs]
    exact State.finish_eq_ok_iff.mpr (State.tree?_eq_some_iff.mpr holds)

/-- **The reader and the grammar.** A list of tokens whose only end of input comes last reads as
the tree `e` exactly when the tokens before the end derive `e`. No list of tokens derives two
trees, and a list that derives none is refused with an error of syntax. -/
theorem ofTokens_eq_ok_iff_derives {body : List Token} {stop : Token}
    (inner : ∀ t ∈ body, t.kind ≠ .endOfInput) (ends : stop.kind = .endOfInput) :
    (∀ e, Expr.ofTokens (body ++ [stop]) = .ok e ↔ Derives .comparison body e) ∧
      (∀ e f, Derives .comparison body e → Derives .comparison body f → e = f) ∧
      ((∀ e, ¬ Derives .comparison body e) →
        ∃ fault : SyntaxError, Expr.ofTokens (body ++ [stop]) = .error fault) := by
  refine ⟨ofTokens_eq_ok_iff inner ends, fun e f he hf => he.unique hf, fun none => ?_⟩
  cases h : Expr.ofTokens (body ++ [stop]) with
  | ok e => exact absurd ((ofTokens_eq_ok_iff inner ends e).mp h) (none e)
  | error fault => exact ⟨fault, rfl⟩

/-- The tokens of `a+b*c`. -/
def sumWithProduct : List Token :=
  [⟨.identifier, "a", 0⟩, ⟨.plus, "+", 1⟩, ⟨.identifier, "b", 2⟩, ⟨.star, "*", 3⟩,
    ⟨.identifier, "c", 4⟩]

/-- The product in `a+b*c` is the right operand of the sum. -/
theorem derives_sumWithProduct :
    (∀ t ∈ sumWithProduct, t.kind ≠ .endOfInput) ∧ (Token.endAt 5).kind = .endOfInput ∧
      Derives .comparison sumWithProduct
        (.binary .add (.cell "a") (.binary .multiply (.cell "b") (.cell "c"))) :=
  have inner : ∀ t ∈ sumWithProduct, t.kind ≠ .endOfInput := by decide
  ⟨inner, rfl, ((@ofTokens_eq_ok_iff_derives _ (Token.endAt 5) inner rfl).1 _).mp rfl⟩

end Worksheet.Formula
