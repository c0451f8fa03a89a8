import Worksheet.Proofs.Address.LetterCase
import Worksheet.Proofs.Formula.Refusal

/-!
# Reading up to letter case

Two tokens are alike if they differ in the case of a name and in their place at most. Alike tokens
are read alike: the reader comes to states that are equal up to letter case, and where it stops at
the one token, it stops at the other one. This is shown through folded forms, in which names have
their ASCII letters in upper case: reading a folded token in a folded state leads to the folded
next state, so tokens and states with the same folded forms lead to such states again.

Results:
* `step_fold`: one token.
* `readAlike_run`: all tokens, from any two such states on.
* `increasing_of_tokensOf`: the places of the tokens of a formula.
* `ofTokens_alike`: the trees of alike tokens, or the token at which both are refused.
-/

namespace Worksheet.Formula

/-! ## Folded forms -/

/-- A token with its name folded, its place left out, and its text too where the kind says it. -/
def Token.fold (t : Token) : Token :=
  match t.kind with
  | .number | .text => ⟨t.kind, t.text, 0⟩
  | .identifier => ⟨.identifier, Text.fold t.text, 0⟩
  | kind => ⟨kind, "", 0⟩

mutual

/-- A tree with the names of its cells and of the corners of its ranges folded. -/
def Expr.fold : Expr → Expr
  | .number x => .number x
  | .text s => .text s
  | .cell name => .cell (Text.fold name)
  | .range first last => .range (Text.fold first) (Text.fold last)
  | .binary op left right => .binary op left.fold right.fold
  | .unary op operand => .unary op operand.fold
  | .call name args => .call name (Expr.foldAll args)

/-- Trees with the names in them folded. -/
def Expr.foldAll : List Expr → List Expr
  | [] => []
  | e :: rest => e.fold :: Expr.foldAll rest

end

/-- Something begun with the names in it folded. -/
def Frame.fold : Frame → Frame
  | .sign op => .sign op
  | .left operand op => .left operand.fold op
  | .group => .group
  | .call name args => .call (Text.fold name) (args.map Expr.fold)

/-- A state with the names in it folded. -/
def State.fold : State → State
  | .operand stack => .operand (stack.map Frame.fold)
  | .opened name stack => .opened (Text.fold name) (stack.map Frame.fold)
  | .named name stack => .named (Text.fold name) (stack.map Frame.fold)
  | .cornered first stack => .cornered (Text.fold first) (stack.map Frame.fold)
  | .settled e stack => .settled e.fold (stack.map Frame.fold)

theorem Expr.foldAll_eq_map (es : List Expr) : Expr.foldAll es = es.map Expr.fold := by
  induction es with
  | nil => rfl
  | cons e rest ih => rw [Expr.foldAll, ih, List.map_cons]

theorem Token.fold_kind (t : Token) : t.fold.kind = t.kind := by
  obtain ⟨kind, text, position⟩ := t
  cases kind <;> rfl

/-! ## Operands -/

theorem applySigns_fold (e : Expr) (stack : List Frame) :
    applySigns e.fold (stack.map Frame.fold) =
      ((applySigns e stack).1.fold, (applySigns e stack).2.map Frame.fold) := by
  induction stack generalizing e with
  | nil => rfl
  | cons frame stack ih =>
    cases frame with
    | sign op => exact ih (.unary op e)
    | left operand op => rfl
    | group => rfl
    | call name args => rfl

theorem settle_fold (e : Expr) (stack : List Frame) :
    settle e.fold (stack.map Frame.fold) = (settle e stack).fold := by
  rw [settle, applySigns_fold, settle, State.fold]

theorem joinFrom_fold (level : Nat) (e : Expr) (stack : List Frame) :
    joinFrom level e.fold (stack.map Frame.fold) =
      ((joinFrom level e stack).1.fold, (joinFrom level e stack).2.map Frame.fold) := by
  induction stack generalizing e with
  | nil => rfl
  | cons frame stack ih =>
    cases frame with
    | sign op => rfl
    | left operand op =>
      simp only [joinFrom, List.map_cons, Frame.fold]
      split
      · exact ih (.binary op operand e)
      · rfl
    | group => rfl
    | call name args => rfl

theorem callOf_fold (name : String) (args : List Expr) :
    Expr.callOf (Text.fold name) (args.map Expr.fold) = (Expr.callOf name args).fold := by
  rw [Expr.callOf, Text.upper_fold, Expr.callOf, Expr.fold, Expr.foldAll_eq_map, List.map_reverse]

/-! ## One token -/

theorem beginOperand_fold (stack : List Frame) (t : Token) :
    (beginOperand (stack.map Frame.fold) t.fold).toOption =
      (beginOperand stack t).toOption.map State.fold := by
  obtain ⟨kind, text, position⟩ := t
  cases kind with
  | number =>
    simp only [beginOperand, Token.fold]
    cases Number.read text.toList with
    | some x => exact congrArg some (settle_fold (.number x) stack)
    | none => rfl
  | text => exact congrArg some (settle_fold (.text text) stack)
  | _ => rfl

theorem closeLevel_fold (t : Token) (e : Expr) (stack : List Frame) :
    (closeLevel t.fold (e.fold, stack.map Frame.fold)).toOption =
      (closeLevel t (e, stack)).toOption.map State.fold := by
  cases stack with
  | nil => rfl
  | cons frame stack =>
    cases frame with
    | sign op => rfl
    | left operand op => rfl
    | group =>
      simp only [closeLevel, List.map_cons, Frame.fold, Token.fold_kind]
      split
      · exact congrArg some (settle_fold e stack)
      · rfl
    | call name args =>
      have hcall := callOf_fold name (e :: args)
      rw [List.map_cons] at hcall
      simp only [closeLevel, List.map_cons, Frame.fold, Token.fold_kind, hcall]
      split
      · exact congrArg some (settle_fold (.callOf name (e :: args)) stack)
      · split
        · rfl
        · rfl

theorem followOperand_fold (e : Expr) (stack : List Frame) (t : Token) :
    (followOperand e.fold (stack.map Frame.fold) t.fold).toOption =
      (followOperand e stack t).toOption.map State.fold := by
  simp only [followOperand, Token.fold_kind, joinFrom_fold]
  cases t.kind.binary? with
  | some op => rfl
  | none => exact closeLevel_fold t _ _

/-- Reading a folded token in a folded state leads to the folded next state, if to any. -/
theorem step_fold (state : State) (t : Token) :
    (state.fold.step t.fold).toOption = (state.step t).toOption.map State.fold := by
  cases state with
  | operand stack => exact beginOperand_fold stack t
  | opened name stack =>
    simp only [State.fold, State.step, Token.fold_kind]
    split
    · have hcall := callOf_fold name []
      rw [List.map_nil] at hcall
      rw [hcall]
      exact congrArg some (settle_fold (.callOf name []) stack)
    · exact beginOperand_fold (.call name [] :: stack) t
  | named name stack =>
    have hsigns := applySigns_fold (.cell name) stack
    rw [Expr.fold] at hsigns
    simp only [State.fold, State.step, Token.fold_kind, hsigns]
    split
    · rfl
    · rfl
    · exact followOperand_fold _ _ t
  | cornered first stack =>
    simp only [State.fold, State.step, Token.fold_kind]
    split
    · next hkind =>
      have htext : t.fold.text = Text.fold t.text := by simp only [Token.fold, hkind]
      rw [htext]
      exact congrArg some (settle_fold (.range first t.text) stack)
    · rfl
  | settled e stack => exact followOperand_fold e stack t

theorem operand?_fold (state : State) :
    state.fold.operand? = state.operand?.map fun p => (p.1.fold, p.2.map Frame.fold) := by
  cases state with
  | named name stack => exact congrArg some (applySigns_fold (.cell name) stack)
  | _ => rfl

/-- A formula may end in a folded state where it may end in the state, with the folded tree. -/
theorem tree?_fold (state : State) : state.fold.tree? = state.tree?.map Expr.fold := by
  simp only [State.tree?, operand?_fold]
  cases state.operand? with
  | none => rfl
  | some p =>
    simp only [Option.map_some, joinFrom_fold]
    obtain ⟨e, stack⟩ := joinFrom 0 p.1 p.2
    cases stack with
    | nil => rfl
    | cons frame stack => rfl

/-! ## Alike tokens -/

/-- Two tokens differ in the case of ASCII letters of a name, and in their places, at most. -/
structure Token.Alike (t u : Token) : Prop where
  kind : t.kind = u.kind
  literal : t.kind = .number ∨ t.kind = .text → t.text = u.text
  name : t.kind = .identifier → Text.fold t.text = Text.fold u.text

instance (t u : Token) : Decidable (t.Alike u) :=
  decidable_of_iff (t.kind = u.kind ∧ (t.kind = .number ∨ t.kind = .text → t.text = u.text) ∧
      (t.kind = .identifier → Text.fold t.text = Text.fold u.text))
    ⟨fun ⟨kind, literal, name⟩ => ⟨kind, literal, name⟩, fun h => ⟨h.kind, h.literal, h.name⟩⟩

theorem Token.Alike.fold_eq {t u : Token} (h : t.Alike u) : t.fold = u.fold := by
  obtain ⟨hkind, hliteral, hname⟩ := h
  unfold Token.fold
  rw [← hkind]
  cases hcase : t.kind with
  | number => rw [hliteral (.inl hcase)]
  | text => rw [hliteral (.inr hcase)]
  | identifier => rw [hname hcase]
  | _ => rfl

/-- In states that are equal up to letter case, alike tokens both lead to such states or are both
refused. -/
theorem step_alike {state other : State} {t u : Token} (hstate : state.fold = other.fold)
    (h : t.Alike u) :
    (∃ next following, state.step t = .ok next ∧ other.step u = .ok following ∧
      next.fold = following.fold) ∨
    ∃ fault fault', state.step t = .error fault ∧ other.step u = .error fault' := by
  have hsteps : (state.step t).toOption.map State.fold =
      (other.step u).toOption.map State.fold := by
    rw [← step_fold, hstate, h.fold_eq, step_fold]
  cases hs : state.step t with
  | ok next =>
    cases ho : other.step u with
    | ok following =>
      rw [hs, ho] at hsteps
      exact .inl ⟨next, following, rfl, rfl, Option.some.inj hsteps⟩
    | error fault =>
      rw [hs, ho] at hsteps
      cases hsteps
  | error fault =>
    cases ho : other.step u with
    | ok following =>
      rw [hs, ho] at hsteps
      cases hsteps
    | error fault' => exact .inr ⟨fault, fault', rfl, rfl⟩

/-- In states that are equal up to letter case, a formula may end with such trees, or not at all. -/
theorem tree?_alike {state other : State} (hstate : state.fold = other.fold) :
    (∃ e f, state.tree? = some e ∧ other.tree? = some f ∧ e.fold = f.fold) ∨
      state.tree? = none ∧ other.tree? = none := by
  have htrees : state.tree?.map Expr.fold = other.tree?.map Expr.fold := by
    rw [← tree?_fold, hstate, tree?_fold]
  cases hs : state.tree? with
  | some e =>
    rw [hs, Option.map_some] at htrees
    obtain ⟨f, hf, hfold⟩ := Option.map_eq_some_iff.mp htrees.symm
    exact .inl ⟨e, f, rfl, hf, hfold.symm⟩
  | none =>
    rw [hs, Option.map_none] at htrees
    exact .inr ⟨rfl, Option.map_eq_none_iff.mp htrees.symm⟩

/-! ## All tokens -/

/-- Two readings of token lists end alike: with trees that are equal up to letter case, or with
errors about the tokens at one index. -/
inductive ReadAlike (ts us : List Token) :
    Except SyntaxError Expr → Except SyntaxError Expr → Prop
  | trees {e f} (h : e.fold = f.fold) : ReadAlike ts us (.ok e) (.ok f)
  | errors {i : Nat} {t u fault fault'} (ht : ts[i]? = some t) (hu : us[i]? = some u)
      (habout : fault.About t) (habout' : fault'.About u) :
      ReadAlike ts us (.error fault) (.error fault')

theorem ReadAlike.cons {ts us : List Token} {x y : Except SyntaxError Expr}
    (h : ReadAlike ts us x y) (t u : Token) : ReadAlike (t :: ts) (u :: us) x y := by
  cases h with
  | trees h => exact .trees h
  | @errors i _ _ _ _ ht hu habout habout' => exact .errors (i := i + 1) ht hu habout habout'

/-- Alike tokens are read alike, from states on that are equal up to letter case. -/
theorem readAlike_run {ts us : List Token} (h : List.Forall₂ Token.Alike ts us)
    (hend : ∃ t ∈ ts, t.kind = .endOfInput) {state other : State}
    (hstate : state.fold = other.fold) (last previous : Token) :
    ReadAlike ts us (state.run last ts) (other.run previous us) := by
  induction h generalizing state other last previous with
  | nil =>
    -- Without an end of input the last token is looked at once more, which is at no index.
    obtain ⟨_, ht, _⟩ := hend
    cases ht
  | @cons t u ts us halike _ ih =>
    unfold State.run
    rw [← halike.kind]
    by_cases hlast : t.kind = .endOfInput
    · rw [if_pos hlast, if_pos hlast]
      rcases tree?_alike hstate with ⟨e, f, he, hf, hfold⟩ | ⟨he, hf⟩
      · rw [he, hf]
        exact .trees hfold
      · rw [he, hf]
        exact .errors (i := 0) rfl rfl (State.about_refuse t state) (State.about_refuse u other)
    · rw [if_neg hlast, if_neg hlast]
      rcases step_alike hstate halike with ⟨next, following, hs, ho, hfold⟩ | ⟨_, _, hs, ho⟩
      · have hmore : ∃ v ∈ ts, v.kind = .endOfInput := by
          obtain ⟨v, hv, hkind⟩ := hend
          exact ⟨v, (List.mem_cons.mp hv).resolve_left fun heq => hlast (heq ▸ hkind), hkind⟩
        rw [hs, ho]
        exact (ih hmore hfold t u).cons t u
      · rw [hs, ho]
        exact .errors (i := 0) rfl rfl (State.about_of_step hs) (State.about_of_step ho)

/-! ## The places of errors -/

/-- An error is at a token of a list and at no other one. -/
def SyntaxError.StandsAt (fault : SyntaxError) (ts : List Token) (i : Nat) : Prop :=
  i < ts.length ∧ ∀ j t, ts[j]? = some t → (fault.position = t.position ↔ j = i)

/-- The tokens of a formula stand one behind the other, the end of input last. -/
theorem increasing_of_tokensOf {formula : String} {ts : List Token}
    (h : tokensOf formula = .ok ts) : ts.Pairwise fun t u => t.position < u.position := by
  obtain ⟨body, rfl, d⟩ := tokensOf_eq_ok_iff.mp h
  refine List.pairwise_append.mpr ⟨d.increasing, List.pairwise_singleton _ _, fun t ht u hu => ?_⟩
  have hpos := (d.stands t ht).length_pos
  have hstop := (d.stands t ht).stop_le
  rw [List.mem_singleton.mp hu]
  show t.position < formula.length
  unfold Token.stop at hstop
  rw [String.length_toList] at hstop
  omega

theorem SyntaxError.About.standsAt {ts : List Token} {i : Nat} {t : Token} {fault : SyntaxError}
    (h : fault.About t) (ht : ts[i]? = some t)
    (increasing : ts.Pairwise fun t u => t.position < u.position) : fault.StandsAt ts i := by
  obtain ⟨hi, rfl⟩ := List.getElem?_eq_some_iff.mp ht
  refine ⟨hi, fun j u hu => ?_⟩
  obtain ⟨hj, rfl⟩ := List.getElem?_eq_some_iff.mp hu
  rw [h.position_eq]
  have hordered := List.pairwise_iff_getElem.mp increasing
  constructor
  · intro heq
    rcases Nat.lt_trichotomy j i with hlt | rfl | hgt
    · exact absurd heq (Nat.ne_of_gt (hordered j i hj hi hlt))
    · rfl
    · exact absurd heq (Nat.ne_of_lt (hordered i j hi hj hgt))
  · rintro rfl
    rfl

/-- The alike tokens of two formulas have trees that are equal up to letter case, or are refused
at one index. -/
theorem ofTokens_alike {formula other : String} {ts us : List Token}
    (hts : tokensOf formula = .ok ts) (hus : tokensOf other = .ok us)
    (h : List.Forall₂ Token.Alike ts us) :
    (∃ e f, Expr.ofTokens ts = .ok e ∧ Expr.ofTokens us = .ok f ∧ e.fold = f.fold) ∨
      ∃ i fault fault', Expr.ofTokens ts = .error fault ∧ Expr.ofTokens us = .error fault' ∧
        fault.StandsAt ts i ∧ fault'.StandsAt us i := by
  have hend : ∃ t ∈ ts, t.kind = .endOfInput := by
    obtain ⟨body, rfl, _⟩ := tokensOf_eq_ok_iff.mp hts
    exact ⟨_, List.mem_append_right _ (List.mem_singleton_self _), rfl⟩
  have hread : ReadAlike ts us (Expr.ofTokens ts) (Expr.ofTokens us) :=
    readAlike_run h hend rfl _ _
  generalize Expr.ofTokens ts = x at hread ⊢
  generalize Expr.ofTokens us = y at hread ⊢
  cases hread with
  | @trees e f hfold => exact .inl ⟨e, f, rfl, rfl, hfold⟩
  | @errors i _ _ fault fault' ht hu habout habout' =>
    exact .inr ⟨i, fault, fault', rfl, rfl, habout.standsAt ht (increasing_of_tokensOf hts),
      habout'.standsAt hu (increasing_of_tokensOf hus)⟩

end Worksheet.Formula
