import Worksheet.Proofs.Evaluation.Aggregates
import Worksheet.Proofs.Functions.Answers

/-!
# Where values and errors come from

With the functions of the library, the value of a tree is a number, a text or a logical value, or
what one of the references in the tree yields as it is, or an error. An error stands in a cell that
the tree mentions, or the tree has a cause for it. The causes of each error are few: a reference to
what is not set or is no address, a division, a function that raises the error, a function that is
not known, and any operation at all for operands that it cannot read.

Results:
* `Origin.of_elements`: an error within a value comes from where the value comes from.
* `origin_value`: where the value of a tree comes from.
* `error_has_cause`: what is behind an error.
-/

namespace Worksheet

open Formula (Expr BinaryOp UnaryOp)

/-! ## Causes and origins -/

/-- Among parts of trees, a function whose name has this upper case is called. -/
def Formula.Expr.Calls (parts : List Expr) (callee : String) : Prop :=
  ∃ name args, .call name args ∈ parts ∧ Text.upper name = callee

namespace Context

/-- A cell that a tree mentions holds an error. -/
def Holds (context : Context) (e : Expr) (code : ErrorCode) : Prop :=
  ∃ name, e.Mentions name ∧ context.cell? name = some (.error code)

/-- What there is among parts of trees that may yield an error, if no cell holds it. -/
def Causes (context : Context) (parts : List Expr) : ErrorCode → Prop
  | .notAvailable => Expr.Calls parts "NA"
  | .number => Expr.Calls parts "SQRT"
  | .name => ∃ name args, .call name args ∈ parts ∧ context.registry.get? name = none
  | .divisionByZero =>
    (∃ left right, .binary .divide left right ∈ parts) ∨ Expr.Calls parts "MOD" ∨
      Expr.Calls parts "AVERAGE"
  | .reference =>
    (∃ name, .cell name ∈ parts ∧ context.cell? name = none ∧
      context.missing = .referenceError) ∨
    (∃ first last, .range first last ∈ parts ∧
      ((∃ fault, Address.ofText first = .error fault) ∨
        ∃ fault, Address.ofText last = .error fault)) ∨
    ∃ first last a b c, .range first last ∈ parts ∧ Address.ofText first = .ok a ∧
      Address.ofText last = .ok b ∧ (Range.between a b).Covers c ∧ context.cell? c.a1 = none
  | .value =>
    (∃ op left right, .binary op left right ∈ parts) ∨ (∃ op operand, .unary op operand ∈ parts) ∨
      ∃ name args, .call name args ∈ parts

/-- Where a value comes from, given parts of trees. -/
inductive Origin (context : Context) (parts : List Expr) : Value → Prop
  | number (x) : Origin context parts (.number x)
  | text (s) : Origin context parts (.text s)
  | logical (b) : Origin context parts (.logical b)
  | cell {name} : .cell name ∈ parts → Origin context parts (context.reference name)
  | range {first last} : .range first last ∈ parts →
      Origin context parts (context.rangeValues first last)
  /-- An error among the cells of a range. -/
  | member {first last code} : .range first last ∈ parts →
      .error code ∈ (context.rangeValues first last).elements → Origin context parts (.error code)
  | caused {code} : context.Causes parts code → Origin context parts (.error code)

variable {context : Context} {parts more : List Expr} {code : ErrorCode} {v w : Value}

theorem Causes.mono (h : context.Causes parts code) (hmore : parts ⊆ more) :
    context.Causes more code := by
  have hcalls : ∀ {callee}, Expr.Calls parts callee → Expr.Calls more callee :=
    fun ⟨name, args, hpart, hname⟩ => ⟨name, args, hmore hpart, hname⟩
  cases code with
  | notAvailable => exact hcalls h
  | number => exact hcalls h
  | name =>
    obtain ⟨name, args, hpart, hunknown⟩ := h
    exact ⟨name, args, hmore hpart, hunknown⟩
  | divisionByZero =>
    rcases h with ⟨left, right, hpart⟩ | hmod | haverage
    · exact .inl ⟨left, right, hmore hpart⟩
    · exact .inr (.inl (hcalls hmod))
    · exact .inr (.inr (hcalls haverage))
  | reference =>
    rcases h with ⟨name, hpart, hunset⟩ | ⟨first, last, hpart, hcorner⟩ |
      ⟨first, last, a, b, c, hpart, hcovered⟩
    · exact .inl ⟨name, hmore hpart, hunset⟩
    · exact .inr (.inl ⟨first, last, hmore hpart, hcorner⟩)
    · exact .inr (.inr ⟨first, last, a, b, c, hmore hpart, hcovered⟩)
  | value =>
    rcases h with ⟨op, left, right, hpart⟩ | ⟨op, operand, hpart⟩ | ⟨name, args, hpart⟩
    · exact .inl ⟨op, left, right, hmore hpart⟩
    · exact .inr (.inl ⟨op, operand, hmore hpart⟩)
    · exact .inr (.inr ⟨name, args, hmore hpart⟩)

/-- A call of a function that raises an error is a cause of that error. -/
theorem causes_of_raiser {callee name : String} {args : List Expr}
    (h : (callee, code) ∈ Functions.raisers) (hpart : .call name args ∈ parts)
    (hname : Text.upper callee = Text.upper name) : context.Causes parts code := by
  have hupper : ∀ raiser ∈ Functions.raisers, Text.upper raiser.1 = raiser.1 := by decide +kernel
  have hcalls : Expr.Calls parts callee :=
    ⟨name, args, hpart, hname.symm.trans (hupper (callee, code) h)⟩
  simp only [Functions.raisers, List.mem_cons, Prod.mk.injEq, List.not_mem_nil, or_false] at h
  rcases h with ⟨rfl, rfl⟩ | ⟨rfl, rfl⟩ | ⟨rfl, rfl⟩ | ⟨rfl, rfl⟩
  · exact hcalls
  · exact .inr (.inl hcalls)
  · exact .inr (.inr hcalls)
  · exact hcalls

/-! ## Errors within values -/

theorem elements_reference (context : Context) (name : String) :
    (context.reference name).elements = [context.reference name] := by
  unfold reference
  split
  · exact elements_ofCell _
  · rfl
  · rfl

namespace Origin

theorem mono (h : context.Origin parts v) (hmore : parts ⊆ more) : context.Origin more v := by
  cases h with
  | number x => exact .number x
  | text s => exact .text s
  | logical b => exact .logical b
  | cell hpart => exact .cell (hmore hpart)
  | range hpart => exact .range (hmore hpart)
  | member hpart helement => exact .member (hmore hpart) helement
  | caused hcauses => exact .caused (hcauses.mono hmore)

/-- An error that a value is, or that stands in it, comes from where the value comes from. -/
theorem of_elements (h : context.Origin parts v) (herror : .error code ∈ v.elements) :
    context.Origin parts (.error code) := by
  cases h with
  | number x | text s | logical b =>
    cases List.mem_singleton.mp herror
  | cell hpart =>
    rw [elements_reference, List.mem_singleton] at herror
    rw [herror]
    exact .cell hpart
  | range hpart => exact .member hpart herror
  | member hpart helement =>
    cases List.mem_singleton.mp herror
    exact .member hpart helement
  | caused hcauses =>
    cases List.mem_singleton.mp herror
    exact .caused hcauses

/-! ## Operators and calls -/

theorem binary {op : BinaryOp} {left right : Expr} (hpart : .binary op left right ∈ parts)
    (hv : context.Origin parts v) (hw : context.Origin parts w) :
    context.Origin parts (Context.binary op v w) := by
  have hvalue : context.Origin parts (.error .value) := .caused (.inl ⟨op, left, right, hpart⟩)
  unfold Context.binary
  split
  · exact hv
  · split
    · exact hw
    · unfold combine
      split
      · exact .text _
      · split
        · exact .logical _
        · split
          · unfold arithmetic
            split
            · exact .number _
            · exact .number _
            · exact .number _
            · split
              · exact .caused (.inl ⟨left, right, hpart⟩)
              · exact .number _
            · exact .number _
            · exact hvalue
          · exact hvalue

theorem unary {op : UnaryOp} {operand : Expr} (hpart : .unary op operand ∈ parts)
    (hv : context.Origin parts v) : context.Origin parts (Context.unary op v) := by
  unfold Context.unary
  split
  · exact hv
  · split
    · exact .number _
    · exact .number _
    · exact .caused (.inr (.inl ⟨_, operand, hpart⟩))

/-- What a function of the library answers comes from where its arguments come from. -/
theorem answer {name callee : String} {args : List Expr} {vs : List Value}
    (hpart : .call name args ∈ parts) (hname : Text.upper callee = Text.upper name)
    (hvs : ∀ v ∈ vs, context.Origin parts v) (h : Functions.Answers callee vs v) :
    context.Origin parts v := by
  cases h with
  | number x => exact .number x
  | text s => exact .text s
  | logical b => exact .logical b
  | argument hv => exact hvs v hv
  | passed herror =>
    obtain ⟨v, hv, helement⟩ := List.mem_flatMap.mp herror
    exact (hvs v hv).of_elements helement
  | refused => exact .caused (.inr (.inr ⟨name, args, hpart⟩))
  | raised hraised => exact .caused (causes_of_raiser hraised hpart hname)

theorem call (hregistry : context.registry = .standard) {name : String} {args : List Expr}
    {vs : List Value} (hpart : .call name args ∈ parts) (hvs : ∀ v ∈ vs, context.Origin parts v) :
    context.Origin parts (outcome (context.registry.call name vs)) := by
  cases hfound : context.registry.get? name with
  | none =>
    rw [Registry.call_eq_of_get?_eq_none hfound]
    exact .caused ⟨name, args, hpart, hfound⟩
  | some d =>
    rw [Registry.call_of_get? hfound]
    rw [hregistry] at hfound
    obtain ⟨hlibrary, hname⟩ := Registry.mem_library_of_get? hfound
    by_cases htakes : d.Takes vs.length
    · obtain ⟨v, hbody, hanswer⟩ := Functions.answers_of_mem_library hlibrary vs
      rw [Definition.call_of_takes htakes, hbody]
      exact answer hpart hname hvs hanswer
    · obtain ⟨expected, hcall⟩ := Definition.call_of_not_takes htakes
      rw [hcall]
      exact .caused (.inr (.inr ⟨name, args, hpart⟩))

end Origin

/-! ## Trees -/

mutual

/-- With the functions of the library, the value of a tree comes from its parts. -/
theorem origin_value (hregistry : context.registry = .standard) :
    ∀ e : Expr, context.Origin e.parts (context.value e)
  | .number x => .number x
  | .text s => .text s
  | .cell _ => .cell (List.mem_singleton_self _)
  | .range _ _ => .range (List.mem_singleton_self _)
  | .binary op left right => by
    have hleft : left.parts ⊆ (Expr.binary op left right).parts := by simp [Expr.parts]
    have hright : right.parts ⊆ (Expr.binary op left right).parts := by simp [Expr.parts]
    rw [value]
    exact .binary (List.mem_cons_self ..) ((origin_value hregistry left).mono hleft)
      ((origin_value hregistry right).mono hright)
  | .unary op operand => by
    have hoperand : operand.parts ⊆ (Expr.unary op operand).parts := by simp [Expr.parts]
    rw [value]
    exact .unary (List.mem_cons_self ..) ((origin_value hregistry operand).mono hoperand)
  | .call name args => by
    rw [value]
    apply Origin.call hregistry (List.mem_cons_self ..)
    intro v hv
    exact (origin_values hregistry args v hv).mono (List.subset_cons_self ..)

theorem origin_values (hregistry : context.registry = .standard) :
    ∀ (es : List Expr), ∀ v ∈ context.values es, context.Origin (Expr.argParts es) v
  | [], _, hv => nomatch hv
  | e :: rest, v, hv => by
    rw [values] at hv
    rcases List.mem_cons.mp hv with rfl | hrest
    · exact (origin_value hregistry e).mono (by simp [Expr.argParts])
    · exact (origin_values hregistry rest v hrest).mono (by simp [Expr.argParts])

end

/-! ## Errors -/

theorem eq_error_of_ofCell {cell : Cell} (h : Value.ofCell cell = .error code) :
    cell = .error code := by
  cases cell <;> cases h
  rfl

theorem cause_of_reference {e : Expr} {name : String} (hpart : .cell name ∈ e.parts)
    (h : context.reference name = .error code) :
    context.Holds e code ∨ context.Causes e.parts code := by
  unfold reference at h
  cases hcell : context.cell? name with
  | some cell =>
    rw [hcell] at h
    rw [eq_error_of_ofCell h] at hcell
    exact .inl ⟨name, .cell hpart, hcell⟩
  | none =>
    cases hmissing : context.missing with
    | referenceError =>
      rw [hcell, hmissing] at h
      cases h
      exact .inr (.inl ⟨name, hpart, hcell, hmissing⟩)
    | blank =>
      rw [hcell, hmissing] at h
      cases h

theorem cause_of_range {e : Expr} {first last : String} (hpart : .range first last ∈ e.parts)
    (h : .error code ∈ (context.rangeValues first last).elements) :
    context.Holds e code ∨ context.Causes e.parts code := by
  have hcorner : ∀ {other : ErrorCode}, .error code ∈ (Value.error other).elements →
      other = .reference → code = .reference := by
    rintro _ herror rfl
    cases List.mem_singleton.mp herror
    rfl
  cases hfirst : Address.ofText first with
  | error fault =>
    simp only [rangeValues, hfirst] at h
    obtain rfl := hcorner h rfl
    exact .inr (.inr (.inl ⟨first, last, hpart, .inl ⟨fault, hfirst⟩⟩))
  | ok a =>
    cases hlast : Address.ofText last with
    | error fault =>
      simp only [rangeValues, hfirst, hlast] at h
      obtain rfl := hcorner h rfl
      exact .inr (.inr (.inl ⟨first, last, hpart, .inr ⟨fault, hlast⟩⟩))
    | ok b =>
      rw [rangeValues_eq_grid context hfirst hlast] at h
      obtain ⟨c, hc, hmember⟩ := List.mem_map.mp h
      have hcovers := Range.mem_grid_iff.mp hc
      unfold member at hmember
      cases hcell : context.cell? c.a1 with
      | some cell =>
        rw [hcell] at hmember
        rw [eq_error_of_ofCell hmember] at hcell
        exact .inl ⟨c.a1, .covered hpart hfirst hlast hcovers, hcell⟩
      | none =>
        rw [hcell] at hmember
        cases hmember
        exact .inr (.inr (.inr ⟨first, last, a, b, c, hpart, hfirst, hlast, hcovers, hcell⟩))

theorem Origin.cause {e : Expr} (h : context.Origin e.parts v) (herror : .error code ∈ v.elements) :
    context.Holds e code ∨ context.Causes e.parts code := by
  cases h with
  | number x | text s | logical b =>
    cases List.mem_singleton.mp herror
  | cell hpart =>
    rw [elements_reference, List.mem_singleton] at herror
    exact cause_of_reference hpart herror.symm
  | range hpart => exact cause_of_range hpart herror
  | member hpart helement =>
    cases List.mem_singleton.mp herror
    exact cause_of_range hpart helement
  | caused hcauses =>
    cases List.mem_singleton.mp herror
    exact .inr hcauses

/-- **Causes of errors.** With the functions of the library, every error that the value of a tree
is, or that stands in it, is held by a cell that the tree mentions, or the tree has a cause for
it. -/
theorem error_has_cause (hregistry : context.registry = .standard) {e : Expr}
    (h : .error code ∈ (context.value e).elements) :
    context.Holds e code ∨ context.Causes e.parts code :=
  (origin_value hregistry e).cause h

/-- The tree of `IFERROR(1/0,A1:B1)`. -/
def fallbackRange : Expr :=
  .call "IFERROR" [.binary .divide (.number 1) (.number 0), .range "A1" "B1"]

/-- A sheet on which `A1` holds an error and `B1` is not set. -/
def besideUnset : Context :=
  ⟨(Sheet.empty.set "a1" (.error .notAvailable)).get?, .standard, .blank⟩

theorem rangeValues_besideUnset :
    besideUnset.rangeValues "A1" "B1" = .list [.error .notAvailable, .error .reference] := by
  have hfirst : Address.ofText "A1" = .ok ⟨1, 1⟩ := rfl
  have hlast : Address.ofText "B1" = .ok ⟨1, 2⟩ := rfl
  have hgrid : (Range.between ⟨1, 1⟩ ⟨1, 2⟩).grid = [⟨1, 1⟩, ⟨1, 2⟩] := by decide +kernel
  have hset : besideUnset.cell? (Address.a1 ⟨1, 1⟩) = some (.error .notAvailable) := by
    show Sheet.get? _ _ = _
    rw [Sheet.get?_set, if_pos (by decide +kernel)]
    rfl
  have hunset : besideUnset.cell? (Address.a1 ⟨1, 2⟩) = none := by
    show Sheet.get? _ _ = _
    rw [Sheet.get?_set, if_neg (by decide +kernel), Sheet.get?_empty]
  rw [rangeValues_eq_grid _ hfirst hlast, hgrid]
  simp only [List.map_cons, List.map_nil, member, hset, hunset, Value.ofCell]

theorem value_fallbackRange :
    besideUnset.value fallbackRange = .list [.error .notAvailable, .error .reference] := by
  have hlibrary : Functions.entry "IFERROR" 2 (some 2) Functions.ifError ∈ Functions.library := by
    simp [Functions.library]
  have htakes : (Functions.entry "IFERROR" 2 (some 2) Functions.ifError).Takes 2 :=
    Definition.countFault?_eq_none_iff.mp rfl
  have hcall : ∀ v w, besideUnset.registry.call "IFERROR" [v, w] =
      .ok (Functions.ifError [v, w]) := by
    intro v w
    exact Registry.call_standard hlibrary htakes
  have hdivision : binary .divide (.number 1) (.number 0) = .error .divisionByZero := by rfl
  simp only [fallbackRange, value, values, hcall, hdivision, rangeValues_besideUnset]
  rfl

/-- Two errors stand in the value of `IFERROR(1/0,A1:B1)`, one that `A1` holds and one for `B1`,
which is not set. The error of the division is not among them. -/
theorem error_has_cause_fallbackRange :
    .error .notAvailable ∈ (besideUnset.value fallbackRange).elements ∧
      .error .reference ∈ (besideUnset.value fallbackRange).elements ∧
      (besideUnset.Holds fallbackRange .notAvailable ∨
        besideUnset.Causes fallbackRange.parts .notAvailable) ∧
      (besideUnset.Holds fallbackRange .reference ∨
        besideUnset.Causes fallbackRange.parts .reference) := by
  have hregistry : besideUnset.registry = .standard := rfl
  have hheld : .error .notAvailable ∈ (besideUnset.value fallbackRange).elements := by
    rw [value_fallbackRange]
    exact List.mem_cons_self ..
  have hunset : .error .reference ∈ (besideUnset.value fallbackRange).elements := by
    rw [value_fallbackRange]
    exact List.mem_cons_of_mem _ (List.mem_singleton_self _)
  exact ⟨hheld, hunset, error_has_cause hregistry hheld, error_has_cause hregistry hunset⟩

end Context

end Worksheet
