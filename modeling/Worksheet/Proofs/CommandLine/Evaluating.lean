import Worksheet.Proofs.CommandLine.Cells
import Worksheet.Proofs.Session.Invisible

/-!
# A run is the sum of its formulas

One workbook evaluates all formulas of a command and keeps the trees of those it has read. Its cells
stay as they are and kept trees cannot be seen, so each formula has the value that it has alone in a
run of its own, and the output is that of the formulas in front of the first malformed one, joined.

Results:
* `Follows.evaluate`: evaluating a formula leaves a workbook that gives the same values.
* `Follows.evaluateAll`: the lines for all formulas.
* `runEvaluation_sum`: the output and the exit code of a run, by its file, assignments and formulas.
-/

namespace Worksheet.CommandLine

open Formula (SyntaxError)

/-! ## One workbook for all formulas -/

/-- A workbook gives every formula the value that it has in a context when it is read afresh. -/
structure Follows (context : Context) (book : Workbook) : Prop where
  keeps : ∃ formulas, book.calculator.Keeps formulas
  context_eq : book.calculator.context book.sheet.get? = context

namespace Follows

variable {context : Context} {book : Workbook}

/-- A workbook that has read nothing so far. -/
theorem start (sheet : Sheet) (missing : MissingCell) :
    Follows ⟨sheet.get?, Registry.standard, missing⟩ ⟨sheet, Calculator.start missing⟩ :=
  ⟨⟨[], Calculator.Keeps.none rfl⟩, rfl⟩

/-- Evaluating a formula leaves a workbook that gives the same values. -/
theorem evaluate (h : Follows context book) (formula : String) :
    (book.evaluate formula).1 = context.valueAfresh formula ∧
      Follows context (book.evaluate formula).2 := by
  obtain ⟨⟨formulas, hkeeps⟩, rfl⟩ := h
  obtain ⟨hvalue, hsetting, hnext⟩ :=
    Session.evaluateWith_spec hkeeps book.sheet.get? formula
  have hcontext : ∀ other : Workbook, other.setting = book.setting →
      other.calculator.context other.sheet.get? = book.calculator.context book.sheet.get? :=
    fun _ h => congrArg (fun s : Setting => Context.mk s.sheet.get? s.registry s.missing) h
  exact ⟨hvalue, ⟨_, hnext⟩, hcontext _ hsetting⟩

theorem evaluateAll_of_ok (h : Follows context book) {formula : String} {v : Value}
    (hv : context.valueAfresh formula = .ok v) (named : Bool) (rest : List String) :
    ∃ next, Follows context next ∧ CommandLine.evaluateAll named book (formula :: rest) =
      (valueLine named formula v :: (CommandLine.evaluateAll named next rest).1,
        (CommandLine.evaluateAll named next rest).2) := by
  obtain ⟨hvalue, hnext⟩ := h.evaluate formula
  obtain ⟨next, heq⟩ : ∃ next, book.evaluate formula = (.ok v, next) :=
    ⟨_, Prod.ext (hvalue.trans hv) rfl⟩
  rw [heq] at hnext
  refine ⟨next, hnext, ?_⟩
  simp only [CommandLine.evaluateAll, heq]

theorem evaluateAll_of_error (h : Follows context book) {formula : String} {fault : SyntaxError}
    (hfault : context.valueAfresh formula = .error fault) (named : Bool) (rest : List String) :
    CommandLine.evaluateAll named book (formula :: rest) =
      ([], some (.evaluating formula fault)) := by
  obtain ⟨hvalue, _⟩ := h.evaluate formula
  obtain ⟨next, heq⟩ : ∃ next, book.evaluate formula = (.error fault, next) :=
    ⟨_, Prod.ext (hvalue.trans hfault) rfl⟩
  simp only [CommandLine.evaluateAll, heq]

/-- The lines are those of the formulas in front of the first malformed one. -/
theorem evaluateAll (h : Follows context book) (named : Bool) (formulas : List String) :
    ∃ (shown : List (String × Value)) (unshown : List String),
      formulas = shown.map Prod.fst ++ unshown ∧
      (∀ p ∈ shown, context.valueAfresh p.1 = .ok p.2) ∧
      (∀ formula ∈ unshown.head?, ∃ fault, context.valueAfresh formula = .error fault) ∧
      (CommandLine.evaluateAll named book formulas).1 =
        shown.map (fun p => valueLine named p.1 p.2) ∧
      ((CommandLine.evaluateAll named book formulas).2 = none ↔ unshown = []) := by
  induction formulas generalizing book with
  | nil => exact ⟨[], [], rfl, by simp, by simp, rfl, by simp [evaluateAll_nil]⟩
  | cons formula rest ih =>
    cases hv : context.valueAfresh formula with
    | ok v =>
      obtain ⟨next, hnext, heq⟩ := h.evaluateAll_of_ok hv named rest
      obtain ⟨shown, unshown, hrest, hvalues, hfault, hlines, htrouble⟩ := ih hnext
      rw [heq]
      refine ⟨(formula, v) :: shown, unshown, ?_, ?_, hfault, ?_, htrouble⟩
      · rw [hrest]
        rfl
      · exact List.forall_mem_cons.mpr ⟨hv, hvalues⟩
      · rw [hlines]
        rfl
    | error fault =>
      rw [h.evaluateAll_of_error hv named rest]
      exact ⟨[], formula :: rest, rfl, by simp, by simp [hv], rfl, by simp⟩

end Follows

/-! ## Runs -/

/-- What formulas are evaluated against: the cells as entries leave them, and the functions of the
library. -/
def contextOf (missing : MissingCell) (cells : List (String × Cell)) : Context :=
  ⟨latest cells, Registry.standard, missing⟩

/-- What is printed for a formula: its value, and the formula in front of it among several. -/
def printed (several : Bool) (p : String × Value) : String :=
  (if several then p.1 ++ "\t" else "") ++ p.2.toText ++ "\n"

theorem unlines_valueLines (several : Bool) (shown : List (String × Value)) :
    unlines (shown.map fun p => valueLine several p.1 p.2) =
      String.join (shown.map (printed several)) := by
  rw [unlines, List.map_map]
  congr 1
  refine List.map_congr_left fun p _ => ?_
  cases several <;> simp [valueLine, printed]

section

variable {contents : Option String} {e : Evaluation} {cells : List (String × Cell)}

/-- A run that has its cells prints the lines for its formulas. -/
theorem runEvaluation_of_cells (h : cellsFor contents e = .ok cells) :
    ∃ book, Follows (contextOf e.missing cells) book ∧ runEvaluation contents e =
      ⟨unlines (evaluateAll (1 < e.formulas.length) book e.formulas).1,
        (evaluateAll (1 < e.formulas.length) book e.formulas).2⟩ := by
  have hcells : (Sheet.empty.setAll cells).get? = latest cells := funext (get?_setAll cells)
  refine ⟨⟨Sheet.empty.setAll cells, Calculator.start e.missing⟩, ?_, ?_⟩
  · rw [contextOf, ← hcells]
    exact .start _ _
  · simp only [runEvaluation, h]

/-- A formula alone, in a run of its own with the same cells. -/
theorem runEvaluation_alone_of_ok (h : cellsFor contents e = .ok cells) {formula : String}
    {v : Value} (hv : (contextOf e.missing cells).valueAfresh formula = .ok v) :
    runEvaluation contents { e with formulas := [formula] } = ⟨v.toText ++ "\n", none⟩ := by
  obtain ⟨book, hbook, hrun⟩ :=
    runEvaluation_of_cells (e := { e with formulas := [formula] }) h
  obtain ⟨next, _, heq⟩ := hbook.evaluateAll_of_ok hv false []
  rw [hrun]
  dsimp only [List.length_singleton, Nat.lt_irrefl]
  simp [heq, evaluateAll_nil, unlines, valueLine]

theorem runEvaluation_alone_of_error (h : cellsFor contents e = .ok cells) {formula : String}
    {fault : SyntaxError}
    (hfault : (contextOf e.missing cells).valueAfresh formula = .error fault) :
    runEvaluation contents { e with formulas := [formula] } =
      ⟨"", some (.evaluating formula fault)⟩ := by
  obtain ⟨book, hbook, hrun⟩ :=
    runEvaluation_of_cells (e := { e with formulas := [formula] }) h
  rw [hrun]
  simp [hbook.evaluateAll_of_error hfault, unlines]

end

/-- **A run is the sum of its formulas.** A run whose file or assignments are rejected prints
nothing and ends with code 1. Otherwise the file gives its cells in the order of the bytes of their
keys, each key once, the assignments come behind them in order, and the last of these entries for an
address decides what its cell holds. Printed are then the formulas in front of the first malformed
one, each with the value that it has alone, which a run of its own with the same cells prints; the
code is 0 if these are all formulas, and 1 otherwise. -/
theorem runEvaluation_sum (contents : Option String) (e : Evaluation) :
    (Rejected contents e →
      (runEvaluation contents e).output = "" ∧ (runEvaluation contents e).code = 1) ∧
    ∀ fromFile assigned, FileGives contents e.cellsFile fromFile →
      List.Forall₂ AssignmentGives e.assignments assigned →
      fromFile.Pairwise (fun a b => Text.bytes a.1 < Text.bytes b.1) ∧
      ∃ (shown : List (String × Value)) (unshown : List String),
        e.formulas = shown.map Prod.fst ++ unshown ∧
        (∀ p ∈ shown,
          (contextOf e.missing (fromFile ++ assigned)).valueAfresh p.1 = .ok p.2 ∧
          runEvaluation contents { e with formulas := [p.1] } = ⟨p.2.toText ++ "\n", none⟩) ∧
        (∀ formula ∈ unshown.head?, ∃ fault,
          (contextOf e.missing (fromFile ++ assigned)).valueAfresh formula = .error fault ∧
          runEvaluation contents { e with formulas := [formula] } =
            ⟨"", some (.evaluating formula fault)⟩) ∧
        (runEvaluation contents e).output =
          String.join (shown.map (printed (1 < e.formulas.length))) ∧
        (runEvaluation contents e).code = if unshown = [] then 0 else 1 := by
  constructor
  · intro hrejected
    obtain ⟨trouble, hcells⟩ := hrejected.cellsFor_eq
    have hrun : runEvaluation contents e = ⟨"", some trouble⟩ := by
      simp only [runEvaluation, hcells]
    rw [hrun]
    exact ⟨rfl, rfl⟩
  · intro fromFile assigned hfile hassigned
    have hcells : cellsFor contents e = .ok (fromFile ++ assigned) :=
      cellsFor_eq_ok_iff.mpr ⟨fromFile, assigned, hfile, hassigned, rfl⟩
    obtain ⟨book, hbook, hrun⟩ := runEvaluation_of_cells hcells
    obtain ⟨shown, unshown, hformulas, hshown, hunshown, hlines, htrouble⟩ :=
      hbook.evaluateAll (1 < e.formulas.length) e.formulas
    refine ⟨hfile.pairwise, shown, unshown, hformulas, ?_, ?_, ?_, ?_⟩
    · exact fun p hp => ⟨hshown p hp, runEvaluation_alone_of_ok hcells (hshown p hp)⟩
    · intro formula hformula
      obtain ⟨fault, hfault⟩ := hunshown formula hformula
      exact ⟨fault, hfault, runEvaluation_alone_of_error hcells hfault⟩
    · rw [hrun]
      dsimp only
      rw [hlines, unlines_valueLines]
    · rw [hrun, Outcome.code]
      by_cases hnil : unshown = []
      · simp [htrouble.mpr hnil, hnil]
      · rw [if_neg hnil, if_pos (Option.isSome_iff_ne_none.mpr fun h => hnil (htrouble.mp h))]

end Worksheet.CommandLine
