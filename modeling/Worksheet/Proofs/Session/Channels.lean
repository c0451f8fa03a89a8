import Worksheet.Proofs.Evaluation.Enclosure
import Worksheet.Proofs.Formula.Faults
import Worksheet.Proofs.Session.Invisible

/-!
# Errors of syntax and errors that are values

An evaluation fails only for the text of its formula, and then in every workbook alike. Whatever
goes wrong behind that, in a call above all, is a value among values: what encloses the call goes
on with it. Workbooks are taken in every state that they come to, with any cells, functions and
policy, and with whatever trees they keep by then.

Results:
* `Reached.keeps`: the trees that a workbook keeps are right in every state.
* `evaluateWith_eq_valueAfresh`: an evaluation is one that reads its formula afresh.
* `evaluateWith_channels_apart`: what fails, where, and what is a value.
-/

namespace Worksheet

open Formula (Expr Enclosure SyntaxError tokensFrom)

namespace Workbook

/-! ## States of workbooks -/

/-- The states that workbooks come to. -/
inductive Reached : Workbook → Prop
  | start (missing) : Reached (Workbook.start missing)
  | request {book} (r) : Reached book → Reached (Session.perform book r).2
  /-- A formula is evaluated against any source of cells. -/
  | evaluation {book} (cell? formula) : Reached book → Reached (book.evaluateWith cell? formula).2
  /-- Cells, functions and policy give way to others. -/
  | exchange {book} (sheet registry missing) : Reached book →
      Reached ⟨sheet, { book.calculator with registry, missing }⟩

/-- The trees that a workbook keeps are those of some formulas, as they are read afresh. -/
theorem Reached.keeps {book : Workbook} (h : book.Reached) :
    ∃ formulas, book.calculator.Keeps formulas := by
  induction h with
  | start missing => exact ⟨_, Session.keeps_start missing⟩
  | request r _ ih =>
    obtain ⟨formulas, hkeeps⟩ := ih
    exact ⟨_, (Session.perform_spec hkeeps r).2.2⟩
  | evaluation cell? formula _ ih =>
    obtain ⟨formulas, hkeeps⟩ := ih
    exact ⟨_, (Session.evaluateWith_spec hkeeps cell? formula).2.2⟩
  | exchange sheet registry missing _ ih =>
    obtain ⟨formulas, hkeeps⟩ := ih
    exact ⟨_, hkeeps.of_trees_eq rfl⟩

variable {book : Workbook}

/-- In every state, an evaluation is one that reads its formula afresh. -/
theorem evaluateWith_eq_valueAfresh (h : book.Reached) (cell? : String → Option Cell)
    (formula : String) :
    (book.evaluateWith cell? formula).1 = (book.calculator.context cell?).valueAfresh formula := by
  obtain ⟨formulas, hkeeps⟩ := h.keeps
  exact (Session.evaluateWith_spec hkeeps cell? formula).1

/-! ## Failures and values -/

theorem valueAfresh_eq_error_iff {context : Context} {formula : String} {fault : SyntaxError} :
    context.valueAfresh formula = .error fault ↔
      Calculator.strip formula ≠ [] ∧ Expr.ofChars (Calculator.strip formula) = .error fault := by
  unfold Context.valueAfresh
  by_cases hempty : Calculator.strip formula = []
  · simp [hempty]
  · rw [if_neg hempty]
    cases Expr.ofChars (Calculator.strip formula) with
    | ok e => simp [Except.map]
    | error e => simp [Except.map, hempty]

theorem valueAfresh_of_ofChars {context : Context} {formula : String} {e : Expr}
    (h : Expr.ofChars (Calculator.strip formula) = .ok e) :
    context.valueAfresh formula = .ok (context.value e) := by
  have hempty : Calculator.strip formula ≠ [] := by
    intro hempty
    rw [hempty] at h
    exact Calculator.ofChars_nil e h
  rw [Context.valueAfresh, if_neg hempty, h]
  rfl

/-- **Two channels.** In every state of a workbook and against any cells, an evaluation fails
exactly if something is left of the formula once it is stripped and its characters or its tokens are
refused, with that refusal, which no state has a part in. The fault lies within the stripped
formula, and no function reports it. Otherwise there is a value: blank if nothing is left of the
formula, or the value of its tree. A call in the tree that fails has one of two errors as its value,
and what encloses it is evaluated with that. -/
theorem evaluateWith_channels_apart (h : book.Reached) (cell? : String → Option Cell)
    (formula : String) :
    let s := Calculator.strip formula
    let context := book.calculator.context cell?
    let result := (book.evaluateWith cell? formula).1
    (∀ fault, result = .error fault ↔
      s ≠ [] ∧ (tokensFrom 0 s = .error fault ∨
        ∃ ts, tokensFrom 0 s = .ok ts ∧ Expr.ofTokens ts = .error fault)) ∧
    (∀ fault, result = .error fault →
      fault.position ≤ s.length ∧ ∀ message, fault.fault ≠ .reported message) ∧
    (s = [] → result = .ok .blank) ∧
    (∀ e, Expr.ofChars s = .ok e → result = .ok (context.value e)) ∧
    ∀ path name args code, Expr.ofChars s = .ok (Expr.within (.call name args) path) →
      context.CallFails name args code →
      (code = .name ∨ code = .value) ∧ result = .ok (context.valueWithin (.error code) path) := by
  intro s context result
  have hresult : result = context.valueAfresh formula := evaluateWith_eq_valueAfresh h cell? formula
  have hfails : ∀ fault, result = .error fault ↔ s ≠ [] ∧ Expr.ofChars s = .error fault := by
    intro fault
    rw [hresult, valueAfresh_eq_error_iff]
  refine ⟨fun fault => ?_, fun fault hfault => ?_, fun hempty => ?_, fun e he => ?_,
    fun path name args code hread hcall => ⟨hcall.code_eq, ?_⟩⟩
  · rw [hfails, Formula.ofChars_eq_error_iff]
  · exact Formula.fault_of_ofChars ((hfails fault).mp hfault).2
  · rw [hresult, Context.valueAfresh, if_pos hempty]
  · rw [hresult, valueAfresh_of_ofChars he]
  · rw [hresult, valueAfresh_of_ofChars hread, Context.value_within, hcall.value_eq]

/-- A workbook with a function that crashes. -/
def crashing : Workbook :=
  (Session.perform (.start .referenceError)
    (.register (.make "f" 0 none fun _ => .error .crashed))).2

theorem ofChars_guardedCrash :
    Expr.ofChars (Calculator.strip "=IFERROR(f(A1),\"x\")") =
      .ok (.call "IFERROR" [.call "F" [.cell "A1"], .text "x"]) := by
  have hchars : Calculator.strip "=IFERROR(f(A1),\"x\")" = "IFERROR(f(A1),\"x\")".toList := by rfl
  have htokens : tokensFrom 0 "IFERROR(f(A1),\"x\")".toList =
      .ok [⟨.identifier, "IFERROR", 0⟩, ⟨.openParen, "(", 7⟩, ⟨.identifier, "f", 8⟩,
        ⟨.openParen, "(", 9⟩, ⟨.identifier, "A1", 10⟩, ⟨.closeParen, ")", 12⟩, ⟨.comma, ",", 13⟩,
        ⟨.text, "x", 14⟩, ⟨.closeParen, ")", 17⟩, ⟨.endOfInput, "", 18⟩] := by decide +kernel
  unfold Expr.ofChars
  rw [hchars, htokens]
  rfl

/-- A crash inside `IFERROR` is an error value there, and the formula has the value put in its
place. -/
theorem evaluateWith_guardedCrash :
    crashing.Reached ∧
      (crashing.calculator.context Sheet.empty.get?).CallFails "F" [.cell "A1"] .value ∧
      (crashing.evaluateWith Sheet.empty.get? "=IFERROR(f(A1),\"x\")").1 = .ok (.text "x") := by
  have hreached : crashing.Reached := .request _ (.start _)
  have hcrash : (crashing.calculator.context Sheet.empty.get?).registry.get? "F" =
      some (.make "f" 0 none fun _ => .error .crashed) := by
    show (Registry.standard.register _).get? "F" = _
    rw [Registry.get?_register, if_pos (by decide +kernel)]
  have hguard : (crashing.calculator.context Sheet.empty.get?).registry.get? "IFERROR" =
      some (Functions.entry "IFERROR" 2 (some 2) Functions.ifError) := by
    have hlibrary : Functions.entry "IFERROR" 2 (some 2) Functions.ifError ∈
        Functions.library := by simp [Functions.library]
    show (Registry.standard.register _).get? "IFERROR" = _
    rw [Registry.get?_register, if_neg (by decide +kernel), Registry.get?_standard hlibrary]
  have hfails : (crashing.calculator.context Sheet.empty.get?).CallFails "F" [.cell "A1"] .value :=
    .failed hcrash ⟨Nat.zero_le _, fun _ hmost => nomatch hmost⟩ rfl
  have hread : Expr.ofChars (Calculator.strip "=IFERROR(f(A1),\"x\")") =
      .ok (Expr.within (.call "F" [.cell "A1"]) [.argument "IFERROR" [] [.text "x"]]) :=
    ofChars_guardedCrash
  obtain ⟨_, _, _, _, hcall⟩ :=
    evaluateWith_channels_apart hreached Sheet.empty.get? "=IFERROR(f(A1),\"x\")"
  refine ⟨hreached, hfails, (hcall _ _ _ _ hread hfails).2.trans ?_⟩
  simp only [Context.valueWithin, Context.valueAround, List.foldl, Registry.call_of_get? hguard]
  rfl

end Workbook

end Worksheet
