import Worksheet.Proofs.Formula.Moving
import Worksheet.Proofs.Session.Channels

/-!
# Two ways to read a formula

A formula can be read by itself, or by a calculator, which keeps its tree. The two ways prepare the
text differently: both leave out the blanks around it and one equals sign, but only the calculator
leaves out the blanks behind that sign too. They agree on every tree. Where they find fault, it is
the same fault, and the calculator counts its place without those blanks.

Results:
* `dropEquals_trim_eq`: what the two ways read of a formula.
* `ofText_eq_ofChars_strip`: what they make of it.
* `treeOfFormula_agrees`: the two ways in every state of a workbook.
-/

namespace Worksheet

open Formula (Expr SyntaxError dropEquals)

namespace Calculator

/-- How many blanks stand directly behind an equals sign at the start of a text. -/
def blanksBehindEquals : List Char → Nat
  | '=' :: rest => (rest.takeWhile Text.isBlank).length
  | _ => 0

/-- A text without a blank at its start has blanks behind an equals sign where it has blanks at its
start once the sign is left out. -/
theorem length_blanks_dropEquals {s : List Char}
    (hfirst : ∀ c, s.head? = some c → Text.isBlank c = false) :
    ((dropEquals s).takeWhile Text.isBlank).length = blanksBehindEquals s := by
  cases s with
  | nil => rfl
  | cons c rest =>
    by_cases hc : c = '='
    · subst hc
      rfl
    · simp [dropEquals, blanksBehindEquals, hc, hfirst c rfl]

theorem isBlank_of_getLast?_dropEquals {s : List Char}
    (hlast : ∀ c, s.getLast? = some c → Text.isBlank c = false) {c : Char}
    (h : (dropEquals s).getLast? = some c) : Text.isBlank c = false := by
  unfold dropEquals at h
  split at h
  · next rest =>
    apply hlast
    rw [List.getLast?_cons, h]
    rfl
  · exact hlast c h

/-- What is read of a formula by itself is what a calculator reads, behind blanks. -/
theorem dropEquals_trim_eq (formula : String) :
    dropEquals (Text.trim formula.toList) =
      (dropEquals (Text.trim formula.toList)).takeWhile Text.isBlank ++ strip formula := by
  have hstrip : strip formula = (dropEquals (Text.trim formula.toList)).dropWhile Text.isBlank := by
    apply Text.trim_eq_trimStart
    intro c
    exact isBlank_of_getLast?_dropEquals fun d => Text.isBlank_of_getLast?_trim
  rw [hstrip, List.takeWhile_append_dropWhile]

/-- A formula read by itself has the tree of its stripped text, or its fault behind the blanks that
were not stripped. -/
theorem ofText_eq_ofChars_strip (formula : String) :
    Expr.ofText formula = (Expr.ofChars (strip formula)).mapError
      (SyntaxError.moved (blanksBehindEquals (Text.trim formula.toList))) := by
  have hblanks : ∀ c ∈ (dropEquals (Text.trim formula.toList)).takeWhile Text.isBlank,
      Text.isBlank c = true := fun c hc =>
    List.all_eq_true.mp List.all_takeWhile c hc
  rw [Expr.ofText, dropEquals_trim_eq, Formula.ofChars_blanks_append hblanks,
    length_blanks_dropEquals fun c => Text.isBlank_of_head?_trim]

end Calculator

namespace Workbook

variable {book : Workbook}

/-- **Two readings.** In every state of a workbook, whatever trees it keeps, its calculator finds a
tree for a formula exactly if the formula read by itself has that tree. If the calculator finds a
fault, so does the other reading: the same one, as many characters further on as there are blanks
behind an equals sign at the start of the trimmed formula. -/
theorem treeOfFormula_agrees (h : book.Reached) (formula : String) :
    let found := (book.calculator.treeOfFormula formula).1
    let skipped := Calculator.blanksBehindEquals (Text.trim formula.toList)
    (∀ e, found = .ok e ↔ Expr.ofText formula = .ok e) ∧
      ∀ fault, found = .error fault →
        ∃ other, Expr.ofText formula = .error other ∧
          other.position = fault.position + skipped ∧ other.fault = fault.fault.moved skipped := by
  intro found skipped
  obtain ⟨formulas, hkeeps⟩ := h.keeps
  have hfound : found = Expr.ofChars (Calculator.strip formula) :=
    hkeeps.fst_treeOfFormula formula
  rw [Calculator.ofText_eq_ofChars_strip, ← hfound]
  constructor
  · intro e
    cases found with
    | ok tree => exact Iff.rfl
    | error fault => simp [Except.mapError]
  · rintro fault hfault
    rw [hfault]
    exact ⟨_, rfl, rfl, rfl⟩

/-- A workbook that keeps a tree already. -/
def onceAsked : Workbook :=
  (Workbook.evaluateWith (.start .referenceError) Sheet.empty.get? "= 1").2

theorem onceAsked_reached : onceAsked.Reached :=
  .evaluation _ _ (.start _)

theorem treeOfFormula_openSum :
    (onceAsked.calculator.treeOfFormula " =  1+").1 =
      .error ⟨2, .unexpected (Formula.Token.endAt 2)⟩ := by
  obtain ⟨formulas, hkeeps⟩ := onceAsked_reached.keeps
  have hstrip : Calculator.strip " =  1+" = ['1', '+'] := by rfl
  have htokens : Formula.tokensFrom 0 ['1', '+'] =
      .ok [⟨.number, "1", 0⟩, ⟨.plus, "+", 1⟩, ⟨.endOfInput, "", 2⟩] := by decide +kernel
  rw [hkeeps.fst_treeOfFormula, hstrip, Expr.ofChars, htokens]
  rfl

/-- `=  1+` is refused at its end, which is two characters further on if the blanks are not left
out. -/
theorem treeOfFormula_agrees_openSum :
    onceAsked.Reached ∧
      (onceAsked.calculator.treeOfFormula " =  1+").1 =
        .error ⟨2, .unexpected (Formula.Token.endAt 2)⟩ ∧
      ∃ other, Expr.ofText " =  1+" = .error other ∧ other.position = 4 ∧
        other.fault = .unexpected (Formula.Token.endAt 4) := by
  obtain ⟨_, hfault⟩ := treeOfFormula_agrees onceAsked_reached " =  1+"
  exact ⟨onceAsked_reached, treeOfFormula_openSum, hfault _ treeOfFormula_openSum⟩

end Workbook

end Worksheet
