import Mathlib.Data.List.Dedup
import Worksheet.Calculator

/-!
# The trees that a calculator keeps

A calculator keeps the trees of the formula texts that it has read, under the stripped text. The
invariant is that it keeps exactly the trees of the stripped texts that have one, and for each the
tree that reading the text afresh yields. A lookup is then the same as reading afresh, whether the
tree is kept or not.

Results:
* `treeOf_cases`: everything that asking for a tree can do.
* `Keeps.fst_treeOfFormula`, `Keeps.fst_evaluate`: trees and values are those read afresh.
* `Keeps.treeOfFormula`, `Keeps.evaluate`: reading a formula keeps its tree and all others.
* `Keeps.kept_eq`: how many trees are kept.
-/

namespace Worksheet

open Formula (Expr SyntaxError)

/-- The value of a formula whose stripped text is read afresh: blank if nothing is left of it. -/
def Context.valueAfresh (context : Context) (formula : String) : Except SyntaxError Value :=
  if Calculator.strip formula = [] then .ok .blank
  else (Expr.ofChars (Calculator.strip formula)).map context.value

namespace Calculator

/-! ## What is to be kept -/

/-- The text under which the tree of a formula is kept. -/
def key (formula : String) : String :=
  String.ofList (strip formula)

/-- Whether a text has a tree. -/
def isReadable (text : String) : Bool :=
  (Expr.ofChars text.toList).isOk

/-- The stripped texts of formulas that have a tree, each once. -/
def readable (formulas : List String) : List String :=
  ((formulas.map key).filter isReadable).dedup

/-- The trees kept are those of the stripped texts of `formulas`, each as it is read afresh. -/
def Keeps (calculator : Calculator) (formulas : List String) : Prop :=
  ∀ text e, calculator.trees[text]? = some e ↔
    text ∈ formulas.map key ∧ Expr.ofChars text.toList = .ok e

theorem isReadable_iff {text : String} :
    isReadable text = true ↔ ∃ e, Expr.ofChars text.toList = .ok e := by
  unfold isReadable
  cases h : Expr.ofChars text.toList <;> simp [Except.isOk, Except.toBool]

theorem toList_key (formula : String) : (key formula).toList = strip formula := by
  simp [key]

/-- The empty text has no tree. -/
theorem ofChars_nil (e : Expr) : Expr.ofChars [] ≠ .ok e := by
  simp [Expr.ofChars, Formula.tokensFrom, Expr.ofTokens, Formula.State.run, Formula.Token.endAt,
    Formula.State.tree?, Formula.State.operand?]

/-! ## Asking for a tree -/

theorem treeOf_cases (calculator : Calculator) (s : List Char) :
    (∃ e, calculator.trees[String.ofList s]? = some e ∧
      calculator.treeOf s = (.ok e, calculator)) ∨
    (∃ e, calculator.trees[String.ofList s]? = none ∧ Expr.ofChars s = .ok e ∧
      calculator.treeOf s =
        (.ok e, { calculator with trees := calculator.trees.insert (String.ofList s) e })) ∨
    (∃ fault, calculator.trees[String.ofList s]? = none ∧ Expr.ofChars s = .error fault ∧
      calculator.treeOf s = (.error fault, calculator)) := by
  unfold treeOf
  cases hkept : calculator.trees[String.ofList s]? with
  | some e => exact .inl ⟨e, rfl, rfl⟩
  | none =>
    cases hread : Expr.ofChars s with
    | ok e => exact .inr (.inl ⟨e, rfl, rfl, rfl⟩)
    | error fault => exact .inr (.inr ⟨fault, rfl, rfl, rfl⟩)

/-- A formula without a tree leaves the calculator as it is. -/
theorem snd_treeOfFormula_of_error {calculator : Calculator} {formula : String}
    {fault : SyntaxError} (h : (calculator.treeOfFormula formula).1 = .error fault) :
    (calculator.treeOfFormula formula).2 = calculator := by
  unfold treeOfFormula at h ⊢
  obtain ⟨e, _, heq⟩ | ⟨e, _, _, heq⟩ | ⟨other, _, _, heq⟩ :=
    calculator.treeOf_cases (strip formula)
  · rw [heq]
  · rw [heq] at h
    cases h
  · rw [heq]

/-- Asking for a tree changes nothing but the trees. -/
theorem treeOfFormula_frame (calculator : Calculator) (formula : String) :
    (calculator.treeOfFormula formula).2.registry = calculator.registry ∧
      (calculator.treeOfFormula formula).2.missing = calculator.missing := by
  unfold treeOfFormula
  obtain ⟨e, _, heq⟩ | ⟨e, _, _, heq⟩ | ⟨fault, _, _, heq⟩ :=
      calculator.treeOf_cases (strip formula) <;>
    rw [heq] <;> exact ⟨rfl, rfl⟩

/-- The value of a formula that is not empty, through its tree. -/
theorem evaluate_of_ne_nil {calculator : Calculator} {cell? : String → Option Cell}
    {formula : String} (h : strip formula ≠ []) :
    calculator.evaluate cell? formula =
      ((calculator.treeOfFormula formula).1.map (calculator.context cell?).value,
        (calculator.treeOfFormula formula).2) := by
  unfold evaluate
  rw [if_neg h]
  cases calculator.treeOfFormula formula with
  | mk result after => cases result <;> rfl

/-- A formula whose evaluation fails leaves the calculator as it is. -/
theorem snd_evaluate_of_error {calculator : Calculator} {cell? : String → Option Cell}
    {formula : String} {fault : SyntaxError}
    (h : (calculator.evaluate cell? formula).1 = .error fault) :
    (calculator.evaluate cell? formula).2 = calculator := by
  by_cases hempty : strip formula = []
  · rw [evaluate_of_empty hempty]
  · rw [evaluate_of_ne_nil hempty] at h ⊢
    cases htree : (calculator.treeOfFormula formula).1 with
    | ok e =>
      rw [htree] at h
      cases h
    | error other => exact snd_treeOfFormula_of_error htree

/-- Evaluating changes nothing but the trees. -/
theorem evaluate_frame (calculator : Calculator) (cell? : String → Option Cell)
    (formula : String) :
    (calculator.evaluate cell? formula).2.registry = calculator.registry ∧
      (calculator.evaluate cell? formula).2.missing = calculator.missing := by
  by_cases hempty : strip formula = []
  · rw [evaluate_of_empty hempty]
    exact ⟨rfl, rfl⟩
  · rw [evaluate_of_ne_nil hempty]
    exact calculator.treeOfFormula_frame formula

namespace Keeps

variable {calculator : Calculator} {formulas : List String}

theorem none (h : calculator.trees = ∅) : calculator.Keeps [] := by
  intro text e
  rw [h]
  simp

/-- The trees are all that the invariant is about. -/
theorem of_trees_eq {other : Calculator} (h : calculator.Keeps formulas)
    (heq : other.trees = calculator.trees) : other.Keeps formulas := by
  unfold Keeps
  rw [heq]
  exact h

theorem fst_treeOf (h : calculator.Keeps formulas) (s : List Char) :
    (calculator.treeOf s).1 = Expr.ofChars s := by
  obtain ⟨e, hkept, heq⟩ | ⟨e, _, hread, heq⟩ | ⟨fault, _, hread, heq⟩ := calculator.treeOf_cases s
  · have hread := ((h _ _).mp hkept).2
    rw [String.toList_ofList] at hread
    rw [heq, hread]
  · rw [heq, hread]
  · rw [heq, hread]

/-- The tree of a formula is that of its stripped text, read afresh. -/
theorem fst_treeOfFormula (h : calculator.Keeps formulas) (formula : String) :
    (calculator.treeOfFormula formula).1 = Expr.ofChars (strip formula) :=
  h.fst_treeOf (strip formula)

/-- A formula whose tree is kept already, or that has none, adds nothing. -/
theorem cons_of_unchanged (h : calculator.Keeps formulas) {formula : String}
    (hkept : ∀ e, Expr.ofChars (strip formula) = .ok e → key formula ∈ formulas.map key) :
    calculator.Keeps (formula :: formulas) := by
  intro text e
  rw [h text e, List.map_cons, List.mem_cons]
  constructor
  · rintro ⟨hmem, hread⟩
    exact ⟨.inr hmem, hread⟩
  · rintro ⟨rfl | hmem, hread⟩
    · rw [toList_key] at hread
      exact ⟨hkept e hread, by rwa [toList_key]⟩
    · exact ⟨hmem, hread⟩

/-- A tree that is read is added under its text. -/
theorem cons_of_inserted (h : calculator.Keeps formulas) {formula : String} {e : Expr}
    (hread : Expr.ofChars (strip formula) = .ok e) :
    { calculator with trees := calculator.trees.insert (key formula) e }.Keeps
      (formula :: formulas) := by
  intro text other
  simp only [Std.TreeMap.getElem?_insert, Std.LawfulEqCmp.compare_eq_iff_eq, List.map_cons,
    List.mem_cons]
  by_cases htext : key formula = text
  · subst htext
    simp [toList_key, hread]
  · rw [if_neg htext, h text other]
    simp [Ne.symm htext]

/-- Asking for the tree of a formula keeps that tree, if there is one, and all others. -/
theorem treeOfFormula (h : calculator.Keeps formulas) (formula : String) :
    (calculator.treeOfFormula formula).2.Keeps (formula :: formulas) := by
  unfold Calculator.treeOfFormula
  obtain ⟨e, hkept, heq⟩ | ⟨e, _, hread, heq⟩ | ⟨fault, _, hread, heq⟩ :=
    calculator.treeOf_cases (strip formula)
  · rw [heq]
    exact h.cons_of_unchanged fun _ _ => ((h _ _).mp hkept).1
  · rw [heq]
    exact h.cons_of_inserted hread
  · rw [heq]
    refine h.cons_of_unchanged fun e hok => ?_
    rw [hread] at hok
    cases hok

/-! ## Evaluating -/

/-- The value of a formula is that of its stripped text, read afresh. -/
theorem fst_evaluate (h : calculator.Keeps formulas) (cell? : String → Option Cell)
    (formula : String) :
    (calculator.evaluate cell? formula).1 = (calculator.context cell?).valueAfresh formula := by
  unfold Context.valueAfresh
  by_cases hempty : strip formula = []
  · rw [evaluate_of_empty hempty, if_pos hempty]
  · rw [evaluate_of_ne_nil hempty, if_neg hempty, h.fst_treeOfFormula formula]

/-- Evaluating a formula keeps its tree, if there is one, and all others. -/
theorem evaluate (h : calculator.Keeps formulas) (cell? : String → Option Cell)
    (formula : String) : (calculator.evaluate cell? formula).2.Keeps (formula :: formulas) := by
  by_cases hempty : strip formula = []
  · rw [evaluate_of_empty hempty]
    refine h.cons_of_unchanged fun e hok => ?_
    rw [hempty] at hok
    exact absurd hok (ofChars_nil e)
  · rw [evaluate_of_ne_nil hempty]
    exact h.treeOfFormula formula

/-! ## Counting -/

theorem mem_trees_iff (h : calculator.Keeps formulas) {text : String} :
    text ∈ calculator.trees ↔ text ∈ readable formulas := by
  unfold readable
  rw [List.mem_dedup, List.mem_filter, isReadable_iff, Std.TreeMap.mem_iff_isSome_getElem?,
    Option.isSome_iff_exists]
  constructor
  · rintro ⟨e, hkept⟩
    obtain ⟨hmem, hread⟩ := (h text e).mp hkept
    exact ⟨hmem, e, hread⟩
  · rintro ⟨hmem, e, hread⟩
    exact ⟨e, (h text e).mpr ⟨hmem, hread⟩⟩

/-- As many trees are kept as there are texts to be kept. -/
theorem kept_eq (h : calculator.Keeps formulas) :
    calculator.kept = (readable formulas).length := by
  have hnodup : (readable formulas).Nodup := List.nodup_dedup _
  have hperm : calculator.trees.keys.Perm (readable formulas) := by
    refine (List.perm_ext_iff_of_nodup Std.TreeMap.nodup_keys hnodup).mpr fun text => ?_
    rw [Std.TreeMap.mem_keys, h.mem_trees_iff]
  rw [← hperm.length_eq, Std.TreeMap.length_keys]
  rfl

end Keeps

end Calculator

end Worksheet
