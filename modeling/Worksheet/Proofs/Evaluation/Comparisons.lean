import Worksheet.Evaluation
import Worksheet.Proofs.Number.Order

/-!
# Comparison operators

The six comparison operators read one order of values, numbers by their keys and texts by their
upper case. Two values that are not both numbers are compared as texts, so the order is none on all
values together: it is transitive among numbers, and among values that are none.

Results:
* `Comparison.ofValues_swap`: comparing the other way round.
* `Comparison.isLE_trans`: transitivity among values of one sort.
* `binary_of_isComparison`: what a comparison operator yields.
* `comparisons_consistent`: how the six operators go together.
-/

namespace Worksheet

open Formula (BinaryOp)

/-! ## The order of values -/

namespace Comparison

instance : Std.TransCmp ofNumbers := by
  have heq : ofNumbers = Number.order := by
    funext x y
    exact ofNumbers_eq x y
  rw [heq]
  infer_instance

instance : Std.TransCmp ofTexts :=
  inferInstanceAs (Std.TransCmp (compareOn Text.upper))

variable {u v w : Value} {x y : Float}

theorem ofValues_of_numbers (hv : v.toNumber? = some x) (hw : w.toNumber? = some y) :
    ofValues v w = ofNumbers x y := by
  rw [ofValues, hv, hw]

theorem ofValues_of_left (hv : v.toNumber? = none) : ofValues v w = ofTexts v.toText w.toText := by
  rw [ofValues, hv]

theorem ofValues_of_right (hw : w.toNumber? = none) :
    ofValues v w = ofTexts v.toText w.toText := by
  rw [ofValues, hw]
  split
  · next heq => cases heq
  · rfl

theorem ofValues_swap (v w : Value) : ofValues v w = (ofValues w v).swap := by
  cases hv : v.toNumber? with
  | none =>
    rw [ofValues_of_left hv, ofValues_of_right hv]
    exact Std.OrientedCmp.eq_swap
  | some x =>
    cases hw : w.toNumber? with
    | none =>
      rw [ofValues_of_right hw, ofValues_of_left hw]
      exact Std.OrientedCmp.eq_swap
    | some y =>
      rw [ofValues_of_numbers hv hw, ofValues_of_numbers hw hv]
      exact Std.OrientedCmp.eq_swap

/-- Among numbers, and among values that are none, the order is transitive. -/
theorem isLE_trans (hvw : v.toNumber?.isSome = w.toNumber?.isSome)
    (hwu : w.toNumber?.isSome = u.toNumber?.isSome) (hle : (ofValues v w).isLE = true)
    (hle' : (ofValues w u).isLE = true) : (ofValues v u).isLE = true := by
  cases hw : w.toNumber? with
  | none =>
    rw [hw, Option.isSome_none, Option.isSome_eq_false_iff, Option.isNone_iff_eq_none] at hvw
    rw [ofValues_of_left hvw] at hle ⊢
    rw [ofValues_of_left hw] at hle'
    exact Std.TransCmp.isLE_trans hle hle'
  | some y =>
    rw [hw, Option.isSome_some] at hvw hwu
    obtain ⟨x, hv⟩ := Option.isSome_iff_exists.mp hvw
    obtain ⟨z, hu⟩ := Option.isSome_iff_exists.mp hwu.symm
    rw [ofValues_of_numbers hv hw] at hle
    rw [ofValues_of_numbers hw hu] at hle'
    rw [ofValues_of_numbers hv hu]
    exact Std.TransCmp.isLE_trans hle hle'

end Comparison

/-! ## The operators -/

namespace Context

/-- An operator yields true for two values. -/
def Affirms (op : BinaryOp) (v w : Value) : Prop :=
  binary op v w = .logical true

/-- An operator yields false for two values. -/
def Denies (op : BinaryOp) (v w : Value) : Prop :=
  binary op v w = .logical false

variable {op : BinaryOp} {u v w : Value}

theorem binary_of_isComparison (hop : op.isComparison = true) (hv : v.isError = false)
    (hw : w.isError = false) :
    binary op v w = .logical (compares op (Comparison.ofValues v w)) := by
  have hconcat : op ≠ .concat := by
    rintro rfl
    cases hop
  simp only [binary, combine, hv, hw, hop, hconcat, Bool.false_eq_true, if_false, if_true]

theorem affirms_iff (hv : v.isError = false) (hw : w.isError = false) (op : BinaryOp)
    (hop : op.isComparison = true) :
    Affirms op v w ↔ compares op (Comparison.ofValues v w) = true := by
  rw [Affirms, binary_of_isComparison hop hv hw, Value.logical.injEq]

theorem denies_iff (hv : v.isError = false) (hw : w.isError = false) (op : BinaryOp)
    (hop : op.isComparison = true) :
    Denies op v w ↔ compares op (Comparison.ofValues v w) = false := by
  rw [Denies, binary_of_isComparison hop hv hw, Value.logical.injEq]

theorem affirms_lessEqual_iff (hv : v.isError = false) (hw : w.isError = false) :
    Affirms .lessEqual v w ↔ (Comparison.ofValues v w).isLE = true := by
  rw [affirms_iff hv hw .lessEqual rfl]
  cases Comparison.ofValues v w <;> decide

/-- **One order.** Of two values that are no errors, exactly one of "less", "equal" and "greater"
is true. Each of the other three operators is true exactly when the opposite one is false. "Less" is
"greater" the other way round, and "equal" is symmetric. Among numbers, and among values that are
none, "less or equal" is transitive. -/
theorem comparisons_consistent (hv : v.isError = false) (hw : w.isError = false) :
    ((Affirms .less v w ∧ Denies .equal v w ∧ Denies .greater v w) ∨
        (Denies .less v w ∧ Affirms .equal v w ∧ Denies .greater v w) ∨
        (Denies .less v w ∧ Denies .equal v w ∧ Affirms .greater v w)) ∧
      (Affirms .lessEqual v w ↔ Denies .greater v w) ∧
      (Affirms .greaterEqual v w ↔ Denies .less v w) ∧
      (Affirms .notEqual v w ↔ Denies .equal v w) ∧
      (Affirms .less v w ↔ Affirms .greater w v) ∧
      (Affirms .equal v w ↔ Affirms .equal w v) ∧
      ∀ u : Value, u.isError = false → v.toNumber?.isSome = w.toNumber?.isSome →
        w.toNumber?.isSome = u.toNumber?.isSome → Affirms .lessEqual v w →
        Affirms .lessEqual w u → Affirms .lessEqual v u := by
  have affirms := affirms_iff hv hw
  have denies := denies_iff hv hw
  have affirms' := affirms_iff hw hv
  have hswap := Comparison.ofValues_swap w v
  refine ⟨?_, ?_, ?_, ?_, ?_, ?_, ?_⟩
  · rw [affirms .less rfl, affirms .equal rfl, affirms .greater rfl, denies .less rfl,
      denies .equal rfl, denies .greater rfl]
    cases Comparison.ofValues v w <;> decide
  · rw [affirms .lessEqual rfl, denies .greater rfl]
    cases Comparison.ofValues v w <;> decide
  · rw [affirms .greaterEqual rfl, denies .less rfl]
    cases Comparison.ofValues v w <;> decide
  · rw [affirms .notEqual rfl, denies .equal rfl]
    cases Comparison.ofValues v w <;> decide
  · rw [affirms .less rfl, affirms' .greater rfl, hswap]
    cases Comparison.ofValues v w <;> decide
  · rw [affirms .equal rfl, affirms' .equal rfl, hswap]
    cases Comparison.ofValues v w <;> decide
  · intro u hu hvw hwu hle hle'
    rw [affirms_lessEqual_iff hv hw] at hle
    rw [affirms_lessEqual_iff hw hu] at hle'
    rw [affirms_lessEqual_iff hv hu]
    exact Comparison.isLE_trans hvw hwu hle hle'

/-- NaN is less than `TRUE`, which is one, as the text ` 1 ` is. -/
theorem comparisons_consistent_notANumber :
    (Value.number Number.notANumber).isError = false ∧ (Value.logical true).isError = false ∧
      Affirms .less (.number Number.notANumber) (.logical true) ∧
      Affirms .greater (.logical true) (.number Number.notANumber) ∧
      Affirms .lessEqual (.number Number.notANumber) (.text " 1 ") := by
  have hv : (Value.number Number.notANumber).isError = false := rfl
  have hw : (Value.logical true).isError = false := rfl
  have hless : Affirms .less (.number Number.notANumber) (.logical true) := by rfl
  have hle : Affirms .lessEqual (.number Number.notANumber) (.logical true) := by rfl
  have hle' : Affirms .lessEqual (.logical true) (.text " 1 ") := by rfl
  obtain ⟨-, -, -, -, hgreater, -, htrans⟩ := comparisons_consistent hv hw
  exact ⟨hv, hw, hless, hgreater.mp hless, htrans (.text " 1 ") rfl rfl (by rfl) hle hle'⟩

end Context

end Worksheet
