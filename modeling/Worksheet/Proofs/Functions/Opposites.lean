import Worksheet.Functions.Statistics
import Worksheet.Proofs.Number.Digits
import Worksheet.Proofs.Number.Differences
import Worksheet.Proofs.Number.Order
import Worksheet.Proofs.Number.Sums
import Worksheet.Proofs.Text.Classes

/-!
# Opposite criteria

The comparisons of criteria come in pairs of opposites, so that one criterion of a pair selects the
numbers that the other one leaves. For the four comparisons by order this is so. Equality and
difference allow for a tolerance: numbers closer than it are equal, numbers farther apart are
different, and at the tolerance itself they are neither.

Results:
* `comparison_criterion`: a comparison is read from its sign and its bound.
* `holds_add_holds_opposite`: a comparison, its opposite, or neither.
* `selected_add_selected_opposite`: the items that a pair of criteria selects, and their numbers.
* `passedOver_billionth`: a number that is neither equal to zero nor different from it.
-/

namespace Worksheet

namespace Number

/-- No number is written with a sign of comparison in front. -/
theorem ofText?_eq_none {c : Char} (h : c = '=' ∨ c = '>') (s : List Char) :
    ofText? (c :: s) = none := by
  have hblank : Text.isBlank c = false := by rcases h with rfl | rfl <;> rfl
  obtain ⟨more, hmore⟩ := Text.exists_trim_cons hblank s
  have hread : read (c :: more) = none := by
    rcases h with rfl | rfl
    · have hword := readWord_eq_none (by decide : '='.toLower ≠ 'i') (by decide) more
      simp [read, splitSign, hword, readDecimal, splitFraction]
    · have hword := readWord_eq_none (by decide : '>'.toLower ≠ 'i') (by decide) more
      simp [read, splitSign, hword, readDecimal, splitFraction]
  rw [ofText?, hmore, hread]
  rfl

end Number

namespace Functions

namespace Relation

/-! ## Comparisons in texts -/

/-- How a comparison is written. -/
def symbol : Relation → String
  | equal => "="
  | notEqual => "<>"
  | less => "<"
  | lessEqual => "<="
  | greater => ">"
  | greaterEqual => ">="

/-- The comparison that is meant to hold where another one does not. -/
def opposite : Relation → Relation
  | equal => notEqual
  | notEqual => equal
  | less => greaterEqual
  | greaterEqual => less
  | greater => lessEqual
  | lessEqual => greater

/-- The criterion that compares items with the number that a text holds. -/
def criterion (relation : Relation) (bound : String) : Value :=
  .text (relation.symbol ++ bound)

/-- A comparison is told from the longer one that it starts by what follows it. -/
theorem split?_symbol_append (relation : Relation) {rest : List Char}
    (h : ∀ d, rest.head? = some d → ¬ (d = '=' ∨ d = '>')) :
    split? (relation.symbol.toList ++ rest) = some (relation, rest) := by
  cases relation with
  | notEqual | lessEqual | greaterEqual => rfl
  | equal | less | greater =>
    cases rest with
    | nil => rfl
    | cons d rest =>
      have hd := not_or.mp (h d rfl)
      simp [symbol, split?, hd]

variable {bound : String} {c x : Float}

/-- A sign of comparison in front of a number makes a criterion that compares with the number. -/
theorem comparison_criterion (relation : Relation) (h : Number.ofText? bound.toList = some c) :
    (Criterion.ofValue (relation.criterion bound)).comparison = some (relation, c) := by
  have hhead : ∀ d, bound.toList.head? = some d → ¬ (d = '=' ∨ d = '>') := by
    intro d hd hsign
    obtain ⟨more, hmore⟩ := List.head?_eq_some_iff.mp hd
    rw [hmore, Number.ofText?_eq_none hsign] at h
    cases h
  show Criterion.comparison? (relation.symbol ++ bound).toList = _
  rw [String.toList_append, Criterion.comparison?, split?_symbol_append relation hhead]
  show (Number.ofText? bound.toList).map _ = _
  rw [h]
  rfl

/-- Items that are numbers are compared. -/
theorem selects_criterion (relation : Relation) (h : Number.ofText? bound.toList = some c)
    {item : Value} (hitem : item.toNumber? = some x) :
    (Criterion.ofValue (relation.criterion bound)).selects item = relation.holds x c := by
  unfold Criterion.selects
  rw [comparison_criterion relation h, hitem]

/-! ## Opposites -/

/-- Whether neither a relation nor its opposite holds: equality stops short of the tolerance, and
difference starts behind it. -/
def passesOver (relation : Relation) (item bound : Float) : Bool :=
  match relation with
  | equal | notEqual => (item - bound).abs == tolerance
  | less | lessEqual | greater | greaterEqual => false

theorem holds_add_holds_opposite (relation : Relation) (hx : x.isNaN = false)
    (hc : c.isFinite = true) :
    (relation.holds x c).toNat + (relation.opposite.holds x c).toNat +
      (relation.passesOver x c).toNat = 1 := by
  have hnumber : c.isNaN = false := Number.isNaN_eq_false_of_isFinite hc
  have hless := Number.lt_add_le hx hnumber
  have hgreater := Number.lt_add_le hnumber hx
  have hdistance : (x - c).abs.isNaN = false := Number.isNaN_abs.trans (Number.isNaN_sub hx hc)
  have hthree := Number.lt_add_gt_add_beq hdistance (by rfl : tolerance.isNaN = false)
  cases relation with
  | equal => exact hthree
  | notEqual =>
    have hswap := Nat.add_comm (decide ((x - c).abs > tolerance)).toNat
      (decide ((x - c).abs < tolerance)).toNat
    exact (congrArg (· + ((x - c).abs == tolerance).toNat) hswap).trans hthree
  | less => exact hless
  | greaterEqual => exact (Nat.add_comm (decide (x ≥ c)).toNat _).trans hless
  | greater => exact hgreater
  | lessEqual => exact (Nat.add_comm (decide (x ≤ c)).toNat _).trans hgreater

/-! ## Counts -/

/-- Of three conditions one of which holds for each item, the counts sum to the length. -/
theorem countP_add_countP_add_countP {p q r : Value → Bool} {items : List Value}
    (h : ∀ item ∈ items, (p item).toNat + (q item).toNat + (r item).toNat = 1) :
    items.countP p + items.countP q + items.countP r = items.length := by
  induction items with
  | nil => rfl
  | cons item items ih =>
    have hrest := ih fun other hother => h other (List.mem_cons_of_mem _ hother)
    have hone := h item List.mem_cons_self
    have hhead : ∀ s : Value → Bool, (item :: items).countP s = items.countP s + (s item).toNat :=
      fun s => by
        rw [List.countP_cons]
        cases s item <;> rfl
    rw [hhead, hhead, hhead, List.length_cons]
    omega

/-- How many items a comparison selects. -/
def selected (relation : Relation) (bound : String) (items : List Value) : Nat :=
  items.countP (Criterion.ofValue (relation.criterion bound)).selects

/-- How many items neither a comparison nor its opposite selects. -/
def passedOver (relation : Relation) (bound : Float) (items : List Value) : Nat :=
  items.countP fun item => item.toNumber?.any fun x => relation.passesOver x bound

variable {items : List Value}

/-- Items that are numbers are no errors, so a count passes over none of them for that. -/
theorem countIf_eq_selected (relation : Relation) (bound : String)
    (h : ∀ item ∈ items, ∃ x, item.toNumber? = some x) :
    countIf [.list items, relation.criterion bound] =
      .number (Float.ofNat (relation.selected bound items)) := by
  have hvalid : ∀ item ∈ items, item.isError = false := by
    intro item hitem
    obtain ⟨x, hx⟩ := h item hitem
    cases item with
    | error code => cases hx
    | _ => rfl
  have hcount : items.countP (Criterion.ofValue (relation.criterion bound)).selectsValid =
      relation.selected bound items := by
    apply List.countP_congr
    intro item hitem
    rw [Criterion.selectsValid, hvalid item hitem, Bool.not_false, Bool.true_and]
  rw [countIf, Value.elements, hcount]

theorem count_eq_length (h : ∀ item ∈ items, ∃ x, item.toNumber? = some x) :
    count [.list items] = .number (Float.ofNat items.length) := by
  have hnumbers : numbers [.list items] = items.filterMap Value.toNumber? := by
    simp [numbers, flatten, Value.elements]
  have hlength : (items.filterMap Value.toNumber?).length = items.length := by
    rw [List.filterMap_length_eq_length]
    exact fun item hitem => Option.isSome_iff_exists.mpr (h item hitem)
  rw [count, hnumbers, hlength]

/-- **Opposite criteria.** Of the criterion that compares with a number and the opposite criterion,
exactly one selects an item that is a number other than NaN; only an item whose distance from the
number is the tolerance itself is selected neither as equal nor as different. So for a list of such
items the two counts and the number of items that are passed over sum to the number of items. -/
theorem selected_add_selected_opposite (relation : Relation)
    (h : Number.ofText? bound.toList = some c) :
    (∀ item x, item.toNumber? = some x → x.isNaN = false →
      ((Criterion.ofValue (relation.criterion bound)).selects item).toNat +
        ((Criterion.ofValue (relation.opposite.criterion bound)).selects item).toNat +
          (relation.passesOver x c).toNat = 1) ∧
      ∀ items : List Value, (∀ item ∈ items, ∃ x, item.toNumber? = some x ∧ x.isNaN = false) →
        countIf [.list items, relation.criterion bound] =
          .number (Float.ofNat (relation.selected bound items)) ∧
        countIf [.list items, relation.opposite.criterion bound] =
          .number (Float.ofNat (relation.opposite.selected bound items)) ∧
        count [.list items] = .number (Float.ofNat items.length) ∧
        relation.selected bound items + relation.opposite.selected bound items +
          relation.passedOver c items = items.length ∧
        (items.length < 2 ^ 53 →
          Float.ofNat (relation.selected bound items) +
            Float.ofNat (relation.opposite.selected bound items) =
              Float.ofNat (items.length - relation.passedOver c items)) := by
  have hone : ∀ item x, item.toNumber? = some x → x.isNaN = false →
      ((Criterion.ofValue (relation.criterion bound)).selects item).toNat +
        ((Criterion.ofValue (relation.opposite.criterion bound)).selects item).toNat +
          (relation.passesOver x c).toNat = 1 := by
    intro item x hitem hx
    rw [relation.selects_criterion h hitem, relation.opposite.selects_criterion h hitem]
    exact relation.holds_add_holds_opposite hx (Number.ofText?_isFinite h)
  refine ⟨hone, fun items hitems => ?_⟩
  have hnumbers : ∀ item ∈ items, ∃ x, item.toNumber? = some x :=
    fun item hitem => (hitems item hitem).imp fun _ => And.left
  have hsum : relation.selected bound items + relation.opposite.selected bound items +
      relation.passedOver c items = items.length := by
    refine countP_add_countP_add_countP fun item hitem => ?_
    obtain ⟨x, hnumber, hx⟩ := hitems item hitem
    rw [hnumber]
    exact hone item x hnumber hx
  refine ⟨countIf_eq_selected relation bound hnumbers,
    countIf_eq_selected relation.opposite bound hnumbers, count_eq_length hnumbers, hsum,
    fun hlt => ?_⟩
  rw [Number.ofNat_add (by omega), ← hsum, Nat.add_sub_cancel]

/-- Numbers, numeric text, a logical value, a blank and infinity, split at two. -/
theorem selected_add_selected_opposite_two :
    Float.ofNat (less.selected "2" [.number 1, .text " 2.5 ", .logical true, .blank,
        .number Number.infinity]) +
      Float.ofNat (greaterEqual.selected "2" [.number 1, .text " 2.5 ", .logical true, .blank,
        .number Number.infinity]) = Float.ofNat 5 := by
  have hbound : Number.ofText? "2".toList = some 2 := by decide +kernel
  obtain ⟨-, hcounts⟩ := less.selected_add_selected_opposite hbound
  obtain ⟨-, -, -, -, hsum⟩ := hcounts [.number 1, .text " 2.5 ", .logical true, .blank,
    .number Number.infinity] (by
      simp only [List.forall_mem_cons, List.not_mem_nil, false_imp_iff, implies_true, and_true]
      exact ⟨⟨1, rfl, rfl⟩, ⟨2.5, by decide +kernel, rfl⟩, ⟨1, rfl, rfl⟩, ⟨0, rfl, rfl⟩,
        ⟨Number.infinity, rfl, rfl⟩⟩)
  exact hsum (by decide)

/-- The billionth is at the distance of the tolerance from zero: it is counted as a number, but
neither as equal to zero nor as different from it. -/
theorem passedOver_billionth :
    Number.ofText? "0".toList = some 0 ∧ (Value.number 1e-9).toNumber? = some 1e-9 ∧
      (1e-9 : Float).isNaN = false ∧
      (Criterion.ofValue (equal.criterion "0")).selects (.number 1e-9) = false ∧
      (Criterion.ofValue (notEqual.criterion "0")).selects (.number 1e-9) = false ∧
      countIf [.list [.number 1e-9], equal.criterion "0"] = .number (Float.ofNat 0) ∧
      countIf [.list [.number 1e-9], notEqual.criterion "0"] = .number (Float.ofNat 0) ∧
      count [.list [.number 1e-9]] = .number (Float.ofNat 1) := by
  have hbound : Number.ofText? "0".toList = some 0 := by decide +kernel
  have hequal : (Criterion.ofValue (equal.criterion "0")).selects (.number 1e-9) = false := by
    rw [equal.selects_criterion hbound rfl]
    decide +kernel
  have hnotEqual :
      (Criterion.ofValue (notEqual.criterion "0")).selects (.number 1e-9) = false := by
    rw [notEqual.selects_criterion hbound rfl]
    decide +kernel
  have hnumbers : ∀ item ∈ [Value.number 1e-9], ∃ x, item.toNumber? = some x :=
    List.forall_mem_singleton.mpr ⟨1e-9, rfl⟩
  refine ⟨hbound, rfl, rfl, hequal, hnotEqual, ?_, ?_, count_eq_length hnumbers⟩
  · rw [countIf_eq_selected equal "0" hnumbers, selected, List.countP_singleton, hequal]
    rfl
  · rw [countIf_eq_selected notEqual "0" hnumbers, selected, List.countP_singleton, hnotEqual]
    rfl

end Relation

end Functions

end Worksheet
