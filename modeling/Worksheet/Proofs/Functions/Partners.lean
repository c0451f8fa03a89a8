import Mathlib.Data.List.Sort
import Worksheet.Functions.Statistics

/-!
# Conditional sums

A conditional sum walks along a range and a list of partners. A place is active if it lies within
both and the range has an item there that is no error and that the criterion selects. The sum adds
the partners at the active places, from the left, and reads nothing else of them: what stands at
other places, or behind the end of the shorter list, does not matter.

Results:
* `mem_activePlaces_iff`, `pairwise_activePlaces`: the active places, in order.
* `selectedNumbers_eq`: the numbers that are added stand at the active places.
* `length_activePlaces`: how many places are active.
* `sumIf_reads_active`: a conditional sum depends on the partners at active places only.
-/

namespace Worksheet.Functions

/-! ## Active places -/

/-- Whether a place lies within the range and the list of partners, and the range has an item there
that is no error and is selected. -/
def IsActive (range criterion partners : Value) (i : Nat) : Prop :=
  i < partners.elements.length ∧ ∃ item, range.elements[i]? = some item ∧ item.isError = false ∧
    (Criterion.ofValue criterion).selects item = true

/-- The active places, in order. -/
def activePlaces (criterion : Criterion) (items partners : List Value) : List Nat :=
  (List.range partners.length).filter fun i => items[i]?.any criterion.selectsValid

/-- The number that the partner at a place reads as. -/
def numberOf (partners : List Value) (i : Nat) : Option Float :=
  partners[i]?.bind Value.toNumber?

/-- The sum of the partners at some places, from the left. Partners that are no numbers are passed
over. -/
def sumAt (partners : List Value) (places : List Nat) : Float :=
  places.foldl (fun sum i =>
    match numberOf partners i with
    | some x => sum + x
    | none => sum) negativeZero

theorem mem_activePlaces_iff {range criterion partners : Value} {i : Nat} :
    i ∈ activePlaces (.ofValue criterion) range.elements partners.elements ↔
      IsActive range criterion partners i := by
  rw [activePlaces, List.mem_filter, List.mem_range, Option.any_eq_true]
  simp only [Criterion.selectsValid, Bool.and_eq_true, Bool.not_eq_true']
  rfl

theorem pairwise_activePlaces (criterion : Criterion) (items partners : List Value) :
    (activePlaces criterion items partners).Pairwise (· < ·) :=
  List.pairwise_lt_range.filter _

theorem activePlaces_nil (criterion : Criterion) (partners : List Value) :
    activePlaces criterion [] partners = [] := by
  simp [activePlaces]

/-- Behind the first place the active places are those of the shorter lists. -/
theorem activePlaces_cons (criterion : Criterion) (item partner : Value)
    (items partners : List Value) :
    activePlaces criterion (item :: items) (partner :: partners) =
      (if criterion.selectsValid item then [0] else []) ++
        (activePlaces criterion items partners).map (· + 1) := by
  unfold activePlaces
  rw [List.length_cons, List.range_succ_eq_map, List.filter_cons, List.filter_map]
  cases h : criterion.selectsValid item <;> simp [h, Function.comp_def]

/-! ## Numbers and counts -/

theorem numberOf_cons_zero (partner : Value) (partners : List Value) :
    numberOf (partner :: partners) 0 = partner.toNumber? :=
  rfl

theorem filterMap_numberOf_succ (partner : Value) (partners : List Value) (places : List Nat) :
    (places.map (· + 1)).filterMap (numberOf (partner :: partners)) =
      places.filterMap (numberOf partners) := by
  rw [List.filterMap_map]
  rfl

/-- The numbers that are added stand at the active places. -/
theorem selectedNumbers_eq (criterion : Criterion) (items partners : List Value) :
    selectedNumbers criterion items partners =
      (activePlaces criterion items partners).filterMap (numberOf partners) := by
  induction items generalizing partners with
  | nil => rw [activePlaces_nil, selectedNumbers, List.zip_nil_left, List.filter_nil]; rfl
  | cons item items ih =>
    cases partners with
    | nil => rfl
    | cons partner partners =>
      rw [activePlaces_cons, List.filterMap_append, filterMap_numberOf_succ, ← ih]
      unfold selectedNumbers
      rw [List.zip_cons_cons, List.filter_cons]
      cases criterion.selectsValid item
      · rfl
      · rw [if_pos rfl, if_pos rfl, List.filterMap_cons, List.filterMap_cons, List.filterMap_nil,
          numberOf_cons_zero]
        cases partner.toNumber? <;> rfl

/-- The active places are as many as the items that are selected before the partners end. -/
theorem length_activePlaces (criterion : Criterion) (items partners : List Value) :
    (activePlaces criterion items partners).length =
      (items.take partners.length).countP criterion.selectsValid := by
  induction items generalizing partners with
  | nil => simp [activePlaces_nil]
  | cons item items ih =>
    cases partners with
    | nil => rfl
    | cons partner partners =>
      rw [activePlaces_cons, List.length_append, List.length_map, ih, List.length_cons,
        List.take_succ_cons, List.countP_cons, Nat.add_comm]
      cases criterion.selectsValid item <;> rfl

theorem total_filterMap (partners : List Value) (places : List Nat) :
    total (places.filterMap (numberOf partners)) = sumAt partners places := by
  rw [total, List.foldl_filterMap]
  refine List.foldl_ext _ _ _ fun sum i _ => ?_
  cases numberOf partners i <;> rfl

theorem sumIf_eq_sumAt (range criterion partners : Value) :
    sumIf [range, criterion, partners] = .number (sumAt partners.elements
      (activePlaces (.ofValue criterion) range.elements partners.elements)) := by
  rw [sumIf, selectedNumbers_eq, total_filterMap]

theorem sumAt_congr {partners others : List Value} {places : List Nat}
    (h : ∀ i ∈ places, numberOf others i = numberOf partners i) :
    sumAt others places = sumAt partners places :=
  List.foldl_ext _ _ _ fun sum i hi => by rw [h i hi]

/-! ## Conditional sums -/

/-- **Conditional sums.** The sum adds, from the left and onto negative zero, the numbers that the
partners at the active places read as. So partners with the same active places that read as the same
numbers there have the same sum, whatever else they hold. A range without partners is its own
partner; and where the partners are no fewer than the items of the range, the count of the selected
items is the number of active places. -/
theorem sumIf_reads_active (range criterion partners : Value) :
    let places := activePlaces (.ofValue criterion) range.elements partners.elements
    (∀ i, i ∈ places ↔ IsActive range criterion partners i) ∧ places.Pairwise (· < ·) ∧
      sumIf [range, criterion, partners] = .number (sumAt partners.elements places) ∧
      (∀ others : Value,
        (∀ i, IsActive range criterion others i ↔ IsActive range criterion partners i) →
        (∀ i, IsActive range criterion partners i →
          numberOf others.elements i = numberOf partners.elements i) →
        sumIf [range, criterion, others] = sumIf [range, criterion, partners]) ∧
      sumIf [range, criterion] = sumIf [range, criterion, range] ∧
      (range.elements.length ≤ partners.elements.length →
        countIf [range, criterion] = .number (Float.ofNat places.length)) := by
  intro places
  refine ⟨fun i => mem_activePlaces_iff, pairwise_activePlaces _ _ _, sumIf_eq_sumAt _ _ _,
    fun others hactive hnumbers => ?_, rfl, fun hlength => ?_⟩
  · have hplaces : activePlaces (.ofValue criterion) range.elements others.elements = places :=
      (pairwise_activePlaces _ _ _).eq_of_mem_iff (pairwise_activePlaces _ _ _) fun i => by
        rw [mem_activePlaces_iff, mem_activePlaces_iff, hactive]
    rw [sumIf_eq_sumAt, sumIf_eq_sumAt, hplaces,
      sumAt_congr fun i hi => hnumbers i (mem_activePlaces_iff.mp hi)]
  · rw [countIf, length_activePlaces, List.take_of_length_le hlength]

/-- A range whose first and last items are selected, and whose second one is an error. -/
def fruits : Value :=
  .list [.text "fig", .error .reference, .text "Fig", .text "fig"]

/-- Partners that differ where no item is selected, and behind the range. -/
theorem sumIf_reads_active_fruits :
    sumIf [fruits, .text "fig", .list [.number 1, .text "x", .error .notAvailable, .text " 2.5 "]] =
      sumIf [fruits, .text "fig",
        .list [.logical true, .number 7, .number 8, .number 2.5, .error .value]] := by
  obtain ⟨-, -, -, hsame, -, -⟩ := sumIf_reads_active fruits (.text "fig")
    (.list [.logical true, .number 7, .number 8, .number 2.5, .error .value])
  refine hsame _ (fun i => ?_) fun i hi => ?_
  · rw [← mem_activePlaces_iff, ← mem_activePlaces_iff]
    rfl
  · rw [← mem_activePlaces_iff] at hi
    have hplaces : i ∈ [0, 3] := hi
    rcases List.mem_pair.mp hplaces with rfl | rfl <;> decide +kernel

end Worksheet.Functions
