import Worksheet.Functions.Logic

/-!
# Duality of conjunction and disjunction

Conjunction and disjunction read their elements in order and stop at the first one that decides
them or cannot be read. Both are one search: conjunction looks for the first element that does not
read as true, disjunction for the first one that does not read as false, and what that element
reads as, be it a logical value or an error, is the answer. Negating an element turns what it reads
as over and leaves errors alone, so the opposites of the elements stop the other search at the same
place.

Results:
* `junction_eq`: conjunction and disjunction as one search.
* `logicalOf_negation`, `readsAs_negation`: what the opposite of a value reads as.
* `negation_junction`, `stop_opposites`: the other search over the opposites.
* `conjunction_disjunction_dual`: the opposite of a conjunction is the disjunction of the opposites,
  the opposite of a disjunction is their conjunction, and both stop at the same element.
-/

namespace Worksheet.Functions

/-! ## One search -/

/-- Whether a value reads as the logical value `b`. -/
def readsAs (b : Bool) (v : Value) : Bool :=
  match logicalOf v with
  | .ok c => c == b
  | .error _ => false

/-- What the first element that does not read as `b` reads as, and `b` if there is none. -/
def firstUnlike (b : Bool) (elements : List Value) : Except ErrorCode Bool :=
  match elements.find? fun v => !readsAs b v with
  | some v => logicalOf v
  | none => .ok b

/-- The place, counted from zero, of the first element that does not read as `b`. Conjunction stops
there if `b` is true, disjunction if `b` is false. -/
def stop (b : Bool) (elements : List Value) : Option Nat :=
  elements.findIdx? fun v => !readsAs b v

/-- `AND` for true, `OR` for false. -/
def junction : Bool → List Value → Value
  | true => conjunction
  | false => disjunction

/-- The logical value that a value reads as, or the error that stands in its place. -/
def truth (v : Value) : Value :=
  settle ((logicalOf v).map .logical)

theorem allTrue_eq (elements : List Value) : allTrue elements = firstUnlike true elements := by
  induction elements with
  | nil => rfl
  | cons v rest ih =>
    unfold allTrue firstUnlike
    rcases hv : logicalOf v with e | _ | _ <;> simp [readsAs, hv, ih, firstUnlike]

theorem someTrue_eq (elements : List Value) : someTrue elements = firstUnlike false elements := by
  induction elements with
  | nil => rfl
  | cons v rest ih =>
    unfold someTrue firstUnlike
    rcases hv : logicalOf v with e | _ | _ <;> simp [readsAs, hv, ih, firstUnlike]

theorem junction_eq (b : Bool) (args : List Value) :
    junction b args = settle ((firstUnlike b (flatten args)).map .logical) := by
  cases b with
  | true =>
    rw [← allTrue_eq]
    rfl
  | false =>
    rw [← someTrue_eq]
    rfl

/-- The element at which the search stops gives the answer. -/
theorem junction_of_stop {b : Bool} {args : List Value} {i : Nat}
    (h : stop b (flatten args) = some i) :
    ∃ v, (flatten args)[i]? = some v ∧ junction b args = truth v := by
  obtain ⟨hi, hunlike, hbefore⟩ := List.findIdx?_eq_some_iff_getElem.mp h
  have hfind : ((flatten args).find? fun v => !readsAs b v) = some (flatten args)[i] :=
    List.find?_eq_some_iff_getElem.mpr
      ⟨hunlike, i, hi, rfl, fun j hj => by simpa using hbefore j hj⟩
  refine ⟨(flatten args)[i], List.getElem?_eq_getElem hi, ?_⟩
  rw [junction_eq, firstUnlike, hfind]
  rfl

/-- If it does not stop, all elements read alike. -/
theorem junction_of_stop_eq_none {b : Bool} {args : List Value} (h : stop b (flatten args) = none) :
    junction b args = .logical b := by
  have hfind : ((flatten args).find? fun v => !readsAs b v) = none :=
    List.find?_eq_none.mpr fun v hv => by simpa using List.findIdx?_eq_none_iff.mp h v hv
  rw [junction_eq, firstUnlike, hfind]
  rfl

/-! ## Opposites -/

theorem negation_singleton (v : Value) :
    negation [v] = settle ((logicalOf v).map fun b => .logical !b) := by
  cases v with
  | error e => rfl
  | _ =>
    unfold negation
    simp only [refuseErrors, firstError?, Value.error?, List.findSome?]
    cases logicalOf _ <;> rfl

theorem logicalOf_truth (v : Value) : logicalOf (truth v) = logicalOf v := by
  unfold truth
  cases logicalOf v <;> rfl

theorem logicalOf_negation (v : Value) : logicalOf (negation [v]) = (logicalOf v).map not := by
  rw [negation_singleton]
  cases logicalOf v <;> rfl

/-- The opposite of a value reads as the opposite, and an error stays what it is. -/
theorem readsAs_negation (b : Bool) (v : Value) : readsAs (!b) (negation [v]) = readsAs b v := by
  unfold readsAs
  rw [logicalOf_negation]
  cases logicalOf v with
  | error e => rfl
  | ok c => cases b <;> cases c <;> rfl

/-- An opposite is no list. -/
theorem elements_negation (v : Value) : (negation [v]).elements = [negation [v]] := by
  rw [negation_singleton]
  cases logicalOf v <;> rfl

theorem flatten_opposites (elements : List Value) :
    flatten (elements.map fun v => negation [v]) = elements.map fun v => negation [v] := by
  rw [flatten, List.flatMap_map, List.map_eq_flatMap]
  simp only [elements_negation]

theorem unlike_opposite (b : Bool) :
    ((fun v => !readsAs (!b) v) ∘ fun v => negation [v]) = fun v => !readsAs b v := by
  funext v
  simp only [Function.comp_apply, readsAs_negation]

theorem firstUnlike_opposites (b : Bool) (elements : List Value) :
    firstUnlike (!b) (elements.map fun v => negation [v]) = (firstUnlike b elements).map not := by
  unfold firstUnlike
  rw [List.find?_map, unlike_opposite]
  cases elements.find? fun v => !readsAs b v with
  | none => rfl
  | some v => exact logicalOf_negation v

/-- The opposites stop the other search at the same place. -/
theorem stop_opposites (b : Bool) (elements : List Value) :
    stop (!b) (elements.map fun v => negation [v]) = stop b elements := by
  unfold stop
  rw [List.findIdx?_map, unlike_opposite]

theorem negation_junction (b : Bool) (args : List Value) :
    negation [junction b args] =
      junction (!b) ((flatten args).map fun v => negation [v]) := by
  rw [negation_singleton, junction_eq, junction_eq, flatten_opposites, firstUnlike_opposites]
  cases firstUnlike b (flatten args) <;> rfl

/-! ## Duality -/

/-- **Duality.** Whatever the arguments hold, the opposite of their conjunction is the disjunction
of the opposites of their elements, and the opposite of their disjunction is the conjunction of the
opposites. Both sides stop at the same element: it gives the one side its truth or its error, and
the other side the opposite of that truth or the same error. If neither stops, the elements all
read alike. -/
theorem conjunction_disjunction_dual (args : List Value) :
    let elements := flatten args
    let opposites := elements.map fun v => negation [v]
    negation [conjunction args] = disjunction opposites ∧
      negation [disjunction args] = conjunction opposites ∧
      ∀ b, stop (!b) opposites = stop b elements ∧
        (stop b elements = none →
          junction b args = .logical b ∧ junction (!b) opposites = .logical !b) ∧
        ∀ i, stop b elements = some i → ∃ v, elements[i]? = some v ∧
          junction b args = truth v ∧ junction (!b) opposites = negation [v] ∧
          ∀ e, truth v = .error e ↔ negation [v] = .error e := by
  intro elements opposites
  refine ⟨negation_junction true args, negation_junction false args, fun b =>
    ⟨stop_opposites b elements, fun hnone => ?_, fun i hi => ?_⟩⟩
  · have hjunction := junction_of_stop_eq_none hnone
    refine ⟨hjunction, ?_⟩
    rw [← negation_junction, hjunction]
    rfl
  · obtain ⟨v, hv, hjunction⟩ := junction_of_stop hi
    refine ⟨v, hv, hjunction, ?_, fun e => ?_⟩
    · rw [← negation_junction, hjunction, negation_singleton, logicalOf_truth, negation_singleton]
    · rw [truth, negation_singleton]
      cases logicalOf v <;> simp [settle, Except.map]

/-- True, a text that is no truth, an error, and false: the text comes first. -/
def mixedTruths : List Value :=
  [.list [.logical true, .text "yes", .error .notAvailable], .logical false]

theorem conjunction_disjunction_dual_mixedTruths :
    stop true (flatten mixedTruths) = some 1 ∧ conjunction mixedTruths = .error .value ∧
      disjunction ((flatten mixedTruths).map fun v => negation [v]) = .error .value := by
  obtain ⟨_, _, hstops⟩ := conjunction_disjunction_dual mixedTruths
  have hstop : stop true (flatten mixedTruths) = some 1 := by rfl
  obtain ⟨_, hv, hconjunction, hdisjunction, _⟩ := (hstops true).2.2 1 hstop
  cases hv
  exact ⟨hstop, hconjunction, hdisjunction⟩

end Worksheet.Functions
