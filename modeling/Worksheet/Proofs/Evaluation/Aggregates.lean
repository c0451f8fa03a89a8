import Worksheet.Proofs.Evaluation.Mentions
import Worksheet.Proofs.Functions.Lookup
import Worksheet.Proofs.Number.Counting

/-!
# Aggregates of ranges

Some functions take any number of arguments and read nothing but the list of their elements, in
order, with lists opened. A range has the elements that its cells have as single references, as long
as a single cell that is not set is an error, so such a function makes the same of the range and of
its cells. It makes the same of a range and of the two parts that a cut between two rows leaves. A
mean is the sum of the numbers over their count, also where there are no numbers.

Results:
* `elementwise_of_mem`: what the aggregates read.
* `flatten_range`, `flatten_cells`: the elements of a range and of its cells.
* `average_eq`: a mean is a quotient.
* `value_aggregate`: an aggregate of a range, of its cells and of its parts.
-/

namespace Worksheet

/-! ## Functions of the elements -/

namespace Functions

/-- A function reads nothing but the elements of its arguments. -/
def Elementwise (f : List Value → Value) : Prop :=
  ∀ args others, flatten args = flatten others → f args = f others

/-- The functions of the elements of any number of arguments, with their names. -/
def aggregates : List (String × (List Value → Value)) :=
  [("SUM", sum), ("AVERAGE", average), ("MIN", minimum), ("MAX", maximum), ("COUNT", count),
    ("CONCATENATE", concatenate), ("AND", conjunction), ("OR", disjunction)]

theorem elementwise_of_flatten (g : List Value → Value) :
    Elementwise fun args => g (flatten args) :=
  fun _ _ h => congrArg g h

theorem elementwise_of_numbers (g : List Float → Value) :
    Elementwise fun args => g (numbers args) :=
  elementwise_of_flatten fun items => g (items.filterMap Value.toNumber?)

variable {name : String} {f : List Value → Value}

theorem elementwise_of_mem (h : (name, f) ∈ aggregates) : Elementwise f := by
  simp only [aggregates, List.mem_cons, Prod.mk.injEq, List.not_mem_nil, or_false] at h
  rcases h with ⟨-, rfl⟩ | ⟨-, rfl⟩ | ⟨-, rfl⟩ | ⟨-, rfl⟩ | ⟨-, rfl⟩ | ⟨-, rfl⟩ | ⟨-, rfl⟩ |
    ⟨-, rfl⟩
  · exact elementwise_of_numbers fun xs => .number (total xs)
  · exact elementwise_of_numbers fun xs =>
      if xs = [] then .error .divisionByZero else .number (total xs / Float.ofNat xs.length)
  · exact elementwise_of_numbers fun xs => .number (choose lesser xs)
  · exact elementwise_of_numbers fun xs => .number (choose greater xs)
  · exact elementwise_of_numbers fun xs => .number (Float.ofNat xs.length)
  · exact elementwise_of_flatten fun items => settle ((joinTexts items).map .text)
  · exact elementwise_of_flatten fun items => settle ((allTrue items).map .logical)
  · exact elementwise_of_flatten fun items => settle ((someTrue items).map .logical)

theorem mem_library_of_mem (h : (name, f) ∈ aggregates) : entry name 0 none f ∈ library := by
  have hall : ∀ aggregate ∈ aggregates, entry aggregate.1 0 none aggregate.2 ∈ library := by
    simp [aggregates, library]
  exact hall (name, f) h

/-- A function with no least and no most number of arguments takes any number of them. -/
theorem takes_entry (name : String) (f : List Value → Value) (n : Nat) :
    (entry name 0 none f).Takes n := by
  refine ⟨Nat.zero_le n, fun most hmost => ?_⟩
  cases hmost

/-! ## Means -/

/-- A mean is the sum of the numbers over their count. -/
theorem average_eq (args : List Value) :
    average args = Context.binary .divide (sum args) (count args) := by
  have hquotient : Context.binary .divide (sum args) (count args) =
      if Float.ofNat (numbers args).length == 0 then .error .divisionByZero
      else .number (total (numbers args) / Float.ofNat (numbers args).length) := rfl
  rw [hquotient, Number.ofNat_beq_zero]
  simp only [average, decide_eq_true_eq, List.length_eq_zero_iff]

end Functions

/-! ## References -/

/-- Two texts spell opposite corners of a range. -/
def Range.SpelledBy (r : Range) (first last : String) : Prop :=
  ∃ a b, Address.ofText first = .ok a ∧ Address.ofText last = .ok b ∧ Range.between a b = r

namespace Context

open Functions

variable {registry : Registry} {context : Context} {name : String} {f : List Value → Value}
  {r : Range} {first last : String}

theorem elements_ofCell (cell : Cell) : (Value.ofCell cell).elements = [.ofCell cell] := by
  cases cell <;> rfl

theorem elements_member (context : Context) (a : Address) :
    (context.member a).elements = [context.member a] := by
  unfold member
  cases context.cell? a.a1 with
  | some cell => exact elements_ofCell cell
  | none => rfl

/-- As long as a single cell that is not set is an error, it is what it is within a range. -/
theorem reference_a1 (h : context.missing = .referenceError) (a : Address) :
    context.reference a.a1 = context.member a := by
  unfold reference member
  rw [h]
  cases context.cell? a.a1 <;> rfl

theorem rangeValues_of_spelledBy (h : r.SpelledBy first last) :
    context.rangeValues first last = .list (r.grid.map context.member) := by
  obtain ⟨a, b, hfirst, hlast, rfl⟩ := h
  exact rangeValues_eq_grid context hfirst hlast

/-- The elements of a range are those of its cells, row by row. -/
theorem flatten_range (h : r.SpelledBy first last) :
    flatten (context.values [.range first last]) = r.grid.map context.member := by
  simp [values, value, rangeValues_of_spelledBy h, flatten, Value.elements]

/-- The elements of single references to cells. -/
theorem flatten_cells (h : context.missing = .referenceError) (as : List Address) :
    flatten (context.values (as.map fun a => .cell a.a1)) = as.map context.member := by
  induction as with
  | nil => rfl
  | cons a rest ih =>
    have hfirst : (context.reference a.a1).elements = [context.member a] := by
      rw [reference_a1 h, elements_member]
    simp only [flatten] at ih
    simp only [flatten, List.map_cons, values, value, List.flatMap_cons, hfirst, ih,
      List.singleton_append]

/-- The elements of a range are those of the two parts that a cut between two rows leaves. -/
theorem flatten_cut {top bottom : Range} {first₁ last₁ first₂ last₂ : String}
    (hcut : r.Cut top bottom) (h : r.SpelledBy first last) (htop : top.SpelledBy first₁ last₁)
    (hbottom : bottom.SpelledBy first₂ last₂) :
    flatten (context.values [.range first last]) =
      flatten (context.values [.range first₁ last₁, .range first₂ last₂]) := by
  have hparts : context.values [.range first₁ last₁, .range first₂ last₂] =
      context.values [.range first₁ last₁] ++ context.values [.range first₂ last₂] := rfl
  rw [hparts, flatten_append, flatten_range h, flatten_range htop, flatten_range hbottom,
    hcut.grid_eq, List.map_append]

/-! ## Calls -/

theorem value_call_aggregate (h : (name, f) ∈ aggregates)
    (hregistry : context.registry.get? name = Registry.standard.get? name)
    (es : List Formula.Expr) : context.value (.call name es) = f (context.values es) := by
  have hcall : context.registry.call name (context.values es) = .ok (f (context.values es)) := by
    rw [Registry.call, hregistry, ← Registry.call]
    exact Registry.call_standard (mem_library_of_mem h) (takes_entry name f _)
  rw [value, hcall]
  rfl

/-- **Aggregates.** Where single cells that are not set are errors, an aggregate makes the same of a
range and of the single references to its cells, row by row. Under every policy, it makes the same
of a range and of the two parts that a cut between two rows leaves, and a mean is the same as the
quotient of the sum and the count, an error where nothing is a number. -/
theorem value_aggregate (context : Context) (hregistry : ∀ name f, (name, f) ∈ aggregates →
      context.registry.get? name = Registry.standard.get? name) :
    (∀ name f, (name, f) ∈ aggregates → ∀ (r : Range) first last, r.SpelledBy first last →
      (context.missing = .referenceError →
        context.value (.call name [.range first last]) =
          context.value (.call name (r.grid.map fun a => .cell a.a1))) ∧
      ∀ top bottom first₁ last₁ first₂ last₂, r.Cut top bottom →
        top.SpelledBy first₁ last₁ → bottom.SpelledBy first₂ last₂ →
        context.value (.call name [.range first last]) =
          context.value (.call name [.range first₁ last₁, .range first₂ last₂])) ∧
    ∀ args,
      context.value (.call "AVERAGE" args) =
        context.value (.binary .divide (.call "SUM" args) (.call "COUNT" args)) ∧
      (numbers (context.values args) = [] →
        context.value (.call "AVERAGE" args) = .error .divisionByZero) := by
  constructor
  · intro name f haggregate r first last hrange
    have hcall := value_call_aggregate haggregate (hregistry name f haggregate)
    have helements := elementwise_of_mem haggregate
    constructor
    · intro hmissing
      rw [hcall, hcall]
      exact helements _ _ ((flatten_range hrange).trans (flatten_cells hmissing r.grid).symm)
    · intro top bottom first₁ last₁ first₂ last₂ hcut htop hbottom
      rw [hcall, hcall]
      exact helements _ _ (flatten_cut hcut hrange htop hbottom)
  · intro args
    have hmember : ("SUM", sum) ∈ aggregates ∧ ("AVERAGE", average) ∈ aggregates ∧
        ("COUNT", count) ∈ aggregates := by simp [aggregates]
    obtain ⟨hsum, haverage, hcount⟩ := hmember
    have hmean := value_call_aggregate haverage (hregistry _ _ haverage) args
    constructor
    · rw [hmean, value, value_call_aggregate hsum (hregistry _ _ hsum),
        value_call_aggregate hcount (hregistry _ _ hcount), average_eq]
    · intro hnone
      rw [hmean, average, if_pos hnone]

/-- The sum of `b2:A1`, cell by cell and cut below the first row, and the mean of nothing. -/
theorem value_aggregate_b2 :
    let context : Context :=
      ⟨(Sheet.empty.set "A1" (.number 1)).get?, .standard, .referenceError⟩
    let r : Range := ⟨⟨1, 1⟩, ⟨2, 2⟩⟩
    ("SUM", sum) ∈ aggregates ∧ r.SpelledBy "b2" "A1" ∧
      Range.Cut r ⟨⟨1, 1⟩, ⟨1, 2⟩⟩ ⟨⟨2, 1⟩, ⟨2, 2⟩⟩ ∧
      Range.SpelledBy ⟨⟨1, 1⟩, ⟨1, 2⟩⟩ "A1" "B1" ∧ Range.SpelledBy ⟨⟨2, 1⟩, ⟨2, 2⟩⟩ "b2" "A02" ∧
      context.value (.call "SUM" [.range "b2" "A1"]) =
        context.value (.call "SUM" [.cell "A1", .cell "B1", .cell "A2", .cell "B2"]) ∧
      context.value (.call "SUM" [.range "b2" "A1"]) =
        context.value (.call "SUM" [.range "A1" "B1", .range "b2" "A02"]) ∧
      context.value (.call "AVERAGE" []) = .error .divisionByZero := by
  intro context r
  have hmember : ("SUM", sum) ∈ aggregates := by simp [aggregates]
  have hrange : r.SpelledBy "b2" "A1" := ⟨⟨2, 2⟩, ⟨1, 1⟩, rfl, rfl, by decide⟩
  have hcut : Range.Cut r ⟨⟨1, 1⟩, ⟨1, 2⟩⟩ ⟨⟨2, 1⟩, ⟨2, 2⟩⟩ :=
    ⟨rfl, rfl, ⟨rfl, rfl⟩, rfl, by decide, by decide⟩
  have htop : Range.SpelledBy ⟨⟨1, 1⟩, ⟨1, 2⟩⟩ "A1" "B1" := ⟨⟨1, 1⟩, ⟨1, 2⟩, rfl, rfl, by decide⟩
  have hbottom : Range.SpelledBy ⟨⟨2, 1⟩, ⟨2, 2⟩⟩ "b2" "A02" :=
    ⟨⟨2, 2⟩, ⟨2, 1⟩, rfl, rfl, by decide⟩
  have hcells : (r.grid.map fun a => Formula.Expr.cell a.a1) =
      [.cell "A1", .cell "B1", .cell "A2", .cell "B2"] := by
    have htexts : r.grid.map Address.a1 = ["A1", "B1", "A2", "B2"] := by decide +kernel
    have hmap := congrArg (List.map Formula.Expr.cell) htexts
    rwa [List.map_map] at hmap
  obtain ⟨hall, hmean⟩ := value_aggregate context fun _ _ _ => rfl
  obtain ⟨hsingle, hparts⟩ := hall "SUM" sum hmember r "b2" "A1" hrange
  have hsingle := hsingle rfl
  rw [hcells] at hsingle
  exact ⟨hmember, hrange, hcut, htop, hbottom, hsingle,
    hparts _ _ _ _ _ _ hcut htop hbottom, (hmean []).2 rfl⟩

end Context

end Worksheet
