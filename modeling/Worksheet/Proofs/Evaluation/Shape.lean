import Worksheet.Proofs.Evaluation.Origins
import Worksheet.Proofs.Sheet.Changes

/-!
# The shape of values

Lists come from ranges alone, and a range puts a cell or an error into each place of its list. So a
list never holds lists, and it holds no blanks either, since no cell of a sheet is blank. Functions
of the library hand lists on, but make none. A blank is what a reference to a single cell that is
not set yields under one policy, and nothing else: under the other policy no part of a tree is
blank.

Results:
* `Origin.flat`, `Origin.ne_blank`: what comes from references is flat, and not blank.
* `value_shape`: the shape of the values of a tree and of all its parts.
-/

namespace Worksheet

open Formula (Expr)

/-! ## Shapes -/

namespace Value

/-- A value that may stand in a list: neither a list nor a blank. -/
def IsItem : Value → Prop
  | .list _ | .blank => False
  | _ => True

/-- A value is no list, or a list whose items are neither lists nor blanks. -/
def IsFlat : Value → Prop
  | .list items => ∀ item ∈ items, item.IsItem
  | _ => True

theorem IsItem.isFlat {v : Value} (h : v.IsItem) : v.IsFlat := by
  cases v with
  | list items => exact h.elim
  | _ => trivial

theorem IsItem.ne_blank {v : Value} (h : v.IsItem) : v ≠ .blank := by
  rintro rfl
  exact h

theorem isItem_ofCell {cell : Cell} (h : cell ≠ .blank) : (ofCell cell).IsItem := by
  cases cell with
  | blank => exact h rfl
  | _ => trivial

end Value

namespace Context

variable {context : Context} {parts : List Expr} {v : Value}

/-! ## References -/

theorem isItem_reference (hcells : ∀ name, context.cell? name ≠ some .blank) (name : String) :
    (context.reference name).IsItem ∨
      context.reference name = .blank ∧ context.missing = .blank := by
  unfold reference
  cases hcell : context.cell? name with
  | some cell => exact .inl (Value.isItem_ofCell fun hblank => hcells name (hblank ▸ hcell))
  | none =>
    cases context.missing with
    | referenceError => exact .inl trivial
    | blank => exact .inr ⟨rfl, rfl⟩

theorem isItem_member (hcells : ∀ name, context.cell? name ≠ some .blank) (a : Address) :
    (context.member a).IsItem := by
  unfold member
  cases hcell : context.cell? a.a1 with
  | some cell => exact Value.isItem_ofCell fun hblank => hcells a.a1 (hblank ▸ hcell)
  | none => trivial

/-- A range yields a list of items, or an error. -/
theorem rangeValues_flat (hcells : ∀ name, context.cell? name ≠ some .blank)
    (first last : String) :
    (context.rangeValues first last).IsFlat ∧ context.rangeValues first last ≠ .blank := by
  unfold rangeValues
  split
  · refine ⟨fun item hitem => ?_, by simp⟩
    obtain ⟨a, _, rfl⟩ := List.mem_map.mp hitem
    exact isItem_member hcells a
  · exact ⟨trivial, by simp⟩

/-! ## Values -/

theorem Origin.flat (hcells : ∀ name, context.cell? name ≠ some .blank)
    (h : context.Origin parts v) : v.IsFlat := by
  cases h with
  | number | text | logical | member | caused => trivial
  | @cell name _ =>
    rcases isItem_reference hcells name with hitem | ⟨hblank, _⟩
    · exact hitem.isFlat
    · rw [hblank]
      trivial
  | range _ => exact (rangeValues_flat hcells _ _).1

theorem Origin.ne_blank (hcells : ∀ name, context.cell? name ≠ some .blank)
    (hmissing : context.missing = .referenceError) (h : context.Origin parts v) : v ≠ .blank := by
  cases h with
  | number | text | logical | member | caused => simp
  | @cell name _ =>
    rcases isItem_reference hcells name with hitem | ⟨_, hpolicy⟩
    · exact hitem.ne_blank
    · rw [hmissing] at hpolicy
      cases hpolicy
  | range _ => exact (rangeValues_flat hcells _ _).2

/-- **Shapes.** Against a sheet that any changes led to, and with the functions of the library, the
value of a tree is no list or a list that holds neither lists nor blanks, whatever the policy. Where
single cells that are not set are errors, the value is not blank, and no part of the tree has a
blank value. -/
theorem value_shape (changes : List Sheet.Change) (e : Expr) :
    (∀ missing, (value ⟨(Sheet.empty.changeAll changes).get?, .standard, missing⟩ e).IsFlat) ∧
      ∀ part ∈ e.parts,
        value ⟨(Sheet.empty.changeAll changes).get?, .standard, .referenceError⟩ part ≠ .blank := by
  have hcells : ∀ name, (Sheet.empty.changeAll changes).get? name ≠ some .blank :=
    Sheet.noBlanks_changeAll changes
  constructor
  · intro missing
    exact (origin_value rfl e).flat hcells
  · intro part _
    exact (origin_value rfl part).ne_blank hcells rfl

/-- `IFERROR(1/0,A1:B1)` hands a list on, and the range in it is not blank, though `B1` is cleared
again by writing a blank. -/
theorem value_shape_fallbackRange :
    let changes : List Sheet.Change :=
      [.set "a1" (.error .notAvailable), .set "B1" (.number 1), .set "b1" .blank]
    .range "A1" "B1" ∈ fallbackRange.parts ∧
      (∀ missing,
        (value ⟨(Sheet.empty.changeAll changes).get?, .standard, missing⟩ fallbackRange).IsFlat) ∧
      value ⟨(Sheet.empty.changeAll changes).get?, .standard, .referenceError⟩ (.range "A1" "B1") ≠
        .blank := by
  intro changes
  have hpart : .range "A1" "B1" ∈ fallbackRange.parts := by
    simp [fallbackRange, Expr.parts, Expr.argParts]
  obtain ⟨hflat, hblank⟩ := value_shape changes fallbackRange
  exact ⟨hpart, hflat, hblank _ hpart⟩

end Context

end Worksheet
