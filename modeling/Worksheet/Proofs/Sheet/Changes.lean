import Worksheet.Sheet

/-!
# Changes of sheets

A sheet comes about by changes of a sheet without cells: cells are written, one is cleared, all are
cleared. Writing a blank clears the cell, so however the changes follow each other, no cell is left
that holds a blank.

Results:
* `NoBlanks.change`, `NoBlanks.changeAll`: one change leaves no blank, nor do any number of changes.
* `noBlanks_changeAll`: the sheets that changes of the sheet without cells lead to.
-/

namespace Worksheet.Sheet

/-- A change of a sheet. -/
inductive Change where
  | set (address : String) (cell : Cell)
  | remove (address : String)
  | clear

/-- The sheet after a change. -/
def change (sheet : Sheet) : Change → Sheet
  | .set address cell => sheet.set address cell
  | .remove address => sheet.remove address
  | .clear => empty

/-- The sheet after changes, one after the other. -/
def changeAll (sheet : Sheet) (changes : List Change) : Sheet :=
  changes.foldl change sheet

/-- No address holds a blank. -/
def NoBlanks (sheet : Sheet) : Prop :=
  ∀ address, sheet.get? address ≠ some .blank

theorem noBlanks_empty : NoBlanks empty := by
  intro address
  simp [get?_empty]

namespace NoBlanks

variable {sheet : Sheet}

theorem remove (h : sheet.NoBlanks) (address : String) : (sheet.remove address).NoBlanks := by
  intro other
  rw [get?_remove]
  split
  · simp
  · exact h other

theorem set (h : sheet.NoBlanks) (address : String) (cell : Cell) :
    (sheet.set address cell).NoBlanks := by
  intro other
  rw [get?_set]
  split
  · split
    · simp
    · next hcell =>
      intro hblank
      cases hblank
      exact hcell rfl
  · exact h other

theorem change (h : sheet.NoBlanks) : ∀ c, (sheet.change c).NoBlanks
  | .set address cell => h.set address cell
  | .remove address => h.remove address
  | .clear => noBlanks_empty

theorem changeAll (h : sheet.NoBlanks) (changes : List Change) :
    (sheet.changeAll changes).NoBlanks := by
  induction changes generalizing sheet with
  | nil => exact h
  | cons c rest ih => exact ih (h.change c)

end NoBlanks

/-- Whatever is written and cleared, no blank is left. -/
theorem noBlanks_changeAll (changes : List Change) : (empty.changeAll changes).NoBlanks :=
  noBlanks_empty.changeAll changes

end Worksheet.Sheet
