import Std.Data.TreeMap
import Worksheet.Cell

/-!
# Sheets

A sheet maps the upper case of address texts to cell contents. Writing a blank clears the cell,
so a sheet holds no blanks. Any text may serve as an address.

Results:
* `get?_set`: reading after a write.
* `get?_remove`: reading after a removal.
-/

namespace Worksheet

/-- Cell contents by the upper case of their address texts. -/
structure Sheet where
  cells : Std.TreeMap String Cell

namespace Sheet

/-- The sheet without cells. -/
def empty : Sheet :=
  ⟨∅⟩

/-- The content at an address, none if it is not set. -/
def get? (sheet : Sheet) (address : String) : Option Cell :=
  sheet.cells[Text.upper address]?

/-- Clears a cell. -/
def remove (sheet : Sheet) (address : String) : Sheet :=
  ⟨sheet.cells.erase (Text.upper address)⟩

/-- Writes a cell; a blank clears it. -/
def set (sheet : Sheet) (address : String) (cell : Cell) : Sheet :=
  if cell.isBlank then sheet.remove address
  else ⟨sheet.cells.insert (Text.upper address) cell⟩

/-- Writes cells one after the other. -/
def setAll (sheet : Sheet) (entries : List (String × Cell)) : Sheet :=
  entries.foldl (fun s (address, cell) => s.set address cell) sheet

/-- The number of cells set. -/
def size (sheet : Sheet) : Nat :=
  sheet.cells.size

/-- Whether no cell is set. -/
def isEmpty (sheet : Sheet) : Bool :=
  sheet.cells.isEmpty

/-- The cells set, in the order of their address texts. -/
def toList (sheet : Sheet) : List (String × Cell) :=
  sheet.cells.toList

/-! ## Reading after a change -/

theorem get?_empty (address : String) : empty.get? address = none := by
  simp [get?, empty]

theorem get?_remove (sheet : Sheet) (a b : String) :
    (sheet.remove a).get? b = if Text.upper a = Text.upper b then none else sheet.get? b := by
  simp only [get?, remove, Std.TreeMap.getElem?_erase, Std.LawfulEqCmp.compare_eq_iff_eq]

theorem get?_set (sheet : Sheet) (a b : String) (cell : Cell) :
    (sheet.set a cell).get? b =
      if Text.upper a = Text.upper b then if cell.isBlank then none else some cell
      else sheet.get? b := by
  unfold set
  split
  · simp only [get?_remove]
  · simp only [get?, Std.TreeMap.getElem?_insert, Std.LawfulEqCmp.compare_eq_iff_eq]

end Sheet

end Worksheet
