import Worksheet.Proofs.Address.Rectangle

/-!
# Cells of a range by their numbers

The rows of a range, from the first to the last, each with its columns from the first to the last:
this is the list of its cells, said without words that could wrap. It holds each cell that the range
covers and no other, and a cut of the range between two rows is a cut of the list.

Results:
* `Proper.cells_eq_grid`: the cells of a range are its grid.
* `mem_grid_iff`: a grid holds the cells that the range covers.
* `Cut.grid_eq`: a cut between two rows.
-/

namespace Worksheet.Range

/-- The cells of a range by row and column number, rows outside and columns inside. -/
def grid (r : Range) : List Address :=
  (List.range' r.first.row.toNat (r.last.row.toNat + 1 - r.first.row.toNat)).flatMap fun row =>
    (List.range' r.first.column.toNat (r.last.column.toNat + 1 - r.first.column.toNat)).map
      fun column => ⟨row.toUInt32, column.toUInt32⟩

variable {r : Range}

theorem add_toUInt32 (first : UInt32) (i : Nat) :
    first + i.toUInt32 = (first.toNat + i).toUInt32 := by
  show first + UInt32.ofNat i = UInt32.ofNat (first.toNat + i)
  rw [UInt32.ofNat_add, UInt32.ofNat_toNat]

theorem toNat_toUInt32_of_le {n : Nat} {x : UInt32} (h : n ≤ x.toNat) :
    n.toUInt32.toNat = n :=
  UInt32.toNat_ofNat_of_lt' (Nat.lt_of_le_of_lt h x.toNat_lt)

/-- The cells of a range are its grid. -/
theorem Proper.cells_eq_grid (h : r.Proper) : r.cells = r.grid := by
  have hrows : r.last.row.toNat + 1 - r.first.row.toNat = r.rows.toNat := by
    have hle := h.row_le
    have heq := h.toNat_rows
    omega
  have hcolumns : r.last.column.toNat + 1 - r.first.column.toNat = r.columns.toNat := by
    have hle := h.column_le
    have heq := h.toNat_columns
    omega
  unfold cells grid
  rw [hrows, hcolumns, List.range'_eq_map_range, List.range'_eq_map_range, List.flatMap_map]
  simp only [add_toUInt32, List.map_map, Function.comp_def]

/-- A grid holds the cells that the range covers, and no other. -/
theorem mem_grid_iff {a : Address} : a ∈ r.grid ↔ r.Covers a := by
  simp only [grid, List.mem_flatMap, List.mem_map, List.mem_range'_1]
  constructor
  · rintro ⟨row, hrow, column, hcolumn, rfl⟩
    have hrow' := toNat_toUInt32_of_le (n := row) (x := r.last.row) (by omega)
    have hcolumn' := toNat_toUInt32_of_le (n := column) (x := r.last.column) (by omega)
    simp only [Covers, hrow', hcolumn']
    omega
  · rintro ⟨hrow, hcolumn⟩
    exact ⟨a.row.toNat, by omega, a.column.toNat, by omega, by simp⟩

/-! ## Cutting between two rows -/

/-- The range `whole` is cut between two of its rows into `top` and `bottom`. -/
structure Cut (whole top bottom : Range) : Prop where
  first : top.first = whole.first
  last : bottom.last = whole.last
  columns : top.last.column = whole.last.column ∧ bottom.first.column = whole.first.column
  next : bottom.first.row.toNat = top.last.row.toNat + 1
  top_le : whole.first.row.toNat ≤ top.last.row.toNat
  bottom_le : bottom.first.row.toNat ≤ whole.last.row.toNat

theorem range'_cut {first middle last : Nat} (hfirst : first ≤ middle) (hlast : middle < last) :
    List.range' first (last + 1 - first) =
      List.range' first (middle + 1 - first) ++
        List.range' (middle + 1) (last + 1 - (middle + 1)) := by
  have hlength : last + 1 - first = (middle + 1 - first) + (last + 1 - (middle + 1)) := by omega
  have hmiddle : middle + 1 = first + (middle + 1 - first) := by omega
  rw [hlength, ← List.range'_append_1, ← hmiddle]

/-- A cut between two rows is a cut of the list of cells. -/
theorem Cut.grid_eq {whole top bottom : Range} (h : Cut whole top bottom) :
    whole.grid = top.grid ++ bottom.grid := by
  obtain ⟨hfirst, hlast, ⟨hright, hleft⟩, hnext, htop, hbottom⟩ := h
  have hrows := range'_cut htop (show top.last.row.toNat < whole.last.row.toNat by omega)
  unfold grid
  rw [hrows, List.flatMap_append, hright, hleft, hfirst, hlast, hnext]

end Worksheet.Range
