import Worksheet.Address.Range

/-!
# Cells of a range by position

The cells of a range stand row by row in its list, so a cell that the range covers has a place
there that its distance from the first cell gives. Ranges between addresses start at the first row
and the first column or behind them, and their sizes stay within 32-bit words.

Results:
* `between_proper`: ranges between addresses.
* `Proper.toNat_rows`, `Proper.toNat_columns`: their sizes.
* `getElem?_cells`, `getElem?_cells_index`: the cells by position.
-/

namespace Worksheet.Range

/-! ## Corners and sizes -/

/-- A range between addresses: its corners are in order and count from one. -/
structure Proper (r : Range) : Prop where
  row_pos : 0 < r.first.row.toNat
  column_pos : 0 < r.first.column.toNat
  row_le : r.first.row.toNat ≤ r.last.row.toNat
  column_le : r.first.column.toNat ≤ r.last.column.toNat

theorem toNat_min (a b : UInt32) : (min a b).toNat = min a.toNat b.toNat := by
  show (if a ≤ b then a else b).toNat = _
  split
  · next h =>
    rw [UInt32.le_iff_toNat_le] at h
    omega
  · next h =>
    rw [UInt32.le_iff_toNat_le] at h
    omega

theorem toNat_max (a b : UInt32) : (max a b).toNat = max a.toNat b.toNat := by
  show (if a ≤ b then b else a).toNat = _
  split
  · next h =>
    rw [UInt32.le_iff_toNat_le] at h
    omega
  · next h =>
    rw [UInt32.le_iff_toNat_le] at h
    omega

theorem between_proper {a b : Address} (ha : 0 < a.row.toNat ∧ 0 < a.column.toNat)
    (hb : 0 < b.row.toNat ∧ 0 < b.column.toNat) : (between a b).Proper := by
  constructor <;> simp only [between, toNat_min, toNat_max] <;> omega

variable {r : Range}

/-- The size of an interval of words that starts behind zero. -/
theorem toNat_size {first last : UInt32} (hpos : 0 < first.toNat)
    (hle : first.toNat ≤ last.toNat) :
    (last - first + 1).toNat = last.toNat - first.toNat + 1 := by
  have hlast := last.toNat_lt
  have hsub := UInt32.toNat_sub_of_le last first (UInt32.le_iff_toNat_le.mpr hle)
  rw [UInt32.toNat_add, hsub]
  show (last.toNat - first.toNat + 1) % 2 ^ 32 = _
  omega

theorem Proper.toNat_rows (h : r.Proper) :
    r.rows.toNat = r.last.row.toNat - r.first.row.toNat + 1 :=
  toNat_size h.row_pos h.row_le

theorem Proper.toNat_columns (h : r.Proper) :
    r.columns.toNat = r.last.column.toNat - r.first.column.toNat + 1 :=
  toNat_size h.column_pos h.column_le

/-! ## Places -/

/-- Blocks of one width, one behind the other, by block and place within the block. -/
theorem getElem?_flatMap_range {α : Type} {f : Nat → List α} {width : Nat}
    (hwidth : ∀ i, (f i).length = width) {n i j : Nat} (hi : i < n) (hj : j < width) :
    ((List.range n).flatMap f)[i * width + j]? = (f i)[j]? := by
  have hlength : ∀ m, ((List.range m).flatMap f).length = m * width := by
    intro m
    induction m with
    | zero => simp
    | succ m ih => simp [List.range_succ, ih, hwidth, Nat.succ_mul]
  induction n with
  | zero => omega
  | succ n ih =>
    rw [List.range_succ, List.flatMap_append, List.flatMap_singleton]
    rcases Nat.lt_or_eq_of_le (Nat.le_of_lt_succ hi) with hlt | rfl
    · have hinside : i * width + j < n * width :=
        calc i * width + j < i * width + width := by omega
          _ = (i + 1) * width := (Nat.succ_mul i width).symm
          _ ≤ n * width := Nat.mul_le_mul_right width hlt
      rw [List.getElem?_append_left (by rw [hlength]; exact hinside), ih hlt]
    · rw [List.getElem?_append_right (by rw [hlength]; omega), hlength]
      congr 1
      omega

/-- The cells by row and column within the range. -/
theorem getElem?_cells {i j : Nat} (hi : i < r.rows.toNat) (hj : j < r.columns.toNat) :
    r.cells[i * r.columns.toNat + j]? =
      some ⟨r.first.row + i.toUInt32, r.first.column + j.toUInt32⟩ := by
  unfold cells
  rw [getElem?_flatMap_range (fun i => by simp) hi hj]
  simp [hj]

/-- Whether a cell lies in a range. -/
def Covers (r : Range) (a : Address) : Prop :=
  (r.first.row.toNat ≤ a.row.toNat ∧ a.row.toNat ≤ r.last.row.toNat) ∧
    r.first.column.toNat ≤ a.column.toNat ∧ a.column.toNat ≤ r.last.column.toNat

instance (r : Range) (a : Address) : Decidable (r.Covers a) :=
  inferInstanceAs (Decidable ((_ ∧ _) ∧ _ ∧ _))

/-- The place of a cell in the list of a range: a whole row for each row above it, and the cells to
its left. -/
def index (r : Range) (a : Address) : Nat :=
  (a.row.toNat - r.first.row.toNat) * r.columns.toNat + (a.column.toNat - r.first.column.toNat)

/-- A word is the one below it with the distance between them. -/
theorem add_sub_toUInt32 {first x : UInt32} (h : first.toNat ≤ x.toNat) :
    first + (x.toNat - first.toNat).toUInt32 = x := by
  have hx := x.toNat_lt
  refine UInt32.toNat_inj.mp ?_
  rw [UInt32.toNat_add, UInt32.toNat_ofNat']
  omega

theorem getElem?_cells_index {a : Address} (h : r.Proper) (ha : r.Covers a) :
    r.cells[r.index a]? = some a := by
  obtain ⟨⟨hrow, hrow'⟩, hcolumn, hcolumn'⟩ := ha
  have hrows := h.toNat_rows
  have hcolumns := h.toNat_columns
  unfold index
  rw [getElem?_cells (by omega) (by omega), add_sub_toUInt32 hrow, add_sub_toUInt32 hcolumn]

end Worksheet.Range
