import Mathlib.Data.List.Basic
import Worksheet.Proofs.Address.Grid

/-!
# Visiting the cells of a range

A cursor visits the cells of a range in the order of their list. After `k` calls for the next cell
it stands at cell number `k`, which is in row `k / columns` and column `k % columns` of the range,
and has the cells from there on left; when none is left, further calls change nothing. None of the
words it counts with wraps: a column is increased only before the last one of the range, and the row
saturates only when no cell is left.

Results:
* `pairwise_grid`: the list is strictly in the order of addresses.
* `Proper.following_eq`: a step of the cursor takes it from one number to the next.
* `Proper.after_start`: the cursor after any number of calls.
* `between_visited_exactly`: all of this for the range between two addresses.
-/

namespace Worksheet

namespace Address

/-- One address strictly precedes another, by the numbers of their rows and columns. -/
theorem precedes_ne_iff {a b : Address} :
    a.precedes b = true ∧ a ≠ b ↔
      a.row.toNat < b.row.toNat ∨ a.row.toNat = b.row.toNat ∧ a.column.toNat < b.column.toNat := by
  obtain ⟨row, column⟩ := a
  obtain ⟨row', column'⟩ := b
  simp only [precedes, Bool.or_eq_true, Bool.and_eq_true, decide_eq_true_eq, beq_iff_eq, ne_eq,
    mk.injEq, UInt32.lt_iff_toNat_lt, UInt32.le_iff_toNat_le, ← UInt32.toNat_inj]
  omega

theorem eq_of_toNat_eq {a b : Address} (hrow : a.row.toNat = b.row.toNat)
    (hcolumn : a.column.toNat = b.column.toNat) : a = b := by
  obtain ⟨row, column⟩ := a
  obtain ⟨row', column'⟩ := b
  obtain rfl : row = row' := UInt32.toNat_inj.mp hrow
  obtain rfl : column = column' := UInt32.toNat_inj.mp hcolumn
  rfl

end Address

namespace Range

variable {r : Range}

/-! ## The order of the list -/

/-- The grid of a range is strictly in the order of addresses. -/
theorem pairwise_grid (r : Range) :
    r.grid.Pairwise fun a b => a.precedes b = true ∧ a ≠ b := by
  simp only [Address.precedes_ne_iff]
  unfold grid
  refine List.pairwise_flatMap.mpr ⟨fun row hrow => List.pairwise_map.mpr ?_, ?_⟩
  · -- within one row the columns increase
    refine List.Pairwise.imp_of_mem (fun {i j} hi hj hlt => .inr ⟨rfl, ?_⟩) List.pairwise_lt_range'
    rw [List.mem_range'_1] at hi hj
    have hi' := toNat_toUInt32_of_le (n := i) (x := r.last.column) (by omega)
    have hj' := toNat_toUInt32_of_le (n := j) (x := r.last.column) (by omega)
    dsimp only
    omega
  · -- each cell of a row is before each cell of a later one
    refine List.Pairwise.imp_of_mem (fun {i j} hi hj hlt a ha b hb => .inl ?_)
      List.pairwise_lt_range'
    obtain ⟨_, _, rfl⟩ := List.mem_map.mp ha
    obtain ⟨_, _, rfl⟩ := List.mem_map.mp hb
    rw [List.mem_range'_1] at hi hj
    have hi' := toNat_toUInt32_of_le (n := i) (x := r.last.row) (by omega)
    have hj' := toNat_toUInt32_of_le (n := j) (x := r.last.row) (by omega)
    dsimp only
    omega

theorem length_cells (r : Range) : r.cells.length = r.size := by
  simp [cells, size, List.length_flatMap]

/-! ## Cells by number -/

/-- Cell number `k` of a range, counted from zero. -/
def cellAt (r : Range) (k : Nat) : Address :=
  ⟨r.first.row + (k / r.columns.toNat).toUInt32, r.first.column + (k % r.columns.toNat).toUInt32⟩

theorem Proper.columns_pos (h : r.Proper) : 0 < r.columns.toNat := by
  rw [h.toNat_columns]
  exact Nat.succ_pos _

theorem getElem?_cells_eq {k : Nat} (hk : k < r.size) : r.cells[k]? = some (r.cellAt k) := by
  have hcolumns : 0 < r.columns.toNat := Nat.pos_of_mul_pos_left (Nat.zero_lt_of_lt hk)
  have hplace : k / r.columns.toNat * r.columns.toNat + k % r.columns.toNat = k :=
    Nat.div_add_mod' k _
  have hcell :=
    getElem?_cells (Nat.div_lt_of_lt_mul (by rwa [Nat.mul_comm])) (Nat.mod_lt k hcolumns)
  rw [hplace] at hcell
  exact hcell

/-- The row and the column of a cell by its distances from the first one: neither sum wraps. -/
theorem Proper.toNat_offset (h : r.Proper) {i j : Nat} (hi : i < r.rows.toNat)
    (hj : j < r.columns.toNat) :
    (r.first.row + i.toUInt32).toNat = r.first.row.toNat + i ∧
      (r.first.column + j.toUInt32).toNat = r.first.column.toNat + j := by
  have hrow_le := h.row_le
  have hcolumn_le := h.column_le
  rw [h.toNat_rows] at hi
  rw [h.toNat_columns] at hj
  rw [add_toUInt32, add_toUInt32]
  exact ⟨toNat_toUInt32_of_le (x := r.last.row) (by omega),
    toNat_toUInt32_of_le (x := r.last.column) (by omega)⟩

theorem Proper.toNat_cellAt (h : r.Proper) {k : Nat} (hk : k < r.size) :
    (r.cellAt k).row.toNat = r.first.row.toNat + k / r.columns.toNat ∧
      (r.cellAt k).column.toNat = r.first.column.toNat + k % r.columns.toNat :=
  h.toNat_offset (Nat.div_lt_of_lt_mul (by rwa [Nat.mul_comm])) (Nat.mod_lt k h.columns_pos)

theorem toNat_succ_of_lt {x y : UInt32} (h : x.toNat < y.toNat) : (x + 1).toNat = x.toNat + 1 := by
  have hy := y.toNat_lt
  rw [UInt32.toNat_add]
  show (x.toNat + 1) % 2 ^ 32 = _
  omega

/-- Where the quotient and the remainder of a number's successor are found. -/
theorem div_mod_succ {k width : Nat} (hwidth : 0 < width) :
    if k % width + 1 = width then (k + 1) / width = k / width + 1 ∧ (k + 1) % width = 0
    else (k + 1) / width = k / width ∧ (k + 1) % width = k % width + 1 := by
  have hplace := Nat.div_add_mod k width
  split
  · next hlast =>
    have hnext : k + 1 = width * (k / width + 1) := by rw [Nat.mul_succ]; omega
    rw [hnext, Nat.mul_div_cancel_left _ hwidth, Nat.mul_mod_right]
    exact ⟨rfl, rfl⟩
  · next hinner =>
    have hlt : k % width + 1 < width := Nat.lt_of_le_of_ne (Nat.mod_lt k hwidth) hinner
    have hnext : k + 1 = width * (k / width) + (k % width + 1) := by omega
    rw [hnext, Nat.mul_add_div hwidth, Nat.mul_add_mod, Nat.div_eq_of_lt hlt, Nat.mod_eq_of_lt hlt]
    exact ⟨rfl, rfl⟩

/-- The cell that follows in the range: the row changes behind the last column, and only then. -/
theorem Proper.following_eq (h : r.Proper) {k left : Nat} (hk : k + 1 < r.size) :
    Cursor.following ⟨r, r.cellAt k, left⟩ = r.cellAt (k + 1) := by
  obtain ⟨hrow, hcolumn⟩ := h.toNat_cellAt (Nat.lt_of_succ_lt hk)
  obtain ⟨hrow', hcolumn'⟩ := h.toNat_cellAt hk
  have hnumber := div_mod_succ (k := k) h.columns_pos
  have hcolumns := h.toNat_columns
  have hcolumn_le := h.column_le
  have hwidth : (r.cellAt k).column = r.last.column ↔
      k % r.columns.toNat + 1 = r.columns.toNat := by
    rw [← UInt32.toNat_inj, hcolumn]
    omega
  by_cases hlast : k % r.columns.toNat + 1 = r.columns.toNat
  · rw [if_pos hlast] at hnumber
    have hinside : (r.cellAt k).row.toNat < (r.cellAt (k + 1)).row.toNat := by omega
    have hmax := (r.cellAt (k + 1)).row.toNat_lt
    have hrow_ne : (r.cellAt k).row.toNat ≠ Column.maxIndex := by
      unfold Column.maxIndex
      omega
    rw [Cursor.following, if_pos (hwidth.mpr hlast), if_neg hrow_ne]
    refine Address.eq_of_toNat_eq ?_ ?_
    · rw [toNat_succ_of_lt hinside]
      omega
    · dsimp only
      omega
  · rw [if_neg hlast] at hnumber
    have hinside : (r.cellAt k).column.toNat < (r.cellAt (k + 1)).column.toNat := by omega
    rw [Cursor.following, if_neg (mt hwidth.mp hlast)]
    refine Address.eq_of_toNat_eq ?_ ?_
    · dsimp only
      omega
    · rw [toNat_succ_of_lt hinside]
      omega

/-! ## Calls for the next cell -/

namespace Cursor

/-- The cursor after a call for the next cell: where no cell is left it stays. -/
def advance (c : Cursor) : Cursor :=
  match c.step with
  | some (_, next) => next
  | none => c

/-- The cursor after a number of calls. -/
def after (c : Cursor) : Nat → Cursor
  | 0 => c
  | k + 1 => (c.after k).advance

theorem after_advance (c : Cursor) (k : Nat) : c.advance.after k = c.after (k + 1) := by
  induction k with
  | zero => rfl
  | succ k ih => rw [after, ih]; rfl

theorem after_of_step_eq_none {c : Cursor} (h : c.step = none) (k : Nat) : c.after k = c := by
  have hstays : c.advance = c := by rw [advance, h]
  induction k with
  | zero => rfl
  | succ k ih => rw [after, ih, hstays]

/-- Taking cells leads as far as as many calls do. -/
theorem snd_take (n : Nat) (c : Cursor) : (c.take n).2 = c.after n := by
  induction n generalizing c with
  | zero => rfl
  | succ n ih =>
    rw [← after_advance, take, advance]
    cases h : c.step with
    | none => exact (after_of_step_eq_none h n).symm
    | some answer => exact ih answer.2

end Cursor

/-- The cursor after any number of calls: as many cells fewer are left, and while there are any, it
stands at the cell of that number. -/
theorem Proper.after_start (h : r.Proper) (k : Nat) :
    ∃ next, r.start.after k = ⟨r, next, r.size - k⟩ ∧ (k < r.size → next = r.cellAt k) := by
  induction k with
  | zero =>
    refine ⟨r.first, rfl, fun _ => ?_⟩
    simp [cellAt]
  | succ k ih =>
    obtain ⟨next, hafter, hnext⟩ := ih
    rw [Cursor.after, hafter]
    rcases Nat.lt_or_ge k r.size with hlt | hge
    · obtain rfl := hnext hlt
      obtain ⟨left, hleft⟩ := Nat.exists_eq_succ_of_ne_zero (Nat.sub_ne_zero_of_lt hlt)
      refine ⟨Cursor.following ⟨r, r.cellAt k, r.size - k⟩, ?_, fun hk => h.following_eq hk⟩
      have hnext : r.size - (k + 1) = left := by omega
      rw [hleft, hnext]
      rfl
    · have hnone : r.size - k = 0 := Nat.sub_eq_zero_of_le hge
      have hnone' : r.size - (k + 1) = 0 := by omega
      refine ⟨next, ?_, fun hk => absurd hk (by omega)⟩
      rw [hnone, hnone']
      rfl

/-- What the call after `k` calls answers: cell number `k`, or that none is left. -/
theorem Proper.step_after_start (h : r.Proper) (k : Nat) :
    (r.start.after k).step.map Prod.fst = r.cells[k]? := by
  obtain ⟨next, hafter, hnext⟩ := h.after_start k
  rw [hafter]
  rcases Nat.lt_or_ge k r.size with hlt | hge
  · obtain ⟨left, hleft⟩ := Nat.exists_eq_succ_of_ne_zero (Nat.sub_ne_zero_of_lt hlt)
    rw [getElem?_cells_eq hlt, hleft, hnext hlt]
    rfl
  · have hnone : r.size - k = 0 := Nat.sub_eq_zero_of_le hge
    rw [List.getElem?_eq_none (by rwa [length_cells]), hnone]
    rfl

/-- Taking cells from the start takes them from the head of the list. -/
theorem Proper.take_start (h : r.Proper) (n : Nat) :
    r.start.take n = (r.cells.take n, r.start.after n) := by
  refine Prod.ext ?_ (Cursor.snd_take n _)
  have htake : ∀ n k, ((r.start.after k).take n).1 = (r.cells.drop k).take n := by
    intro n
    induction n with
    | zero => intro k; simp [Cursor.take]
    | succ n ih =>
      intro k
      have hstep := h.step_after_start k
      have hrest := ih (k + 1)
      rw [Cursor.after, Cursor.advance] at hrest
      rw [Cursor.take]
      cases hanswer : (r.start.after k).step with
      | none =>
        rw [hanswer] at hstep
        rw [List.drop_eq_nil_of_le (List.getElem?_eq_none_iff.mp hstep.symm)]
        rfl
      | some answer =>
        rw [hanswer] at hstep hrest
        obtain ⟨hk, hcell⟩ := List.getElem?_eq_some_iff.mp hstep.symm
        rw [List.drop_eq_getElem_cons hk, hcell, List.take_succ_cons, ← hrest]
  exact htake n 0

/-! ## Ranges between addresses -/

/-- How many numbers there are from the smaller of two to the larger one. -/
def span (m n : Nat) : Nat :=
  max m n - min m n + 1

theorem toNat_rows_between {a b : Address} (h : (between a b).Proper) :
    (between a b).rows.toNat = span a.row.toNat b.row.toNat := by
  rw [h.toNat_rows, between, toNat_max, toNat_min, span]

theorem toNat_columns_between {a b : Address} (h : (between a b).Proper) :
    (between a b).columns.toNat = span a.column.toNat b.column.toNat := by
  rw [h.toNat_columns, between, toNat_max, toNat_min, span]

/-- A word of 64 bits is large enough for the number of cells. -/
theorem size_lt (r : Range) : r.size < UInt64.size := by
  have hrows : r.rows.toNat ≤ UInt32.size - 1 := Nat.le_sub_one_of_lt r.rows.toNat_lt
  have hcolumns : r.columns.toNat ≤ UInt32.size - 1 := Nat.le_sub_one_of_lt r.columns.toNat_lt
  calc r.size ≤ (UInt32.size - 1) * (UInt32.size - 1) := Nat.mul_le_mul hrows hcolumns
    _ < UInt64.size := by decide

/-- **Visiting a rectangle.** The range between two addresses has as many rows and columns as there
are from the smaller number to the larger one, and its size is their product, with nothing wrapped.
Its list has as many cells as that, strictly in the order of addresses, and they are the addresses
between the two in row and column. A cursor that has been called `k` times answers with cell number
`k` and knows how many are left; behind the last cell it answers that there is none, however often
it is called. The order of the two addresses makes no difference. -/
theorem between_visited_exactly {a b : Address} (ha : 0 < a.row.toNat ∧ 0 < a.column.toNat)
    (hb : 0 < b.row.toNat ∧ 0 < b.column.toNat) :
    ((between a b).rows.toNat = span a.row.toNat b.row.toNat ∧
      (between a b).columns.toNat = span a.column.toNat b.column.toNat ∧
      (between a b).size = (between a b).rows.toNat * (between a b).columns.toNat ∧
      (between a b).size < UInt64.size) ∧
    ((between a b).cells.length = (between a b).size ∧
      (∀ c, c ∈ (between a b).cells ↔
        (min a.row.toNat b.row.toNat ≤ c.row.toNat ∧
          c.row.toNat ≤ max a.row.toNat b.row.toNat) ∧
        min a.column.toNat b.column.toNat ≤ c.column.toNat ∧
          c.column.toNat ≤ max a.column.toNat b.column.toNat) ∧
      (between a b).cells.Pairwise fun c d => c.precedes d = true ∧ c ≠ d) ∧
    (∀ k, ((between a b).start.after k).step.map Prod.fst = (between a b).cells[k]? ∧
      ((between a b).start.after k).left = (between a b).size - min k (between a b).size ∧
      (between a b).start.take k = ((between a b).cells.take k, (between a b).start.after k)) ∧
    (∀ k, (between a b).size ≤ k → ((between a b).start.after k).step = none) ∧
    between b a = between a b := by
  have h := between_proper ha hb
  refine ⟨⟨toNat_rows_between h, toNat_columns_between h, rfl, size_lt _⟩,
    ⟨length_cells _, fun c => ?_, ?_⟩, fun k => ⟨?_, ?_, ?_⟩, fun k hk => ?_, between_comm b a⟩
  · rw [h.cells_eq_grid, mem_grid_iff]
    simp only [Covers, between, toNat_min, toNat_max]
  · rw [h.cells_eq_grid]
    exact pairwise_grid _
  · exact h.step_after_start k
  · obtain ⟨next, hafter, _⟩ := h.after_start k
    rw [hafter]
    dsimp only
    omega
  · exact h.take_start k
  · have hstep := h.step_after_start k
    rwa [List.getElem?_eq_none (by rwa [length_cells]), Option.map_eq_none_iff] at hstep

/-- The square at the end of all rows and columns, by two corners of either diagonal: the fourth
call answers with the last address there is, and there is no fifth cell. -/
theorem visited_lastSquare :
    (0 < (0xFFFFFFFF : UInt32).toNat ∧ 0 < (0xFFFFFFFE : UInt32).toNat) ∧
      (0 < (0xFFFFFFFE : UInt32).toNat ∧ 0 < (0xFFFFFFFF : UInt32).toNat) ∧
      ((between ⟨0xFFFFFFFF, 0xFFFFFFFE⟩ ⟨0xFFFFFFFE, 0xFFFFFFFF⟩).start.after 3).step.map
        Prod.fst = some ⟨0xFFFFFFFF, 0xFFFFFFFF⟩ ∧
      ((between ⟨0xFFFFFFFF, 0xFFFFFFFE⟩ ⟨0xFFFFFFFE, 0xFFFFFFFF⟩).start.after 4).step = none := by
  have ha : 0 < (0xFFFFFFFF : UInt32).toNat ∧ 0 < (0xFFFFFFFE : UInt32).toNat := by decide
  obtain ⟨_, _, hcalls, hend, _⟩ := between_visited_exactly (a := ⟨0xFFFFFFFF, 0xFFFFFFFE⟩)
    (b := ⟨0xFFFFFFFE, 0xFFFFFFFF⟩) ha ha.symm
  exact ⟨ha, ha.symm, (hcalls 3).1, hend 4 (by decide)⟩

end Range

end Worksheet
