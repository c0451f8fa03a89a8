import Worksheet.Address.Basic

/-!
# Ranges of cells

A range is a rectangle given by its first and its last cell. Any two opposite corners give one.
Its cells are listed row by row; a cursor visits them one at a time and knows how many are left.

Results:
* `between_comm`: the order of the corners does not matter.
-/

namespace Worksheet

/-- A rectangle of cells, both corners included. -/
structure Range where
  first : Address
  last : Address
deriving DecidableEq, Repr

namespace Range

/-- The range that has two addresses as opposite corners. -/
def between (a b : Address) : Range :=
  ⟨⟨min a.row b.row, min a.column b.column⟩, ⟨max a.row b.row, max a.column b.column⟩⟩

/-- The number of rows. -/
def rows (r : Range) : UInt32 :=
  r.last.row - r.first.row + 1

/-- The number of columns. -/
def columns (r : Range) : UInt32 :=
  r.last.column - r.first.column + 1

/-- The number of cells. -/
def size (r : Range) : Nat :=
  r.rows.toNat * r.columns.toNat

/-- The written form: both corners, or the one cell. -/
def a1 (r : Range) : String :=
  if r.first = r.last then r.first.a1 else r.first.a1 ++ ":" ++ r.last.a1

/-- The cells, row by row. -/
def cells (r : Range) : List Address :=
  (List.range r.rows.toNat).flatMap fun i =>
    (List.range r.columns.toNat).map fun j =>
      ⟨r.first.row + i.toUInt32, r.first.column + j.toUInt32⟩

theorem min_swap (a b : UInt32) : min a b = min b a := by
  rw [← UInt32.toNat_inj]
  show (if a ≤ b then a else b).toNat = (if b ≤ a then b else a).toNat
  split <;> split <;> simp_all [UInt32.le_iff_toNat_le] <;> omega

theorem max_swap (a b : UInt32) : max a b = max b a := by
  rw [← UInt32.toNat_inj]
  show (if a ≤ b then b else a).toNat = (if b ≤ a then a else b).toNat
  split <;> split <;> simp_all [UInt32.le_iff_toNat_le] <;> omega

theorem between_comm (a b : Address) : between a b = between b a := by
  rw [between, between, min_swap a.row, min_swap a.column, max_swap a.row, max_swap a.column]

/-! ## Visiting one cell at a time -/

/-- A position in a range: the cell that comes next and how many are left. -/
structure Cursor where
  range : Range
  next : Address
  left : Nat
deriving DecidableEq, Repr

/-- The cursor before the first cell. -/
def start (r : Range) : Cursor :=
  ⟨r, r.first, r.size⟩

namespace Cursor

/-- The address after the next one: in the same row, or at the start of the following row. -/
def following (c : Cursor) : Address :=
  if c.next.column = c.range.last.column then
    ⟨if c.next.row.toNat = Column.maxIndex then c.next.row else c.next.row + 1,
      c.range.first.column⟩
  else ⟨c.next.row, c.next.column + 1⟩

/-- The next cell and the cursor behind it, while cells are left. -/
def step (c : Cursor) : Option (Address × Cursor) :=
  match c.left with
  | 0 => none
  | left + 1 => some (c.next, ⟨c.range, c.following, left⟩)

/-- The next `n` cells, or all that are left, and the cursor behind them. -/
def take : Nat → Cursor → List Address × Cursor
  | 0, c => ([], c)
  | n + 1, c =>
    match c.step with
    | none => ([], c)
    | some (a, c) =>
      let (more, c) := take n c
      (a :: more, c)

end Cursor

end Range

end Worksheet
