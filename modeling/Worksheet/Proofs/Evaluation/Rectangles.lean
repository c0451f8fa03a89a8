import Worksheet.Proofs.Address.LetterCase
import Worksheet.Proofs.Address.Visiting

/-!
# Values of ranges

A range is evaluated to the values of its rectangle, row by row, each looked up under the written
form of its address. What is not set is an error among them, whatever is made of single references
that are not set. How the corners are spelled, and which two opposite corners they are, does not
matter; the range itself is an error only if one of them is no address.

Results:
* `Respells.ofText_eq`: spellings with letters of the other case and more or fewer zeros.
* `Opposite.between_eq`: the corners that a rectangle can be given by.
* `value_range_exactly`: the values of ranges.
-/

namespace Worksheet

namespace Address

variable {s t : String} {a b c d : Address}

/-! ## Spellings of one address -/

/-- The text `s` spells an address, and `t` has its letters, in either case, and then its row with
any number of zeros before it. -/
def Respells (s t : String) : Prop :=
  ∃ letters digits own row, Spells s letters digits ∧ t.toList = own ++ row ∧
    own.map Char.toUpper = letters.map Char.toUpper ∧ (∀ c ∈ row, c.isDigit = true) ∧
    row.dropWhile (· = '0') = digits.dropWhile (· = '0')

/-- Zeros before a row change nothing. -/
theorem ofDigitChars_dropWhile (digits : List Char) :
    Nat.ofDigitChars 10 (digits.dropWhile (· = '0')) 0 = Nat.ofDigitChars 10 digits 0 := by
  conv => rhs; rw [← List.takeWhile_append_dropWhile (p := (· = '0')) (l := digits)]
  rw [takeWhile_zeros, Nat.ofDigitChars_append, Nat.ofDigitChars_replicate_zero, Nat.mul_zero]

theorem Respells.ofText_eq (h : Respells s t) : ofText t = ofText s := by
  obtain ⟨letters, digits, own, row, hs, htext, hown, hrow, hzeros⟩ := h
  have hcolumn : Column.positional own = Column.positional letters :=
    Column.positional_of_map_toUpper hown
  have hnumber : Nat.ofDigitChars 10 row 0 = Nat.ofDigitChars 10 digits 0 := by
    rw [← ofDigitChars_dropWhile row, hzeros, ofDigitChars_dropWhile]
  have ht : Spells t own row :=
    { toList_eq := htext
      letters_ne_nil := by
        rintro rfl
        exact hs.letters_ne_nil (List.map_eq_nil_iff.mp hown.symm)
      isAlpha := Column.isAlpha_of_map_toUpper hown hs.isAlpha
      column_le := hcolumn ▸ hs.column_le
      digits_ne_nil := by
        rintro rfl
        have hpos := hs.row_pos
        rw [← hnumber] at hpos
        exact absurd hpos (by decide)
      isDigit := hrow
      row_pos := hnumber ▸ hs.row_pos
      row_le := hnumber ▸ hs.row_le }
  rw [ht.ofText_eq, hs.ofText_eq, hcolumn, hnumber]

/-! ## Corners of one rectangle -/

/-- The addresses `c` and `d` are opposite corners of the same rectangle as `a` and `b`. -/
structure Opposite (a b c d : Address) : Prop where
  top : min c.row.toNat d.row.toNat = min a.row.toNat b.row.toNat
  bottom : max c.row.toNat d.row.toNat = max a.row.toNat b.row.toNat
  left : min c.column.toNat d.column.toNat = min a.column.toNat b.column.toNat
  right : max c.column.toNat d.column.toNat = max a.column.toNat b.column.toNat

theorem Opposite.between_eq (h : Opposite a b c d) : Range.between c d = Range.between a b := by
  refine congrArg₂ Range.mk (eq_of_toNat_eq ?_ ?_) (eq_of_toNat_eq ?_ ?_)
  · simpa only [Range.toNat_min] using h.top
  · simpa only [Range.toNat_min] using h.left
  · simpa only [Range.toNat_max] using h.bottom
  · simpa only [Range.toNat_max] using h.right

end Address

namespace Context

open Address (ofText Respells Opposite)
open Range (span)

variable {first last : String} {a b : Address}

/-! ## Ranges that are errors -/

theorem rangeValues_of_ofText (context : Context) (ha : ofText first = .ok a)
    (hb : ofText last = .ok b) :
    context.rangeValues first last = .list ((Range.between a b).cells.map context.member) := by
  rw [rangeValues, ha, hb]

/-- A range is an error if and only if one of its corners is no address. -/
theorem rangeValues_eq_error_iff (context : Context) :
    context.rangeValues first last = .error .reference ↔
      (∀ a, ofText first ≠ .ok a) ∨ ∀ b, ofText last ≠ .ok b := by
  unfold rangeValues
  cases ofText first with
  | error e => simp
  | ok a =>
    cases ofText last with
    | error e => simp
    | ok b => simp

/-! ## Ranges that are lists -/

/-- The cell in row `i` and column `j` of a rectangle, counted from zero. -/
theorem member_at (context : Context) (h : (Range.between a b).Proper) {i j : Nat}
    (hi : i < span a.row.toNat b.row.toNat) (hj : j < span a.column.toNat b.column.toNat) :
    ∃ c : Address, c.row.toNat = min a.row.toNat b.row.toNat + i ∧
      c.column.toNat = min a.column.toNat b.column.toNat + j ∧
      ((Range.between a b).cells.map context.member)[i * span a.column.toNat b.column.toNat + j]? =
        some (context.member c) := by
  rw [← Range.toNat_rows_between h] at hi
  rw [← Range.toNat_columns_between h] at hj ⊢
  obtain ⟨hrow, hcolumn⟩ := h.toNat_offset hi hj
  refine ⟨⟨_, _⟩, hrow.trans ?_, hcolumn.trans ?_, ?_⟩
  · rw [Range.between, Range.toNat_min]
  · rw [Range.between, Range.toNat_min]
  · rw [List.getElem?_map, Range.getElem?_cells hi hj]
    rfl

/-- A value in a range is blank only where a blank is held. -/
theorem member_ne_blank {context : Context} {c : Address}
    (h : context.cell? c.a1 ≠ some .blank) : context.member c ≠ .blank := by
  unfold member
  split
  · next cell hcell =>
    cases cell with
    | blank => exact absurd hcell h
    | _ => exact Value.noConfusion
  · exact Value.noConfusion

/-- **The values of a range.** A range is an error if and only if one of its corners is no address.
Otherwise it is a list with as many items as its rectangle has cells, and the item in row `i` and
column `j`, counted from the smallest ones, is the value held under the written form of the address
there, or an error if none is held. So an item is blank only where a blank is held, the policy for
single cells makes no difference, and neither does the choice of opposite corners, the case of
letters or the number of zeros before a row. -/
theorem value_range_exactly (context : Context) (first last : String) :
    (context.value (.range first last) = .error .reference ↔
      (∀ a, ofText first ≠ .ok a) ∨ ∀ b, ofText last ≠ .ok b) ∧
    ∀ a b, ofText first = .ok a → ofText last = .ok b →
      ∃ items, context.value (.range first last) = .list items ∧
        items.length = span a.row.toNat b.row.toNat * span a.column.toNat b.column.toNat ∧
        (∀ i j, i < span a.row.toNat b.row.toNat → j < span a.column.toNat b.column.toNat →
          ∃ c : Address, c.row.toNat = min a.row.toNat b.row.toNat + i ∧
            c.column.toNat = min a.column.toNat b.column.toNat + j ∧
            items[i * span a.column.toNat b.column.toNat + j]? =
              some ((context.cell? c.a1).elim (.error .reference) .ofCell)) ∧
        ((∀ c, (Range.between a b).Covers c → context.cell? c.a1 ≠ some .blank) →
          .blank ∉ items) ∧
        (∀ missing, value { context with missing } (.range first last) = .list items) ∧
        (∀ other another c d, ofText other = .ok c → ofText another = .ok d → Opposite a b c d →
          context.value (.range other another) = .list items) ∧
        ∀ other another, Respells first other → Respells last another →
          context.value (.range other another) = .list items := by
  refine ⟨context.rangeValues_eq_error_iff, fun a b ha hb => ?_⟩
  have h := Range.between_proper (Address.pos_of_ofText ha) (Address.pos_of_ofText hb)
  refine ⟨(Range.between a b).cells.map context.member, context.rangeValues_of_ofText ha hb, ?_, ?_,
    ?_, fun missing => rangeValues_of_ofText _ ha hb, ?_, ?_⟩
  · rw [List.length_map, Range.length_cells, Range.size, Range.toNat_rows_between h,
      Range.toNat_columns_between h]
  · intro i j hi hj
    obtain ⟨c, hrow, hcolumn, hitem⟩ := context.member_at h hi hj
    refine ⟨c, hrow, hcolumn, hitem.trans ?_⟩
    unfold member
    cases context.cell? c.a1 <;> rfl
  · intro hheld hblank
    obtain ⟨c, hc, heq⟩ := List.mem_map.mp hblank
    rw [h.cells_eq_grid, Range.mem_grid_iff] at hc
    exact member_ne_blank (hheld c hc) heq
  · intro other another c d hc hd hsame
    rw [value, rangeValues_of_ofText _ hc hd, hsame.between_eq]
  · intro other another hother hanother
    exact context.rangeValues_of_ofText (hother.ofText_eq.trans ha) (hanother.ofText_eq.trans hb)

end Context

end Worksheet
