import Worksheet.Evaluation
import Worksheet.Proofs.Address.Rectangle
import Worksheet.Proofs.Address.Spelling

/-!
# Reaching a cell by its address

A cell is kept under the upper case of the text that it was written with. For an address that is
the column letters, the zeros before the row and the row, so the spellings of one address that
share a key are those with the same number of such zeros. A range looks its cells up by their
written forms, which have none.

Results:
* `upper_of_ofText`: the key of a spelling.
* `upper_eq_iff`: the spellings of one address that share a key.
* `get?_set_of_ofText`: what a write changes for the other spellings of its address.
* `value_set_of_ofText`: the references and ranges that a write reaches.
-/

namespace Worksheet

namespace Address

variable {s t : String} {letters digits : List Char} {a : Address}

/-! ## Keys of spellings -/

/-- How many zeros stand before the row number in the spelling of an address. -/
def leadingZeros (s : String) : Nat :=
  ((s.toList.dropWhile Char.isAlpha).takeWhile (· = '0')).length

theorem takeWhile_zeros (digits : List Char) :
    digits.takeWhile (· = '0') = List.replicate (digits.takeWhile (· = '0')).length '0' := by
  refine List.eq_replicate_iff.mpr ⟨rfl, fun c hc => ?_⟩
  simpa using List.all_eq_true.mp List.all_takeWhile c hc

theorem upperChars_of_ascii {cs : List Char} (h : ∀ c ∈ cs, c.toNat < 0x80) :
    Text.upperChars cs = cs.map Char.toUpper := by
  induction cs with
  | nil => rfl
  | cons c cs ih =>
    have hc := Text.upperChar_of_ascii (h c (List.mem_cons_self ..))
    have hcs := ih fun d hd => h d (List.mem_cons_of_mem _ hd)
    unfold Text.upperChars at *
    rw [List.flatMap_cons, hc, hcs]
    rfl

theorem map_toUpper_digits {digits : List Char} (h : ∀ c ∈ digits, c.isDigit = true) :
    digits.map Char.toUpper = digits :=
  Text.map_toUpper_of_not_isAlpha fun c hc => Text.isAlpha_eq_false_of_isDigit (h c hc)

/-- The upper case of a spelling changes its letters only. -/
theorem Spells.upper_eq (h : Spells s letters digits) :
    Text.upper s = String.ofList (letters.map Char.toUpper ++ digits) := by
  have hletters : ∀ c ∈ letters, c.toNat < 0x80 := by
    intro c hc
    have hcode := Text.isAlpha_iff.mp (h.isAlpha c hc)
    omega
  have hdigits : ∀ c ∈ digits, c.toNat < 0x80 := by
    intro c hc
    have hcode := Text.isDigit_iff.mp (h.isDigit c hc)
    omega
  unfold Text.upper
  rw [h.toList_eq, Text.upper_append, upperChars_of_ascii hletters, upperChars_of_ascii hdigits,
    map_toUpper_digits h.isDigit]

/-- The key of a spelling: the column letters, the zeros before the row, and the row. -/
theorem upper_of_ofText (h : ofText s = .ok a) :
    Text.upper s = String.ofList (Column.letters a.column.toNat ++
      (List.replicate (leadingZeros s) '0' ++ Nat.toDigits 10 a.row.toNat)) := by
  obtain ⟨letters, digits, hs, hcolumn, hrow⟩ := spells_of_ofText h
  have hzeros : List.replicate (leadingZeros s) '0' = digits.takeWhile (· = '0') := by
    rw [takeWhile_zeros, leadingZeros, hs.split.2]
  rw [hs.upper_eq, hcolumn, hrow, Column.letters_positional hs.isAlpha,
    Number.toDigits_eq_dropWhile hs.isDigit hs.row_pos, hzeros, List.takeWhile_append_dropWhile]

/-- Two spellings of one address have the same key if the same number of zeros stand before the
row. -/
theorem upper_eq_iff (hs : ofText s = .ok a) (ht : ofText t = .ok a) :
    Text.upper s = Text.upper t ↔ leadingZeros s = leadingZeros t := by
  rw [upper_of_ofText hs, upper_of_ofText ht]
  constructor
  · intro h
    have hlength := congrArg String.length h
    simpa using hlength
  · intro h
    rw [h]

theorem pos_of_ofText (h : ofText s = .ok a) : 0 < a.row.toNat ∧ 0 < a.column.toNat := by
  obtain ⟨letters, digits, hs, hcolumn, hrow⟩ := spells_of_ofText h
  rw [hcolumn, hrow]
  exact ⟨hs.row_pos, Column.positional_pos hs.letters_ne_nil⟩

/-- No zero stands before the row of a written form. -/
theorem leadingZeros_a1 (hrow : 0 < a.row.toNat) (hcolumn : 0 < a.column.toNat) :
    leadingZeros a.a1 = 0 := by
  have hs := spells_a1 hcolumn hrow
  have hdrop := Number.toDigits_eq_dropWhile hs.isDigit hs.row_pos
  rw [Nat.ofDigitChars_ten_toDigits] at hdrop
  have hsplit := congrArg List.length
    (List.takeWhile_append_dropWhile (p := (· = '0')) (l := Nat.toDigits 10 a.row.toNat))
  rw [List.length_append, ← hdrop] at hsplit
  rw [leadingZeros, hs.split.2]
  omega

/-! ## Writes -/

/-- A write to an address is seen through the spellings with as many zeros, and no other. -/
theorem get?_set_of_ofText (sheet : Sheet) {cell : Cell} (hcell : cell.isBlank = false)
    (hs : ofText s = .ok a) (ht : ofText t = .ok a) :
    (sheet.set s cell).get? t =
      if leadingZeros t = leadingZeros s then some cell else sheet.get? t := by
  have hkey : Text.upper s = Text.upper t ↔ leadingZeros t = leadingZeros s := by
    rw [upper_eq_iff hs ht, eq_comm]
  rw [Sheet.get?_set, hcell]
  simp [hkey]

end Address

namespace Context

open Address (ofText leadingZeros)

variable {s : String} {a : Address} {cell : Cell}

/-- What a range yields for its cells, by their place. -/
theorem rangeValues_spec (context : Context) {first last : String} {b c : Address}
    (hfirst : ofText first = .ok b) (hlast : ofText last = .ok c)
    (ha : (Range.between b c).Covers a) :
    ∃ items, context.rangeValues first last = .list items ∧
      items[(Range.between b c).index a]? = some (context.member a) := by
  have hproper := Range.between_proper (Address.pos_of_ofText hfirst) (Address.pos_of_ofText hlast)
  refine ⟨(Range.between b c).cells.map context.member, ?_, ?_⟩
  · simp only [rangeValues, hfirst, hlast]
  · rw [List.getElem?_map, Range.getElem?_cells_index hproper ha]
    rfl

/-- **One cell, several spellings.** After a cell is written under a spelling of an address, a
reference to that address yields the cell if it has as many zeros before the row; and each range
that covers the address, however its corners are spelled, yields the cell at its place, if the
write was made without such zeros. Any other reference to the address, and any range if there were
zeros, yields what it did before. -/
theorem value_set_of_ofText (sheet : Sheet) (registry : Registry) (missing : MissingCell)
    (hs : ofText s = .ok a) (hcell : cell.isBlank = false) :
    (∀ t, ofText t = .ok a →
      value ⟨(sheet.set s cell).get?, registry, missing⟩ (.cell t) =
        if leadingZeros t = leadingZeros s then .ofCell cell
        else value ⟨sheet.get?, registry, missing⟩ (.cell t)) ∧
      ∀ first last b c, ofText first = .ok b → ofText last = .ok c →
        (Range.between b c).Covers a →
        ∃ items, value ⟨(sheet.set s cell).get?, registry, missing⟩ (.range first last) =
            .list items ∧
          items[(Range.between b c).index a]? =
            some (if leadingZeros s = 0 then .ofCell cell
              else member ⟨sheet.get?, registry, missing⟩ a) := by
  constructor
  · intro t ht
    have hget := Address.get?_set_of_ofText sheet hcell hs ht
    by_cases hzeros : leadingZeros t = leadingZeros s
    · rw [if_pos hzeros] at hget ⊢
      simp only [value, reference, hget]
    · rw [if_neg hzeros] at hget ⊢
      simp only [value, reference, hget]
  · intro first last b c hfirst hlast ha
    obtain ⟨items, hitems, hitem⟩ :=
      rangeValues_spec ⟨(sheet.set s cell).get?, registry, missing⟩ hfirst hlast ha
    obtain ⟨hrow, hcolumn⟩ := Address.pos_of_ofText hs
    have hget := Address.get?_set_of_ofText sheet hcell hs (Address.ofText_a1 hcolumn hrow)
    rw [Address.leadingZeros_a1 hrow hcolumn] at hget
    refine ⟨items, hitems, ?_⟩
    by_cases hzeros : leadingZeros s = 0
    · rw [if_pos hzeros.symm] at hget
      rw [hitem, if_pos hzeros]
      simp only [member, hget]
    · rw [if_neg (Ne.symm hzeros)] at hget
      rw [hitem, if_neg hzeros]
      simp only [member, hget]

/-- A write under `b2` is read back under `B2` and in the middle of `C03:A1`. -/
theorem value_set_b2 :
    ofText "b2" = .ok ⟨2, 2⟩ ∧ (Cell.text "x").isBlank = false ∧
      value ⟨(Sheet.empty.set "b2" (.text "x")).get?, .empty, .blank⟩ (.cell "B2") =
        .ofCell (.text "x") ∧
      ∃ items,
        value ⟨(Sheet.empty.set "b2" (.text "x")).get?, .empty, .blank⟩ (.range "C03" "A1") =
          .list items ∧ items[4]? = some (.ofCell (.text "x")) := by
  have hs : ofText "b2" = .ok ⟨2, 2⟩ := by rfl
  have hcell : (Cell.text "x").isBlank = false := by rfl
  obtain ⟨href, hrange⟩ := value_set_of_ofText Sheet.empty .empty .blank hs hcell
  have hcovers : (Range.between ⟨3, 3⟩ ⟨1, 1⟩).Covers ⟨2, 2⟩ := by decide
  exact ⟨hs, rfl, href "B2" rfl, hrange "C03" "A1" ⟨3, 3⟩ ⟨1, 1⟩ rfl rfl hcovers⟩

/-- A write under `A01` is seen neither under `A1`, which names the same cell, nor in a range. -/
theorem value_set_A01 :
    ofText "A01" = .ok ⟨1, 1⟩ ∧ ofText "A1" = .ok ⟨1, 1⟩ ∧
      value ⟨(Sheet.empty.set "A01" (.text "x")).get?, .empty, .referenceError⟩ (.cell "A1") =
        .error .reference ∧
      value ⟨(Sheet.empty.set "A01" (.text "x")).get?, .empty, .referenceError⟩
        (.range "A1" "A1") = .list [.error .reference] ∧
      Value.ofCell (.text "x") ≠ .error .reference := by
  have hwritten : ofText "A01" = .ok ⟨1, 1⟩ := by rfl
  have hread : ofText "A1" = .ok ⟨1, 1⟩ := by rfl
  have hget : (Sheet.empty.set "A01" (.text "x")).get? "A1" = none := by
    rw [Address.get?_set_of_ofText Sheet.empty rfl hwritten hread, if_neg (by decide),
      Sheet.get?_empty]
  have hcells : (Range.between ⟨1, 1⟩ ⟨1, 1⟩).cells = [⟨1, 1⟩] := by rfl
  have ha1 : Address.a1 ⟨1, 1⟩ = "A1" := by decide +kernel
  refine ⟨hwritten, hread, ?_, ?_, ?_⟩
  · simp only [value, reference, hget]
  · simp only [value, rangeValues, hread, hcells, List.map, member, ha1, hget]
  · exact Value.noConfusion

end Context

end Worksheet
