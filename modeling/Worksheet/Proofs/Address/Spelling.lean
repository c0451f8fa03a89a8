import Worksheet.Address.Basic
import Worksheet.Proofs.Address.Letters
import Worksheet.Proofs.Number.Digits

/-!
# Spellings of addresses

A text spells an address if it consists of letters that name a column and then of digits that name
a row. Exactly these texts are read, as the column and the row that they name, and every address
is read back from its written form. That form is the spelling with its letters in upper case and
without the zeros before its digits.

Results:
* `ofText_eq_ok_iff`: the texts that are read, and the address that each gives.
* `Spells.a1_eq`: the written form of the address that a text spells.
* `spells_a1`: written forms are spellings.
* `codec_exact`: reading and writing addresses.
-/

namespace Worksheet.Address

/-- The text `s` spells an address with these letters and these digits. -/
structure Spells (s : String) (letters digits : List Char) : Prop where
  toList_eq : s.toList = letters ++ digits
  letters_ne_nil : letters ≠ []
  isAlpha : ∀ c ∈ letters, c.isAlpha = true
  column_le : Column.positional letters ≤ Column.maxIndex
  digits_ne_nil : digits ≠ []
  isDigit : ∀ c ∈ digits, c.isDigit = true
  row_pos : 0 < Nat.ofDigitChars 10 digits 0
  row_le : Nat.ofDigitChars 10 digits 0 ≤ Column.maxIndex

variable {s : String} {letters digits : List Char} {a : Address}

/-! ## Reading -/

/-- The digits that name a row, and its number. -/
theorem readRow_eq_ok_iff {whole : String} {n : Nat} :
    readRow whole digits = .ok n ↔
      digits ≠ [] ∧ (∀ c ∈ digits, c.isDigit = true) ∧ Nat.ofDigitChars 10 digits 0 = n ∧
        0 < n ∧ n ≤ Column.maxIndex := by
  unfold readRow
  rw [Number.digitsValue_eq]
  split
  · next hnil => simp [hnil]
  · next hne =>
    split
    · next hdigits =>
      have hnot : ¬ ∀ c ∈ digits, c.isDigit = true := by simpa using hdigits
      simp [hnot]
    · next hdigits =>
      have hall : ∀ c ∈ digits, c.isDigit = true := by simpa using hdigits
      split
      · next hlarge =>
        simp only [reduceCtorEq, false_iff]
        rintro ⟨_, _, rfl, _, hle⟩
        omega
      · next hlarge =>
        split
        · next hzero =>
          simp only [reduceCtorEq, false_iff]
          rintro ⟨_, _, rfl, hpos, _⟩
          omega
        · next hzero =>
          rw [Except.ok.injEq]
          constructor
          · rintro rfl
            exact ⟨hne, hall, rfl, by omega, by omega⟩
          · rintro ⟨_, _, rfl, _, _⟩
            rfl

/-- The letters of a spelling end where its digits start. -/
theorem Spells.split (h : Spells s letters digits) :
    s.toList.takeWhile Char.isAlpha = letters ∧ s.toList.dropWhile Char.isAlpha = digits := by
  obtain ⟨d, rest, rfl⟩ := List.exists_cons_of_ne_nil h.digits_ne_nil
  have hd := Text.isAlpha_eq_false_of_isDigit (h.isDigit d (List.mem_cons_self ..))
  rw [h.toList_eq, List.takeWhile_append_of_pos h.isAlpha, List.dropWhile_append_of_pos h.isAlpha]
  simp [hd]

theorem toNat_toUInt32 {n : Nat} (h : n ≤ Column.maxIndex) : n.toUInt32.toNat = n := by
  refine UInt32.toNat_ofNat_of_lt' ?_
  show n < 0x100000000
  unfold Column.maxIndex at h
  omega

/-- The address that a text spells. -/
theorem Spells.ofText_eq (h : Spells s letters digits) :
    ofText s = .ok ⟨(Nat.ofDigitChars 10 digits 0).toUInt32,
      (Column.positional letters).toUInt32⟩ := by
  have hcolumn := Column.ofLetters_eq_ok_iff.mpr ⟨h.letters_ne_nil, h.isAlpha, rfl, h.column_le⟩
  have hrow : readRow s digits = .ok (Nat.ofDigitChars 10 digits 0) :=
    readRow_eq_ok_iff.mpr ⟨h.digits_ne_nil, h.isDigit, rfl, h.row_pos, h.row_le⟩
  have hne : s.toList ≠ [] := by
    rw [h.toList_eq]
    exact List.append_ne_nil_of_left_ne_nil h.letters_ne_nil _
  obtain ⟨hletters, hdigits⟩ := h.split
  unfold ofText
  simp only [hletters, hdigits, hcolumn, hrow, if_neg hne, if_neg h.letters_ne_nil]

/-- A text that is read spells the address that it is read as. -/
theorem spells_of_ofText (h : ofText s = .ok a) :
    ∃ letters digits, Spells s letters digits ∧ a.column.toNat = Column.positional letters ∧
      a.row.toNat = Nat.ofDigitChars 10 digits 0 := by
  simp only [ofText] at h
  split at h
  · cases h
  · split at h
    · cases h
    · split at h
      · cases h
      · cases h
      · next column row hcolumn hrow =>
        obtain ⟨hletters, halpha, rfl, hcolumn⟩ := Column.ofLetters_eq_ok_iff.mp hcolumn
        obtain ⟨hdigits, hdigit, rfl, hpos, hle⟩ := readRow_eq_ok_iff.mp hrow
        cases h
        exact ⟨_, _, ⟨List.takeWhile_append_dropWhile.symm, hletters, halpha, hcolumn, hdigits,
          hdigit, hpos, hle⟩, toNat_toUInt32 hcolumn, toNat_toUInt32 hle⟩

/-- The texts that are read, and the address that each gives. -/
theorem ofText_eq_ok_iff :
    ofText s = .ok a ↔
      ∃ letters digits, Spells s letters digits ∧ a.column.toNat = Column.positional letters ∧
        a.row.toNat = Nat.ofDigitChars 10 digits 0 := by
  constructor
  · exact spells_of_ofText
  · rintro ⟨letters, digits, h, hcolumn, hrow⟩
    rw [h.ofText_eq, ← hcolumn, ← hrow]
    simp

/-! ## Writing -/

/-- The written form of the address that a text spells. -/
theorem Spells.a1_eq (h : Spells s letters digits) (hread : ofText s = .ok a) :
    a.a1 = String.ofList (letters.map Char.toUpper ++ digits.dropWhile (· = '0')) := by
  rw [h.ofText_eq] at hread
  cases hread
  unfold a1 a1Chars
  rw [toNat_toUInt32 h.column_le, toNat_toUInt32 h.row_le, Column.letters_positional h.isAlpha,
    Number.toDigits_eq_dropWhile h.isDigit h.row_pos]

theorem toNat_le_maxIndex (n : UInt32) : n.toNat ≤ Column.maxIndex := by
  have hlt := n.toNat_lt
  unfold Column.maxIndex
  omega

/-- Written forms are spellings. -/
theorem spells_a1 (hcolumn : 0 < a.column.toNat) (hrow : 0 < a.row.toNat) :
    Spells a.a1 (Column.letters a.column.toNat) (Nat.toDigits 10 a.row.toNat) where
  toList_eq := String.toList_ofList
  letters_ne_nil := Column.letters_ne_nil hcolumn
  isAlpha _ := Column.isAlpha_of_mem_letters
  column_le := by
    rw [Column.positional_letters]
    exact toNat_le_maxIndex a.column
  digits_ne_nil := Nat.toDigits_ne_nil
  isDigit _ := Number.isDigit_of_mem_toDigits
  row_pos := by rwa [Nat.ofDigitChars_ten_toDigits]
  row_le := by
    rw [Nat.ofDigitChars_ten_toDigits]
    exact toNat_le_maxIndex a.row

theorem ofText_a1 (hcolumn : 0 < a.column.toNat) (hrow : 0 < a.row.toNat) :
    ofText a.a1 = .ok a := by
  refine ofText_eq_ok_iff.mpr ⟨_, _, spells_a1 hcolumn hrow, ?_, ?_⟩
  · rw [Column.positional_letters]
  · rw [Nat.ofDigitChars_ten_toDigits]

/-- **Reading and writing addresses.** A text is read exactly when it spells an address, and then
as the column and the row that it names, whose written form has the letters in upper case and the
digits without the zeros before them; any other text is an error. Every address is read back from
its written form. -/
theorem codec_exact (s : String) :
    ((∃ a, ofText s = .ok a) ↔ ∃ letters digits, Spells s letters digits) ∧
      (∀ letters digits, Spells s letters digits →
        ∃ a, ofText s = .ok a ∧ a.column.toNat = Column.positional letters ∧
          a.row.toNat = Nat.ofDigitChars 10 digits 0 ∧
          a.a1 = String.ofList (letters.map Char.toUpper ++ digits.dropWhile (· = '0'))) ∧
      ((∀ letters digits, ¬ Spells s letters digits) → ∃ e, ofText s = .error e) ∧
      ∀ a : Address, 0 < a.column.toNat → 0 < a.row.toNat → ofText a.a1 = .ok a := by
  refine ⟨⟨?_, ?_⟩, ?_, ?_, fun a => ofText_a1⟩
  · rintro ⟨a, ha⟩
    obtain ⟨letters, digits, h, _⟩ := spells_of_ofText ha
    exact ⟨letters, digits, h⟩
  · rintro ⟨letters, digits, h⟩
    exact ⟨_, h.ofText_eq⟩
  · intro letters digits h
    exact ⟨_, h.ofText_eq, toNat_toUInt32 h.column_le, toNat_toUInt32 h.row_le,
      h.a1_eq h.ofText_eq⟩
  · intro hnone
    cases hread : ofText s with
    | ok a =>
      obtain ⟨letters, digits, h, _⟩ := spells_of_ofText hread
      exact absurd h (hnone letters digits)
    | error e => exact ⟨e, rfl⟩

end Worksheet.Address
