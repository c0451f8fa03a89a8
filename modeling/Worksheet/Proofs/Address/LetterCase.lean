import Worksheet.Proofs.Address.Access
import Worksheet.Proofs.Text.UpperCase

/-!
# Texts up to letter case

Two texts are equal up to the case of ASCII letters if they have the same folded form, in which
these letters are in upper case. Such texts have the same upper case, and if one of them spells an
address, the other one spells it too. Folding is less than upper case: letters beyond ASCII, of
which no address is made, are kept.

Results:
* `Text.upper_fold`: the upper case of a folded text.
* `Column.positional_of_map_toUpper`: letters that name the same column.
* `ofText_fold`: the address that a folded text spells.
-/

namespace Worksheet

/-! ## Texts -/

namespace Text

/-- A text with its ASCII letters in upper case. -/
def fold (s : String) : String :=
  String.ofList (s.toList.map Char.toUpper)

theorem toList_fold (s : String) : (fold s).toList = s.toList.map Char.toUpper :=
  String.toList_ofList

theorem toUpper_of_high {c : Char} (h : 0x80 ≤ c.toNat) : c.toUpper = c := by
  apply toUpper_of_not_isAlpha
  rw [Bool.eq_false_iff, Ne, isAlpha_iff]
  omega

theorem toUpper_toUpper (c : Char) : c.toUpper.toUpper = c.toUpper := by
  rcases Nat.lt_or_ge c.toNat 0x80 with hlow | hhigh
  · obtain ⟨_, htwice, _⟩ := toUpper_spec c.toNat hlow
    rwa [Char.ofNat_toNat] at htwice
  · rw [toUpper_of_high hhigh, toUpper_of_high hhigh]

theorem isAlpha_toUpper (c : Char) : c.toUpper.isAlpha = c.isAlpha := by
  rcases Nat.lt_or_ge c.toNat 0x80 with hlow | hhigh
  · obtain ⟨_, _, _, _, halpha⟩ := toUpper_spec c.toNat hlow
    rwa [Char.ofNat_toNat] at halpha
  · rw [toUpper_of_high hhigh]

theorem fold_fold (s : String) : fold (fold s) = fold s := by
  unfold fold
  rw [String.toList_ofList, List.map_map]
  simp only [Function.comp_def, toUpper_toUpper]

theorem upperChar_toUpper (c : Char) : upperChar c.toUpper = upperChar c := by
  rcases Nat.lt_or_ge c.toNat 0x80 with hlow | hhigh
  · obtain ⟨hascii, _⟩ := toUpper_spec c.toNat hlow
    rw [Char.ofNat_toNat] at hascii
    rw [upperChar_of_ascii hascii, upperChar_of_ascii hlow, toUpper_toUpper]
  · rw [toUpper_of_high hhigh]

/-- Upper case takes no notice of a change of ASCII letters to upper case. -/
theorem upper_fold (s : String) : upper (fold s) = upper s := by
  have hchars : upperChars (s.toList.map Char.toUpper) = upperChars s.toList := by
    simp only [upperChars, List.flatMap_map, upperChar_toUpper]
  rw [upper, toList_fold, hchars, upper]

end Text

/-! ## Addresses -/

namespace Column

theorem positional_map_toUpper (s : List Char) :
    positional (s.map Char.toUpper) = positional s := by
  induction s with
  | nil => rfl
  | cons c rest ih =>
    have hplace : place c.toUpper = place c := by
      rw [place, Text.toUpper_toUpper, place]
    rw [List.map_cons, positional, positional, ih, hplace, List.length_map]

/-- Letters that are equal up to case name the same column. -/
theorem positional_of_map_toUpper {own letters : List Char}
    (h : own.map Char.toUpper = letters.map Char.toUpper) :
    positional own = positional letters := by
  rw [← positional_map_toUpper own, h, positional_map_toUpper]

theorem isAlpha_of_map_toUpper {own letters : List Char}
    (h : own.map Char.toUpper = letters.map Char.toUpper)
    (hletters : ∀ c ∈ letters, c.isAlpha = true) : ∀ c ∈ own, c.isAlpha = true := by
  intro c hc
  have hupper : c.toUpper ∈ letters.map Char.toUpper := h ▸ List.mem_map_of_mem hc
  obtain ⟨d, hd, hdc⟩ := List.mem_map.mp hupper
  rw [← Text.isAlpha_toUpper, ← hdc, Text.isAlpha_toUpper]
  exact hletters d hd

end Column

namespace Address

open Text (fold)

variable {s t : String} {letters digits : List Char} {a : Address}

/-- What a text spells, a text that is equal up to letter case spells with letters of its own. -/
theorem Spells.of_fold_eq (h : Spells s letters digits) (hfold : fold s = fold t) :
    ∃ own, Spells t own digits ∧ Column.positional own = Column.positional letters := by
  have hchars : t.toList.map Char.toUpper = letters.map Char.toUpper ++ digits := by
    rw [← Text.toList_fold, ← hfold, Text.toList_fold, h.toList_eq, List.map_append,
      map_toUpper_digits h.isDigit]
  obtain ⟨own, rest, hsplit, hown, rfl⟩ := List.map_eq_append_iff.mp hchars
  have hrest : rest.map Char.toUpper = rest := by
    refine Text.map_toUpper_of_not_isAlpha fun c hc => ?_
    rw [← Text.isAlpha_toUpper]
    exact Text.isAlpha_eq_false_of_isDigit (h.isDigit _ (List.mem_map_of_mem hc))
  have hvalue : Column.positional own = Column.positional letters :=
    Column.positional_of_map_toUpper hown
  have halpha : ∀ c ∈ own, c.isAlpha = true := Column.isAlpha_of_map_toUpper hown h.isAlpha
  refine ⟨own, { h with toList_eq := ?_, letters_ne_nil := ?_, isAlpha := halpha, column_le := ?_ },
    hvalue⟩
  · rw [hsplit, hrest]
  · rintro rfl
    exact h.letters_ne_nil (List.map_eq_nil_iff.mp hown.symm)
  · rw [hvalue]
    exact h.column_le

theorem ofText_of_fold_eq (h : ofText s = .ok a) (hfold : fold s = fold t) : ofText t = .ok a := by
  obtain ⟨letters, digits, hs, hcolumn, hrow⟩ := spells_of_ofText h
  obtain ⟨own, ht, hvalue⟩ := hs.of_fold_eq hfold
  exact ofText_eq_ok_iff.mpr ⟨own, digits, ht, hcolumn.trans hvalue.symm, hrow⟩

/-- A folded text spells the address that the text does, if any. -/
theorem ofText_fold (s : String) : (ofText (fold s)).toOption = (ofText s).toOption := by
  cases hread : ofText s with
  | ok a => rw [ofText_of_fold_eq hread (Text.fold_fold s).symm]
  | error e =>
    cases hfolded : ofText (fold s) with
    | ok a => cases hread.symm.trans (ofText_of_fold_eq hfolded (Text.fold_fold s))
    | error other => rfl

end Address

end Worksheet
