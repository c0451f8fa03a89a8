import Worksheet.Proofs.Address.Spelling
import Worksheet.Proofs.CommandLine.Cells
import Worksheet.Proofs.Number.Signs

/-!
# Written cells

Every content of a cell has a form in which an assignment gives it: a text stands between quotes,
and anything else as the cell shows it. The forms are told apart. A number is shown without quotes
and blanks, the words for truth and the error codes are no numbers, and only what stands between
quotes is a text, whatever it holds. An assignment is cut at its first equals sign, which no
address and no blank around one holds.

Results:
* `exists_text_cons`: what the text of a number starts with and consists of.
* `contentOf_written`: the written form of a content stands for it.
* `readAssignment_written`: an assignment gives the cell that is written there.
-/

namespace Worksheet.CommandLine

/-- The form in which an assignment gives a content: texts stand between quotes, and the rest as the
cell shows it. -/
def written : Cell → String
  | .text s => "\"" ++ s ++ "\""
  | cell => cell.display

/-! ## Contents -/

/-- The text of a finite number starts with no quote and holds no blank. -/
theorem exists_text_cons {x : Float} (h : x.isFinite = true) :
    ∃ c rest, (Number.text x).toList = c :: rest ∧ c ≠ '"' ∧
      ∀ d ∈ c :: rest, Text.isBlank d = false := by
  have hdigit : ∀ {c : Char} {rest : List Char}, c.isDigit = true →
      (∀ d ∈ rest, d.isDigit = true ∨ d = '.') → ∀ d ∈ c :: rest, Text.isBlank d = false := by
    intro c rest hc hrest d hd
    rcases List.mem_cons.mp hd with rfl | hd
    · exact Text.isBlank_eq_false_of_isDigit hc
    · rcases hrest d hd with hd | rfl
      · exact Text.isBlank_eq_false_of_isDigit hd
      · rfl
  cases hsign : Number.isNegative x with
  | false =>
    obtain ⟨c, rest, hcons, hc, hrest, _⟩ := Number.text_shape h hsign
    refine ⟨c, rest, hcons, ?_, hdigit hc hrest⟩
    rintro rfl
    cases hc
  | true =>
    obtain ⟨y, hy, hnegative, rfl⟩ := Number.exists_neg_eq h hsign
    obtain ⟨c, rest, hcons, hc, hrest, _⟩ := Number.text_shape hy hnegative
    rw [Number.text_neg hy hnegative, hcons]
    exact ⟨'-', c :: rest, rfl, by decide,
      List.forall_mem_cons.mpr ⟨rfl, hdigit hc hrest⟩⟩

theorem contentOf_text_number {x : Float} (h : x.isFinite = true) :
    contentOf (Number.text x).toList = .number x := by
  have hread := Number.read_text_of_isFinite h
  obtain ⟨c, rest, hcons, hquote, hblank⟩ := exists_text_cons h
  rw [hcons] at hread ⊢
  have hunquoted : unquoted? (c :: rest) = none := by
    unfold unquoted?
    split
    · next heq =>
      cases heq
      exact absurd rfl hquote
    · rfl
  rw [contentOf, hunquoted, Text.trim_of_no_blank hblank]
  simp [contentOfTrimmed, hread, h, Option.filter]

/-- The written form of a content stands for it. -/
theorem contentOf_written {cell : Cell} (h : ∀ x, cell = .number x → x.isFinite = true) :
    contentOf (written cell).toList = cell := by
  cases cell with
  | blank => rfl
  | logical b => cases b <;> decide +kernel
  | number x => exact contentOf_text_number (h x rfl)
  | text s =>
    have hquoted : (written (.text s)).toList = '"' :: s.toList ++ ['"'] := by
      simp [written]
    rw [hquoted, contentOf_quoted, String.ofList_toList]
  | error e => cases e <;> decide +kernel

/-! ## Assignments -/

/-- The spelling of an address holds no blank and no equals sign. -/
theorem plain_of_ofText {s : String} {a : Address} (h : Address.ofText s = .ok a) :
    ∀ c ∈ s.toList, Text.isBlank c = false ∧ c ≠ '=' := by
  obtain ⟨letters, digits, hs, _⟩ := Address.spells_of_ofText h
  intro c hc
  rw [hs.toList_eq, List.mem_append] at hc
  have hcode : c.toNat < 0x80 ∧ 32 < c.toNat ∧ c.toNat ≠ 61 := by
    rcases hc with hc | hc
    · have hletter := Text.isAlpha_iff.mp (hs.isAlpha c hc)
      omega
    · have hdigit := Text.isDigit_iff.mp (hs.isDigit c hc)
      omega
  constructor
  · rw [Bool.eq_false_iff]
    intro hblank
    have hcodes := Text.toNat_of_isBlank hblank
    simp only [Text.highBlanks, List.mem_cons, List.not_mem_nil, or_false] at hcodes
    omega
  · rintro rfl
    exact hcode.2.2 rfl

/-- **Written cells arrive.** Take any text that is read as an address, with any blanks around it,
and any content of a cell, of the numbers the finite ones. The assignment of the written form of
that content gives the address as it is spelled, and exactly that content. -/
theorem readAssignment_written {before after s : String} {a : Address} {cell : Cell}
    (hbefore : ∀ c ∈ before.toList, Text.isBlank c = true)
    (hafter : ∀ c ∈ after.toList, Text.isBlank c = true) (hs : Address.ofText s = .ok a)
    (hcell : ∀ x, cell = .number x → x.isFinite = true) :
    readAssignment (before ++ s ++ after ++ "=" ++ written cell) = .ok (s, cell) := by
  have hplain := plain_of_ofText hs
  have hfree : '=' ∉ before.toList ++ s.toList ++ after.toList := by
    intro hmem
    rcases List.mem_append.mp hmem with hmem | hmem
    · rcases List.mem_append.mp hmem with hmem | hmem
      · cases hbefore _ hmem
      · exact (hplain _ hmem).2 rfl
    · cases hafter _ hmem
  have hsplit : splitEquals (before ++ s ++ after ++ "=" ++ written cell).toList =
      some (before.toList ++ s.toList ++ after.toList, (written cell).toList) :=
    splitEquals_eq_some_iff.mpr ⟨by simp, hfree⟩
  have htrim : Text.trim (before.toList ++ s.toList ++ after.toList) = s.toList := by
    rw [Text.trim_between hbefore hafter, Text.trim_of_no_blank fun c hc => (hplain c hc).1]
  simp only [readAssignment, hsplit, htrim, String.ofList_toList, hs, contentOf_written hcell]

/-- A text that holds an equals sign, quotes and a blank at its end, for a cell with blanks around
its address and a zero before its row. -/
theorem readAssignment_written_quotes :
    readAssignment "  b02\t=\"a=\"b\" \"" = .ok ("b02", .text "a=\"b\" ") := by
  have hs : Address.ofText "b02" = .ok ⟨2, 2⟩ := by decide +kernel
  have hassignment : "  b02\t=\"a=\"b\" \"" =
      "  " ++ "b02" ++ "\t" ++ "=" ++ written (.text "a=\"b\" ") := by decide +kernel
  rw [hassignment]
  exact readAssignment_written (List.all_eq_true.mp (by decide +kernel))
    (List.all_eq_true.mp (by decide +kernel)) hs nofun

end Worksheet.CommandLine
