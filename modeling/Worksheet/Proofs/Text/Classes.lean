import Mathlib.Data.List.TakeWhile
import Worksheet.Text.Blank
import Worksheet.Text.Letter

/-!
# Disjoint character classes

Digits, blanks and the characters that start a name exclude each other, so the first character of
a token decides its kind and no token starts with a blank. No blank stands inside a name either.
Only letters change in upper case.

Results:
* `startsName_eq_false_of_isDigit`, `continuesName_eq_false_of_isBlank`: no digit starts a name, and
  no blank goes on with one.
* `isBlank_eq_false_of_isDigit`: no digit is a blank.
* `map_toUpper_of_not_isAlpha`: texts that are kept in upper case.
* `trim_eq_self`: what a text needs not to be trimmed.
* `isBlank_of_head?_trim`, `isBlank_of_getLast?_trim`: no blank is left at either end.
* `trim_between`: blanks around a text.
-/

namespace Worksheet.Text

theorem isDigit_iff {c : Char} : c.isDigit = true ↔ 48 ≤ c.toNat ∧ c.toNat ≤ 57 := by
  simp [Char.isDigit, UInt32.le_iff_toNat_le]

theorem isAlpha_iff {c : Char} :
    c.isAlpha = true ↔ (65 ≤ c.toNat ∧ c.toNat ≤ 90) ∨ (97 ≤ c.toNat ∧ c.toNat ≤ 122) := by
  unfold Char.isAlpha Char.isUpper Char.isLower
  simp [UInt32.le_iff_toNat_le]

theorem isAlpha_eq_false_of_isDigit {c : Char} (h : c.isDigit = true) : c.isAlpha = false := by
  rw [isDigit_iff] at h
  rw [Bool.eq_false_iff, Ne, isAlpha_iff]
  omega

theorem toUpper_of_not_isAlpha {c : Char} (h : c.isAlpha = false) : c.toUpper = c := by
  rw [Bool.eq_false_iff, Ne, isAlpha_iff] at h
  unfold Char.toUpper
  rw [dif_neg]
  rintro ⟨hfirst, hlast⟩
  exact h (.inr ⟨hfirst, hlast⟩)

theorem map_toUpper_of_not_isAlpha {s : List Char} (h : ∀ c ∈ s, c.isAlpha = false) :
    s.map Char.toUpper = s := by
  rw [List.map_congr_left fun c hc => toUpper_of_not_isAlpha (h c hc), List.map_id']

/-- The code points of the blanks beyond the space. -/
def highBlanks : List Nat :=
  [0x85, 0xA0, 0x1680, 0x2000, 0x2001, 0x2002, 0x2003, 0x2004, 0x2005, 0x2006, 0x2007, 0x2008,
    0x2009, 0x200A, 0x2028, 0x2029, 0x202F, 0x205F, 0x3000]

theorem toNat_of_isBlank {c : Char} (h : isBlank c = true) :
    c.toNat ≤ 32 ∨ c.toNat ∈ highBlanks := by
  simp only [isBlank, Bool.or_eq_true, Bool.and_eq_true, decide_eq_true_eq, beq_iff_eq] at h
  simp only [highBlanks, List.mem_cons, List.not_mem_nil, or_false]
  omega

theorem isBlank_eq_false_of_isDigit {c : Char} (h : c.isDigit = true) : isBlank c = false := by
  rw [isDigit_iff] at h
  rw [Bool.eq_false_iff]
  intro hb
  have := toNat_of_isBlank hb
  simp only [highBlanks, List.mem_cons, List.not_mem_nil, or_false] at this
  omega

theorem startsName_eq_false_of_isDigit {c : Char} (h : c.isDigit = true) :
    startsName c = false := by
  have halpha := isAlpha_eq_false_of_isDigit h
  rw [isDigit_iff] at h
  have hne : c ≠ '_' := by
    rintro rfl
    simp at h
  simp [startsName, isLetter, show c.toNat < 0x80 by omega, halpha, hne]

theorem continuesName_eq_false_of_isBlank {c : Char} (h : isBlank c = true) :
    continuesName c = false := by
  have hne : c ≠ '_' := by
    rintro rfl
    cases h
  rcases toNat_of_isBlank h with hlow | hmem
  · have halpha : c.isAlpha = false := by
      rw [Bool.eq_false_iff, Ne, isAlpha_iff]
      omega
    have hdigit : c.isDigit = false := by
      rw [Bool.eq_false_iff, Ne, isDigit_iff]
      omega
    simp [continuesName, isLetter, isNumeral, show c.toNat < 0x80 by omega, halpha, hdigit, hne]
  · have hclasses : ∀ n ∈ highBlanks,
        ¬ n < 0x80 ∧ letterRanges.hold n = false ∧ numeralRanges.hold n = false := by
      decide +kernel
    obtain ⟨hhigh, hletter, hnumeral⟩ := hclasses _ hmem
    simp [continuesName, isLetter, isNumeral, hhigh, hletter, hnumeral, hne]

theorem startsName_eq_false_of_isBlank {c : Char} (h : isBlank c = true) :
    startsName c = false := by
  rw [Bool.eq_false_iff]
  intro hstarts
  have hcontinues := continuesName_of_startsName hstarts
  rw [continuesName_eq_false_of_isBlank h] at hcontinues
  cases hcontinues

/-! ## Trimming -/

theorem trimStart_eq_self {s : List Char} (hfirst : ∀ c, s.head? = some c → isBlank c = false) :
    trimStart s = s := by
  cases s with
  | nil => rfl
  | cons c rest => simp [trimStart, hfirst c rfl]

theorem trimEnd_eq_self {s : List Char} (hlast : ∀ c, s.getLast? = some c → isBlank c = false) :
    trimEnd s = s := by
  have hreverse : trimStart s.reverse = s.reverse :=
    trimStart_eq_self fun c hc => hlast c (by rwa [List.head?_reverse] at hc)
  rw [trimEnd, hreverse, List.reverse_reverse]

/-- A text is trimmed already if no blank stands at either end. -/
theorem trim_eq_self {s : List Char} (hfirst : ∀ c, s.head? = some c → isBlank c = false)
    (hlast : ∀ c, s.getLast? = some c → isBlank c = false) : trim s = s := by
  rw [trim, trimStart_eq_self hfirst, trimEnd_eq_self hlast]

/-- A text without blanks at its end is trimmed at its start only. -/
theorem trim_eq_trimStart {s : List Char} (hlast : ∀ c, s.getLast? = some c → isBlank c = false) :
    trim s = trimStart s := by
  apply trimEnd_eq_self
  intro c hc
  obtain ⟨blanks, hs⟩ : trimStart s <:+ s := List.dropWhile_suffix isBlank
  apply hlast
  rw [← hs, List.getLast?_append, hc, Option.some_or]

theorem isBlank_of_head?_trimStart {s : List Char} {c : Char}
    (h : (trimStart s).head? = some c) : isBlank c = false := by
  have hfirst := List.head?_dropWhile_not isBlank s
  unfold trimStart at h
  rw [h] at hfirst
  exact hfirst

/-- Nothing is left of a text without its outer blanks if it is all blanks. -/
theorem trim_eq_nil_iff {s : List Char} : trim s = [] ↔ ∀ c ∈ s, isBlank c = true := by
  have hstart : trimStart s = [] ↔ ∀ c ∈ s, isBlank c = true :=
    List.dropWhile_eq_nil_iff
  rw [← hstart]
  constructor
  · intro h
    have hall : ∀ c ∈ (trimStart s).reverse, isBlank c = true :=
      List.dropWhile_eq_nil_iff.mp (List.reverse_eq_nil_iff.mp h)
    cases hs : trimStart s with
    | nil => rfl
    | cons c rest =>
      have hblank : isBlank c = true := hall c (by simp [hs])
      rw [isBlank_of_head?_trimStart (by rw [hs]; rfl)] at hblank
      cases hblank
  · intro h
    rw [trim, h]
    rfl

theorem isBlank_of_getLast?_trim {s : List Char} {c : Char} (h : (trim s).getLast? = some c) :
    isBlank c = false := by
  rw [trim, trimEnd, List.getLast?_reverse] at h
  exact isBlank_of_head?_trimStart h

theorem trim_prefix_trimStart (s : List Char) : trim s <+: trimStart s := by
  have hsuffix : trimStart (trimStart s).reverse <:+ (trimStart s).reverse :=
    List.dropWhile_suffix isBlank
  rw [← List.reverse_prefix, List.reverse_reverse] at hsuffix
  exact hsuffix

theorem isBlank_of_head?_trim {s : List Char} {c : Char} (h : (trim s).head? = some c) :
    isBlank c = false := by
  obtain ⟨blanks, hs⟩ := trim_prefix_trimStart s
  apply isBlank_of_head?_trimStart (s := s)
  rw [← hs, List.head?_append, h, Option.some_or]

theorem trimStart_blanks_append {before s : List Char} (h : ∀ c ∈ before, isBlank c = true) :
    trimStart (before ++ s) = trimStart s :=
  List.dropWhile_append_of_pos h

theorem trimEnd_append_blanks {s after : List Char} (h : ∀ c ∈ after, isBlank c = true) :
    trimEnd (s ++ after) = trimEnd s := by
  rw [trimEnd, List.reverse_append,
    trimStart_blanks_append fun c hc => h c (List.mem_reverse.mp hc), trimEnd]

/-- Blanks around a text do not show in its trimmed form. -/
theorem trim_between {before s after : List Char} (hbefore : ∀ c ∈ before, isBlank c = true)
    (hafter : ∀ c ∈ after, isBlank c = true) : trim (before ++ s ++ after) = trim s := by
  rw [trim, trim, List.append_assoc, trimStart_blanks_append hbefore]
  cases hs : trimStart s with
  | nil =>
    have hall : trimStart (s ++ after) = trimStart after :=
      trimStart_blanks_append (List.dropWhile_eq_nil_iff.mp hs)
    have hnone : trimStart after = [] := List.dropWhile_eq_nil_iff.mpr hafter
    rw [hall, hnone]
  | cons c rest =>
    have hstart : trimStart (s ++ after) = trimStart s ++ after := by
      unfold trimStart at *
      rw [List.dropWhile_append, hs]
      rfl
    rw [hstart, hs, trimEnd_append_blanks hafter]

/-- A first character that is no blank is kept. -/
theorem exists_trim_cons {c : Char} (h : isBlank c = false) (s : List Char) :
    ∃ more, trim (c :: s) = c :: more := by
  have hstart : trimStart (c :: s) = c :: s := List.dropWhile_cons_of_neg (by simp [h])
  have hstarts := hstart ▸ trim_prefix_trimStart (c :: s)
  cases htrim : trim (c :: s) with
  | nil =>
    have hblank := trim_eq_nil_iff.mp htrim c List.mem_cons_self
    cases h.symm.trans hblank
  | cons d more =>
    rw [htrim, List.cons_prefix_cons] at hstarts
    exact ⟨more, by rw [hstarts.1]⟩

end Worksheet.Text
