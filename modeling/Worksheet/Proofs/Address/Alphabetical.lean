import Mathlib.Data.List.Shortlex
import Worksheet.Proofs.Address.Letters

/-!
# The order of column letters

Columns follow one another as their letters do in shortlex order: shorter letters come first, and
letters of one length are in alphabetical order. For the last letter of a column runs through the
alphabet while the letters before it stay, and then these go on to their own next.

Results:
* `isUpper_of_mem_letters`: columns are written in upper case.
* `shortlex_concat`: one more letter behind letters in order.
* `shortlex_letters_iff`: columns are ordered as their letters are.
* `letters_ordered_bijection`: the letters of columns and the columns of letters.
-/

namespace Worksheet.Column

/-! ## Upper case -/

theorem isUpper_toUpper {c : Char} (h : c.isAlpha = true) : c.toUpper.isUpper = true :=
  of_isAlpha (P := fun c => c.toUpper.isUpper = true) (by decide) h

theorem map_toUpper_letters (n : Nat) : (letters n).map Char.toUpper = letters n := by
  rw [← letters_positional fun c => isAlpha_of_mem_letters, positional_letters]

theorem isUpper_of_mem_letters {n : Nat} {c : Char} (h : c ∈ letters n) : c.isUpper = true := by
  rw [← map_toUpper_letters] at h
  obtain ⟨d, hd, rfl⟩ := List.mem_map.mp h
  exact isUpper_toUpper (isAlpha_of_mem_letters hd)

/-! ## Order -/

/-- The letters at two places, counted from zero, are in the order of the places. -/
theorem letter_lt {i j : Nat} (h : i < j) (hj : j < 26) :
    Char.ofNat ('A'.toNat + i) < Char.ofNat ('A'.toNat + j) := by
  have hall : ∀ j ∈ List.range 26, ∀ i ∈ List.range j,
      Char.ofNat ('A'.toNat + i) < Char.ofNat ('A'.toNat + j) := by decide
  exact hall j (List.mem_range.mpr hj) i (List.mem_range.mpr h)

/-- Whatever stands behind lists of one length, the lists decide on the order. -/
theorem lex_concat {s t : List Char} (h : List.Lex (· < ·) s t) (hlength : s.length = t.length)
    (c d : Char) : List.Lex (· < ·) (s ++ [c]) (t ++ [d]) := by
  induction h with
  | nil => cases hlength
  | cons _ ih => exact .cons (ih (Nat.succ.inj hlength))
  | rel hlt => exact .rel hlt

theorem shortlex_concat {s t : List Char} (h : List.Shortlex (· < ·) s t) (c d : Char) :
    List.Shortlex (· < ·) (s ++ [c]) (t ++ [d]) := by
  rcases List.shortlex_def.mp h with hshorter | ⟨hlength, hlex⟩
  · refine .of_length_lt ?_
    rw [List.length_append, List.length_append]
    exact Nat.add_lt_add_right hshorter 1
  · refine .of_lex ?_ (lex_concat hlex hlength c d)
    rw [List.length_append, List.length_append, hlength]
    rfl

theorem shortlex_letters {m n : Nat} (h : m < n) :
    List.Shortlex (· < ·) (letters m) (letters n) := by
  induction n using Nat.strongRecOn generalizing m with
  | ind n ih =>
    obtain ⟨n, rfl⟩ := Nat.exists_eq_add_one_of_ne_zero (Nat.ne_zero_of_lt h)
    cases m with
    | zero =>
      rw [letters_zero]
      exact (List.shortlex_nil_or_eq_nil _).resolve_right (letters_ne_nil h)
    | succ m =>
      have hlt : m < n := Nat.lt_of_succ_lt_succ h
      rw [letters_succ, letters_succ]
      rcases Nat.lt_or_eq_of_le (Nat.div_le_div_right (c := 26) hlt.le) with hfront | hfront
      · exact shortlex_concat (ih (n / 26) (by omega) hfront) _ _
      · -- only the last letters differ
        have hlast : m % 26 < n % 26 := by omega
        rw [hfront]
        exact .append_left ((List.shortlex_singleton_iff _ _).mpr
          (letter_lt hlast (Nat.mod_lt n (by decide)))) _

theorem shortlex_letters_iff {m n : Nat} :
    List.Shortlex (· < ·) (letters m) (letters n) ↔ m < n := by
  refine ⟨fun h => ?_, shortlex_letters⟩
  rcases Nat.lt_trichotomy m n with hlt | rfl | hgt
  · exact hlt
  · exact absurd h (irrefl _)
  · exact absurd h (asymm (shortlex_letters hgt))

/-! ## Bijection -/

/-- **Columns and their letters.** Every column is written with upper-case letters, one at least,
and is read back from them. Letters are read exactly when there is one at least, all are letters in
either case, and their value is that of a column; then they name this column, which is written with
the same letters in upper case. And columns are in the order of their letters, shorter ones first
and then in alphabetical order. -/
theorem letters_ordered_bijection :
    (∀ n, 1 ≤ n → n ≤ maxIndex →
      letters n ≠ [] ∧ (∀ c ∈ letters n, c.isUpper = true) ∧ ofLetters (letters n) = .ok n) ∧
    (∀ s, (∃ n, ofLetters s = .ok n) ↔
      s ≠ [] ∧ (∀ c ∈ s, c.isAlpha = true) ∧ positional s ≤ maxIndex) ∧
    (∀ s n, ofLetters s = .ok n → n = positional s ∧ letters n = s.map Char.toUpper) ∧
    ∀ m n, m < n ↔ List.Shortlex (· < ·) (letters m) (letters n) := by
  refine ⟨fun n hpos hle => ?_, fun s => ⟨?_, ?_⟩, fun s n h => ?_,
    fun m n => shortlex_letters_iff.symm⟩
  · have hne := letters_ne_nil hpos
    refine ⟨hne, fun c => isUpper_of_mem_letters, ofLetters_eq_ok_iff.mpr ⟨hne, ?_, ?_, hle⟩⟩
    · exact fun c => isAlpha_of_mem_letters
    · exact positional_letters n
  · rintro ⟨n, h⟩
    obtain ⟨hne, halpha, rfl, hle⟩ := ofLetters_eq_ok_iff.mp h
    exact ⟨hne, halpha, hle⟩
  · rintro ⟨hne, halpha, hle⟩
    exact ⟨_, ofLetters_eq_ok_iff.mpr ⟨hne, halpha, rfl, hle⟩⟩
  · obtain ⟨-, halpha, rfl, -⟩ := ofLetters_eq_ok_iff.mp h
    exact ⟨rfl, letters_positional halpha⟩

end Worksheet.Column
