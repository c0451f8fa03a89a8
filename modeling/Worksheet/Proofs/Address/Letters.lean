import Mathlib.Tactic.Ring
import Worksheet.Address.Column
import Worksheet.Proofs.Text.Classes

/-!
# Column letters as numerals

Column letters are the numerals of bijective base 26: each letter counts for its place in the
alphabet, times a power of 26 for every letter behind it. Reading computes that value and stops at
the first letter that carries it beyond the largest column; as the value only grows, it does so
just when the whole is too large. Writing gives the one numeral of each number.

Results:
* `valueOf_eq`: reading from the left computes the positional value.
* `ofLetters_eq_ok_iff`: which letters are read, and as what.
* `letters_valueOf`, `positional_letters`: writing undoes reading, up to case, and reading undoes
  writing.
-/

namespace Worksheet.Column

/-! ## Letters -/

/-- The letters in order. -/
def alphabet : List Char :=
  ['A', 'B', 'C', 'D', 'E', 'F', 'G', 'H', 'I', 'J', 'K', 'L', 'M', 'N', 'O', 'P', 'Q', 'R', 'S',
    'T', 'U', 'V', 'W', 'X', 'Y', 'Z']

/-- The place of a letter in the alphabet, counted from one, in either case. -/
def place (c : Char) : Nat :=
  alphabet.idxOf c.toUpper + 1

/-- The codes of the letters in both cases. -/
def letterCodes : List Nat :=
  List.range' 65 26 ++ List.range' 97 26

/-- What holds of each of the letters by its code holds of every letter. -/
theorem of_isAlpha {P : Char → Prop} (h : ∀ n ∈ letterCodes, P (Char.ofNat n)) {c : Char}
    (hc : c.isAlpha = true) : P c := by
  rw [← Char.ofNat_toNat c]
  apply h
  rw [Text.isAlpha_iff] at hc
  simp only [letterCodes, List.mem_append, List.mem_range'_1]
  omega

theorem letterValue_eq_place {c : Char} (h : c.isAlpha = true) : letterValue c = place c :=
  of_isAlpha (P := fun c => letterValue c = place c) (by decide) h

theorem place_le {c : Char} (h : c.isAlpha = true) : place c ≤ 26 :=
  of_isAlpha (P := fun c => place c ≤ 26) (by decide) h

theorem place_pos (c : Char) : 0 < place c :=
  Nat.succ_pos _

/-- A letter is written from its place, in upper case. -/
theorem ofNat_place {c : Char} (h : c.isAlpha = true) :
    Char.ofNat ('A'.toNat + (place c - 1)) = c.toUpper :=
  of_isAlpha (P := fun c => Char.ofNat ('A'.toNat + (place c - 1)) = c.toUpper) (by decide) h

/-- The letter at a place, counted from zero. -/
theorem letter_spec {k : Nat} (h : k < 26) :
    (Char.ofNat ('A'.toNat + k)).isAlpha = true ∧ place (Char.ofNat ('A'.toNat + k)) = k + 1 := by
  have hall : ∀ k ∈ List.range 26, (Char.ofNat ('A'.toNat + k)).isAlpha = true ∧
      place (Char.ofNat ('A'.toNat + k)) = k + 1 := by decide
  exact hall k (List.mem_range.mpr h)

/-! ## Positional values -/

/-- The value of letters in bijective base 26, the last letter counting once. -/
def positional : List Char → Nat
  | [] => 0
  | c :: rest => place c * 26 ^ rest.length + positional rest

/-- Reading from the left computes the positional value. -/
theorem valueOf_eq (value : Nat) {s : List Char} (h : ∀ c ∈ s, c.isAlpha = true) :
    valueOf value s = value * 26 ^ s.length + positional s := by
  induction s generalizing value with
  | nil => simp [valueOf, positional]
  | cons c rest ih =>
    have hc := letterValue_eq_place (h c (List.mem_cons_self ..))
    have hrest := ih (26 * value + letterValue c) fun d hd => h d (List.mem_cons_of_mem _ hd)
    calc valueOf value (c :: rest) = valueOf (26 * value + letterValue c) rest := rfl
      _ = (26 * value + place c) * 26 ^ rest.length + positional rest := by rw [hrest, hc]
      _ = value * 26 ^ (c :: rest).length + positional (c :: rest) := by
        rw [List.length_cons, Nat.pow_succ, positional, Nat.add_mul, Nat.mul_comm 26 value,
          Nat.mul_assoc, Nat.mul_comm 26, Nat.add_assoc]

theorem positional_eq_valueOf {s : List Char} (h : ∀ c ∈ s, c.isAlpha = true) :
    positional s = valueOf 0 s := by
  rw [valueOf_eq 0 h, Nat.zero_mul, Nat.zero_add]

theorem positional_pos {s : List Char} (hne : s ≠ []) : 0 < positional s := by
  obtain ⟨c, rest, rfl⟩ := List.exists_cons_of_ne_nil hne
  have hproduct : 0 < place c * 26 ^ rest.length :=
    Nat.mul_pos (place_pos c) (Nat.pow_pos (by decide))
  simp only [positional]
  omega

/-! ## Reading -/

/-- The value only grows while letters are read. -/
theorem le_valueOf (value : Nat) (s : List Char) : value ≤ valueOf value s := by
  induction s generalizing value with
  | nil => exact Nat.le_refl value
  | cons c rest ih =>
    have hrest := ih (26 * value + letterValue c)
    show value ≤ valueOf (26 * value + letterValue c) rest
    omega

/-- Letters are read unless the whole is too large. -/
theorem readOn_eq_ok_iff (whole : List Char) {value n : Nat} (hvalue : value ≤ maxIndex)
    (s : List Char) :
    readOn whole value s = .ok n ↔
      (∀ c ∈ s, c.isAlpha = true) ∧ valueOf value s = n ∧ n ≤ maxIndex := by
  induction s generalizing value with
  | nil =>
    simp only [readOn, valueOf, List.foldl_nil, Except.ok.injEq, List.not_mem_nil,
      false_implies, implies_true, true_and]
    omega
  | cons c rest ih =>
    have hgrows := le_valueOf (26 * value + letterValue c) rest
    have hcons : valueOf value (c :: rest) = valueOf (26 * value + letterValue c) rest := rfl
    by_cases hc : c.isAlpha = true
    · by_cases hlarge : maxIndex < 26 * value + letterValue c
      · simp only [readOn, hc, Bool.not_true, Bool.false_eq_true, if_false, hlarge, if_true,
          reduceCtorEq, false_iff]
        rintro ⟨_, hn, hle⟩
        omega
      · rw [readOn, if_neg (by simp [hc]), if_neg hlarge, ih (Nat.le_of_not_lt hlarge), hcons,
          List.forall_mem_cons]
        simp [hc]
    · simp [readOn, hc]

/-- The letters that name a column, and its number. -/
theorem ofLetters_eq_ok_iff {s : List Char} {n : Nat} :
    ofLetters s = .ok n ↔
      s ≠ [] ∧ (∀ c ∈ s, c.isAlpha = true) ∧ positional s = n ∧ n ≤ maxIndex := by
  unfold ofLetters
  split
  · next hs => simp [hs]
  · next hs =>
    rw [readOn_eq_ok_iff s (Nat.zero_le _) s]
    constructor
    · rintro ⟨halpha, hn, hle⟩
      exact ⟨hs, halpha, by rw [positional_eq_valueOf halpha, hn], hle⟩
    · rintro ⟨_, halpha, hn, hle⟩
      exact ⟨halpha, by rw [← positional_eq_valueOf halpha, hn], hle⟩

/-! ## Writing -/

/-- The last letter of a number and the letters before it. -/
theorem letters_mul_add (v : Nat) {c : Char} (h : c.isAlpha = true) :
    letters (26 * v + place c) = letters v ++ [c.toUpper] := by
  have hle := place_le h
  have hpos := place_pos c
  have hsucc : 26 * v + place c = 26 * v + (place c - 1) + 1 := by omega
  have hdiv : (26 * v + (place c - 1)) / 26 = v := by omega
  have hmod : (26 * v + (place c - 1)) % 26 = place c - 1 := by omega
  rw [hsucc, letters_succ, hdiv, hmod, ofNat_place h]

/-- Writing what was read gives the letters in upper case. -/
theorem letters_valueOf (v : Nat) {s : List Char} (h : ∀ c ∈ s, c.isAlpha = true) :
    letters (valueOf v s) = letters v ++ s.map Char.toUpper := by
  induction s generalizing v with
  | nil => simp [valueOf]
  | cons c rest ih =>
    have hc := h c (List.mem_cons_self ..)
    have hrest := ih (26 * v + place c) fun d hd => h d (List.mem_cons_of_mem _ hd)
    have hcons : valueOf v (c :: rest) = valueOf (26 * v + place c) rest := by
      rw [← letterValue_eq_place hc]
      rfl
    rw [hcons, hrest, letters_mul_add v hc, List.map_cons, List.append_assoc]
    rfl

theorem letters_positional {s : List Char} (h : ∀ c ∈ s, c.isAlpha = true) :
    letters (positional s) = s.map Char.toUpper := by
  rw [positional_eq_valueOf h, letters_valueOf 0 h, letters_zero, List.nil_append]

/-- Reading what was written gives the number, and only letters are written. -/
theorem letters_spec (n : Nat) :
    (∀ c ∈ letters n, c.isAlpha = true) ∧ valueOf 0 (letters n) = n := by
  induction n using Nat.strongRecOn with
  | ind n ih =>
    cases n with
    | zero => simp [letters_zero, valueOf]
    | succ n =>
      obtain ⟨halpha, hvalue⟩ := ih (n / 26) (by omega)
      obtain ⟨hlast, hplace⟩ := letter_spec (Nat.mod_lt n (show 26 > 0 by decide))
      rw [letters_succ]
      constructor
      · intro c hc
        rcases List.mem_append.mp hc with hc | hc
        · exact halpha c hc
        · rw [List.mem_singleton.mp hc]
          exact hlast
      · rw [valueOf_append, hvalue]
        show 26 * (n / 26) + letterValue (Char.ofNat ('A'.toNat + n % 26)) = n + 1
        rw [letterValue_eq_place hlast, hplace]
        omega

theorem isAlpha_of_mem_letters {n : Nat} {c : Char} (h : c ∈ letters n) : c.isAlpha = true :=
  (letters_spec n).1 c h

theorem positional_letters (n : Nat) : positional (letters n) = n := by
  rw [positional_eq_valueOf (letters_spec n).1, (letters_spec n).2]

theorem letters_ne_nil {n : Nat} (h : 0 < n) : letters n ≠ [] := by
  intro hnil
  have hzero := positional_letters n
  rw [hnil] at hzero
  exact Nat.ne_of_lt h hzero

end Worksheet.Column
