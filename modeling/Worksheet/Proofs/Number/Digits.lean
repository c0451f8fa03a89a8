import Mathlib.Tactic.Positivity
import Worksheet.Number.Layout
import Worksheet.Number.Reader
import Worksheet.Proofs.Text.Classes

/-!
# Positional numerals

A decimal that is written positionally reads back to its double: the digits before and behind the
point are those of its coefficient, and a whole decimal is written with the zeros that its power
of ten stands for.

Results:
* `toDigits_eq_dropWhile`: the numeral of the value of digits.
* `readDecimal_whole`, `readDecimal_point`: digits without and with a point.
* `positional_shape`: what a positional numeral looks like.
* `read_positional`: a positional numeral reads as the double of its decimal.
-/

namespace Worksheet.Number

/-! ## Values of digits -/

theorem digitsValue_eq (digits : List Char) :
    digitsValue digits = Nat.ofDigitChars 10 digits 0 := by
  rw [Nat.ofDigitChars_eq_foldl]
  rfl

theorem digitsValue_toDigits (n : Nat) : digitsValue (Nat.toDigits 10 n) = n := by
  rw [digitsValue_eq, Nat.ofDigitChars_ten_toDigits]

theorem digitsValue_append_zeros (digits : List Char) (n : Nat) :
    digitsValue (digits ++ List.replicate n '0') = digitsValue digits * 10 ^ n := by
  rw [digitsValue_eq, digitsValue_eq, Nat.ofDigitChars_append, Nat.ofDigitChars_replicate_zero,
    Nat.mul_comm]

theorem digitsValue_zeros_append (n : Nat) (digits : List Char) :
    digitsValue (List.replicate n '0' ++ digits) = digitsValue digits := by
  rw [digitsValue_eq, digitsValue_eq, Nat.ofDigitChars_append, Nat.ofDigitChars_replicate_zero,
    Nat.mul_zero]

theorem isDigit_of_mem_toDigits {n : Nat} {c : Char} (h : c ∈ Nat.toDigits 10 n) :
    c.isDigit = true :=
  Nat.isDigit_of_mem_toDigits (by decide) (by decide) h

theorem isDigit_of_mem_zeros {n : Nat} {c : Char} (h : c ∈ List.replicate n '0') :
    c.isDigit = true := by
  rw [List.eq_of_mem_replicate h]
  rfl

/-- A digit is the numeral of its value. -/
theorem toDigits_digit {c : Char} (h : c.isDigit = true) :
    Nat.toDigits 10 (c.toNat - '0'.toNat) = [c] := by
  have hall : ∀ n ∈ List.range' 48 10,
      Nat.toDigits 10 ((Char.ofNat n).toNat - '0'.toNat) = [Char.ofNat n] := by decide
  rw [← Char.ofNat_toNat c]
  apply hall
  rw [Text.isDigit_iff] at h
  rw [List.mem_range'_1]
  omega

/-- The numeral of a value that digits go on from. -/
theorem toDigits_ofDigitChars {digits : List Char} (h : ∀ c ∈ digits, c.isDigit = true) {v : Nat}
    (hv : 0 < v) :
    Nat.toDigits 10 (Nat.ofDigitChars 10 digits v) = Nat.toDigits 10 v ++ digits := by
  induction digits generalizing v with
  | nil => simp
  | cons c rest ih =>
    have hc := h c (List.mem_cons_self ..)
    have hlt : c.toNat - '0'.toNat < 10 := by
      have hcode := (Text.isDigit_iff.mp hc).2
      show c.toNat - 48 < 10
      omega
    rw [Nat.ofDigitChars_cons, ih (fun d hd => h d (List.mem_cons_of_mem _ hd)) (by omega),
      ← Nat.toDigits_append_toDigits (by decide) hv hlt, toDigits_digit hc]
    simp

/-- The numeral of digits is these digits without the zeros before them. -/
theorem toDigits_eq_dropWhile {digits : List Char} (h : ∀ c ∈ digits, c.isDigit = true)
    (hpos : 0 < Nat.ofDigitChars 10 digits 0) :
    Nat.toDigits 10 (Nat.ofDigitChars 10 digits 0) = digits.dropWhile (· = '0') := by
  induction digits with
  | nil => simp at hpos
  | cons c rest ih =>
    have hrest : ∀ d ∈ rest, d.isDigit = true := fun d hd => h d (List.mem_cons_of_mem _ hd)
    rw [Nat.ofDigitChars_cons, Nat.mul_zero, Nat.zero_add] at hpos ⊢
    by_cases hc : c = '0'
    · subst hc
      simpa using ih hrest hpos
    · have hdigit := h c (List.mem_cons_self ..)
      have hvalue : 0 < c.toNat - '0'.toNat := by
        have hcode := (Text.isDigit_iff.mp hdigit).1
        have hne : c.toNat ≠ 48 := fun heq => hc (Char.toNat_inj.mp heq)
        show 0 < c.toNat - 48
        omega
      rw [toDigits_ofDigitChars hrest hvalue, toDigits_digit hdigit]
      simp [hc]

/-! ## Reading digits -/

theorem takeWhile_isDigit {s : List Char} (h : ∀ c ∈ s, c.isDigit = true) :
    s.takeWhile Char.isDigit = s ∧ s.dropWhile Char.isDigit = [] := by
  constructor
  · rw [← List.append_nil s, List.takeWhile_append_of_pos h]
    rfl
  · rw [← List.append_nil s, List.dropWhile_append_of_pos h]
    rfl

theorem readDecimal_whole {whole : List Char} (h : ∀ c ∈ whole, c.isDigit = true)
    (hne : whole ≠ []) : readDecimal whole = some ⟨digitsValue whole, 0⟩ := by
  obtain ⟨htake, hdrop⟩ := takeWhile_isDigit h
  simp [readDecimal, htake, hdrop, splitFraction, readPower, hne]

theorem readDecimal_point {whole fraction : List Char} (hwhole : ∀ c ∈ whole, c.isDigit = true)
    (hfraction : ∀ c ∈ fraction, c.isDigit = true) (hne : whole ≠ []) :
    readDecimal (whole ++ '.' :: fraction) =
      some ⟨digitsValue (whole ++ fraction), -(fraction.length : Int)⟩ := by
  have htake : (whole ++ '.' :: fraction).takeWhile Char.isDigit = whole := by
    rw [List.takeWhile_append_of_pos hwhole]
    simp
  have hdrop : (whole ++ '.' :: fraction).dropWhile Char.isDigit = '.' :: fraction := by
    rw [List.dropWhile_append_of_pos hwhole]
    simp
  obtain ⟨hftake, hfdrop⟩ := takeWhile_isDigit hfraction
  simp [readDecimal, htake, hdrop, splitFraction, hftake, hfdrop, readPower, hne]

/-- The words for numbers start with one of two letters. -/
theorem readWord_eq_none {c : Char} (hi : c.toLower ≠ 'i') (hn : c.toLower ≠ 'n')
    (rest : List Char) : readWord (c :: rest) = none := by
  have hword : ∀ {d : Char} {more : List Char}, c.toLower ≠ d →
      String.ofList (c.toLower :: rest.map Char.toLower) ≠ String.ofList (d :: more) := by
    intro d more hd heq
    have hcons := congrArg String.toList heq
    rw [String.toList_ofList, String.toList_ofList] at hcons
    exact hd (List.cons.inj hcons).1
  unfold readWord
  rw [List.map_cons]
  split
  · next heq => exact absurd heq (@hword 'i' ['n', 'f'] hi)
  · next heq => exact absurd heq (@hword 'i' ['n', 'f', 'i', 'n', 'i', 't', 'y'] hi)
  · next heq => exact absurd heq (@hword 'n' ['a', 'n'] hn)
  · rfl

/-- A text that starts with a digit is no word. -/
theorem readWord_of_isDigit {c : Char} {rest : List Char} (h : c.isDigit = true) :
    readWord (c :: rest) = none := by
  have hlower : c.toLower = c := by
    unfold Char.toLower
    rw [dif_neg]
    rintro ⟨hle, _⟩
    have hdigit := (Text.isDigit_iff.mp h).2
    have hletter : 65 ≤ c.toNat := hle
    omega
  apply readWord_eq_none
  · rintro heq
    rw [hlower] at heq
    subst heq
    cases h
  · rintro heq
    rw [hlower] at heq
    subst heq
    cases h

/-- A text that starts with a digit is read as a decimal without a sign. -/
theorem read_of_isDigit {c : Char} {rest : List Char} (h : c.isDigit = true) :
    read (c :: rest) = (readDecimal (c :: rest)).map Decimal.toFloat := by
  have hsign : splitSign (c :: rest) = (false, c :: rest) := by
    unfold splitSign
    split
    · next heq =>
      cases heq
      cases h
    · next heq =>
      cases heq
      cases h
    · rfl
  unfold read
  rw [hsign]
  cases hread : readDecimal (c :: rest) <;> simp [readWord_of_isDigit h, hread]

/-! ## Positional numerals -/

/-- A whole decimal: the digits of its coefficient and the zeros of its power of ten. -/
theorem positional_of_nonneg {d : Decimal} (h : 0 ≤ d.exponent) :
    d.positional "" ≠ [] ∧ (∀ c ∈ d.positional "", c.isDigit = true) ∧
      digitsValue (d.positional "") = d.coefficient * 10 ^ d.exponent.toNat := by
  have heq : d.positional "" =
      Nat.toDigits 10 d.coefficient ++ List.replicate d.exponent.toNat '0' := by
    simp [Decimal.positional, h]
  rw [heq]
  refine ⟨by simp [Nat.toDigits_ne_nil], fun c hc => ?_, ?_⟩
  · rcases List.mem_append.mp hc with hc | hc
    · exact isDigit_of_mem_toDigits hc
    · exact isDigit_of_mem_zeros hc
  · rw [digitsValue_append_zeros, digitsValue_toDigits]

/-- Any other decimal: the digits of its coefficient, with zeros before them so that one stands
before the point. -/
theorem positional_of_neg {d : Decimal} (h : d.exponent < 0) :
    ∃ whole fraction, d.positional "" = whole ++ '.' :: fraction ∧ whole ≠ [] ∧
      (∀ c ∈ whole ++ fraction, c.isDigit = true) ∧
      digitsValue (whole ++ fraction) = d.coefficient ∧
      d.exponent = -(fraction.length : Int) := by
  let digits := Nat.toDigits 10 d.coefficient
  let zeros := d.exponent.natAbs + 1 - digits.length
  let padded := List.replicate zeros '0' ++ digits
  have hlength : padded.length = zeros + digits.length := by
    rw [List.length_append, List.length_replicate]
  have hzeros : zeros = d.exponent.natAbs + 1 - digits.length := rfl
  refine ⟨padded.take (padded.length - d.exponent.natAbs),
    padded.drop (padded.length - d.exponent.natAbs), ?_, ?_, fun c hc => ?_, ?_, ?_⟩
  · simp [Decimal.positional, show ¬ 0 ≤ d.exponent by omega, padded, zeros, digits]
  · rw [← List.length_pos_iff, List.length_take]
    omega
  · rw [List.take_append_drop] at hc
    rcases List.mem_append.mp hc with hc | hc
    · exact isDigit_of_mem_zeros hc
    · exact isDigit_of_mem_toDigits hc
  · rw [List.take_append_drop, digitsValue_zeros_append, digitsValue_toDigits]
  · rw [List.length_drop]
    omega

/-- A positional numeral is a digit, then digits and at most one point. -/
theorem positional_shape (d : Decimal) :
    ∃ c rest, d.positional "" = c :: rest ∧ c.isDigit = true ∧
      (∀ a ∈ rest, a.isDigit = true ∨ a = '.') ∧ rest.count '.' ≤ 1 := by
  have hcount : ∀ {s : List Char}, (∀ a ∈ s, a.isDigit = true) → s.count '.' = 0 := by
    intro s hs
    refine List.count_eq_zero.mpr fun hmem => ?_
    cases hs '.' hmem
  rcases lt_or_ge d.exponent 0 with hneg | hnonneg
  · obtain ⟨whole, fraction, heq, hne, hdigits, _, _⟩ := positional_of_neg hneg
    obtain ⟨c, rest, rfl⟩ := List.exists_cons_of_ne_nil hne
    refine ⟨c, rest ++ '.' :: fraction, heq, hdigits c (by simp), fun a ha => ?_, ?_⟩
    · rcases List.mem_append.mp ha with ha | ha
      · exact .inl (hdigits a (by simp [ha]))
      · rcases List.mem_cons.mp ha with rfl | ha
        · exact .inr rfl
        · exact .inl (hdigits a (by simp [ha]))
    · rw [List.count_append, List.count_cons_self, hcount fun a ha => hdigits a (by simp [ha]),
        hcount fun a ha => hdigits a (by simp [ha])]
  · obtain ⟨hne, hdigits, _⟩ := positional_of_nonneg hnonneg
    obtain ⟨c, rest, heq⟩ := List.exists_cons_of_ne_nil hne
    rw [heq] at hdigits
    refine ⟨c, rest, heq, hdigits c (by simp), fun a ha => .inl (hdigits a (by simp [ha])), ?_⟩
    rw [hcount fun a ha => hdigits a (by simp [ha])]
    exact Nat.zero_le 1

/-! ## Whole decimals -/

theorem digitCount_mul_ten {n : Nat} (h : n ≠ 0) : digitCount (n * 10) = digitCount n + 1 := by
  have happend := Nat.toDigits_append_toDigits (b := 10) (n := n) (d := 0) (by decide)
    (Nat.pos_of_ne_zero h) (by decide)
  unfold digitCount
  rw [Nat.mul_comm, ← Nat.add_zero (10 * n), ← happend]
  simp

theorem digitCount_mul_pow {n : Nat} (h : n ≠ 0) (k : Nat) :
    digitCount (n * 10 ^ k) = digitCount n + k := by
  induction k with
  | zero => simp
  | succ k ih =>
    have hne : n * 10 ^ k ≠ 0 := by positivity
    rw [pow_succ, ← Nat.mul_assoc, digitCount_mul_ten hne, ih]
    omega

/-- Zeros at the end of a whole decimal may stand for its power of ten. -/
theorem toFloat_mul_pow (coefficient k : Nat) :
    (⟨coefficient * 10 ^ k, 0⟩ : Decimal).toFloat = (⟨coefficient, k⟩ : Decimal).toFloat := by
  by_cases hzero : coefficient = 0
  · simp [Decimal.toFloat, hzero]
  · have hne : coefficient * 10 ^ k ≠ 0 := by positivity
    have hmagnitude : (⟨coefficient * 10 ^ k, 0⟩ : Decimal).magnitude =
        (⟨coefficient, k⟩ : Decimal).magnitude := by
      unfold Decimal.magnitude
      rw [digitCount_mul_pow hzero]
      push_cast
      omega
    unfold Decimal.toFloat
    rw [hmagnitude]
    simp [hzero, show ¬ (k : Int) < 0 by omega]

/-- **Positional numerals read back.** -/
theorem read_positional (d : Decimal) : read (d.positional "") = some d.toFloat := by
  obtain ⟨c, rest, hcons, hc, _⟩ := positional_shape d
  rw [hcons, read_of_isDigit hc, ← hcons]
  obtain ⟨coefficient, exponent⟩ := d
  rcases lt_or_ge exponent 0 with hneg | hnonneg
  · obtain ⟨whole, fraction, heq, hne, hdigits, hvalue, hexponent⟩ :=
      @positional_of_neg ⟨coefficient, exponent⟩ hneg
    rw [heq, readDecimal_point (fun a ha => hdigits a (List.mem_append_left _ ha))
      (fun a ha => hdigits a (List.mem_append_right _ ha)) hne, hvalue, ← hexponent]
    rfl
  · obtain ⟨k, rfl⟩ := Int.eq_ofNat_of_zero_le hnonneg
    obtain ⟨hne, hdigits, hvalue⟩ := @positional_of_nonneg ⟨coefficient, k⟩ hnonneg
    rw [readDecimal_whole hdigits hne, hvalue]
    exact congrArg some (toFloat_mul_pow coefficient k)

end Worksheet.Number
