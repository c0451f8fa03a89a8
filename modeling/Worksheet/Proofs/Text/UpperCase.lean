import Worksheet.Proofs.Text.Classes
import Worksheet.Text.Casing

/-!
# Upper case is final

The characters that upper case writes keep their form in upper case, so a text in upper case is its
own upper case. A letter goes over into a letter, behind which other letters may stand or marks
that belong to no name; a name in upper case is therefore a name unless it holds such a mark.

The tables are long, so membership in them is read off the binary digits of one number.

Results:
* `testBit_bits`: the digits of that number.
* `upperChar_of_mem`, `upper_upper`: upper case is final.
* `exists_head_upperChar`, `of_mem_upperChar`: what the characters of names go over into.
-/

namespace Worksheet.Text

/-! ## Ranges as binary digits -/

/-- The number whose binary digits are ones at the code points of the ranges. -/
def Ranges.bits (ranges : Ranges) : Nat :=
  ranges.foldr (fun range bits => bits ||| (1 <<< (range.2 + 1 - range.1) - 1) <<< range.1) 0

theorem testBit_bits (ranges : Ranges) (code : Nat) :
    ranges.bits.testBit code = ranges.hold code := by
  induction ranges with
  | nil => exact Nat.zero_testBit code
  | cons range ranges ih =>
    have hrange : ((1 <<< (range.2 + 1 - range.1) - 1) <<< range.1).testBit code =
        (decide (range.1 ≤ code) && decide (code ≤ range.2)) := by
      rw [Nat.one_shiftLeft, Nat.testBit_shiftLeft, Nat.testBit_two_pow_sub_one, Bool.eq_iff_iff]
      simp only [Bool.and_eq_true, decide_eq_true_eq]
      omega
    show (Ranges.bits ranges ||| _).testBit code = (_ || Ranges.hold ranges code)
    rw [Nat.testBit_or, ih, hrange, Bool.or_comm]

/-! ## Code points of the tables -/

/-- The code points of a run. -/
def CaseRun.codes (run : CaseRun) : List Nat :=
  List.range' run.first ((run.last - run.first) / run.step + 1) run.step

theorem CaseRun.mem_codes {run : CaseRun} {code : Nat} (h : run.holds code = true) :
    code ∈ run.codes := by
  simp only [CaseRun.holds, Bool.and_eq_true, decide_eq_true_eq, beq_iff_eq] at h
  obtain ⟨⟨hfirst, hlast⟩, hstep⟩ := h
  refine List.mem_range'.mpr ⟨(code - run.first) / run.step, ?_, ?_⟩
  · exact Nat.lt_succ_of_le (Nat.div_le_div_right (by omega))
  · rw [Nat.mul_div_cancel' (Nat.dvd_of_mod_eq_zero hstep)]
    omega

/-- What the runs map code points to. -/
def runImages : List Nat :=
  upperRuns.flatMap fun run => run.codes.map fun code : Nat => (code + run.shift).toNat

/-- The code points beyond ASCII that upper case changes. -/
def upperSources : Ranges :=
  (upperExpansions.map Prod.fst ++ upperRuns.flatMap CaseRun.codes).map fun code => (code, code)

theorem hold_upperSources {code : Nat}
    (h : code ∈ upperExpansions.map Prod.fst ++ upperRuns.flatMap CaseRun.codes) :
    upperSources.hold code = true :=
  List.any_eq_true.mpr ⟨(code, code), List.mem_map.mpr ⟨code, h, rfl⟩, by simp⟩

theorem mem_of_lookup {α β : Type} [BEq α] [LawfulBEq α] {l : List (α × β)} {a : α} {b : β}
    (h : l.lookup a = some b) : (a, b) ∈ l := by
  obtain ⟨before, after, rfl, _⟩ := List.lookup_eq_some_iff.mp h
  simp

/-- The three ways in which a character beyond ASCII is mapped. -/
theorem upperChar_cases {c : Char} (h : 0x80 ≤ c.toNat) :
    (∃ codes, (c.toNat, codes) ∈ upperExpansions ∧ upperChar c = codes.map Char.ofNat) ∨
      (∃ code ∈ runImages, upperChar c = [Char.ofNat code]) ∨ upperChar c = [c] := by
  unfold upperChar mapCase
  rw [if_neg (Nat.not_lt.mpr h)]
  split
  · next codes hcodes => exact .inl ⟨codes, mem_of_lookup hcodes, rfl⟩
  · split
    · next run hrun =>
      have hcode : c.toNat ∈ run.codes :=
        CaseRun.mem_codes (by simpa using List.find?_some hrun)
      exact .inr (.inl ⟨_, List.mem_flatMap.mpr ⟨run, List.mem_of_find?_eq_some hrun,
        List.mem_map.mpr ⟨_, hcode, rfl⟩⟩, rfl⟩)
    · exact .inr (.inr rfl)

theorem upperChar_eq_self {c : Char} (hhigh : 0x80 ≤ c.toNat)
    (h : upperSources.hold c.toNat = false) : upperChar c = [c] := by
  have hnot := mt hold_upperSources (Bool.eq_false_iff.mp h)
  rw [List.mem_append, not_or] at hnot
  unfold upperChar mapCase
  rw [if_neg (Nat.not_lt.mpr hhigh)]
  split
  · next codes hcodes =>
    exact absurd (List.mem_map.mpr ⟨_, mem_of_lookup hcodes, rfl⟩) hnot.1
  · split
    · next run hrun =>
      have hcode : c.toNat ∈ run.codes :=
        CaseRun.mem_codes (by simpa using List.find?_some hrun)
      exact absurd (List.mem_flatMap.mpr ⟨run, List.mem_of_find?_eq_some hrun, hcode⟩) hnot.2
    · rfl

/-! ## Upper case of upper case -/

/-- A code point that upper case keeps: a capital letter of ASCII, or one beyond ASCII that is not
among the sources. -/
def IsFinal (code : Nat) : Prop :=
  code.isValidChar ∧ upperSources.bits.testBit code = false ∧
    (code < 0x80 → 65 ≤ code ∧ code ≤ 90)

instance : DecidablePred IsFinal :=
  fun _ => inferInstanceAs (Decidable (_ ∧ _ ∧ _))

theorem isFinal_of_mem_runImages : ∀ code ∈ runImages, IsFinal code := by
  decide +kernel

theorem isFinal_of_mem_upperExpansions : ∀ p ∈ upperExpansions, ∀ code ∈ p.2, IsFinal code := by
  decide +kernel

/-- What upper case makes of the characters of ASCII. -/
theorem toUpper_spec : ∀ code < 0x80,
    (Char.ofNat code).toUpper.toNat < 0x80 ∧
      (Char.ofNat code).toUpper.toUpper = (Char.ofNat code).toUpper ∧
      (65 ≤ code → code ≤ 90 → (Char.ofNat code).toUpper = Char.ofNat code) ∧
      ((Char.ofNat code).isAlpha = false → (Char.ofNat code).toUpper = Char.ofNat code) ∧
      (Char.ofNat code).toUpper.isAlpha = (Char.ofNat code).isAlpha := by
  decide

theorem toNat_ofNat {code : Nat} (h : code.isValidChar) : (Char.ofNat code).toNat = code := by
  unfold Char.ofNat
  rw [dif_pos h]
  unfold Char.ofNatAux Char.toNat
  simp

theorem IsFinal.upperChar_eq {code : Nat} (h : IsFinal code) :
    upperChar (Char.ofNat code) = [Char.ofNat code] := by
  obtain ⟨hvalid, hsource, hascii⟩ := h
  have hcode := toNat_ofNat hvalid
  rcases Nat.lt_or_ge code 0x80 with hlow | hhigh
  · obtain ⟨_, _, hcapital, _⟩ := toUpper_spec code hlow
    obtain ⟨hfirst, hlast⟩ := hascii hlow
    rw [upperChar_of_ascii (by rwa [hcode]), hcapital hfirst hlast]
  · refine upperChar_eq_self (by rwa [hcode]) ?_
    rw [hcode, ← testBit_bits, hsource]

/-- Characters that upper case writes keep their form in upper case. -/
theorem upperChar_of_mem {c d : Char} (h : d ∈ upperChar c) : upperChar d = [d] := by
  rcases Nat.lt_or_ge c.toNat 0x80 with hlow | hhigh
  · obtain ⟨hascii, htwice, _⟩ := toUpper_spec c.toNat hlow
    rw [Char.ofNat_toNat] at hascii htwice
    rw [upperChar_of_ascii hlow] at h
    obtain rfl := List.mem_singleton.mp h
    rw [upperChar_of_ascii hascii, htwice]
  · rcases upperChar_cases hhigh with ⟨codes, hcodes, heq⟩ | ⟨code, hcode, heq⟩ | heq
    · rw [heq] at h
      obtain ⟨code, hcode, rfl⟩ := List.mem_map.mp h
      exact (isFinal_of_mem_upperExpansions _ hcodes code hcode).upperChar_eq
    · rw [heq] at h
      obtain rfl := List.mem_singleton.mp h
      exact (isFinal_of_mem_runImages code hcode).upperChar_eq
    · have hc := h
      rw [heq] at hc
      obtain rfl := List.mem_singleton.mp hc
      exact heq

/-- **Upper case is final.** -/
theorem upper_upper (s : String) : upper (upper s) = upper s := by
  have hchars : ∀ cs : List Char, (∀ d ∈ cs, upperChar d = [d]) → upperChars cs = cs := by
    intro cs hcs
    unfold upperChars
    rw [List.flatMap_def, List.map_congr_left hcs, ← List.flatMap_def, List.flatMap_singleton']
  unfold upper
  rw [String.toList_ofList, hchars]
  intro d hd
  obtain ⟨c, _, hc⟩ := List.mem_flatMap.mp hd
  exact upperChar_of_mem hc

/-! ## Upper case of names -/

/-- A character beyond ASCII that no name goes on with and that is no blank. Of all tokens only
texts hold such characters. -/
def isForeign (c : Char) : Bool :=
  0x80 ≤ c.toNat && !continuesName c && !isBlank c

/-- A code point of a letter, the small ones of ASCII left out. -/
def IsLetterCode (code : Nat) : Prop :=
  (65 ≤ code ∧ code ≤ 90) ∨ (0x80 ≤ code ∧ letterRanges.bits.testBit code = true)

/-- A code point beyond ASCII that is of no use in names and is no blank. -/
def IsForeignCode (code : Nat) : Prop :=
  0x80 ≤ code ∧ letterRanges.bits.testBit code = false ∧
    numeralRanges.bits.testBit code = false ∧ code ∉ highBlanks

instance : DecidablePred IsLetterCode :=
  fun _ => inferInstanceAs (Decidable ((_ ∧ _) ∨ (_ ∧ _)))

instance : DecidablePred IsForeignCode :=
  fun _ => inferInstanceAs (Decidable (_ ∧ _ ∧ _ ∧ _))

theorem isLetterCode_of_mem_runImages : ∀ code ∈ runImages, IsLetterCode code := by
  decide +kernel

/-- Of several characters that upper case writes for one, the first is a letter. -/
theorem exists_head_of_mem_upperExpansions : ∀ p ∈ upperExpansions,
    (∀ code ∈ p.2.take 1, IsLetterCode code) ∧ p.2 ≠ [] ∧
      ∀ code ∈ p.2, IsLetterCode code ∨ IsForeignCode code := by
  decide +kernel

theorem isLetter_ofNat {code : Nat} (h : IsLetterCode code) (hvalid : code.isValidChar) :
    isLetter (Char.ofNat code) = true := by
  have hcode := toNat_ofNat hvalid
  unfold isLetter
  rw [hcode]
  rcases h with ⟨hfirst, hlast⟩ | ⟨hhigh, hletter⟩
  · rw [if_pos (by omega), isAlpha_iff, hcode]
    exact .inl ⟨hfirst, hlast⟩
  · rw [if_neg (Nat.not_lt.mpr hhigh), ← testBit_bits, hletter]

theorem isForeign_ofNat {code : Nat} (h : IsForeignCode code) (hvalid : code.isValidChar) :
    isForeign (Char.ofNat code) = true := by
  have hcode := toNat_ofNat hvalid
  obtain ⟨hhigh, hletter, hnumeral, hblank⟩ := h
  have hne : Char.ofNat code ≠ '_' := by
    intro heq
    have hascii : (Char.ofNat code).toNat = 95 := congrArg Char.toNat heq
    omega
  have hnot : isBlank (Char.ofNat code) = false := by
    rw [Bool.eq_false_iff]
    intro hb
    rcases toNat_of_isBlank hb with hlow | hmem
    · omega
    · exact hblank (hcode ▸ hmem)
  unfold isForeign continuesName isLetter isNumeral
  rw [hcode, if_neg (Nat.not_lt.mpr hhigh), if_neg (Nat.not_lt.mpr hhigh), ← testBit_bits,
    ← testBit_bits, hletter, hnumeral, hnot]
  simp [hhigh, hne]

theorem startsName_of_isLetter {c : Char} (h : isLetter c = true) : startsName c = true := by
  simp [startsName, h]

/-- The characters of ASCII that are no letters keep their form, and letters stay letters. -/
theorem isLetter_toUpper {c : Char} (hlow : c.toNat < 0x80) :
    isLetter c.toUpper = isLetter c ∧ (isLetter c = false → c.toUpper = c) := by
  obtain ⟨hascii, _, _, hkeep, halpha⟩ := toUpper_spec c.toNat hlow
  rw [Char.ofNat_toNat] at hascii hkeep halpha
  unfold isLetter
  rw [if_pos hascii, if_pos hlow]
  exact ⟨halpha, hkeep⟩

/-- What starts a name goes over into something that starts with such a character. -/
theorem exists_head_upperChar {c : Char} (h : startsName c = true) :
    ∃ d rest, upperChar c = d :: rest ∧ startsName d = true := by
  rcases Nat.lt_or_ge c.toNat 0x80 with hlow | hhigh
  · obtain ⟨hletter, hkeep⟩ := isLetter_toUpper hlow
    refine ⟨c.toUpper, [], upperChar_of_ascii hlow, ?_⟩
    cases hc : isLetter c with
    | true => exact startsName_of_isLetter (hletter.trans hc)
    | false => rwa [hkeep hc]
  · rcases upperChar_cases hhigh with ⟨codes, hcodes, heq⟩ | ⟨code, hcode, heq⟩ | heq
    · obtain ⟨hfirst, hne, _⟩ := exists_head_of_mem_upperExpansions _ hcodes
      cases codes with
      | nil => exact absurd rfl hne
      | cons code codes =>
        have hvalid := (isFinal_of_mem_upperExpansions _ hcodes code (List.mem_cons_self ..)).1
        have hletter := isLetter_ofNat (hfirst code (List.mem_cons_self ..)) hvalid
        exact ⟨_, _, heq, startsName_of_isLetter hletter⟩
    · have hletter := isLetter_ofNat (isLetterCode_of_mem_runImages code hcode)
        (isFinal_of_mem_runImages code hcode).1
      exact ⟨_, _, heq, startsName_of_isLetter hletter⟩
    · exact ⟨c, [], heq, h⟩

/-- What goes on with a name goes over into characters that do so too, or that are foreign to
names. -/
theorem of_mem_upperChar {c d : Char} (h : continuesName c = true) (hd : d ∈ upperChar c) :
    continuesName d = true ∨ isForeign d = true := by
  rcases Nat.lt_or_ge c.toNat 0x80 with hlow | hhigh
  · obtain ⟨hletter, hkeep⟩ := isLetter_toUpper hlow
    rw [upperChar_of_ascii hlow] at hd
    obtain rfl := List.mem_singleton.mp hd
    cases hc : isLetter c with
    | true =>
      exact .inl (continuesName_of_startsName (startsName_of_isLetter (hletter.trans hc)))
    | false =>
      rw [hkeep hc]
      exact .inl h
  · rcases upperChar_cases hhigh with ⟨codes, hcodes, heq⟩ | ⟨code, hcode, heq⟩ | heq
    · rw [heq] at hd
      obtain ⟨code, hcode, rfl⟩ := List.mem_map.mp hd
      have hvalid := (isFinal_of_mem_upperExpansions _ hcodes code hcode).1
      obtain ⟨_, _, hall⟩ := exists_head_of_mem_upperExpansions _ hcodes
      rcases hall code hcode with hletter | hforeign
      · exact .inl (continuesName_of_startsName
          (startsName_of_isLetter (isLetter_ofNat hletter hvalid)))
      · exact .inr (isForeign_ofNat hforeign hvalid)
    · rw [heq] at hd
      obtain rfl := List.mem_singleton.mp hd
      have hletter := isLetter_ofNat (isLetterCode_of_mem_runImages code hcode)
        (isFinal_of_mem_runImages code hcode).1
      exact .inl (continuesName_of_startsName (startsName_of_isLetter hletter))
    · rw [heq] at hd
      obtain rfl := List.mem_singleton.mp hd
      exact .inl h

end Worksheet.Text
