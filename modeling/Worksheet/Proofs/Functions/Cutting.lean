import Worksheet.Functions.Texts
import Worksheet.Proofs.Number.WholePart

/-!
# Cutting and joining texts

A text is cut at a count of characters, from its start, from its end or from a position on. Counts
and positions are numbers, of which the whole part counts; a whole number of characters cuts where
it says. So the two parts of a text at one cut make up the text, however the second part is taken.

Results:
* `left_eq`, `right_eq`, `middle_eq`: the three ways to cut, by the count of characters.
* `left_within`, `right_within`, `middle_within`: cuts within a text.
* `left_beyond`, `right_beyond`, `middle_beyond`: cuts behind the end of a text.
* `middle_before`: cuts from before its start.
* `cut_and_joined`: what is cut can be joined again.
-/

namespace Worksheet.Functions

/-! ## Cuts by a count -/

/-- The characters that a count selects, or the error of an argument that is no count. -/
def byCount (count : Value) (cut : Nat → List Char) : Value :=
  settle ((countAt [count] 0).map fun n => .text (String.ofList (cut n)))

/-- Whether a value reads as the whole number `n`. -/
def IsWhole (v : Value) (n : Nat) : Prop :=
  ∃ x, v.toNumber? = some x ∧ (x == Float.ofNat n) = true

variable {t : String} {count rest position start : Value} {x : Float} {n : Nat}

theorem numberAt_of_toNumber? {args : List Value} {v : Value} {index : Nat}
    (hv : args[index]? = some v) (hx : v.toNumber? = some x) : numberAt args index = .ok x := by
  unfold numberAt
  rw [hv]
  cases v with
  | error => cases hx
  | _ => simp only [hx]

/-- A function that refuses errors, of which only the count can be one, and cuts by the count. -/
theorem settle_byCount (args : List Value) (index : Nat)
    (herrors : firstError? args = count.error?) (hcount : args[index]? = some count)
    (cut : Nat → List Char) :
    settle (do
      refuseErrors args
      let n ← countAt args index
      return .text (String.ofList (cut n))) = byCount count cut := by
  have hsame : countAt args index = countAt [count] 0 := by
    unfold countAt numberAt
    rw [hcount]
    rfl
  rw [hsame, refuseErrors, herrors, byCount]
  cases herror : count.error? with
  | some e =>
    cases count <;> cases herror
    rfl
  | none => cases countAt [count] 0 <;> rfl

theorem firstError?_singleton (v : Value) : firstError? [v] = v.error? := by
  cases v <;> rfl

theorem left_eq (t : String) (count : Value) :
    left [.text t, count] = byCount count fun n => t.toList.take n :=
  settle_byCount [.text t, count] 1 (firstError?_singleton count) rfl _

theorem right_eq (t : String) (count : Value) :
    right [.text t, count] = byCount count fun n => t.toList.drop (t.toList.length - n) :=
  settle_byCount [.text t, count] 1 (firstError?_singleton count) rfl _

theorem middle_eq (t : String) (count : Value) (hstart : start.toNumber? = some x) :
    middle [.text t, start, count] =
      byCount count fun n => (t.toList.drop (Number.offset x)).take n := by
  have hnumber : numberAt [.text t, start, count] 1 = .ok x := numberAt_of_toNumber? rfl hstart
  have herrors : firstError? [.text t, start, count] = count.error? := by
    rw [← firstError?_singleton]
    cases start with
    | error => cases hstart
    | _ => rfl
  rw [← settle_byCount [.text t, start, count] 2 herrors rfl]
  unfold middle
  rw [hnumber]
  rfl

theorem countAt_of_count? {args : List Value} {index : Nat} (hx : numberAt args index = .ok x)
    (hcount : Number.count? x = some n) : countAt args index = .ok n := by
  simp only [countAt, hx, bind, Except.bind, hcount]
  rfl

theorem byCount_eq {cut : Nat → List Char} (hx : count.toNumber? = some x)
    (hcount : Number.count? x = some n) : byCount count cut = .text (String.ofList (cut n)) := by
  rw [byCount, countAt_of_count? (numberAt_of_toNumber? rfl hx) hcount]
  rfl

theorem IsWhole.byCount_eq (h : IsWhole count n) (hn : n ≤ 2 ^ 53) (cut : Nat → List Char) :
    byCount count cut = .text (String.ofList (cut n)) := by
  obtain ⟨x, hx, heq⟩ := h
  exact Functions.byCount_eq hx (Number.count?_eq heq hn)

/-- A position that is given as a whole number. -/
theorem IsWhole.middle_eq (h : IsWhole position (n + 1)) (hn : n + 1 ≤ 2 ^ 53) (t : String)
    (count : Value) :
    middle [.text t, position, count] = byCount count fun k => (t.toList.drop n).take k := by
  obtain ⟨x, hx, heq⟩ := h
  rw [Functions.middle_eq t count hx, Number.offset_eq heq hn]

/-! ## Joining -/

theorem concatenate_texts (s t : String) :
    concatenate [.text s, .text t] = .text (s ++ t) := by
  show Value.text (s ++ (t ++ "")) = .text (s ++ t)
  rw [String.append_empty]

theorem concatenate_ofList (cs ds : List Char) :
    concatenate [.text (String.ofList cs), .text (String.ofList ds)] =
      .text (String.ofList (cs ++ ds)) := by
  rw [concatenate_texts, String.ofList_append]

theorem textLength_ofList (cs : List Char) :
    textLength [.text (String.ofList cs)] = .number (Float.ofNat cs.length) := by
  show Value.number (Float.ofNat (String.ofList cs).toList.length) = _
  rw [String.toList_ofList]

/-! ## Cuts within a text -/

section Within

variable (ht : t.toList.length < 2 ^ 53) (hn : n ≤ t.toList.length)
include ht hn

theorem left_within (hcount : IsWhole count n) :
    left [.text t, count] = .text (String.ofList (t.toList.take n)) := by
  rw [left_eq, hcount.byCount_eq (by omega)]

/-- What is behind a cut, taken from the end. -/
theorem right_within (hrest : IsWhole rest (t.toList.length - n)) :
    right [.text t, rest] = .text (String.ofList (t.toList.drop n)) := by
  rw [right_eq, hrest.byCount_eq (by omega), Nat.sub_sub_self hn]

/-- What is behind a cut, taken from the position behind it. -/
theorem middle_within (hposition : IsWhole position (n + 1))
    (hrest : IsWhole rest (t.toList.length - n)) :
    middle [.text t, position, rest] = .text (String.ofList (t.toList.drop n)) := by
  rw [hposition.middle_eq (by omega), hrest.byCount_eq (by omega),
    List.take_of_length_le (by rw [List.length_drop])]

end Within

/-- The parts of a text at a cut make up the text. -/
theorem concatenate_parts (t : String) (n : Nat) :
    concatenate [.text (String.ofList (t.toList.take n)), .text (String.ofList (t.toList.drop n))] =
      .text t := by
  rw [concatenate_ofList, List.take_append_drop, String.ofList_toList]

/-- From the end as many characters are taken as from the position that leaves so many. -/
theorem right_eq_middle (ht : t.toList.length < 2 ^ 53) (hn : n ≤ t.toList.length)
    (hcount : IsWhole count n) (hposition : IsWhole position (t.toList.length - n + 1)) :
    right [.text t, count] = .text (String.ofList (t.toList.drop (t.toList.length - n))) ∧
      middle [.text t, position, count] = right [.text t, count] := by
  have hleft : t.toList.length - n ≤ t.toList.length := Nat.sub_le _ _
  rw [← Nat.sub_sub_self hn] at hcount
  rw [right_within ht hleft hcount, middle_within ht hleft hposition hcount]
  exact ⟨rfl, rfl⟩

/-! ## Cuts beyond a text -/

section Beyond

variable (hsize : t.toList.length < n) (hn : n < 2 ^ 53)
include hsize hn

theorem left_beyond (hcount : IsWhole count n) : left [.text t, count] = .text t := by
  rw [left_eq, hcount.byCount_eq hn.le, List.take_of_length_le hsize.le, String.ofList_toList]

theorem right_beyond (hcount : IsWhole count n) : right [.text t, count] = .text t := by
  rw [right_eq, hcount.byCount_eq hn.le, Nat.sub_eq_zero_of_le hsize.le, List.drop_zero,
    String.ofList_toList]

theorem middle_beyond (hposition : IsWhole position (n + 1)) (hx : count.toNumber? = some x)
    (hnonneg : 0 ≤ x) : middle [.text t, position, count] = .text "" := by
  rw [hposition.middle_eq hn, byCount_eq hx (Number.count?_of_nonneg hnonneg),
    List.drop_of_length_le hsize.le, List.take_nil]

end Beyond

/-- A position before the first character is that of the first character. -/
theorem middle_before (t : String) (count : Value) (hx : start.toNumber? = some x) (hlt : x < 1) :
    middle [.text t, start, count] = left [.text t, count] := by
  rw [middle_eq t count hx, Number.offset_of_lt_one hlt, left_eq]
  simp only [List.drop_zero]

/-! ## Cutting and joining -/

/-- **Cutting and joining.** A text that is cut within, at any count of characters, is joined again
from its first characters and the others, whether these are taken from the end or from the position
behind the cut; the last characters are those from a position on; and the parts have the lengths
that were asked for. A cut behind the end leaves the whole text on either side, and nothing from a
position there. A position before the first character is that of the first character. -/
theorem cut_and_joined (t : String) (ht : t.toList.length < 2 ^ 53) :
    let size := t.toList.length
    textLength [.text t] = .number (Float.ofNat size) ∧
    (∀ n ≤ size, ∀ count rest behind last : Value, IsWhole count n → IsWhole rest (size - n) →
      IsWhole behind (n + 1) → IsWhole last (size - n + 1) →
      concatenate [left [.text t, count], right [.text t, rest]] = .text t ∧
      concatenate [left [.text t, count], middle [.text t, behind, rest]] = .text t ∧
      right [.text t, count] = middle [.text t, last, count] ∧
      textLength [left [.text t, count]] = .number (Float.ofNat n) ∧
      textLength [right [.text t, count]] = .number (Float.ofNat n)) ∧
    (∀ n, size < n → n < 2 ^ 53 → ∀ count behind : Value, IsWhole count n →
      IsWhole behind (n + 1) →
      left [.text t, count] = .text t ∧ right [.text t, count] = .text t ∧
      ∀ k x, k.toNumber? = some x → 0 ≤ x → middle [.text t, behind, k] = .text "") ∧
    ∀ start count x, start.toNumber? = some x → x < 1 →
      middle [.text t, start, count] = left [.text t, count] := by
  intro size
  refine ⟨rfl, fun n hn count rest behind last hcount hrest hbehind hlast => ?_,
    fun n hsize hn count behind hcount hbehind => ⟨left_beyond hsize hn hcount,
      right_beyond hsize hn hcount, fun k x => middle_beyond hsize hn hbehind⟩,
    fun start count x => middle_before t count⟩
  obtain ⟨hright, hmiddle⟩ := right_eq_middle ht hn hcount hlast
  refine ⟨?_, ?_, hmiddle.symm, ?_, ?_⟩
  · rw [left_within ht hn hcount, right_within ht hn hrest, concatenate_parts]
  · rw [left_within ht hn hcount, middle_within ht hn hbehind hrest, concatenate_parts]
  · rw [left_within ht hn hcount, textLength_ofList, List.length_take_of_le hn]
  · rw [hright, textLength_ofList, List.length_drop, Nat.sub_sub_self hn]

/-- A text with a letter beyond ASCII, cut behind its third character, behind its end and before its
start. -/
theorem cut_and_joined_naive :
    "naïve".toList.length < 2 ^ 53 ∧
      concatenate [left [.text "naïve", .text "3"], middle [.text "naïve", .number 4, .number 2]] =
        .text "naïve" ∧
      left [.text "naïve", .number 6] = .text "naïve" ∧
      middle [.text "naïve", .number 7, .number 1e300] = .text "" ∧
      middle [.text "naïve", .number 0.5, .number 2] = left [.text "naïve", .number 2] := by
  have hlength : "naïve".toList.length < 2 ^ 53 := by decide
  obtain ⟨-, hwithin, hbeyond, hbefore⟩ := cut_and_joined "naïve" hlength
  obtain ⟨-, hjoined, -⟩ := hwithin 3 (by decide) (.text "3") (.number 2) (.number 4) (.number 3)
    ⟨3, by decide +kernel, rfl⟩ ⟨2, rfl, rfl⟩ ⟨4, rfl, rfl⟩ ⟨3, rfl, rfl⟩
  obtain ⟨hleft, -, hmiddle⟩ := hbeyond 6 (by decide) (by decide) (.number 6) (.number 7)
    ⟨6, rfl, rfl⟩ ⟨7, rfl, rfl⟩
  exact ⟨hlength, hjoined, hleft, hmiddle (.number 1e300) 1e300 rfl (by decide +kernel),
    hbefore (.number 0.5) (.number 2) 0.5 rfl (by decide +kernel)⟩

end Worksheet.Functions
