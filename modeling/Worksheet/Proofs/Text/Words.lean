import Mathlib.Data.List.Chain
import Worksheet.Functions.Texts

/-!
# Words and the normal form of blanks

The words of a text are its maximal runs of characters that are not blank. A text is in normal form
if its only blanks are single spaces between words. Joining words by single spaces gives such a
text with the same words, and every text in normal form is joined from its words; so the words are
all that counts for the normal form of a text.

Results:
* `runs_iff`: the words of a text are its maximal runs.
* `runs_join`, `isSqueezed_join`: words that are joined by spaces.
* `squeeze_eq_self`: texts in normal form are left alone.
* `trimmed_normal_form`: `TRIM` computes the normal form.
-/

namespace Worksheet.Text

/-! ## Maximal runs -/

/-- `Runs s ws`: the maximal runs of characters of `s` that are not blank are `ws`, in order. A run
is followed by a blank or by nothing. -/
inductive Runs : List Char → List (List Char) → Prop where
  | nil : Runs [] []
  | blank {c : Char} {rest : List Char} {ws : List (List Char)} :
    isBlank c = true → Runs rest ws → Runs (c :: rest) ws
  | run {word rest : List Char} {ws : List (List Char)} :
    word ≠ [] → (∀ c ∈ word, isBlank c = false) → (∀ c ∈ rest.head?, isBlank c = true) →
    Runs rest ws → Runs (word ++ rest) (word :: ws)

variable {c d : Char} {s word rest : List Char} {ws : List (List Char)}

theorem breaks_iff : breaks s = true ↔ ∀ c ∈ s.head?, isBlank c = true := by
  cases s <;> simp [breaks]

theorem words_blank (h : isBlank c = true) : words (c :: rest) = words rest := by
  rw [words, if_pos h]

/-- A character before a blank is a word, or the end of one. -/
theorem words_last (h : isBlank c = false) (hrest : breaks rest = true) :
    words (c :: rest) = [c] :: words rest := by
  rw [words, if_neg (by simp [h]), if_pos hrest]

theorem words_inner (h : isBlank c = false) (hrest : breaks rest = false) :
    words (c :: rest) = extendFirst c (words rest) := by
  rw [words, if_neg (by simp [h]), if_neg (by simp [hrest])]

theorem words_ne_nil (h : isBlank c = false) : words (c :: rest) ≠ [] := by
  cases hrest : breaks rest with
  | true =>
    rw [words_last h hrest]
    exact List.cons_ne_nil _ _
  | false =>
    rw [words_inner h hrest]
    cases words rest <;> exact List.cons_ne_nil _ _

theorem words_append (hne : word ≠ []) (hword : ∀ c ∈ word, isBlank c = false)
    (hrest : breaks rest = true) : words (word ++ rest) = word :: words rest := by
  induction word with
  | nil => exact absurd rfl hne
  | cons c word ih =>
    obtain ⟨hc, hmore⟩ := List.forall_mem_cons.mp hword
    cases word with
    | nil => exact words_last hc hrest
    | cons d word =>
      have hinner : breaks (d :: word ++ rest) = false := (List.forall_mem_cons.mp hmore).1
      rw [List.cons_append, words_inner hc hinner, ih (List.cons_ne_nil _ _) hmore]
      rfl

theorem runs_words (s : List Char) : Runs s (words s) := by
  induction s with
  | nil => exact .nil
  | cons c rest ih =>
    cases hc : isBlank c with
    | true =>
      rw [words_blank hc]
      exact .blank hc ih
    | false =>
      cases hrest : breaks rest with
      | true =>
        rw [words_last hc hrest]
        have hword : ∀ d ∈ [c], isBlank d = false := List.forall_mem_singleton.mpr hc
        exact .run (List.cons_ne_nil _ _) hword (breaks_iff.mp hrest) ih
      | false =>
        -- the rest starts with a run, which the character makes longer
        rw [words_inner hc hrest]
        generalize words rest = ws at ih
        cases ih with
        | nil => cases hrest
        | blank hd => cases hd.symm.trans hrest
        | run hne hword hbreak hmore =>
          exact .run (List.cons_ne_nil _ _) (List.forall_mem_cons.mpr ⟨hc, hword⟩) hbreak hmore

theorem Runs.words_eq (h : Runs s ws) : words s = ws := by
  induction h with
  | nil => rfl
  | blank hc _ ih => rw [words_blank hc, ih]
  | run hne hword hbreak _ ih => rw [words_append hne hword (breaks_iff.mpr hbreak), ih]

/-- The words of a text are its maximal runs, and there is no other list of these. -/
theorem runs_iff : Runs s ws ↔ words s = ws :=
  ⟨Runs.words_eq, fun h => h ▸ runs_words s⟩

/-! ## Normal form -/

/-- The only blanks are single spaces between other characters. -/
structure IsSqueezed (s : List Char) : Prop where
  first : ∀ c ∈ s.head?, isBlank c = false
  last : ∀ c ∈ s.getLast?, isBlank c = false
  space : ∀ c ∈ s, isBlank c = true → c = ' '
  single : s.IsChain fun c d => isBlank c = true → isBlank d = false

/-- Characters, one at least, none of them blank. -/
def IsWord (w : List Char) : Prop :=
  w ≠ [] ∧ ∀ c ∈ w, isBlank c = false

theorem Runs.isWord (h : Runs s ws) : ∀ w ∈ ws, IsWord w := by
  induction h with
  | nil => exact fun w hw => absurd hw List.not_mem_nil
  | blank _ _ ih => exact ih
  | run hne hword _ _ ih => exact List.forall_mem_cons.mpr ⟨⟨hne, hword⟩, ih⟩

theorem isWord_of_mem_words : ∀ w ∈ words s, IsWord w :=
  (runs_words s).isWord

theorem IsWord.isSqueezed (h : IsWord word) : IsSqueezed word where
  first c hc := h.2 c (List.mem_of_head? hc)
  last c hc := h.2 c (List.mem_of_getLast? hc)
  space c hc hblank := absurd hblank (by simp [h.2 c hc])
  single := List.Pairwise.isChain (List.pairwise_of_forall_mem_list fun _ _ d hd _ => h.2 d hd)

/-- A word and a space in front of a text in normal form. -/
theorem IsSqueezed.cons_word (h : IsSqueezed s) (hne : s ≠ []) (hword : IsWord word) :
    IsSqueezed (word ++ ' ' :: s) where
  first c hc := by
    rw [List.head?_append_of_ne_nil _ hword.1] at hc
    exact hword.2 c (List.mem_of_head? hc)
  last c hc := by
    rw [List.getLast?_append_of_ne_nil _ (List.cons_ne_nil _ _),
      List.getLast?_cons_of_ne_nil hne] at hc
    exact h.last c hc
  space c hc hblank := by
    rcases List.mem_append.mp hc with hc | hc
    · exact absurd hblank (by simp [hword.2 c hc])
    · rcases List.mem_cons.mp hc with rfl | hc
      · rfl
      · exact h.space c hc hblank
  single := by
    refine List.isChain_append.mpr ⟨hword.isSqueezed.single, ?_, fun c hc d _ hblank => ?_⟩
    · exact List.isChain_cons.mpr ⟨fun d hd _ => h.first d hd, h.single⟩
    · exact absurd hblank (by simp [hword.2 c (List.mem_of_getLast? hc)])

/-- What ends a text in normal form is in normal form, unless it starts with a space. -/
theorem IsSqueezed.of_append {front : List Char} (h : IsSqueezed (front ++ s))
    (hfirst : ∀ c ∈ s.head?, isBlank c = false) : IsSqueezed s where
  first := hfirst
  last c hc := h.last c (by
    rw [List.getLast?_append_of_ne_nil _ (by rintro rfl; cases hc)]
    exact hc)
  space c hc := h.space c (List.mem_append_right _ hc)
  single := h.single.right_of_append

/-! ## Joining -/

/-- Words joined by single spaces are the maximal runs of the whole. -/
theorem runs_join (h : ∀ w ∈ ws, IsWord w) : Runs ([' '].intercalate ws) ws := by
  induction ws with
  | nil => exact .nil
  | cons w ws ih =>
    obtain ⟨hw, hws⟩ := List.forall_mem_cons.mp h
    cases ws with
    | nil =>
      have hrun : Runs (w ++ []) [w] := .run hw.1 hw.2 (by simp) .nil
      rw [List.append_nil] at hrun
      rw [List.intercalate_singleton]
      exact hrun
    | cons v ws =>
      rw [List.intercalate_cons_cons, List.append_assoc]
      exact .run hw.1 hw.2 (by simp; rfl) (.blank rfl (ih hws))

theorem words_join (h : ∀ w ∈ ws, IsWord w) : words ([' '].intercalate ws) = ws :=
  (runs_join h).words_eq

theorem isSqueezed_join (h : ∀ w ∈ ws, IsWord w) : IsSqueezed ([' '].intercalate ws) := by
  induction ws with
  | nil => exact ⟨by simp, by simp, by simp, .nil⟩
  | cons w ws ih =>
    obtain ⟨hw, hws⟩ := List.forall_mem_cons.mp h
    cases ws with
    | nil =>
      rw [List.intercalate_singleton]
      exact hw.isSqueezed
    | cons v ws =>
      have hne : [' '].intercalate (v :: ws) ≠ [] := by
        intro hnil
        have hwords := words_join hws
        rw [hnil] at hwords
        cases hwords
      rw [List.intercalate_cons_cons, List.append_assoc]
      exact (ih hws).cons_word hne hw

theorem join_extendFirst (c : Char) (h : ws ≠ []) :
    [' '].intercalate (extendFirst c ws) = c :: [' '].intercalate ws := by
  cases ws with
  | nil => exact absurd rfl h
  | cons w ws =>
    cases ws with
    | nil => simp [extendFirst]
    | cons v ws => simp [extendFirst, List.intercalate_cons_cons]

/-- The words of a text and of its normal form are the same. -/
theorem words_squeeze (s : List Char) : words (squeeze s) = words s :=
  words_join isWord_of_mem_words

theorem isSqueezed_squeeze (s : List Char) : IsSqueezed (squeeze s) :=
  isSqueezed_join isWord_of_mem_words

/-- Nothing changes in a text in normal form. -/
theorem squeeze_eq_self : ∀ {s : List Char}, IsSqueezed s → squeeze s = s
  | [], _ => rfl
  | [c], h => by
    rw [squeeze, words_last (h.first c rfl) rfl]
    rfl
  | c :: d :: rest, h => by
    have hc : isBlank c = false := h.first c rfl
    cases hd : isBlank d with
    | false =>
      have hwhole : IsSqueezed ([c] ++ d :: rest) := h
      have hrest : squeeze (d :: rest) = d :: rest :=
        squeeze_eq_self (hwhole.of_append (by simpa using hd))
      rw [squeeze, words_inner hc (show breaks (d :: rest) = false from hd),
        join_extendFirst c (words_ne_nil hd)]
      exact congrArg (c :: ·) hrest
    | true =>
      -- the blank is a space, and a word goes on behind it
      obtain rfl : d = ' ' := h.space d (by simp) hd
      have hfirst : ∀ e ∈ rest.head?, isBlank e = false := fun e he =>
        (List.isChain_cons.mp (List.isChain_cons_cons.mp h.single).2).1 e he hd
      have hwhole : IsSqueezed ([c, ' '] ++ rest) := h
      have hrest : squeeze rest = rest := squeeze_eq_self (hwhole.of_append hfirst)
      have hne : words rest ≠ [] := by
        cases rest with
        | nil => cases h.last ' ' rfl
        | cons e rest => exact words_ne_nil (hfirst e rfl)
      rw [squeeze, words_last hc (show breaks (' ' :: rest) = true from hd), words_blank hd,
        List.intercalate_cons_of_ne_nil hne]
      exact congrArg (c :: ' ' :: ·) hrest

theorem squeeze_eq_self_iff : squeeze s = s ↔ IsSqueezed s :=
  ⟨fun h => h ▸ isSqueezed_squeeze s, squeeze_eq_self⟩

theorem squeeze_eq_squeeze_iff {t : List Char} : squeeze s = squeeze t ↔ words s = words t := by
  constructor
  · intro h
    rw [← words_squeeze, h, words_squeeze]
  · intro h
    rw [squeeze, h, squeeze]

end Worksheet.Text

namespace Worksheet.Functions

open Text (Runs IsSqueezed)

theorem trimmed_text (t : String) :
    trimmed [.text t] = .text (String.ofList (Text.squeeze t.toList)) :=
  rfl

/-- **Normal form.** The value of `TRIM` is a text whose only blanks are single spaces between other
characters, with the same maximal runs of other characters as the text that it is given; every text
has one list of these. A text that is trimmed already stays as it is, and no other text does; and
two texts are trimmed alike exactly if their runs are the same. -/
theorem trimmed_normal_form (t : String) :
    ∃ u : String, trimmed [.text t] = .text u ∧ IsSqueezed u.toList ∧
      (∃! ws, Runs t.toList ws) ∧ (∀ ws, Runs u.toList ws ↔ Runs t.toList ws) ∧
      trimmed [trimmed [.text t]] = trimmed [.text t] ∧
      (trimmed [.text t] = .text t ↔ IsSqueezed t.toList) ∧
      ∀ other : String, trimmed [.text t] = trimmed [.text other] ↔
        ∀ ws, Runs t.toList ws ↔ Runs other.toList ws := by
  have hruns : ∀ {s : List Char} {ws}, Runs s ws ↔ Text.words s = ws := Text.runs_iff
  refine ⟨String.ofList (Text.squeeze t.toList), trimmed_text t, ?_, ?_, fun ws => ?_, ?_, ?_,
    fun other => ?_⟩
  · rw [String.toList_ofList]
    exact Text.isSqueezed_squeeze t.toList
  · exact ⟨Text.words t.toList, hruns.mpr rfl, fun ws h => (hruns.mp h).symm⟩
  · rw [hruns, hruns, String.toList_ofList, Text.words_squeeze]
  · rw [trimmed_text, trimmed_text, String.toList_ofList,
      Text.squeeze_eq_self (Text.isSqueezed_squeeze t.toList)]
  · rw [trimmed_text, Value.text.injEq, ← Text.squeeze_eq_self_iff, ← String.toList_inj,
      String.toList_ofList]
  · simp only [hruns]
    rw [trimmed_text, trimmed_text, Value.text.injEq, String.ofList_inj,
      Text.squeeze_eq_squeeze_iff]
    exact ⟨fun h ws => h ▸ Iff.rfl, fun h => (h _).mpr rfl⟩

example : trimmed [.text "  a   b \t c  "] = .text "a b c" := by rfl

end Worksheet.Functions
