import Worksheet.Formula.Lexeme
import Worksheet.Proofs.Text.Classes

/-!
# The token at the head of a formula

What a token of each kind looks like, when it could be longer, and that the token read at the head
of a formula is the only one that fits there and could not be longer.

Results:
* `quoted?_eq_some_iff`: a text is read up to the quote that closes it.
* `Lexeme.ofHead_eq_ok_iff`: the token read is the one that stands at the head.
* `Stands.isBlank_eq_false`: no token starts with a blank.
-/

namespace Worksheet.Formula

/-! ## Tokens as they are written -/

namespace TokenKind

/-- The characters of an operator or a delimiter. -/
def symbol? : TokenKind → Option (List Char)
  | plus => some ['+']
  | minus => some ['-']
  | star => some ['*']
  | slash => some ['/']
  | caret => some ['^']
  | openParen => some ['(']
  | closeParen => some [')']
  | comma => some [',']
  | colon => some [':']
  | ampersand => some ['&']
  | equal => some ['=']
  | notEqual => some ['<', '>']
  | less => some ['<']
  | greater => some ['>']
  | lessEqual => some ['<', '=']
  | greaterEqual => some ['>', '=']
  | number | text | identifier | endOfInput => none

/-- The texts that tokens of a kind can have. The end of input has none. -/
inductive Fits : TokenKind → List Char → Prop
  | number {c rest} : c.isDigit = true → (∀ d ∈ rest, d.isDigit = true ∨ d = '.') →
      Fits number (c :: rest)
  | identifier {c rest} : (Text.isLetter c = true ∨ c = '_') →
      (∀ d ∈ rest, Text.isLetter d = true ∨ Text.isNumeral d = true ∨ d = '_') →
      Fits identifier (c :: rest)
  | text (s) : Fits text s
  | symbol {kind s} : symbol? kind = some s → Fits kind s

/-- Whether a token of a kind would go on with this character. -/
def GrowsWith : TokenKind → Char → Prop
  | number, c => c.isDigit = true ∨ c = '.'
  | identifier, c => Text.isLetter c = true ∨ Text.isNumeral c = true ∨ c = '_'
  | text, c => c = '"'
  | less, c => c = '>' ∨ c = '='
  | greater, c => c = '='
  | _, _ => False

/-- How a token of a kind is written: a text with its quotes doubled and between two quotes, any
other token as its text. -/
def spell (kind : TokenKind) (s : List Char) : List Char :=
  if kind = text then quote s else s

theorem spell_of_symbol? {kind : TokenKind} {s : List Char} (h : kind.symbol? = some s)
    (t : List Char) : kind.spell t = t := by
  cases kind <;> first | rfl | cases h

theorem symbol?_ne_nil {kind : TokenKind} : kind.symbol? ≠ some [] := by
  cases kind <;> simp [symbol?]

/-- An operator or a delimiter starts like no other token. -/
theorem head_of_symbol? {kind : TokenKind} {c : Char} {s : List Char}
    (h : kind.symbol? = some (c :: s)) :
    c.isDigit = false ∧ Text.startsName c = false ∧ c ≠ '"' ∧ Text.isBlank c = false := by
  cases kind <;> cases h <;> decide

/-- No token starts with a blank, and none is empty. -/
theorem Fits.exists_head {kind : TokenKind} {s : List Char} (h : kind.Fits s) :
    ∃ c rest, kind.spell s = c :: rest ∧ Text.isBlank c = false := by
  cases h with
  | @number c rest hc _ => exact ⟨c, rest, rfl, Text.isBlank_eq_false_of_isDigit hc⟩
  | @identifier c rest hc _ =>
    refine ⟨c, rest, rfl, Bool.eq_false_iff.mpr fun hb => ?_⟩
    have hno := Text.startsName_eq_false_of_isBlank hb
    have hstart : Text.startsName c = true := by simpa [Text.startsName] using hc
    cases hno.symm.trans hstart
  | text => exact ⟨'"', _, rfl, rfl⟩
  | symbol hs =>
    cases s with
    | nil => exact absurd hs symbol?_ne_nil
    | cons c rest => exact ⟨c, rest, spell_of_symbol? hs _, (head_of_symbol? hs).2.2.2⟩

theorem Fits.ne_endOfInput {kind : TokenKind} {s : List Char} (h : kind.Fits s) :
    kind ≠ endOfInput := by
  rintro rfl
  cases h with
  | symbol hs => cases hs

end TokenKind

/-- A token stands at the head of `s`: its written form does, it fits its kind and it could not be
longer. -/
structure Stands (kind : TokenKind) (text s : List Char) : Prop where
  spelled : kind.spell text <+: s
  fits : kind.Fits text
  longest : ∀ c, s[(kind.spell text).length]? = some c → ¬ kind.GrowsWith c

theorem stands_append {kind : TokenKind} {text tail : List Char} (fits : kind.Fits text)
    (longest : ∀ c, tail.head? = some c → ¬ kind.GrowsWith c) :
    Stands kind text (kind.spell text ++ tail) := by
  refine ⟨List.prefix_append _ _, fits, fun c hc => longest c ?_⟩
  rwa [List.getElem?_append_right (Nat.le_refl _), Nat.sub_self, ← List.head?_eq_getElem?] at hc

theorem Stands.exists_tail {kind : TokenKind} {text s : List Char} (h : Stands kind text s) :
    ∃ tail, s = kind.spell text ++ tail ∧ ∀ c, tail.head? = some c → ¬ kind.GrowsWith c := by
  obtain ⟨⟨tail, rfl⟩, _, longest⟩ := h
  refine ⟨tail, rfl, fun c hc => longest c ?_⟩
  rwa [List.getElem?_append_right (Nat.le_refl _), Nat.sub_self, ← List.head?_eq_getElem?]

theorem Stands.isBlank_eq_false {kind : TokenKind} {text rest : List Char} {c : Char}
    (h : Stands kind text (c :: rest)) : Text.isBlank c = false := by
  obtain ⟨tail, ht, _⟩ := h.exists_tail
  obtain ⟨d, more, hd, hb⟩ := h.fits.exists_head
  rw [hd] at ht
  cases ht
  exact hb

/-! ## Runs of a class -/

theorem takeWhile_append_eq {p : Char → Bool} {run tail : List Char}
    (inside : ∀ c ∈ run, p c = true) (outside : ∀ c, tail.head? = some c → p c ≠ true) :
    (run ++ tail).takeWhile p = run := by
  rw [List.takeWhile_append_of_pos inside]
  cases tail with
  | nil => simp
  | cons c tail => simp [outside c rfl]

theorem head?_dropWhile {p : Char → Bool} {s : List Char} {c : Char}
    (h : (s.dropWhile p).head? = some c) : p c = false := by
  have := List.head?_dropWhile_not p s
  rw [h] at this
  simpa using this

theorem continuesNumber_iff {c : Char} :
    Lexeme.continuesNumber c = true ↔ TokenKind.number.GrowsWith c := by
  simp [Lexeme.continuesNumber, TokenKind.GrowsWith]

theorem continuesName_iff {c : Char} :
    Text.continuesName c = true ↔ TokenKind.identifier.GrowsWith c := by
  simp [Text.continuesName, TokenKind.GrowsWith, or_assoc]

theorem startsName_iff {c : Char} :
    Text.startsName c = true ↔ Text.isLetter c = true ∨ c = '_' := by
  simp [Text.startsName]

/-! ## Texts -/

/-- A text is read up to a quote that no other follows. -/
theorem quoted?_eq_some_iff {s text : List Char} {width : Nat} :
    quoted? s = some (text, width) ↔
      width = (doubleQuotes text).length + 1 ∧
        ∃ tail, s = doubleQuotes text ++ '"' :: tail ∧ tail.head? ≠ some '"' := by
  constructor
  · intro h
    fun_induction quoted? s generalizing text width with
    | case1 => cases h
    | case2 rest ih =>
      obtain ⟨⟨inner, w⟩, hi, heq⟩ := Option.map_eq_some_iff.mp h
      cases heq
      obtain ⟨rfl, tail, rfl, ht⟩ := ih hi
      exact ⟨by simp [doubleQuotes], tail, by simp [doubleQuotes], ht⟩
    | case3 rest hne =>
      cases h
      refine ⟨rfl, rest, rfl, fun hh => ?_⟩
      cases rest with
      | nil => cases hh
      | cons c rest =>
        cases hh
        exact hne rest rfl
    | case4 c rest hne hc ih =>
      obtain ⟨⟨inner, w⟩, hi, heq⟩ := Option.map_eq_some_iff.mp h
      cases heq
      obtain ⟨rfl, tail, rfl, ht⟩ := ih hi
      have hc : c ≠ '"' := hc
      exact ⟨by simp [doubleQuotes, hc], tail, by simp [doubleQuotes, hc], ht⟩
  · rintro ⟨rfl, tail, rfl, ht⟩
    exact quoted?_quote text tail ht

/-! ## Operators and delimiters -/

namespace Lexeme

theorem stands_symbol {kind : TokenKind} {text rest : List Char} (hs : kind.symbol? = some text)
    (longest : ∀ c, rest.head? = some c → ¬ kind.GrowsWith c) :
    Stands kind text (text ++ rest) := by
  have := stands_append (.symbol hs) longest
  rwa [TokenKind.spell_of_symbol? hs] at this

theorem symbol?_less {rest : List Char}
    (h : ∀ c, rest.head? = some c → ¬ TokenKind.less.GrowsWith c) :
    symbol? '<' rest = some (single .less '<') := by
  cases rest with
  | nil => rfl
  | cons c rest =>
    have hc : c ≠ '>' ∧ c ≠ '=' := by simpa [TokenKind.GrowsWith] using h c rfl
    simp [symbol?, hc]

theorem symbol?_greater {rest : List Char}
    (h : ∀ c, rest.head? = some c → ¬ TokenKind.greater.GrowsWith c) :
    symbol? '>' rest = some (single .greater '>') := by
  cases rest with
  | nil => rfl
  | cons c rest =>
    have hc : c ≠ '=' := h c rfl
    simp [symbol?, hc]

theorem stands_of_symbol? {c : Char} {rest : List Char} {lexeme : Lexeme}
    (h : symbol? c rest = some lexeme) :
    lexeme.kind.symbol? = some lexeme.text ∧ Stands lexeme.kind lexeme.text (c :: rest) ∧
      lexeme.width = lexeme.text.length := by
  unfold symbol? at h
  split at h <;> cases h
  all_goals refine ⟨rfl, stands_symbol rfl ?_, rfl⟩
  case h_14.refl hgt heq =>
    rintro d hd (rfl | rfl)
    · exact hgt _ (List.head?_eq_some_iff.mp hd).choose_spec
    · exact heq _ (List.head?_eq_some_iff.mp hd).choose_spec
  case h_16.refl heq =>
    rintro d hd rfl
    exact heq _ (List.head?_eq_some_iff.mp hd).choose_spec
  all_goals exact fun _ _ grows => grows

theorem symbol?_of_stands {c : Char} {rest : List Char} {lexeme : Lexeme}
    (hs : lexeme.kind.symbol? = some lexeme.text) (h : Stands lexeme.kind lexeme.text (c :: rest))
    (hw : lexeme.width = (lexeme.kind.spell lexeme.text).length) :
    symbol? c rest = some lexeme := by
  obtain ⟨kind, text, width, pos⟩ := lexeme
  obtain ⟨tail, ht, longest⟩ := h.exists_tail
  cases kind <;> cases hs <;> cases hw <;> cases ht
  case less => exact symbol?_less longest
  case greater => exact symbol?_greater longest
  all_goals rfl

/-! ## The token at the head -/

theorem stands_run {kind : TokenKind} {continues : Char → Bool} {c : Char} {rest : List Char}
    (hk : kind.spell = id) (fits : kind.Fits (c :: rest.takeWhile continues))
    (grows : ∀ d, kind.GrowsWith d → continues d = true) :
    Stands kind (run kind continues c rest).text (c :: rest) := by
  have hrest : kind.spell (c :: rest.takeWhile continues) ++ rest.dropWhile continues =
      c :: rest := by
    rw [hk, id, List.cons_append, List.takeWhile_append_dropWhile]
  rw [← hrest]
  refine stands_append fits fun d hd hg => ?_
  have := head?_dropWhile hd
  rw [grows d hg] at this
  cases this

theorem stands_of_ofHead {c : Char} {rest : List Char} {lexeme : Lexeme}
    (h : ofHead c rest = .ok lexeme) :
    Stands lexeme.kind lexeme.text (c :: rest) ∧
      lexeme.width = (lexeme.kind.spell lexeme.text).length := by
  unfold ofHead at h
  split at h
  · next hd =>
    cases h
    refine ⟨stands_run rfl (.number hd fun d hm => ?_) fun d => continuesNumber_iff.mpr, rfl⟩
    exact continuesNumber_iff.mp (List.all_eq_true.mp List.all_takeWhile d hm)
  · split at h
    · next hn =>
      cases h
      refine ⟨stands_run rfl (.identifier (startsName_iff.mp hn) fun d hm => ?_)
        fun d => continuesName_iff.mpr, rfl⟩
      exact continuesName_iff.mp (List.all_eq_true.mp List.all_takeWhile d hm)
    · split at h
      · next hq =>
        subst hq
        split at h
        · next text width htext =>
          cases h
          obtain ⟨rfl, tail, rfl, ht⟩ := quoted?_eq_some_iff.mp htext
          refine ⟨?_, by simp [TokenKind.spell, quote]⟩
          have := stands_append (.text text) fun d hd (hq : d = '"') => ht (hq ▸ hd)
          simpa [TokenKind.spell, quote] using this
        · cases h
      · split at h
        · next found hfound =>
          cases h
          obtain ⟨hs, hstands, hw⟩ := stands_of_symbol? hfound
          exact ⟨hstands, by rw [TokenKind.spell_of_symbol? hs, hw]⟩
        · cases h

theorem ofHead_of_stands {c : Char} {rest : List Char} {lexeme : Lexeme}
    (h : Stands lexeme.kind lexeme.text (c :: rest))
    (hw : lexeme.width = (lexeme.kind.spell lexeme.text).length) :
    ofHead c rest = .ok lexeme := by
  obtain ⟨kind, text, width, pos⟩ := lexeme
  obtain ⟨tail, ht, longest⟩ := h.exists_tail
  obtain rfl : width = (kind.spell text).length := hw
  cases h.fits with
  | @number _ digits hd hdigits =>
    cases ht
    have hrun : (digits ++ tail).takeWhile continuesNumber = digits :=
      takeWhile_append_eq (fun e he => continuesNumber_iff.mpr (hdigits e he))
        fun e he hg => longest e he (continuesNumber_iff.mp hg)
    simp [ofHead, hd, run, hrun, TokenKind.spell]
  | @identifier _ letters hd hletters =>
    cases ht
    have hstart : Text.startsName c = true := startsName_iff.mpr hd
    have hdigit : ¬ c.isDigit = true := fun hdigit => by
      rw [Text.startsName_eq_false_of_isDigit hdigit] at hstart
      cases hstart
    have hrun : (letters ++ tail).takeWhile Text.continuesName = letters :=
      takeWhile_append_eq (fun e he => continuesName_iff.mpr (hletters e he))
        fun e he hg => longest e he (continuesName_iff.mp hg)
    simp [ofHead, hstart, hdigit, run, hrun, TokenKind.spell]
  | text =>
    obtain ⟨rfl, rfl⟩ : c = '"' ∧ rest = doubleQuotes text ++ '"' :: tail := by
      simpa [TokenKind.spell, quote] using ht
    have hread := quoted?_quote text tail fun hq => longest _ hq rfl
    simp [ofHead, hread, TokenKind.spell, quote, show Text.startsName '"' = false by decide]
  | symbol hs =>
    rw [TokenKind.spell_of_symbol? hs] at ht
    cases text with
    | nil => exact absurd hs TokenKind.symbol?_ne_nil
    | cons d s =>
      obtain ⟨rfl, rfl⟩ := List.cons.inj ht
      have hsymbol : symbol? c (s ++ tail) = some _ := symbol?_of_stands hs h rfl
      obtain ⟨hd, hn, hq, _⟩ := TokenKind.head_of_symbol? hs
      simp [ofHead, hd, hn, hq, hsymbol]

/-- The token read at the head of a formula is the one that stands there. -/
theorem ofHead_eq_ok_iff {c : Char} {rest : List Char} {lexeme : Lexeme} :
    ofHead c rest = .ok lexeme ↔
      Stands lexeme.kind lexeme.text (c :: rest) ∧
        lexeme.width = (lexeme.kind.spell lexeme.text).length :=
  ⟨stands_of_ofHead, fun ⟨h, hw⟩ => ofHead_of_stands h hw⟩

end Lexeme

end Worksheet.Formula
