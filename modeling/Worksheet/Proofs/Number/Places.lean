import Worksheet.CommandLine.Assignment
import Worksheet.Formula.Reader
import Worksheet.Functions.Criteria
import Worksheet.Proofs.Formula.Pieces
import Worksheet.Proofs.Number.Literal

/-!
# Places that read numbers

Four places read a number from a text: a formula that is a literal, a text that is used as a number,
a criterion, and the value that the command line gives a cell. Each prepares the text in a way of
its own. Of digits and points behind a first digit they read the same number, with one exception:
of a number too large for a double the formula makes infinity, and the other places make no number.

Results:
* `ofText_of_fits`: a formula that is one number token.
* `isSome_read_iff`: which texts of digits and points are numbers.
* `Place.reads_iff`: what each place reads.
* `Place.agree_unless_infinite`: when the four places agree, and what happens when they do not.
-/

namespace Worksheet.Number

open Formula (Expr Token TokenKind)
open Functions (Criterion)

variable {w : List Char}

/-! ## Texts of number tokens -/

theorem exists_cons_of_fits (h : TokenKind.number.Fits w) :
    ∃ c rest, w = c :: rest ∧ c.isDigit = true ∧ ∀ d ∈ rest, d.isDigit = true ∨ d = '.' := by
  cases h with
  | @number c rest hfirst hrest => exact ⟨c, rest, rfl, hfirst, hrest⟩
  | symbol hs => cases hs

theorem digit_or_point_of_fits (h : TokenKind.number.Fits w) :
    ∀ c ∈ w, c.isDigit = true ∨ c = '.' := by
  obtain ⟨first, rest, rfl, hfirst, hrest⟩ := exists_cons_of_fits h
  intro c hc
  rcases List.mem_cons.mp hc with rfl | hc
  · exact .inl hfirst
  · exact hrest c hc

theorem trim_of_fits (h : TokenKind.number.Fits w) : Text.trim w = w := by
  apply Text.trim_of_no_blank
  intro c hc
  rcases digit_or_point_of_fits h c hc with hdigit | rfl
  · exact Text.isBlank_eq_false_of_isDigit hdigit
  · rfl

theorem tokensFrom_of_fits (h : TokenKind.number.Fits w) :
    Formula.tokensFrom 0 w =
      .ok [⟨.number, String.ofList w, 0⟩, Token.endAt w.length] := by
  have hspell : TokenKind.number.spell w = w := rfl
  have hends : ∀ c, ([] : List Char).head? = some c → ¬ TokenKind.number.GrowsWith c := by
    simp
  have hread := Formula.tokensFrom_spell_append 0 h hends
  rw [hspell, List.append_nil, Nat.zero_add, Formula.tokensFrom] at hread
  exact hread

/-- A formula that is one number token is that number, or it is refused if the token is none. -/
theorem ofText_of_fits (h : TokenKind.number.Fits w) :
    Expr.ofText (String.ofList w) =
      match read w with
      | some x => .ok (.number x)
      | none => .error ⟨0, .malformedNumber (String.ofList w)⟩ := by
  have hequals : Formula.dropEquals w = w := by
    obtain ⟨first, rest, rfl, hfirst, _⟩ := exists_cons_of_fits h
    unfold Formula.dropEquals
    split
    · next heq =>
      cases heq
      cases hfirst
    · rfl
  rw [Expr.ofText, String.toList_ofList, trim_of_fits h, hequals, Expr.ofChars,
    tokensFrom_of_fits h]
  simp only [Expr.ofTokens, Formula.State.run, Formula.State.step, Formula.beginOperand,
    String.toList_ofList]
  cases read w <;> rfl

/-! ## Which texts are numbers -/

/-- Leading digits hold no point, and a point follows them if anything does. -/
theorem dropWhile_isDigit {s : List Char} (h : ∀ c ∈ s, c.isDigit = true ∨ c = '.') :
    (s.dropWhile Char.isDigit).count '.' = s.count '.' ∧
      (s.dropWhile Char.isDigit = [] ∨ ∃ more, s.dropWhile Char.isDigit = '.' :: more) := by
  induction s with
  | nil => exact ⟨rfl, .inl rfl⟩
  | cons c rest ih =>
    have hrest := ih fun d hd => h d (List.mem_cons_of_mem _ hd)
    rcases h c (List.mem_cons_self ..) with hdigit | rfl
    · have hpoint : c ≠ '.' := by
        rintro rfl
        cases hdigit
      rw [List.dropWhile_cons_of_pos hdigit, List.count_cons_of_ne hpoint]
      exact hrest
    · exact ⟨rfl, .inr ⟨rest, rfl⟩⟩

/-- Digits and points behind a first digit are a number if they hold at most one point. -/
theorem isSome_read_iff (h : TokenKind.number.Fits w) :
    (read w).isSome = true ↔ w.count '.' ≤ 1 := by
  obtain ⟨hcount, hbehind⟩ := dropWhile_isDigit (digit_or_point_of_fits h)
  obtain ⟨first, rest, rfl, hfirst, _⟩ := exists_cons_of_fits h
  have hwhole : (first :: rest).takeWhile Char.isDigit ≠ [] := by
    rw [List.takeWhile_cons_of_pos hfirst]
    exact List.cons_ne_nil _ _
  rw [read_of_isDigit hfirst, Option.isSome_map, ← hcount, readDecimal]
  rcases hbehind with hnil | ⟨more, hmore⟩
  · simp [hnil, splitFraction, readPower, hwhole]
  · have hinside : ∀ c ∈ more, c.isDigit = true ∨ c = '.' := by
      intro c hc
      refine digit_or_point_of_fits h c ?_
      refine (List.dropWhile_sublist Char.isDigit).subset ?_
      rw [hmore]
      exact List.mem_cons_of_mem _ hc
    obtain ⟨hcount', hbehind'⟩ := dropWhile_isDigit hinside
    rcases hbehind' with hnil | ⟨last, hlast⟩
    · rw [hnil] at hcount'
      simp [hmore, splitFraction, hnil, readPower, hwhole, ← hcount']
    · rw [hlast] at hcount'
      simp [hmore, splitFraction, hlast, readPower, hwhole, ← hcount']

/-- A power of ten is read as its double. -/
theorem read_one_zeros (n : Nat) :
    read ('1' :: List.replicate n '0') = some (⟨1, n⟩ : Decimal).toFloat := by
  have hdigits : ∀ c ∈ '1' :: List.replicate n '0', c.isDigit = true := by
    intro c hc
    rcases List.mem_cons.mp hc with rfl | hc
    · rfl
    · exact isDigit_of_mem_zeros hc
  have hvalue : digitsValue ('1' :: List.replicate n '0') = 1 * 10 ^ n :=
    digitsValue_append_zeros ['1'] n
  rw [read_of_isDigit rfl, readDecimal_whole hdigits (List.cons_ne_nil _ _), hvalue,
    Option.map_some, toFloat_mul_pow]

/-! ## What each place reads -/

/-- The places that read a number from a text. -/
inductive Place where
  /-- A formula that consists of the text. -/
  | formula
  /-- A text that is used as a number. -/
  | coercion
  /-- A criterion that compares with the text for equality. -/
  | criterion
  /-- The value that the command line gives a cell. -/
  | commandLine
deriving DecidableEq

namespace Place

/-- A place reads the number `x` from the text `w`. -/
def Reads (w : List Char) (x : Float) : Place → Prop
  | formula => Expr.ofText (String.ofList w) = .ok (.number x)
  | coercion => (Value.text (String.ofList w)).toNumber? = some x
  | criterion =>
    (Criterion.ofValue (.text (String.ofList ('=' :: w)))).comparison = some (.equal, x)
  | commandLine => CommandLine.contentOf w = .number x

variable {x : Float}

theorem formula_reads_iff (h : TokenKind.number.Fits w) :
    formula.Reads w x ↔ read w = some x := by
  show Expr.ofText (String.ofList w) = .ok (.number x) ↔ _
  rw [ofText_of_fits h]
  cases read w <;> simp

theorem coercion_reads_iff (h : TokenKind.number.Fits w) :
    coercion.Reads w x ↔ read w = some x ∧ x.isFinite = true := by
  show ofText? (String.ofList w).toList = some x ↔ _
  rw [String.toList_ofList, ofText?, trim_of_fits h, Option.filter_eq_some_iff]

theorem criterion_reads_iff (h : TokenKind.number.Fits w) :
    criterion.Reads w x ↔ read w = some x ∧ x.isFinite = true := by
  show Criterion.comparison? (String.ofList ('=' :: w)).toList = some (.equal, x) ↔ _
  rw [String.toList_ofList]
  show (ofText? w).map (Functions.Relation.equal, ·) = some (.equal, x) ↔ _
  rw [ofText?, trim_of_fits h, Option.map_eq_some_iff, ← Option.filter_eq_some_iff]
  simp

theorem contentOf_of_fits (h : TokenKind.number.Fits w) :
    CommandLine.contentOf w = CommandLine.contentOfTrimmed w w := by
  have hquotes : CommandLine.unquoted? w = none := by
    obtain ⟨first, rest, rfl, hfirst, _⟩ := exists_cons_of_fits h
    unfold CommandLine.unquoted?
    split
    · next heq =>
      cases heq
      cases hfirst
    · rfl
  rw [CommandLine.contentOf, hquotes, trim_of_fits h]

theorem commandLine_reads_iff (h : TokenKind.number.Fits w) :
    commandLine.Reads w x ↔ read w = some x ∧ x.isFinite = true := by
  have hne : w ≠ [] := by
    obtain ⟨first, rest, rfl, _⟩ := exists_cons_of_fits h
    exact List.cons_ne_nil first rest
  show CommandLine.contentOf w = .number x ↔ _
  rw [contentOf_of_fits h, CommandLine.contentOfTrimmed, if_neg hne, ← Option.filter_eq_some_iff]
  cases (read w).filter Float.isFinite with
  | some y => simp
  | none =>
    -- Whatever else the text stands for, it is no number.
    dsimp only
    split
    · simp
    · split
      · simp
      · split <;> simp

/-- A place reads the number that the text consists of, and only the formula an infinite one. -/
theorem reads_iff (h : TokenKind.number.Fits w) (place : Place) :
    place.Reads w x ↔ read w = some x ∧ (place = formula ∨ x.isFinite = true) := by
  cases place with
  | formula => simp [formula_reads_iff h]
  | coercion => simp [coercion_reads_iff h]
  | criterion => simp [criterion_reads_iff h]
  | commandLine => simp [commandLine_reads_iff h]

theorem isFinite_or_eq_infinity_of_fits (h : TokenKind.number.Fits w) (hread : read w = some x) :
    x.isFinite = true ∨ x = infinity := by
  obtain ⟨first, rest, rfl, hfirst, _⟩ := exists_cons_of_fits h
  exact isFinite_or_eq_infinity (toBits_le_of_read hfirst hread)

theorem isFinite_infinity : infinity.isFinite = false := by
  decide

/-- A text of an infinite number is no number but for the formula. -/
theorem reads_iff_of_infinite (h : TokenKind.number.Fits w) (hread : read w = some infinity)
    {place : Place} : place.Reads w x ↔ place = formula ∧ x = infinity := by
  rw [reads_iff h, hread, Option.some.injEq]
  constructor
  · rintro ⟨rfl, hplace⟩
    rw [isFinite_infinity] at hplace
    exact ⟨hplace.resolve_right Bool.false_ne_true, rfl⟩
  · rintro ⟨rfl, rfl⟩
    exact ⟨rfl, .inl rfl⟩

/-- **Agreement.** Take a text that starts with a digit and goes on with digits and points. The four
places read the same number from it, or none of them reads one, unless the formula reads infinity;
then no other place reads a number. The formula reads a number if the text holds at most one
point. -/
theorem agree_unless_infinite (h : TokenKind.number.Fits w) :
    ((∀ place other : Place, ∀ x, place.Reads w x ↔ other.Reads w x) ↔
        ¬ formula.Reads w infinity) ∧
      (formula.Reads w infinity →
        ∀ place : Place, ∀ x, place.Reads w x → place = formula ∧ x = infinity) ∧
      ((∃ x, formula.Reads w x) ↔ w.count '.' ≤ 1) := by
  refine ⟨⟨?_, ?_⟩, ?_, ?_⟩
  · intro hagree hinfinity
    have hcoercion := (reads_iff h coercion).mp ((hagree formula coercion infinity).mp hinfinity)
    simp [isFinite_infinity] at hcoercion
  · intro hfinite place other x
    have hread : ∀ place : Place, place.Reads w x ↔ read w = some x := by
      intro place
      rw [reads_iff h]
      apply and_iff_left_of_imp
      intro hx
      rcases isFinite_or_eq_infinity_of_fits h hx with hx' | rfl
      · exact .inr hx'
      · exact absurd ((formula_reads_iff h).mpr hx) hfinite
    rw [hread, hread]
  · intro hinfinity place x hplace
    rw [formula_reads_iff h] at hinfinity
    exact (reads_iff_of_infinite h hinfinity).mp hplace
  · rw [← isSome_read_iff h, Option.isSome_iff_exists]
    exact exists_congr fun x => formula_reads_iff h

/-- The places agree on `1.5`. -/
theorem agree_unless_infinite_oneAndHalf :
    TokenKind.number.Fits ['1', '.', '5'] ∧
      ∀ place : Place, place.Reads ['1', '.', '5'] (.ofBits 0x3FF8000000000000) := by
  have hrest : ∀ d ∈ ['.', '5'], d.isDigit = true ∨ d = '.' :=
    List.forall_mem_cons.mpr ⟨.inr rfl, List.forall_mem_singleton.mpr (.inl rfl)⟩
  have hfits : TokenKind.number.Fits ['1', '.', '5'] := .number rfl hrest
  have hread : read ['1', '.', '5'] = some (.ofBits 0x3FF8000000000000) := by rfl
  have hfinite : ¬ formula.Reads ['1', '.', '5'] infinity := by
    rw [formula_reads_iff hfits, hread]
    decide
  refine ⟨hfits, fun place => ?_⟩
  have hagree := (agree_unless_infinite hfits).1.mpr hfinite
  rw [hagree place formula, formula_reads_iff hfits]
  exact hread

/-- A one and 310 zeros. -/
def longOne : List Char :=
  '1' :: List.replicate 310 '0'

theorem fits_longOne : TokenKind.number.Fits longOne := by
  refine .number rfl fun c hc => ?_
  exact .inl (isDigit_of_mem_zeros hc)

theorem read_longOne : read longOne = some infinity := by
  have hdouble : (⟨1, (310 : Nat)⟩ : Decimal).toFloat = infinity := by rfl
  rw [longOne, read_one_zeros, hdouble]

/-- The formula reads a one and 310 zeros as infinity, the other places read no number. -/
theorem disagree_longOne :
    TokenKind.number.Fits longOne ∧ formula.Reads longOne infinity ∧
      ∀ place : Place, place ≠ formula → ∀ x, ¬ place.Reads longOne x := by
  refine ⟨fits_longOne, (formula_reads_iff fits_longOne).mpr read_longOne, ?_⟩
  intro place hplace x hx
  exact hplace ((reads_iff_of_infinite fits_longOne read_longOne).mp hx).1

end Place

end Worksheet.Number
