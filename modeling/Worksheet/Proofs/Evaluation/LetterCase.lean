import Worksheet.Evaluation
import Worksheet.Proofs.Formula.LetterCase

/-!
# Values up to letter case

The names in a tree are kept as they are written, but nothing that a tree is evaluated against
tells the case of their ASCII letters: a sheet keeps its cells under the upper case of their names,
corners of ranges are read in either case, and functions are called by the upper case of their
names. So formulas whose tokens differ in letter case and layout only have the same value, if they
have one.

Results:
* `value_fold`: the value of a tree and of its folded form.
* `value_alike`: formulas with alike tokens.
-/

namespace Worksheet.Context

open Formula (Expr Token)

/-! ## Folded trees -/

variable {context : Context}

theorem reference_fold (hcells : ∀ name, context.cell? (Text.fold name) = context.cell? name)
    (name : String) : context.reference (Text.fold name) = context.reference name := by
  rw [reference, hcells, reference]

theorem rangeValues_eq (first last : String) :
    context.rangeValues first last =
      match (Address.ofText first).toOption, (Address.ofText last).toOption with
      | some a, some b => .list ((Range.between a b).cells.map context.member)
      | _, _ => .error .reference := by
  unfold rangeValues
  cases Address.ofText first <;> cases Address.ofText last <;> rfl

/-- Corners of ranges are read in either case. -/
theorem rangeValues_fold (first last : String) :
    context.rangeValues (Text.fold first) (Text.fold last) = context.rangeValues first last := by
  rw [rangeValues_eq, Address.ofText_fold, Address.ofText_fold, ← rangeValues_eq]

mutual

/-- The value of a tree is that of its folded form, where cells are looked up in either case. -/
theorem value_fold (hcells : ∀ name, context.cell? (Text.fold name) = context.cell? name) :
    ∀ e : Expr, context.value e.fold = context.value e
  | .number _ | .text _ => rfl
  | .cell name => reference_fold hcells name
  | .range first last => rangeValues_fold first last
  | .binary op left right => by
    rw [Expr.fold, value, value_fold hcells left, value_fold hcells right, value]
  | .unary op operand => by
    rw [Expr.fold, value, value_fold hcells operand, value]
  | .call name args => by
    rw [Expr.fold, value, values_fold hcells args, value]

theorem values_fold (hcells : ∀ name, context.cell? (Text.fold name) = context.cell? name) :
    ∀ es : List Expr, context.values (Expr.foldAll es) = context.values es
  | [] => rfl
  | e :: rest => by
    rw [Expr.foldAll, values, value_fold hcells e, values_fold hcells rest, values]

end

theorem value_eq_of_fold_eq (hcells : ∀ name, context.cell? (Text.fold name) = context.cell? name)
    {e f : Expr} (h : e.fold = f.fold) : context.value e = context.value f := by
  rw [← value_fold hcells e, h, value_fold hcells f]

/-- A sheet keeps its cells under the upper case of their names. -/
theorem get?_fold (sheet : Sheet) (name : String) :
    sheet.get? (Text.fold name) = sheet.get? name := by
  rw [Sheet.get?, Text.upper_fold, Sheet.get?]

/-! ## Formulas -/

/-- **Letter case and layout.** Two formulas with as many tokens, of the same kinds in turn, that
have the same texts where they are literals, and texts equal up to the case of ASCII letters where
they are names, are both accepted or both refused, and then at the token of one index. If they are
accepted, they have the same value for every sheet, all functions and every policy for cells that
are not set. -/
theorem value_alike {formula other : String} {ts us : List Token}
    (hts : Formula.tokensOf formula = .ok ts) (hus : Formula.tokensOf other = .ok us)
    (h : List.Forall₂ Token.Alike ts us) :
    (∃ e f, Expr.ofTokens ts = .ok e ∧ Expr.ofTokens us = .ok f ∧
      ∀ (sheet : Sheet) registry missing,
        value ⟨sheet.get?, registry, missing⟩ e = value ⟨sheet.get?, registry, missing⟩ f) ∨
    ∃ i fault fault', Expr.ofTokens ts = .error fault ∧ Expr.ofTokens us = .error fault' ∧
      fault.StandsAt ts i ∧ fault'.StandsAt us i := by
  rcases Formula.ofTokens_alike hts hus h with ⟨e, f, he, hf, hfold⟩ | hrefused
  · exact .inl ⟨e, f, he, hf, fun sheet _ _ => value_eq_of_fold_eq (get?_fold sheet) hfold⟩
  · exact .inr hrefused

/-- The tokens of `sum(b2:c03) & a1`. -/
def spacedTokens : List Token :=
  [⟨.identifier, "sum", 0⟩, ⟨.openParen, "(", 3⟩, ⟨.identifier, "b2", 4⟩, ⟨.colon, ":", 6⟩,
    ⟨.identifier, "c03", 7⟩, ⟨.closeParen, ")", 10⟩, ⟨.ampersand, "&", 12⟩,
    ⟨.identifier, "a1", 14⟩, Token.endAt 16]

/-- The tokens of `SUM( B2:C03)&A1`. -/
def denseTokens : List Token :=
  [⟨.identifier, "SUM", 0⟩, ⟨.openParen, "(", 3⟩, ⟨.identifier, "B2", 5⟩, ⟨.colon, ":", 7⟩,
    ⟨.identifier, "C03", 8⟩, ⟨.closeParen, ")", 11⟩, ⟨.ampersand, "&", 12⟩,
    ⟨.identifier, "A1", 13⟩, Token.endAt 15]

/-- The two formulas are read alike and have the same value. -/
theorem value_spaced_dense :
    Formula.tokensOf "sum(b2:c03) & a1" = .ok spacedTokens ∧
      Formula.tokensOf "SUM( B2:C03)&A1" = .ok denseTokens ∧
      List.Forall₂ Token.Alike spacedTokens denseTokens ∧
      ∃ e f, Expr.ofTokens spacedTokens = .ok e ∧ Expr.ofTokens denseTokens = .ok f ∧
        ∀ (sheet : Sheet) registry missing,
          value ⟨sheet.get?, registry, missing⟩ e = value ⟨sheet.get?, registry, missing⟩ f := by
  have hspaced : Formula.tokensOf "sum(b2:c03) & a1" = .ok spacedTokens := by decide +kernel
  have hdense : Formula.tokensOf "SUM( B2:C03)&A1" = .ok denseTokens := by decide +kernel
  have halike : List.Forall₂ Token.Alike spacedTokens denseTokens := by decide +kernel
  have haccepted : Expr.ofTokens spacedTokens = .ok (.binary .concat
      (.call "SUM" [.range "b2" "c03"]) (.cell "a1")) := by rfl
  rcases value_alike hspaced hdense halike with htrees | ⟨_, _, _, hrefused, _⟩
  · exact ⟨hspaced, hdense, halike, htrees⟩
  · cases haccepted.symm.trans hrefused

end Worksheet.Context
