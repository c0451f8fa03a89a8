import Worksheet.Proofs.Formula.CharacterFaults
import Worksheet.Proofs.Formula.Refusal

/-!
# Faults of formulas

A formula that has no tree fails in one of two ways: at a character that starts no token, or at a
token that no formula goes on with. Either way the fault lies within the formula, at the latest at
its end, and its wording is the reader's own, never that of a function.

Results:
* `position_le_of_tokensFrom`: the tokens of a formula lie within it.
* `ofChars_eq_error_iff`: the two ways to fail.
* `fault_of_ofChars`: where a fault lies, and that no function reports it.
-/

namespace Worksheet.Formula

/-! ## Faults of tokens -/

/-- The tokens of a formula lie within it, the end of input at its end. -/
theorem position_le_of_tokensFrom {s : List Char} {ts : List Token}
    (h : tokensFrom 0 s = .ok ts) : ∀ t ∈ ts, t.position ≤ s.length := by
  obtain ⟨body, rfl, d⟩ := (tokensFrom_eq_ok_iff rfl (Nat.zero_le _)).mp h
  intro t ht
  rcases List.mem_append.mp ht with hbody | hend
  · exact Nat.le_trans (Nat.le_add_right _ _) (d.stands t hbody).stop_le
  · rw [List.mem_singleton.mp hend]
    exact Nat.le_refl _

theorem SyntaxError.About.ne_reported {t : Token} {fault : SyntaxError} (h : fault.About t)
    (message : String) : fault.fault ≠ .reported message := by
  cases h <;> exact SyntaxFault.noConfusion

/-! ## Faults of formulas -/

/-- A formula has no tree if its tokens cannot be read or are refused. -/
theorem ofChars_eq_error_iff {s : List Char} {fault : SyntaxError} :
    Expr.ofChars s = .error fault ↔
      tokensFrom 0 s = .error fault ∨
        ∃ ts, tokensFrom 0 s = .ok ts ∧ Expr.ofTokens ts = .error fault := by
  unfold Expr.ofChars
  cases tokensFrom 0 s with
  | ok ts => simp
  | error e => simp

/-- A fault lies within the formula or at its end, and is none that a function reports. -/
theorem fault_of_ofChars {s : List Char} {fault : SyntaxError}
    (h : Expr.ofChars s = .error fault) :
    fault.position ≤ s.length ∧ ∀ message, fault.fault ≠ .reported message := by
  rcases ofChars_eq_error_iff.mp h with hchars | ⟨ts, hread, htokens⟩
  · obtain ⟨hposition, hfault⟩ := tokensFrom_eq_error hchars
    refine ⟨by omega, fun message hreported => ?_⟩
    rcases hfault with heq | ⟨c, heq⟩ <;> cases heq.symm.trans hreported
  · have hle := position_le_of_tokensFrom hread
    obtain ⟨body, rfl, hfits⟩ := exists_body_of_tokensFrom hread
    obtain ⟨t, ht, habout⟩ :=
      about_of_ofTokens (fun t ht => (hfits t ht).ne_endOfInput) rfl htokens
    exact ⟨habout.position_eq ▸ hle t ht, habout.ne_reported⟩

end Worksheet.Formula
