import Worksheet.Proofs.Formula.Lexing

/-!
# Reading joined pieces

What a piece of a formula is read as does not depend on what stands before it, and it depends on
what stands behind it only through the next character, which must not go on with the last token of
the piece. So pieces can be read one by one and joined.

Results:
* `tokensFrom_spell_append`: a token that is written out is read back.
* `Yields.token`: a token as a piece.
* `Yields.append_of_head`, `Yields.append`: two pieces that are joined.
-/

namespace Worksheet.Formula

/-! ## One token -/

/-- A token that is written out is read back, if the next character does not go on with it. -/
theorem tokensFrom_spell_append {kind : TokenKind} {text tail : List Char} (position : Nat)
    (fits : kind.Fits text) (longest : ∀ c, tail.head? = some c → ¬ kind.GrowsWith c) :
    tokensFrom position (kind.spell text ++ tail) =
      (tokensFrom (position + (kind.spell text).length) tail).map
        (⟨kind, String.ofList text, position⟩ :: ·) := by
  have hstands := stands_append fits longest
  obtain ⟨c, rest, hspell, hblank⟩ := fits.exists_head
  have hpos : 0 < (kind.spell text).length := by
    rw [hspell]
    exact Nat.succ_pos _
  have hcons : kind.spell text ++ tail = c :: (rest ++ tail) := by
    rw [hspell]
    rfl
  have hread : Lexeme.ofHead c (rest ++ tail) =
      .ok ⟨kind, text, (kind.spell text).length, hpos⟩ := by
    rw [hcons] at hstands
    exact Lexeme.ofHead_eq_ok_iff.mpr ⟨hstands, rfl⟩
  have hdrop : (c :: (rest ++ tail)).drop (kind.spell text).length = tail := by
    rw [← hcons, List.drop_left]
  rw [hcons, tokensFrom, if_neg (by rw [hblank]; exact Bool.false_ne_true), hread]
  simp only [hdrop]

/-! ## Pieces -/

/-- Wherever the piece `s` stands, if the next character is one of `follows` or there is none, it
is read as tokens that satisfy `holds`. -/
def Yields (s : List Char) (follows : Char → Prop) (holds : List Token → Prop) : Prop :=
  ∀ position tail, (∀ c, tail.head? = some c → follows c) →
    ∃ ts, tokensFrom position (s ++ tail) =
        (tokensFrom (position + s.length) tail).map (ts ++ ·) ∧
      (∀ t ∈ ts, t.kind ≠ .endOfInput) ∧ holds ts

namespace Yields

variable {s s' : List Char} {follows follows' : Char → Prop} {holds holds' : List Token → Prop}

theorem nil (h : holds []) : Yields [] follows holds := by
  intro position tail _
  refine ⟨[], ?_, by simp, h⟩
  cases htail : tokensFrom (position + ([] : List Char).length) tail <;>
    simpa [Except.map] using htail

/-- A token is a piece that any character may follow that does not go on with it. -/
theorem token {kind : TokenKind} {text : List Char} (fits : kind.Fits text) :
    Yields (kind.spell text) (fun c => ¬ kind.GrowsWith c)
      fun ts => ∃ t : Token, ts = [t] ∧ t.kind = kind ∧ t.text = String.ofList text := by
  intro position tail longest
  refine ⟨_, tokensFrom_spell_append position fits longest, ?_, ⟨_, rfl, rfl, rfl⟩⟩
  intro t ht
  obtain rfl := List.mem_singleton.mp ht
  rintro rfl
  cases fits with
  | symbol hs => cases hs

theorem mono (h : Yields s follows holds) (hfollows : ∀ c, follows' c → follows c)
    (hholds : ∀ ts, holds ts → holds' ts) : Yields s follows' holds' := by
  intro position tail htail
  obtain ⟨ts, hread, hends, hts⟩ := h position tail fun c hc => hfollows c (htail c hc)
  exact ⟨ts, hread, hends, hholds ts hts⟩

/-- Pieces may be joined if whatever the second one starts with may follow the first. -/
theorem append_of_head (h : Yields s follows holds) (h' : Yields s' follows' holds')
    (hhead : ∀ tail, (∀ c, tail.head? = some c → follows' c) →
      ∀ c, (s' ++ tail).head? = some c → follows c) :
    Yields (s ++ s') follows' fun ts => ∃ us vs, ts = us ++ vs ∧ holds us ∧ holds' vs := by
  intro position tail htail
  obtain ⟨vs, hsecond, hvends, hvs⟩ := h' (position + s.length) tail htail
  obtain ⟨us, hfirst, huends, hus⟩ := h position (s' ++ tail) (hhead tail htail)
  refine ⟨us ++ vs, ?_, ?_, us, vs, rfl, hus, hvs⟩
  · rw [List.append_assoc, hfirst, hsecond, List.length_append, Nat.add_assoc]
    cases tokensFrom (position + (s.length + s'.length)) tail <;> simp [Except.map]
  · intro t ht
    rcases List.mem_append.mp ht with hu | hv
    · exact huends t hu
    · exact hvends t hv

/-- Pieces may be joined if the first character of the second one may follow the first. -/
theorem append (h : Yields s follows holds) (h' : Yields s' follows' holds')
    (hhead : ∃ c rest, s' = c :: rest ∧ follows c) :
    Yields (s ++ s') follows' fun ts => ∃ us vs, ts = us ++ vs ∧ holds us ∧ holds' vs := by
  obtain ⟨d, rest, rfl, hd⟩ := hhead
  refine h.append_of_head h' fun tail _ c hc => ?_
  obtain rfl : d = c := by simpa using hc
  exact hd

/-- A whole formula that is a piece. -/
theorem tokensFrom_eq (h : Yields s follows holds) :
    ∃ ts, tokensFrom 0 s = .ok (ts ++ [Token.endAt s.length]) ∧
      (∀ t ∈ ts, t.kind ≠ .endOfInput) ∧ holds ts := by
  obtain ⟨ts, hread, hends, hts⟩ := h 0 [] (by simp)
  refine ⟨ts, ?_, hends, hts⟩
  rw [List.append_nil, Nat.zero_add, tokensFrom] at hread
  exact hread

end Yields

end Worksheet.Formula
