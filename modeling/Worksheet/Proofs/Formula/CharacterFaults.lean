import Worksheet.Proofs.Formula.Decomposition
import Worksheet.Proofs.Formula.Pieces

/-!
# Faults of characters

Tokens are read from left to right, with one character of foresight, so what stands before a fault
is read the same when the formula is cut there, and also when it goes on in another way behind the
character of the fault. That character starts no token at all, or it opens a text that is never
closed: then all quotes behind it are doubled, and one more quote closes the text.

Results:
* `quoted?_eq_none_iff`: texts that are not closed.
* `symbol?_eq_none_iff`: characters that are no operator and no delimiter.
* `exists_front_of_error`: a formula up to its fault.
* `tokensFrom_eq_error`: what the fault can be.
* `tokensOf_eq_error_first`: the fault is the first one.
-/

namespace Worksheet.Formula

/-! ## Texts without an end -/

/-- A text is not closed just when all quotes in it are doubled. -/
theorem quoted?_eq_none_iff {s : List Char} :
    quoted? s = none ↔ ∃ text, s = doubleQuotes text := by
  constructor
  · intro h
    fun_induction quoted? s with
    | case1 => exact ⟨[], rfl⟩
    | case2 rest ih =>
      obtain ⟨text, rfl⟩ := ih (Option.map_eq_none_iff.mp h)
      exact ⟨'"' :: text, by simp [doubleQuotes]⟩
    | case3 rest hne => cases h
    | case4 c rest hne hc ih =>
      obtain ⟨text, rfl⟩ := ih (Option.map_eq_none_iff.mp h)
      have hc : c ≠ '"' := hc
      exact ⟨c :: text, by simp [doubleQuotes, hc]⟩
  · rintro ⟨text, rfl⟩
    induction text with
    | nil => rfl
    | cons c text ih =>
      by_cases hc : c = '"'
      · subst hc
        simp [doubleQuotes, quoted?, ih]
      · simp [doubleQuotes, hc, quoted?, ih]

/-! ## Characters without a token -/

/-- The characters that operators and delimiters start with. -/
def symbolHeads : List Char :=
  ['+', '-', '*', '/', '^', '(', ')', ',', ':', '&', '=', '<', '>']

theorem symbol?_eq_none_iff {c : Char} {rest : List Char} :
    Lexeme.symbol? c rest = none ↔ c ∉ symbolHeads := by
  unfold Lexeme.symbol?
  split <;> simp_all [symbolHeads]

/-- Where no token can be read, a text is not closed, or the character starts no token, whatever
comes behind it. -/
theorem ofHead_eq_error {c : Char} {rest : List Char} {fault : SyntaxFault}
    (h : Lexeme.ofHead c rest = .error fault) :
    (fault = .unterminatedText ∧ c = '"' ∧ quoted? rest = none) ∨
      (fault = .unexpectedCharacter c ∧
        ∀ more, Lexeme.ofHead c more = .error (.unexpectedCharacter c)) := by
  unfold Lexeme.ofHead at h ⊢
  split at h
  · cases h
  · next hdigit =>
    split at h
    · cases h
    · next hname =>
      split at h
      · next hquote =>
        split at h <;> cases h
        next hnone => exact .inl ⟨rfl, hquote, hnone⟩
      · next hquote =>
        split at h <;> cases h
        next hnone =>
          refine .inr ⟨rfl, fun more => ?_⟩
          rw [if_neg hdigit, if_neg hname, if_neg hquote,
            symbol?_eq_none_iff.mpr (symbol?_eq_none_iff.mp hnone)]

/-! ## A formula up to its fault -/

/-- From `position` on, `front` is read as the tokens `ts` if the character `c` or nothing comes
behind it. -/
def ReadsBefore (position : Nat) (front : List Char) (c : Char) (ts : List Token) : Prop :=
  ∀ tail, (∀ d, tail.head? = some d → d = c) →
    tokensFrom position (front ++ tail) =
      (tokensFrom (position + front.length) tail).map (ts ++ ·)

namespace ReadsBefore

variable {position : Nat} {front rest : List Char} {b c : Char} {ts : List Token}

theorem nil (position : Nat) (c : Char) : ReadsBefore position [] c [] := by
  intro tail _
  show tokensFrom position tail = (tokensFrom position tail).map id
  cases tokensFrom position tail <;> rfl

theorem blank (h : ReadsBefore (position + 1) front c ts) (hb : Text.isBlank b = true) :
    ReadsBefore position (b :: front) c ts := by
  intro tail htail
  rw [List.cons_append, tokensFrom, if_pos hb, h tail htail, List.length_cons, Nat.add_assoc,
    Nat.add_comm 1]

/-- A token that could not be longer where the formula stands could not be longer there if the
formula is cut behind `front`, or goes on in another way behind `c`. -/
theorem token {kind : TokenKind} {text : List Char}
    (h : ReadsBefore (position + (kind.spell text).length) front c ts) (fits : kind.Fits text)
    (longest : ∀ d, (front ++ c :: rest).head? = some d → ¬ kind.GrowsWith d) :
    ReadsBefore position (kind.spell text ++ front) c
      (⟨kind, String.ofList text, position⟩ :: ts) := by
  intro tail htail
  have hnext : ∀ d, (front ++ tail).head? = some d → ¬ kind.GrowsWith d := by
    cases front with
    | nil =>
      intro d hd
      rw [htail d hd]
      exact longest c rfl
    | cons b front => exact longest
  rw [List.append_assoc, tokensFrom_spell_append position fits hnext, h tail htail,
    List.length_append, Nat.add_assoc]
  cases tokensFrom (position + ((kind.spell text).length + front.length)) tail <;> rfl

/-- A formula that is cut where a fault would be. -/
theorem tokensFrom_eq (h : ReadsBefore position front c ts) :
    tokensFrom position front = .ok (ts ++ [Token.endAt (position + front.length)]) := by
  have hread := h [] (by simp)
  rw [List.append_nil, tokensFrom] at hread
  exact hread

end ReadsBefore

/-- A formula whose tokens cannot be read consists of what is read before the fault, of the
character of the fault, and of a rest. -/
theorem exists_front_of_error {start : Nat} {s : List Char} {e : SyntaxError}
    (h : tokensFrom start s = .error e) :
    ∃ front c rest ts, s = front ++ c :: rest ∧ e.position = start + front.length ∧
      ReadsBefore start front c ts ∧ Text.isBlank c = false ∧
      Lexeme.ofHead c rest = .error e.fault := by
  fun_induction tokensFrom start s with
  | case1 start => cases h
  | case2 start c rest hb ih =>
    obtain ⟨front, d, more, ts, rfl, hposition, hreads, hd, hfault⟩ := ih h
    refine ⟨c :: front, d, more, ts, rfl, ?_, hreads.blank hb, hd, hfault⟩
    rw [hposition, List.length_cons]
    omega
  | case3 start c rest hb fault hfault =>
    cases h
    exact ⟨[], c, rest, [], rfl, rfl, .nil start c, Bool.eq_false_iff.mpr hb, hfault⟩
  | case4 start c rest hb lexeme hlexeme ih =>
    obtain ⟨hstands, hwidth⟩ := Lexeme.ofHead_eq_ok_iff.mp hlexeme
    obtain ⟨tail, htail, longest⟩ := hstands.exists_tail
    have hdrop : (c :: rest).drop lexeme.width = tail := by
      rw [htail, hwidth, List.drop_left]
    rw [hdrop] at h ih
    cases hmore : tokensFrom (start + lexeme.width) tail with
    | ok more =>
      rw [hmore] at h
      cases h
    | error other =>
      rw [hmore] at h
      obtain rfl : other = e := Except.error.inj h
      obtain ⟨front, d, more, ts, rfl, hposition, hreads, hd, hfault⟩ := ih hmore
      rw [hwidth] at hreads hposition
      refine ⟨lexeme.kind.spell lexeme.text ++ front, d, more, _, ?_, ?_,
        hreads.token hstands.fits longest, hd, hfault⟩
      · rw [htail, List.append_assoc]
      · rw [hposition, List.length_append, Nat.add_assoc]

/-- A formula whose tokens cannot be read fails at one of its characters. -/
theorem tokensFrom_eq_error {start : Nat} {s : List Char} {e : SyntaxError}
    (h : tokensFrom start s = .error e) :
    e.position < start + s.length ∧
      (e.fault = .unterminatedText ∨ ∃ c, e.fault = .unexpectedCharacter c) := by
  obtain ⟨front, c, rest, ts, rfl, hposition, -, -, hfault⟩ := exists_front_of_error h
  refine ⟨?_, ?_⟩
  · rw [hposition, List.length_append, List.length_cons]
    omega
  · rcases ofHead_eq_error hfault with ⟨heq, -⟩ | ⟨heq, -⟩
    · exact .inl heq
    · exact .inr ⟨c, heq⟩

/-! ## What comes of a fault -/

section

variable {front rest : List Char} {c : Char} {ts : List Token}

/-- Behind what is read before it, a character that starts no token is a fault. -/
theorem ReadsBefore.error_of_unexpected (h : ReadsBefore 0 front c ts)
    (hblank : Text.isBlank c = false)
    (hfault : Lexeme.ofHead c rest = .error (.unexpectedCharacter c)) :
    tokensFrom 0 (front ++ c :: rest) = .error ⟨front.length, .unexpectedCharacter c⟩ := by
  rw [h (c :: rest) fun d hd => (Option.some.inj hd).symm, tokensFrom,
    if_neg (by rw [hblank]; exact Bool.false_ne_true), hfault, Nat.zero_add]
  rfl

/-- Behind what is read before it, a text that is not closed becomes a token by one more quote. -/
theorem ReadsBefore.close_quote (h : ReadsBefore 0 front '"' ts) (text : List Char) :
    tokensFrom 0 (front ++ quote text) =
      .ok (ts ++ [⟨.text, String.ofList text, front.length⟩,
        Token.endAt (front.length + (quote text).length)]) := by
  have hread := tokensFrom_spell_append (front.length) (TokenKind.Fits.text text)
    (show ∀ c, ([] : List Char).head? = some c → ¬ TokenKind.text.GrowsWith c by simp)
  have hspell : TokenKind.text.spell text = quote text := rfl
  rw [hspell, List.append_nil, tokensFrom] at hread
  rw [h (quote text) fun d hd => (Option.some.inj hd).symm, Nat.zero_add, hread]
  rfl

end

/-- **The first fault.** A formula whose tokens cannot be read has its fault at one of its
characters, and the characters before it can be read. Either the character there starts no token;
then every formula that starts with the same characters up to there has the same fault. Or a text is
opened there and not closed; then one more quote closes it, and the tokens before it are followed by
that text alone. -/
theorem tokensOf_eq_error_first {formula : String} {e : SyntaxError}
    (h : tokensOf formula = .error e) :
    e.position < formula.length ∧
      ∃ ts, tokensOf (String.ofList (formula.toList.take e.position)) =
          .ok (ts ++ [Token.endAt e.position]) ∧
        ((∃ c, formula.toList[e.position]? = some c ∧ e.fault = .unexpectedCharacter c ∧
            ∀ other : String, formula.toList.take (e.position + 1) <+: other.toList →
              tokensOf other = .error e) ∨
          (formula.toList[e.position]? = some '"' ∧ e.fault = .unterminatedText ∧
            ∃ text, quote text = formula.toList.drop e.position ++ ['"'] ∧
              tokensOf (formula ++ "\"") = .ok (ts ++ [⟨.text, String.ofList text, e.position⟩,
                Token.endAt (formula.length + 1)]))) := by
  obtain ⟨front, c, rest, ts, hchars, hposition, hreads, hblank, hfault⟩ :=
    exists_front_of_error h
  rw [Nat.zero_add] at hposition
  obtain ⟨position, fault⟩ := e
  obtain rfl : position = front.length := hposition
  have hlength : formula.length = front.length + (rest.length + 1) := by
    rw [← String.length_toList, hchars, List.length_append, List.length_cons]
  have htake : formula.toList.take front.length = front := by
    rw [hchars, List.take_left]
  have hnext : formula.toList[front.length]? = some c := by
    rw [hchars, List.getElem?_append_right (Nat.le_refl _), Nat.sub_self]
    rfl
  have hdrop : formula.toList.drop front.length = c :: rest := by
    rw [hchars, List.drop_left]
  have hlt : front.length < formula.length := by omega
  refine ⟨hlt, ts, ?_, ?_⟩
  · show tokensFrom 0 (String.ofList (formula.toList.take front.length)).toList = _
    rw [htake, String.toList_ofList, hreads.tokensFrom_eq, Nat.zero_add]
  rcases ofHead_eq_error hfault with ⟨rfl, rfl, hopen⟩ | ⟨rfl, hunexpected⟩
  · -- All quotes of the rest are doubled, so that one more quote makes it a quoted text.
    obtain ⟨text, rfl⟩ := quoted?_eq_none_iff.mp hopen
    have hquote : quote text = formula.toList.drop front.length ++ ['"'] := by
      rw [hdrop]
      rfl
    have hclosed : (formula ++ "\"").toList = front ++ quote text := by
      rw [String.toList_append, hchars, List.append_assoc]
      rfl
    have hend : front.length + (quote text).length = formula.length + 1 := by
      rw [hquote, hdrop, hlength, List.length_append]
      rfl
    refine .inr ⟨hnext, rfl, text, hquote, ?_⟩
    show tokensFrom 0 (formula ++ "\"").toList = _
    rw [hclosed, hreads.close_quote text, hend]
  · refine .inl ⟨c, hnext, rfl, fun other hother => ?_⟩
    obtain ⟨more, hmore⟩ := hother
    have hstart : formula.toList.take (front.length + 1) = front ++ [c] := by
      rw [hchars, List.take_length_add_append]
      rfl
    show tokensFrom 0 other.toList = _
    rw [← hmore, hstart, List.append_assoc]
    exact hreads.error_of_unexpected hblank (hunexpected more)

/-- In this formula a quote in the open text is doubled, but none closes it. -/
theorem tokensOf_eq_error_first_halfQuoted :
    tokensOf "<\"a\"\"" = .error ⟨1, .unterminatedText⟩ ∧
      ∃ ts text, tokensOf "<" = .ok (ts ++ [Token.endAt 1]) ∧
        tokensOf "<\"a\"\"\"" = .ok (ts ++ [⟨.text, String.ofList text, 1⟩, Token.endAt 6]) := by
  have h : tokensOf "<\"a\"\"" = .error ⟨1, .unterminatedText⟩ := by decide +kernel
  obtain ⟨-, ts, hbefore, ⟨c, -, hfault, -⟩ | ⟨-, -, text, -, hclosed⟩⟩ :=
    tokensOf_eq_error_first h
  · cases hfault
  · exact ⟨h, ts, text, hbefore, hclosed⟩

end Worksheet.Formula
