import Worksheet.Proofs.Formula.Lexing

/-!
# Maximal tokens

Reading tokens computes the one way to cut a formula into maximal tokens with only blanks between
them. The cut is stated through positions: where each token stands, that the tokens do not
overlap, and that every character outside them is a blank.

Results:
* `Decomposes.nil_iff`, `Decomposes.blank_iff`, `Decomposes.cons_iff`: a cut from a position on,
  through the character there.
* `tokensFrom_eq_ok_iff`: the tokens from a position on.
* `tokensOf_eq_ok_iff`: the tokens of a formula are its cut, with the end of input behind it.
-/

namespace Worksheet.Formula

/-! ## Cuts -/

namespace Token

/-- The characters that a token is written with. -/
def source (t : Token) : List Char :=
  t.kind.spell t.text.toList

/-- The position behind a token. -/
def stop (t : Token) : Nat :=
  t.position + t.source.length

/-- A token stands in `s` at its position: it is written there, it fits its kind and it could not
be longer. -/
def StandsIn (s : List Char) (t : Token) : Prop :=
  Stands t.kind t.text.toList (s.drop t.position)

theorem StandsIn.length_pos {s : List Char} {t : Token} (h : t.StandsIn s) :
    0 < t.source.length := by
  obtain ⟨c, rest, hc, _⟩ := h.fits.exists_head
  simp [source, hc]

theorem StandsIn.stop_le {s : List Char} {t : Token} (h : t.StandsIn s) : t.stop ≤ s.length := by
  have hle := h.spelled.length_le
  have hpos := h.length_pos
  unfold stop
  unfold source at *
  rw [List.length_drop] at hle
  omega

end Token

/-- From position `start` on, `s` consists of the tokens `ts`, which stand in it one behind the
other, and of blanks. -/
structure Decomposes (s : List Char) (start : Nat) (ts : List Token) : Prop where
  starts : ∀ t ∈ ts, start ≤ t.position
  increasing : ts.Pairwise fun t u => t.position < u.position
  apart : ts.Pairwise fun t u => t.stop ≤ u.position
  stands : ∀ t ∈ ts, t.StandsIn s
  blank : ∀ i (h : i < s.length), start ≤ i →
    (∀ t ∈ ts, ¬ (t.position ≤ i ∧ i < t.stop)) → Text.isBlank s[i] = true

namespace Decomposes

theorem nil_iff {s : List Char} {start : Nat} {ts : List Token} (h : s.length ≤ start) :
    Decomposes s start ts ↔ ts = [] := by
  constructor
  · intro d
    cases ts with
    | nil => rfl
    | cons t ts =>
      have hstands := d.stands t (List.mem_cons_self ..)
      have hstart := d.starts t (List.mem_cons_self ..)
      have hpos := hstands.length_pos
      have hle := hstands.stop_le
      unfold Token.stop at hle
      omega
  · rintro rfl
    exact ⟨by simp, .nil, .nil, by simp, fun i hi hstart => by omega⟩

/-- A blank belongs to no token that starts there or later. -/
theorem blank_iff {s : List Char} {start : Nat} {ts : List Token} (h : start < s.length)
    (hb : Text.isBlank s[start] = true) :
    Decomposes s start ts ↔ Decomposes s (start + 1) ts := by
  constructor
  · intro d
    refine ⟨fun t ht => ?_, d.increasing, d.apart, d.stands,
      fun i hi hstart => d.blank i hi (by omega)⟩
    rcases Nat.lt_or_eq_of_le (d.starts t ht) with hlt | heq
    · exact hlt
    · have hstands := d.stands t ht
      unfold Token.StandsIn at hstands
      rw [← heq, List.drop_eq_getElem_cons h] at hstands
      rw [hstands.isBlank_eq_false] at hb
      cases hb
  · intro d
    refine ⟨fun t ht => ?_, d.increasing, d.apart, d.stands, fun i hi hstart hout => ?_⟩
    · have := d.starts t ht
      omega
    · rcases Nat.lt_or_eq_of_le hstart with hlt | rfl
      · exact d.blank i hi hlt hout
      · exact hb

/-- Any other character starts the first token. -/
theorem cons_iff {s : List Char} {start : Nat} {ts : List Token} (h : start < s.length)
    (hb : Text.isBlank s[start] = false) :
    Decomposes s start ts ↔
      ∃ t rest, ts = t :: rest ∧ t.position = start ∧ t.StandsIn s ∧ Decomposes s t.stop rest := by
  constructor
  · intro d
    have hcovered : ∃ t ∈ ts, t.position ≤ start ∧ start < t.stop := by
      refine Classical.byContradiction fun hnone => ?_
      have := d.blank start h (Nat.le_refl _) fun t ht hin => hnone ⟨t, ht, hin⟩
      cases hb.symm.trans this
    obtain ⟨t, ht, hle, hlt⟩ := hcovered
    cases ts with
    | nil => cases ht
    | cons u rest =>
      have hu := d.starts u (List.mem_cons_self ..)
      obtain ⟨hfirst, increasing⟩ := List.pairwise_cons.mp d.increasing
      obtain ⟨hbehind, apart⟩ := List.pairwise_cons.mp d.apart
      rcases List.mem_cons.mp ht with rfl | hmem
      · refine ⟨t, rest, rfl, Nat.le_antisymm hle hu, d.stands t (List.mem_cons_self ..), hbehind,
          increasing, apart, fun v hv => d.stands v (List.mem_cons_of_mem _ hv),
          fun i hi hstart hout => d.blank i hi (by omega) fun v hv => ?_⟩
        rcases List.mem_cons.mp hv with rfl | hv
        · omega
        · exact hout v hv
      · have := hfirst t hmem
        omega
  · rintro ⟨t, rest, rfl, rfl, hstands, d⟩
    have hpos := hstands.length_pos
    have hstop : t.position + t.source.length = t.stop := rfl
    refine ⟨fun u hu => ?_, List.pairwise_cons.mpr ⟨fun u hu => ?_, d.increasing⟩,
      List.pairwise_cons.mpr ⟨d.starts, d.apart⟩, fun u hu => ?_, fun i hi hstart hout => ?_⟩
    · rcases List.mem_cons.mp hu with rfl | hu
      · exact Nat.le_refl _
      · have := d.starts u hu
        omega
    · have := d.starts u hu
      omega
    · rcases List.mem_cons.mp hu with rfl | hu
      · exact hstands
      · exact d.stands u hu
    · have hout' := hout t (List.mem_cons_self ..)
      exact d.blank i hi (by omega) fun u hu => hout u (List.mem_cons_of_mem _ hu)

end Decomposes

/-! ## Reading all tokens -/

theorem map_eq_ok_iff {ε α β : Type} {f : α → β} {x : Except ε α} {b : β} :
    x.map f = .ok b ↔ ∃ a, x = .ok a ∧ f a = b := by
  cases x <;> simp [Except.map]

/-- The token that a lexeme is at a position. -/
def Lexeme.at (lexeme : Lexeme) (position : Nat) : Token :=
  ⟨lexeme.kind, String.ofList lexeme.text, position⟩

/-- A token stands at a position just when it is the one that is read there. -/
theorem standsIn_iff_ofHead {s rest : List Char} {c : Char} {t : Token}
    (h : s.drop t.position = c :: rest) :
    t.StandsIn s ↔ ∃ lexeme, Lexeme.ofHead c rest = .ok lexeme ∧ t = lexeme.at t.position ∧
      t.stop = t.position + lexeme.width := by
  unfold Token.StandsIn
  rw [h]
  constructor
  · intro hstands
    have hpos : 0 < t.source.length :=
      Token.StandsIn.length_pos (s := s) (by rwa [Token.StandsIn, h])
    exact ⟨⟨t.kind, t.text.toList, t.source.length, hpos⟩,
      Lexeme.ofHead_eq_ok_iff.mpr ⟨hstands, rfl⟩, by simp [Lexeme.at], rfl⟩
  · rintro ⟨lexeme, hread, ht, _⟩
    rw [ht]
    simpa [Lexeme.at] using (Lexeme.ofHead_eq_ok_iff.mp hread).1

theorem stop_at {c : Char} {rest : List Char} {lexeme : Lexeme}
    (h : Lexeme.ofHead c rest = .ok lexeme) (position : Nat) :
    (lexeme.at position).stop = position + lexeme.width := by
  rw [(Lexeme.ofHead_eq_ok_iff.mp h).2]
  simp [Token.stop, Token.source, Lexeme.at]

theorem lt_length_of_drop_eq_cons {s rest : List Char} {c : Char} {i : Nat}
    (h : s.drop i = c :: rest) : ∃ hi : i < s.length, s[i] = c ∧ s.drop (i + 1) = rest := by
  have hi : i < s.length := by
    rw [← Nat.not_le, ← List.drop_eq_nil_iff, h]
    exact List.cons_ne_nil c rest
  rw [List.drop_eq_getElem_cons hi] at h
  obtain ⟨hc, hrest⟩ := List.cons.inj h
  exact ⟨hi, hc, hrest⟩

/-- The tokens from a position on are the cut from there on, with the end of input behind it. -/
theorem tokensFrom_eq_ok_iff {s rest : List Char} {start : Nat} {ts : List Token}
    (h : s.drop start = rest) (hle : start ≤ s.length) :
    tokensFrom start rest = .ok ts ↔
      ∃ body, ts = body ++ [Token.endAt s.length] ∧ Decomposes s start body := by
  fun_induction tokensFrom start rest generalizing ts with
  | case1 start =>
    obtain rfl : start = s.length := Nat.le_antisymm hle (List.drop_eq_nil_iff.mp h)
    simp [Decomposes.nil_iff, eq_comm]
  | case2 start c rest hb ih =>
    obtain ⟨hlt, rfl, hrest⟩ := lt_length_of_drop_eq_cons h
    simp only [ih hrest hlt, Decomposes.blank_iff hlt hb]
  | case3 start c rest hb fault hfault =>
    obtain ⟨hlt, rfl, hrest⟩ := lt_length_of_drop_eq_cons h
    simp only [reduceCtorEq, Decomposes.cons_iff hlt (Bool.eq_false_iff.mpr hb), false_iff]
    rintro ⟨_, _, t, _, _, rfl, hstands, _⟩
    obtain ⟨lexeme, hread, _⟩ := (standsIn_iff_ofHead h).mp hstands
    cases hfault.symm.trans hread
  | case4 start c rest hb lexeme hlexeme ih =>
    obtain ⟨hlt, rfl, hrest⟩ := lt_length_of_drop_eq_cons h
    have hb : Text.isBlank s[start] = false := Bool.eq_false_iff.mpr hb
    have hstop := stop_at hlexeme start
    have hstands : (lexeme.at start).StandsIn s :=
      (standsIn_iff_ofHead (t := lexeme.at start) h).mpr ⟨lexeme, hlexeme, rfl, hstop⟩
    have hdrop : s.drop (start + lexeme.width) = (s[start] :: rest).drop lexeme.width := by
      rw [← h, List.drop_drop]
    have hend : start + lexeme.width ≤ s.length := hstop ▸ hstands.stop_le
    rw [map_eq_ok_iff]
    constructor
    · rintro ⟨more, hread, rfl⟩
      obtain ⟨body, rfl, d⟩ := (ih hdrop hend).mp hread
      rw [← hstop] at d
      exact ⟨lexeme.at start :: body, rfl,
        (Decomposes.cons_iff hlt hb).mpr ⟨_, body, rfl, rfl, hstands, d⟩⟩
    · rintro ⟨_, rfl, d⟩
      obtain ⟨t, body, rfl, rfl, ht, d⟩ := (Decomposes.cons_iff hlt hb).mp d
      obtain ⟨other, hread, heq, hw⟩ := (standsIn_iff_ofHead h).mp ht
      obtain rfl : lexeme = other := Except.ok.inj (hlexeme.symm.trans hread)
      rw [hw] at d
      exact ⟨_, (ih hdrop hend).mpr ⟨body, rfl, d⟩, by rw [heq]; rfl⟩

/-- The tokens of a formula have texts that fit their kinds, and the end of input behind them. -/
theorem exists_body_of_tokensFrom {s : List Char} {ts : List Token}
    (h : tokensFrom 0 s = .ok ts) :
    ∃ body, ts = body ++ [Token.endAt s.length] ∧ ∀ t ∈ body, t.kind.Fits t.text.toList := by
  obtain ⟨body, rfl, d⟩ := (tokensFrom_eq_ok_iff rfl (Nat.zero_le _)).mp h
  exact ⟨body, rfl, fun t ht => (d.stands t ht).fits⟩

/-- **Maximal tokens.** A formula reads as the tokens `ts` exactly when these are its cut into
maximal tokens, followed by the end of input behind its last character. So no formula has two such
cuts, and one that has none is not read. -/
theorem tokensOf_eq_ok_iff {formula : String} {ts : List Token} :
    tokensOf formula = .ok ts ↔
      ∃ body, ts = body ++ [Token.endAt formula.length] ∧ Decomposes formula.toList 0 body := by
  rw [← String.length_toList]
  exact tokensFrom_eq_ok_iff rfl (Nat.zero_le _)

end Worksheet.Formula
