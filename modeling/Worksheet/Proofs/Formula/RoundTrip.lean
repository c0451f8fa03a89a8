import Worksheet.Proofs.Formula.Acceptance
import Worksheet.Proofs.Formula.Pieces
import Worksheet.Proofs.Number.ReadBack

/-!
# Written formulas read back

The written form of a tree reads as that tree, for every tree whose names are names, whose numbers
are finite without a sign and whose functions have names in upper case. Texts may hold anything.

Every part of the written form is a piece that reads the same wherever it stands, since the next
character is the end of its last token; and as each operator stands in parentheses, every part is
a primary phrase of the grammar.

Results:
* `Spellable.yields`: the tokens of a written form derive its tree.
* `Spellable.trim_chars`, `Spellable.dropEquals_chars`: nothing is cut off a written form before it
  is read.
* `ofText_render`: a written form reads as its tree.
-/

namespace Worksheet.Formula

/-! ## Trees that can be written -/

/-- A name as formulas spell it: a letter or an underscore, then letters, numerals and
underscores. -/
def IsName (name : String) : Prop :=
  TokenKind.identifier.Fits name.toList

theorem fits_identifier_iff {c : Char} {rest : List Char} :
    TokenKind.identifier.Fits (c :: rest) ↔
      Text.startsName c = true ∧ ∀ d ∈ rest, Text.continuesName d = true := by
  constructor
  · intro h
    cases h with
    | identifier hc hrest =>
      exact ⟨startsName_iff.mpr hc, fun d hd => continuesName_iff.mpr (hrest d hd)⟩
    | symbol hs => cases hs
  · rintro ⟨hc, hrest⟩
    exact .identifier (startsName_iff.mp hc) fun d hd => continuesName_iff.mp (hrest d hd)

theorem IsName.exists_cons {name : String} (h : IsName name) :
    ∃ c rest, name.toList = c :: rest ∧ Text.startsName c = true ∧
      ∀ d ∈ rest, Text.continuesName d = true := by
  unfold IsName at h
  cases hname : name.toList with
  | nil =>
    rw [hname] at h
    cases h with
    | symbol hs => cases hs
  | cons c rest =>
    rw [hname] at h
    exact ⟨c, rest, rfl, fits_identifier_iff.mp h⟩

theorem IsName.continuesName {name : String} (h : IsName name) :
    ∀ c ∈ name.toList, Text.continuesName c = true := by
  obtain ⟨c, rest, heq, hc, hrest⟩ := h.exists_cons
  rw [heq]
  intro d hd
  rcases List.mem_cons.mp hd with rfl | hmem
  · exact Text.continuesName_of_startsName hc
  · exact hrest d hmem

instance : DecidablePred IsName := fun name =>
  match h : name.toList with
  | [] => isFalse fun hname => by
    obtain ⟨c, rest, heq, _⟩ := hname.exists_cons
    cases h.symm.trans heq
  | c :: rest => decidable_of_iff ((Text.startsName c && rest.all Text.continuesName) = true) (by
    rw [IsName, h, fits_identifier_iff, Bool.and_eq_true, List.all_eq_true])

namespace Expr

/-- Trees with nothing in them that no formula can spell. -/
inductive Spellable : Expr → Prop
  | number {x} : x.isFinite = true → Number.isNegative x = false → Spellable (.number x)
  | text (s) : Spellable (.text s)
  | cell {name} : IsName name → Spellable (.cell name)
  | range {first last} : IsName first → IsName last → Spellable (.range first last)
  | binary {op left right} : Spellable left → Spellable right → Spellable (.binary op left right)
  | unary {op operand} : Spellable operand → Spellable (.unary op operand)
  | call {name args} : IsName name → Text.upper name = name → (∀ e ∈ args, Spellable e) →
      Spellable (.call name args)

end Expr

/-! ## Characters that part tokens -/

/-- A character that goes on with no operand. -/
def Parts (c : Char) : Prop :=
  ¬ TokenKind.number.GrowsWith c ∧ ¬ TokenKind.identifier.GrowsWith c ∧
    ¬ TokenKind.text.GrowsWith c

/-- A character that an operand starts with. -/
def Opens (c : Char) : Prop :=
  c.isDigit = true ∨ Text.startsName c = true ∨ c = '"' ∨ c = '('

theorem parts_of {c : Char} (hnumber : Lexeme.continuesNumber c = false)
    (hname : Text.continuesName c = false) (hquote : c ≠ '"') : Parts c := by
  refine ⟨?_, ?_, hquote⟩
  · rw [← continuesNumber_iff, hnumber]
    exact Bool.false_ne_true
  · rw [← continuesName_iff, hname]
    exact Bool.false_ne_true

theorem parts_of_symbol? (kind : TokenKind) {c : Char} {s : List Char}
    (h : kind.symbol? = some (c :: s)) : Parts c := by
  cases kind <;> cases h <;> exact parts_of (by decide) (by decide) (by decide)

theorem Opens.isBlank_eq_false {c : Char} (h : Opens c) : Text.isBlank c = false := by
  rcases h with hdigit | hname | rfl | rfl
  · exact Text.isBlank_eq_false_of_isDigit hdigit
  · rw [Bool.eq_false_iff]
    intro hblank
    rw [Text.startsName_eq_false_of_isBlank hblank] at hname
    cases hname
  · rfl
  · rfl

theorem Opens.ne_equals {c : Char} (h : Opens c) : c ≠ '=' := by
  rintro rfl
  revert h
  unfold Opens
  decide

theorem Opens.ne_greater {c : Char} (h : Opens c) : c ≠ '>' := by
  rintro rfl
  revert h
  unfold Opens
  decide

/-- No operator goes on with the start of an operand. -/
theorem Opens.not_growsWith {c : Char} (h : Opens c) {kind : TokenKind} {s : List Char}
    (hs : kind.symbol? = some s) : ¬ kind.GrowsWith c := by
  cases kind with
  | number | text | identifier | endOfInput => cases hs
  | less =>
    rintro (hc | hc)
    · exact h.ne_greater hc
    · exact h.ne_equals hc
  | greater => exact h.ne_equals
  | _ => exact fun hgrows => hgrows

/-! ## Operators as they are written -/

/-- The kind of token that writes a binary operator. -/
def BinaryOp.kind : BinaryOp → TokenKind
  | .add => .plus
  | .subtract => .minus
  | .multiply => .star
  | .divide => .slash
  | .power => .caret
  | .equal => .equal
  | .notEqual => .notEqual
  | .less => .less
  | .lessEqual => .lessEqual
  | .greater => .greater
  | .greaterEqual => .greaterEqual
  | .concat => .ampersand

/-- The kind of token that writes a sign. -/
def UnaryOp.kind : UnaryOp → TokenKind
  | .negate => .minus
  | .plus => .plus

theorem BinaryOp.symbol?_kind (op : BinaryOp) : op.kind.symbol? = some op.symbol.toList := by
  cases op <;> decide

theorem UnaryOp.symbol?_kind (op : UnaryOp) : op.kind.symbol? = some op.symbol.toList := by
  cases op <;> decide

theorem BinaryOp.mem_operators (op : BinaryOp) :
    (op.kind, op) ∈ (Level.ofOperator op).operators := by
  cases op <;> decide

theorem UnaryOp.mem_signs (op : UnaryOp) : (op.kind, op) ∈ signs := by
  cases op <;> decide

theorem exists_head_of_symbol? {kind : TokenKind} {s : List Char} (h : kind.symbol? = some s) :
    ∃ c rest, s = c :: rest ∧ Parts c := by
  cases s with
  | nil => exact absurd h TokenKind.symbol?_ne_nil
  | cons c rest => exact ⟨c, rest, rfl, parts_of_symbol? kind h⟩

/-! ## Phrases as pieces -/

/-- Operands between which an operator stands are a phrase of its level. -/
theorem Derives.operation {op : BinaryOp} {us vs : List Token} {t : Token} {left right : Expr}
    (hleft : Derives .primary us left) (ht : t.kind = op.kind)
    (hright : Derives .primary vs right) :
    Derives .comparison (us ++ t :: vs) (.binary op left right) := by
  have hmem := op.mem_operators
  obtain ⟨tighter, hnext⟩ := Level.exists_next?_of_mem_operators hmem
  have hloose : ∀ level : Level, level.rank ≤ Level.primary.rank := by
    intro level
    cases level <;> decide
  rw [← ht] at hmem
  exact (Derives.binary hnext hmem (hleft.loosen (hloose _)) (hright.loosen (hloose _))).loosen
    (Nat.zero_le _)

namespace Yields

theorem symbol {kind : TokenKind} {s : List Char} (h : kind.symbol? = some s) :
    Yields s (fun c => ¬ kind.GrowsWith c) fun ts => ∃ t : Token, ts = [t] ∧ t.kind = kind := by
  have := token (.symbol h)
  rw [TokenKind.spell_of_symbol? h] at this
  exact this.mono (fun _ hc => hc) fun ts ⟨t, hts, hkind, _⟩ => ⟨t, hts, hkind⟩

/-- A delimiter, which any character may follow. -/
theorem delimiter (kind : TokenKind) {s : List Char} (h : kind.symbol? = some s)
    (hgrows : ∀ c, ¬ kind.GrowsWith c) (follows : Char → Prop) :
    Yields s follows fun ts => ∃ t : Token, ts = [t] ∧ t.kind = kind :=
  (symbol h).mono (fun c _ => hgrows c) fun _ hts => hts

theorem name {s : String} (h : IsName s) :
    Yields s.toList (fun c => ¬ TokenKind.identifier.GrowsWith c)
      fun ts => ∃ t : Token, ts = [t] ∧ t.kind = .identifier ∧ t.text = s := by
  refine (token h).mono (fun _ hc => hc) fun ts ⟨t, hts, hkind, htext⟩ => ⟨t, hts, hkind, ?_⟩
  rw [htext, String.ofList_toList]

/-- A formula in parentheses is a primary phrase. -/
theorem group {s : List Char} {e : Expr} (h : Yields s Parts fun ts => Derives .comparison ts e)
    (hne : s ≠ []) (follows : Char → Prop) :
    Yields ('(' :: s ++ [')']) follows fun ts => Derives .primary ts e := by
  obtain ⟨c, rest, rfl⟩ := List.exists_cons_of_ne_nil hne
  have hopen := delimiter .openParen rfl (fun _ hgrows => hgrows) fun _ => True
  have hclose := delimiter .closeParen rfl (fun _ hgrows => hgrows) follows
  have hjoined := (hopen.append h ⟨c, rest, rfl, trivial⟩).append hclose
    ⟨')', [], rfl, parts_of_symbol? .closeParen rfl⟩
  refine hjoined.mono (fun _ hc => hc) ?_
  rintro ts ⟨us, vs, rfl, ⟨os, body, rfl, ⟨o, rfl, ho⟩, hbody⟩, c, rfl, hc⟩
  exact .group ho hbody hc

end Yields

/-! ## Written formulas as pieces -/

namespace Expr.Spellable

/-- A written form starts like an operand. -/
theorem exists_head {e : Expr} (h : e.Spellable) : ∃ c rest, e.chars = c :: rest ∧ Opens c := by
  have hname : ∀ {name : String}, IsName name → ∀ more : List Char,
      ∃ c rest, name.toList ++ more = c :: rest ∧ Opens c := by
    intro name hfits more
    obtain ⟨c, rest, heq, hc, _⟩ := hfits.exists_cons
    exact ⟨c, rest ++ more, by rw [heq]; rfl, .inr (.inl hc)⟩
  cases h with
  | number hfinite hsign =>
    obtain ⟨c, rest, heq, hc, _⟩ := Number.text_shape hfinite hsign
    exact ⟨c, rest, heq, .inl hc⟩
  | text s => exact ⟨'"', _, rfl, .inr (.inr (.inl rfl))⟩
  | @cell name hfits =>
    have := hname hfits []
    rwa [List.append_nil] at this
  | range hfirst _ => exact hname hfirst _
  | binary _ _ => exact ⟨'(', _, rfl, .inr (.inr (.inr rfl))⟩
  | unary _ => exact ⟨'(', _, rfl, .inr (.inr (.inr rfl))⟩
  | @call name args hfits _ _ =>
    obtain ⟨c, rest, heq, hc⟩ := hname hfits ('(' :: argChars args ++ [')'])
    exact ⟨c, rest, by rw [← heq, chars, List.append_assoc], hc⟩

theorem chars_ne_nil {e : Expr} (h : e.Spellable) : e.chars ≠ [] := by
  obtain ⟨c, rest, heq, _⟩ := h.exists_head
  rw [heq]
  exact List.cons_ne_nil c rest

theorem yields_number {x : Float} (hfinite : x.isFinite = true)
    (hsign : Number.isNegative x = false) :
    Yields (Number.text x).toList Parts fun ts => Derives .primary ts (.number x) := by
  have hfits : TokenKind.number.Fits (Number.text x).toList := by
    obtain ⟨c, rest, heq, hc, hrest, _⟩ := Number.text_shape hfinite hsign
    rw [heq]
    exact .number hc hrest
  refine (Yields.token hfits).mono (fun _ hc => hc.1) ?_
  rintro ts ⟨t, rfl, hkind, htext⟩
  refine .number hkind ?_
  rw [htext, String.toList_ofList]
  exact Number.read_text hfinite hsign

theorem yields_text (s : String) :
    Yields (quote s.toList) Parts fun ts => Derives .primary ts (.text s) := by
  refine (Yields.token (.text s.toList)).mono (fun _ hc => hc.2.2) ?_
  rintro ts ⟨t, rfl, hkind, htext⟩
  have hderives := Derives.text hkind
  rwa [htext, String.ofList_toList] at hderives

theorem yields_cell {name : String} (h : IsName name) :
    Yields name.toList Parts fun ts => Derives .primary ts (.cell name) := by
  refine (Yields.name h).mono (fun _ hc => hc.2.1) ?_
  rintro ts ⟨t, rfl, hkind, rfl⟩
  exact .cell hkind

theorem yields_range {first last : String} (hfirst : IsName first) (hlast : IsName last) :
    Yields (first.toList ++ ':' :: last.toList) Parts fun ts =>
      Derives .primary ts (.range first last) := by
  have hcolon := Yields.delimiter .colon rfl (fun _ hgrows => hgrows) fun _ => True
  obtain ⟨c, rest, heq, _⟩ := (Spellable.cell hlast).exists_head
  have hjoined := (Yields.name hfirst).append (hcolon.append (Yields.name hlast)
    ⟨c, rest, heq, trivial⟩) ⟨':', _, rfl, (parts_of_symbol? .colon rfl).2.1⟩
  refine hjoined.mono (fun _ hc => hc.2.1) ?_
  rintro ts ⟨_, _, rfl, ⟨t, rfl, ht, rfl⟩, _, _, rfl, ⟨c, rfl, hc⟩, u, rfl, hu, rfl⟩
  exact .range ht hc hu

theorem yields_binary {op : BinaryOp} {left right : Expr}
    (hleft : Yields left.chars Parts fun ts => Derives .primary ts left)
    (hright : Yields right.chars Parts fun ts => Derives .primary ts right)
    (hhead : ∃ c rest, right.chars = c :: rest ∧ Opens c) (hne : left.chars ≠ []) :
    Yields (Expr.binary op left right).chars Parts fun ts =>
      Derives .primary ts (.binary op left right) := by
  obtain ⟨c, rest, heq, hc⟩ := hhead
  obtain ⟨d, more, hsymbol, hd⟩ := exists_head_of_symbol? op.symbol?_kind
  have hbehind := (Yields.symbol op.symbol?_kind).append hright
    ⟨c, rest, heq, hc.not_growsWith op.symbol?_kind⟩
  have hjoined := hleft.append hbehind ⟨d, more ++ right.chars, by rw [hsymbol]; rfl, hd⟩
  have hphrase : Yields (left.chars ++ (op.symbol.toList ++ right.chars)) Parts fun ts =>
      Derives .comparison ts (.binary op left right) := by
    refine hjoined.mono (fun _ hc => hc) ?_
    rintro ts ⟨us, _, rfl, hus, _, vs, rfl, ⟨t, rfl, ht⟩, hvs⟩
    exact hus.operation ht hvs
  have hgroup := hphrase.group (by simp [hne]) Parts
  simpa [chars] using hgroup

theorem yields_unary {op : UnaryOp} {operand : Expr}
    (h : Yields operand.chars Parts fun ts => Derives .primary ts operand)
    (hhead : ∃ c rest, operand.chars = c :: rest ∧ Opens c) :
    Yields (Expr.unary op operand).chars Parts fun ts =>
      Derives .primary ts (.unary op operand) := by
  obtain ⟨c, rest, heq, hc⟩ := hhead
  have hjoined := (Yields.symbol op.symbol?_kind).append h
    ⟨c, rest, heq, hc.not_growsWith op.symbol?_kind⟩
  have hphrase : Yields (op.symbol.toList ++ operand.chars) Parts fun ts =>
      Derives .comparison ts (.unary op operand) := by
    refine hjoined.mono (fun _ hc => hc) ?_
    rintro ts ⟨_, vs, rfl, ⟨t, rfl, ht⟩, hvs⟩
    have hsign := op.mem_signs
    rw [← ht] at hsign
    exact (Derives.sign hsign (hvs.loosen (by decide))).loosen (Nat.zero_le _)
  have hgroup := hphrase.group (by simp [heq]) Parts
  simpa [chars] using hgroup

theorem parts_head_moreArgs (args : List Expr) (tail : List Char)
    (htail : ∀ c, tail.head? = some c → Parts c) :
    ∀ c, (moreArgChars args ++ tail).head? = some c → Parts c := by
  cases args with
  | nil => exact htail
  | cons e rest =>
    intro c hc
    obtain rfl : ',' = c := by simpa [moreArgChars] using hc
    exact parts_of_symbol? .comma rfl

/-- The arguments behind the first one, each behind a comma. -/
theorem yields_moreArgs {args : List Expr} (hargs : ∀ e ∈ args, e.Spellable)
    (hyields : ∀ e ∈ args, Yields e.chars Parts fun ts => Derives .primary ts e) :
    Yields (moreArgChars args) Parts fun ts =>
      ∀ us es, DerivesAll us es → DerivesAll (us ++ ts) (es ++ args) := by
  induction args with
  | nil => exact Yields.nil fun us es hus => by simpa using hus
  | cons e rest ih =>
    have hcomma := Yields.delimiter .comma rfl (fun _ hgrows => hgrows) fun _ => True
    obtain ⟨c, more, heq, _⟩ := (hargs e (List.mem_cons_self ..)).exists_head
    have hfirst := hcomma.append (hyields e (List.mem_cons_self ..)) ⟨c, more, heq, trivial⟩
    have hrest := ih (fun a ha => hargs a (List.mem_cons_of_mem _ ha))
      fun a ha => hyields a (List.mem_cons_of_mem _ ha)
    have hjoined := hfirst.append_of_head hrest (parts_head_moreArgs rest)
    refine hjoined.mono (fun _ hc => hc) ?_
    rintro ts ⟨_, vs, rfl, ⟨_, body, rfl, ⟨comma, rfl, hkind⟩, hbody⟩, hvs⟩ us es hus
    have hmore := hvs _ _ (.more hus hkind (hbody.loosen (Nat.zero_le _)))
    simpa using hmore

theorem yields_call {name : String} {args : List Expr} (hname : IsName name)
    (hupper : Text.upper name = name) (hargs : ∀ e ∈ args, e.Spellable)
    (hyields : ∀ e ∈ args, Yields e.chars Parts fun ts => Derives .primary ts e) :
    Yields (Expr.call name args).chars Parts fun ts => Derives .primary ts (.call name args) := by
  have hopen := Yields.delimiter .openParen rfl (fun _ hgrows => hgrows) fun _ => True
  have hclose := Yields.delimiter .closeParen rfl (fun _ hgrows => hgrows) Parts
  have hhead := (Yields.name hname).append hopen
    ⟨'(', [], rfl, (parts_of_symbol? .openParen rfl).2.1⟩
  cases args with
  | nil =>
    have hjoined := hhead.append hclose ⟨')', [], rfl, trivial⟩
    have hchars : (Expr.call name []).chars = name.toList ++ ['('] ++ [')'] := by
      simp [chars, argChars]
    rw [hchars]
    refine hjoined.mono (fun _ hc => hc) ?_
    rintro ts ⟨_, _, rfl, ⟨_, _, rfl, ⟨t, rfl, ht, rfl⟩, o, rfl, ho⟩, c, rfl, hc⟩
    have hcall := Derives.emptyCall ht ho hc
    rwa [hupper] at hcall
  | cons e rest =>
    obtain ⟨d, more, heq, _⟩ := (hargs e (List.mem_cons_self ..)).exists_head
    have hfirst := hhead.append (hyields e (List.mem_cons_self ..)) ⟨d, more, heq, trivial⟩
    have hrest := yields_moreArgs (fun a ha => hargs a (List.mem_cons_of_mem _ ha))
      fun a ha => hyields a (List.mem_cons_of_mem _ ha)
    have hall := hfirst.append_of_head hrest (parts_head_moreArgs rest)
    have hjoined := hall.append hclose ⟨')', [], rfl, parts_of_symbol? .closeParen rfl⟩
    have hchars : (Expr.call name (e :: rest)).chars =
        name.toList ++ ['('] ++ e.chars ++ moreArgChars rest ++ [')'] := by
      simp [chars, argChars]
    rw [hchars]
    refine hjoined.mono (fun _ hc => hc) ?_
    rintro ts ⟨_, _, rfl, ⟨_, us, rfl, ⟨_, body, rfl, ⟨_, _, rfl, ⟨t, rfl, ht, rfl⟩, o, rfl, ho⟩,
      hbody⟩, hus⟩, c, rfl, hc⟩
    have hargs := hus _ _ (.one (hbody.loosen (Nat.zero_le _)))
    have hcall := Derives.call ht ho hargs hc
    rw [hupper] at hcall
    simpa using hcall

/-- **Written forms as pieces.** Wherever a written form stands, if no operand goes on behind it,
its tokens are a primary phrase with its tree. -/
theorem yields {e : Expr} (h : e.Spellable) :
    Yields e.chars Parts fun ts => Derives .primary ts e := by
  induction h with
  | number hfinite hsign => exact yields_number hfinite hsign
  | text s => exact yields_text s
  | cell hname => exact yields_cell hname
  | range hfirst hlast => exact yields_range hfirst hlast
  | binary hleft hright ihleft ihright =>
    exact yields_binary ihleft ihright hright.exists_head hleft.chars_ne_nil
  | unary hoperand ih => exact yields_unary ih hoperand.exists_head
  | call hname hupper hargs ih => exact yields_call hname hupper hargs ih

/-! ## The edges of a written form -/

/-- A written form ends with a character that is no blank. -/
theorem isBlank_of_getLast? {e : Expr} (h : e.Spellable) :
    ∀ c, e.chars.getLast? = some c → Text.isBlank c = false := by
  have hname : ∀ {name : String}, IsName name → ∀ c ∈ name.toList, Text.isBlank c = false := by
    intro name hfits c hc
    rw [Bool.eq_false_iff]
    intro hblank
    have hcontinues : Text.continuesName c = true := by
      obtain ⟨d, rest, heq, hd, hrest⟩ := hfits.exists_cons
      rw [heq] at hc
      rcases List.mem_cons.mp hc with rfl | hmem
      · exact Text.continuesName_of_startsName hd
      · exact hrest c hmem
    rw [Text.continuesName_eq_false_of_isBlank hblank] at hcontinues
    cases hcontinues
  intro c hc
  have hlast : ∀ {s : List Char} {d : Char}, (s ++ [d]).getLast? = some c → d = c := by
    intro s d hd
    simpa using hd
  cases h with
  | number hfinite hsign =>
    obtain ⟨d, rest, heq, hd, hrest, _⟩ := Number.text_shape hfinite hsign
    have hmem := List.mem_of_getLast? hc
    rw [chars, heq] at hmem
    rcases List.mem_cons.mp hmem with rfl | hmem
    · exact Text.isBlank_eq_false_of_isDigit hd
    · rcases hrest c hmem with hdigit | rfl
      · exact Text.isBlank_eq_false_of_isDigit hdigit
      · rfl
  | text s =>
    obtain rfl := hlast hc
    rfl
  | cell hfits => exact hname hfits c (List.mem_of_getLast? hc)
  | @range first last hfirst hsecond =>
    have hmem := List.mem_of_getLast? hc
    rw [chars, List.mem_append, List.mem_cons] at hmem
    rcases hmem with hmem | rfl | hmem
    · exact hname hfirst c hmem
    · rfl
    · exact hname hsecond c hmem
  | binary _ _ =>
    obtain rfl := hlast hc
    rfl
  | unary _ =>
    obtain rfl := hlast hc
    rfl
  | call _ _ _ =>
    rw [chars] at hc
    obtain rfl := hlast hc
    rfl

theorem trim_chars {e : Expr} (h : e.Spellable) : Text.trim e.chars = e.chars := by
  obtain ⟨c, rest, heq, hc⟩ := h.exists_head
  refine Text.trim_eq_self (fun d hd => ?_) h.isBlank_of_getLast?
  rw [heq] at hd
  cases hd
  exact hc.isBlank_eq_false

theorem dropEquals_chars {e : Expr} (h : e.Spellable) : dropEquals e.chars = e.chars := by
  obtain ⟨c, rest, heq, hc⟩ := h.exists_head
  have hne : c ≠ '=' := hc.ne_equals
  rw [heq]
  unfold dropEquals
  split
  · next hcons =>
    cases hcons
    exact absurd rfl hne
  · rfl

end Expr.Spellable

/-! ## The round trip -/

/-- **Written formulas read back.** The written form of a tree reads as that tree, whatever its
shape, if its numbers are finite without a sign, its names are names and the names of its
functions are in upper case. -/
theorem ofText_render {e : Expr} (h : e.Spellable) : Expr.ofText e.render = .ok e := by
  obtain ⟨ts, hread, hends, hderives⟩ := h.yields.tokensFrom_eq
  unfold Expr.ofText Expr.render
  rw [String.toList_ofList, h.trim_chars, h.dropEquals_chars, Expr.ofChars, hread]
  exact (ofTokens_eq_ok_iff hends rfl e).mpr (hderives.loosen (Nat.zero_le _))

/-- A tree with a part of every kind: `IF((-a_1<1.5),A1:B2,"=""<""")`. -/
def mixedTree : Expr :=
  .call "IF" [.binary .less (.unary .negate (.cell "a_1")) (.number (.ofBits 0x3FF8000000000000)),
    .range "A1" "B2", .text "=\"<\""]

theorem mixedTree_spellable : mixedTree.Spellable := by
  have hname : ∀ {c : Char} {rest : List Char} {name : String}, name.toList = c :: rest →
      Text.startsName c = true → rest.all Text.continuesName = true → IsName name := by
    intro c rest name heq hc hrest
    unfold IsName
    rw [heq]
    exact fits_identifier_iff.mpr ⟨hc, List.all_eq_true.mp hrest⟩
  refine .call (@hname 'I' ['F'] _ rfl (by decide) (by decide)) rfl ?_
  intro e he
  simp only [List.mem_cons, List.not_mem_nil, or_false] at he
  rcases he with rfl | rfl | rfl
  · exact .binary (.unary (.cell (@hname 'a' ['_', '1'] _ rfl (by decide) (by decide))))
      (.number rfl rfl)
  · exact .range (@hname 'A' ['1'] _ rfl (by decide) (by decide))
      (@hname 'B' ['2'] _ rfl (by decide) (by decide))
  · exact .text _

/-- A written form with operators, quotes and an equals sign in a text. -/
theorem ofText_render_mixedTree :
    mixedTree.Spellable ∧ Expr.ofText mixedTree.render = .ok mixedTree :=
  ⟨mixedTree_spellable, ofText_render mixedTree_spellable⟩

end Worksheet.Formula
