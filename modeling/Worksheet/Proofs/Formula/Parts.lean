import Worksheet.Proofs.Formula.Decomposition
import Worksheet.Proofs.Formula.RoundTrip
import Worksheet.Proofs.Number.Literal
import Worksheet.Proofs.Text.UpperCase

/-!
# What formulas read as

The trees that formulas have: their numbers are doubles without a sign, infinity among them, their
names are names, and the names of their functions are the upper case of names. The texts of a
formula are those of its tree, in the same order.

Results:
* `Derives.parsed`, `parsed_of_ofText`: the trees of formulas.
* `Derives.texts_eq`: the texts of a phrase and of its tree.
-/

namespace Worksheet.Formula

/-! ## Parts of a tree -/

namespace Expr

mutual

/-- The parts of a tree, each before its own parts. -/
def parts : Expr → List Expr
  | number x => [number x]
  | text s => [text s]
  | cell name => [cell name]
  | range first last => [range first last]
  | binary op left right => binary op left right :: (left.parts ++ right.parts)
  | unary op operand => unary op operand :: operand.parts
  | call name args => call name args :: argParts args

/-- The parts of arguments. -/
def argParts : List Expr → List Expr
  | [] => []
  | e :: rest => e.parts ++ argParts rest

end

theorem argParts_eq_flatMap (es : List Expr) : argParts es = es.flatMap parts := by
  induction es with
  | nil => rfl
  | cons e es ih => rw [argParts, ih, List.flatMap_cons]

/-- The number that a tree consists of. -/
def number? : Expr → Option Float
  | number x => some x
  | _ => none

/-- The text that a tree consists of. -/
def text? : Expr → Option String
  | text s => some s
  | _ => none

/-- The function that a tree calls. -/
def callee? : Expr → Option String
  | call name _ => some name
  | _ => none

/-- The numbers in a tree. -/
def numbers (e : Expr) : List Float :=
  e.parts.filterMap number?

/-- The texts in a tree. -/
def texts (e : Expr) : List String :=
  e.parts.filterMap text?

/-- The functions that are called in a tree. -/
def callees (e : Expr) : List String :=
  e.parts.filterMap callee?

theorem numbers_binary (op : BinaryOp) (left right : Expr) :
    (binary op left right).numbers = left.numbers ++ right.numbers :=
  List.filterMap_append

theorem numbers_unary (op : UnaryOp) (operand : Expr) :
    (unary op operand).numbers = operand.numbers :=
  rfl

theorem numbers_call (name : String) (args : List Expr) :
    (call name args).numbers = args.flatMap numbers := by
  show (argParts args).filterMap number? = _
  rw [argParts_eq_flatMap, List.filterMap_flatMap]
  rfl

theorem callees_binary (op : BinaryOp) (left right : Expr) :
    (binary op left right).callees = left.callees ++ right.callees :=
  List.filterMap_append

theorem callees_unary (op : UnaryOp) (operand : Expr) :
    (unary op operand).callees = operand.callees :=
  rfl

theorem callees_call (name : String) (args : List Expr) :
    (call name args).callees = name :: args.flatMap callees := by
  show name :: (argParts args).filterMap callee? = _
  rw [argParts_eq_flatMap, List.filterMap_flatMap]
  rfl

theorem texts_binary (op : BinaryOp) (left right : Expr) :
    (binary op left right).texts = left.texts ++ right.texts :=
  List.filterMap_append

theorem texts_unary (op : UnaryOp) (operand : Expr) : (unary op operand).texts = operand.texts :=
  rfl

theorem texts_call (name : String) (args : List Expr) :
    (call name args).texts = args.flatMap texts := by
  show (argParts args).filterMap text? = _
  rw [argParts_eq_flatMap, List.filterMap_flatMap]
  rfl

end Expr

/-! ## Texts of a formula -/

/-- The text that a token holds between quotes. -/
def Token.quoted? (t : Token) : Option String :=
  if t.kind = .text then some t.text else none

theorem Token.quoted?_eq_some {t : Token} (h : t.kind = .text) : t.quoted? = some t.text :=
  if_pos h

theorem Token.quoted?_eq_none {t : Token} {kind : TokenKind} (h : t.kind = kind)
    (hne : kind ≠ .text) : t.quoted? = none :=
  if_neg (h ▸ hne)

theorem ne_text_of_mem_operators {kind : TokenKind} {op : BinaryOp} {level : Level}
    (h : (kind, op) ∈ level.operators) : kind ≠ .text := by
  rintro rfl
  cases (Level.mem_operators_iff.mp h).1

theorem ne_text_of_mem_signs {kind : TokenKind} {op : UnaryOp} (h : (kind, op) ∈ signs) :
    kind ≠ .text := by
  rintro rfl
  revert h
  cases op <;> decide

mutual

/-- The texts of a phrase are those of its tree, in the same order. -/
theorem Derives.texts_eq {level : Level} {ts : List Token} {e : Expr} :
    Derives level ts e → ts.filterMap Token.quoted? = e.texts
  | .next _ h => h.texts_eq
  | .binary _ ht ha hb => by
    have hop := Token.quoted?_eq_none rfl (ne_text_of_mem_operators ht)
    rw [List.filterMap_append, List.filterMap_cons_none hop, ha.texts_eq, hb.texts_eq,
      Expr.texts_binary]
  | .sign ht h => by
    have hop := Token.quoted?_eq_none rfl (ne_text_of_mem_signs ht)
    rw [List.filterMap_cons_none hop, h.texts_eq, Expr.texts_unary]
  | .number ht _ => by
    rw [List.filterMap_cons_none (Token.quoted?_eq_none ht (by decide))]
    rfl
  | .text ht => by
    rw [List.filterMap_cons_some (Token.quoted?_eq_some ht)]
    rfl
  | .cell ht => by
    rw [List.filterMap_cons_none (Token.quoted?_eq_none ht (by decide))]
    rfl
  | .range ht hc hu => by
    rw [List.filterMap_cons_none (Token.quoted?_eq_none ht (by decide)),
      List.filterMap_cons_none (Token.quoted?_eq_none hc (by decide)),
      List.filterMap_cons_none (Token.quoted?_eq_none hu (by decide))]
    rfl
  | .group ho h hc => by
    rw [List.cons_append, List.filterMap_cons_none (Token.quoted?_eq_none ho (by decide)),
      List.filterMap_append, List.filterMap_cons_none (Token.quoted?_eq_none hc (by decide)),
      List.filterMap_nil, List.append_nil, h.texts_eq]
  | .emptyCall ht ho hc => by
    rw [List.filterMap_cons_none (Token.quoted?_eq_none ht (by decide)),
      List.filterMap_cons_none (Token.quoted?_eq_none ho (by decide)),
      List.filterMap_cons_none (Token.quoted?_eq_none hc (by decide))]
    rfl
  | .call ht ho h hc => by
    rw [List.cons_append, List.cons_append,
      List.filterMap_cons_none (Token.quoted?_eq_none ht (by decide)),
      List.filterMap_cons_none (Token.quoted?_eq_none ho (by decide)), List.filterMap_append,
      List.filterMap_cons_none (Token.quoted?_eq_none hc (by decide)), List.filterMap_nil,
      List.append_nil, h.texts_eq, Expr.texts_call]

/-- The texts of formulas between commas are those of their trees. -/
theorem DerivesAll.texts_eq {ts : List Token} {es : List Expr} :
    DerivesAll ts es → ts.filterMap Token.quoted? = es.flatMap Expr.texts
  | .one h => by
    rw [h.texts_eq, List.flatMap_singleton]
  | .more hs hc h => by
    rw [List.filterMap_append,
      List.filterMap_cons_none (Token.quoted?_eq_none hc (by decide)), hs.texts_eq, h.texts_eq,
      List.flatMap_append, List.flatMap_singleton]

end

/-! ## Trees of formulas -/

/-- What holds of every part of a tree that a formula reads as. -/
inductive Expr.Parsed : Expr → Prop
  | number {x} : x.toBits.toNat ≤ Number.infinityBits → Parsed (.number x)
  | text (s) : Parsed (.text s)
  | cell {name} : IsName name → Parsed (.cell name)
  | range {first last} : IsName first → IsName last → Parsed (.range first last)
  | binary {op left right} : Parsed left → Parsed right → Parsed (.binary op left right)
  | unary {op operand} : Parsed operand → Parsed (.unary op operand)
  | call {name args} : IsName name → (∀ e ∈ args, Parsed e) →
      Parsed (.call (Text.upper name) args)

theorem Token.isName_of_fits {t : Token} (h : t.kind.Fits t.text.toList)
    (ht : t.kind = .identifier) : IsName t.text := by
  rwa [ht] at h

theorem Token.toBits_le_of_fits {t : Token} {x : Float} (h : t.kind.Fits t.text.toList)
    (ht : t.kind = .number) (hx : Number.read t.text.toList = some x) :
    x.toBits.toNat ≤ Number.infinityBits := by
  rw [ht] at h
  generalize t.text.toList = s at h hx
  cases h with
  | number hc _ => exact Number.toBits_le_of_read hc hx
  | symbol hs => cases hs

mutual

theorem Derives.parsed {level : Level} {ts : List Token} {e : Expr} :
    Derives level ts e → (∀ t ∈ ts, t.kind.Fits t.text.toList) → e.Parsed
  | .next _ h => fun fits => h.parsed fits
  | .binary _ _ ha hb => fun fits =>
    .binary (ha.parsed fun t ht => fits t (List.mem_append_left _ ht))
      (hb.parsed fun t ht => fits t (List.mem_append_right _ (List.mem_cons_of_mem _ ht)))
  | .sign _ h => fun fits => .unary (h.parsed fun t ht => fits t (List.mem_cons_of_mem _ ht))
  | .number ht hx => fun fits =>
    .number (Token.toBits_le_of_fits (fits _ (List.mem_cons_self ..)) ht hx)
  | .text _ => fun _ => .text _
  | .cell ht => fun fits => .cell (Token.isName_of_fits (fits _ (List.mem_cons_self ..)) ht)
  | .range ht _ hu => fun fits =>
    .range (Token.isName_of_fits (fits _ (by simp)) ht) (Token.isName_of_fits (fits _ (by simp)) hu)
  | .group _ h _ => fun fits => h.parsed fun t ht => fits t (by simp [ht])
  | .emptyCall ht _ _ => fun fits => .call (Token.isName_of_fits (fits _ (by simp)) ht) (by simp)
  | .call ht _ h _ => fun fits =>
    .call (Token.isName_of_fits (fits _ (by simp)) ht) (h.parsed fun t ht => fits t (by simp [ht]))

theorem DerivesAll.parsed {ts : List Token} {es : List Expr} :
    DerivesAll ts es → (∀ t ∈ ts, t.kind.Fits t.text.toList) → ∀ e ∈ es, e.Parsed
  | .one h => by
    intro fits e he
    rw [List.mem_singleton.mp he]
    exact h.parsed fits
  | .more hs _ h => by
    intro fits e he
    rcases List.mem_append.mp he with hbefore | hlast
    · exact hs.parsed (fun t ht => fits t (by simp [ht])) e hbefore
    · rw [List.mem_singleton.mp hlast]
      exact h.parsed fun t ht => fits t (by simp [ht])

end

/-- The tree that a formula reads as, with its texts. -/
theorem exists_tokens_of_ofText {formula : String} {e : Expr}
    (h : Expr.ofText formula = .ok e) :
    ∃ body, tokensFrom 0 (dropEquals (Text.trim formula.toList)) =
        .ok (body ++ [Token.endAt (dropEquals (Text.trim formula.toList)).length]) ∧
      (∀ t ∈ body, t.kind.Fits t.text.toList) ∧ Derives .comparison body e := by
  unfold Expr.ofText Expr.ofChars at h
  split at h
  · next ts hread =>
    obtain ⟨body, rfl, fits⟩ := exists_body_of_tokensFrom hread
    have hends : ∀ t ∈ body, t.kind ≠ .endOfInput := fun t ht => (fits t ht).ne_endOfInput
    exact ⟨body, hread, fits, (ofTokens_eq_ok_iff hends rfl e).mp h⟩
  · cases h

theorem parsed_of_ofText {formula : String} {e : Expr} (h : Expr.ofText formula = .ok e) :
    e.Parsed := by
  obtain ⟨body, _, fits, hderives⟩ := exists_tokens_of_ofText h
  exact hderives.parsed fits

end Worksheet.Formula
