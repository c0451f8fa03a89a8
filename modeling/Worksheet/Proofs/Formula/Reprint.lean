import Worksheet.Proofs.Formula.Parts

/-!
# Formulas that are written anew

A formula that was read can be written from its tree, but not every tree that formulas have is
read back from its written form. Upper case may put marks into the name of a function that no name
holds, so that nothing is read; and an infinite number, which a long literal stands for, is written
as a name and read back as one.

The first is shown by counting: outside of texts no formula holds such marks, so one that reads as
a tree has as many of them as the texts of the tree.

Results:
* `foreignCount_of_ofText`: the marks of a formula are those of its texts.
* `ofText_render_of_names`: what a written form reads as, if the names of functions are names.
* `ofText_render_iff`: the trees of formulas that are read back.
-/

namespace Worksheet.Formula

/-! ## Characters that are foreign to formulas -/

/-- How many characters stand in a text that belong to no name and to no other token. -/
def foreignCount (s : List Char) : Nat :=
  s.countP Text.isForeign

theorem foreignCount_append (s t : List Char) :
    foreignCount (s ++ t) = foreignCount s + foreignCount t :=
  List.countP_append

theorem foreignCount_cons (c : Char) (s : List Char) (h : Text.isForeign c = false) :
    foreignCount (c :: s) = foreignCount s :=
  List.countP_cons_of_neg (by rw [h]; exact Bool.false_ne_true)

theorem foreignCount_eq_zero_iff {s : List Char} :
    foreignCount s = 0 ↔ ∀ c ∈ s, Text.isForeign c = false := by
  simp [foreignCount, List.countP_eq_zero]

theorem isForeign_of_ascii {c : Char} (h : c.toNat < 0x80) : Text.isForeign c = false := by
  simp [Text.isForeign, h]

theorem isForeign_of_isBlank {c : Char} (h : Text.isBlank c = true) :
    Text.isForeign c = false := by
  simp [Text.isForeign, h]

theorem isForeign_of_continuesName {c : Char} (h : Text.continuesName c = true) :
    Text.isForeign c = false := by
  simp [Text.isForeign, h]

theorem isForeign_of_isDigit {c : Char} (h : c.isDigit = true) : Text.isForeign c = false := by
  refine isForeign_of_ascii ?_
  rw [Text.isDigit_iff] at h
  omega

theorem IsName.foreignCount_eq_zero {name : String} (h : IsName name) :
    foreignCount name.toList = 0 :=
  foreignCount_eq_zero_iff.mpr fun c hc => isForeign_of_continuesName (h.continuesName c hc)

theorem foreignCount_quote (s : List Char) : foreignCount (quote s) = foreignCount s := by
  have hquote : Text.isForeign '"' = false := isForeign_of_ascii (by decide)
  have hdouble : foreignCount (doubleQuotes s) = foreignCount s := by
    induction s with
    | nil => rfl
    | cons c s ih =>
      by_cases hc : c = '"'
      · rw [hc, doubleQuotes, if_pos rfl, foreignCount_cons _ _ hquote,
          foreignCount_cons _ _ hquote, foreignCount_cons _ _ hquote, ih]
      · rw [doubleQuotes, if_neg hc]
        show foreignCount ([c] ++ doubleQuotes s) = foreignCount ([c] ++ s)
        rw [foreignCount_append, foreignCount_append, ih]
  have hlast : foreignCount ['"'] = 0 := foreignCount_cons _ _ hquote
  rw [quote, List.cons_append, foreignCount_cons _ _ hquote, foreignCount_append, hdouble, hlast,
    Nat.add_zero]

/-! ## Foreign characters of tokens -/

theorem foreignCount_of_symbol? {kind : TokenKind} {s : List Char} (h : kind.symbol? = some s) :
    foreignCount s = 0 := by
  have hascii : s.all (fun c => decide (c.toNat < 0x80)) = true := by
    cases kind <;> cases h <;> decide
  rw [foreignCount_eq_zero_iff]
  intro c hc
  exact isForeign_of_ascii (of_decide_eq_true (List.all_eq_true.mp hascii c hc))

/-- How many foreign characters a list of texts holds. -/
def foreignTotal (texts : List String) : Nat :=
  (texts.map fun s => foreignCount s.toList).sum

theorem foreignTotal_append (ss ts : List String) :
    foreignTotal (ss ++ ts) = foreignTotal ss + foreignTotal ts := by
  simp [foreignTotal]

theorem foreignCount_of_fits {kind : TokenKind} {s : List Char} (h : kind.Fits s)
    (hne : kind ≠ .text) : foreignCount s = 0 := by
  cases h with
  | @number c rest hc hrest =>
    rw [foreignCount_eq_zero_iff]
    intro d hd
    rcases List.mem_cons.mp hd with rfl | hmem
    · exact isForeign_of_isDigit hc
    · rcases hrest d hmem with hdigit | rfl
      · exact isForeign_of_isDigit hdigit
      · exact isForeign_of_ascii (by decide)
  | @identifier c rest hc hrest =>
    have hname : IsName (String.ofList (c :: rest)) := by
      unfold IsName
      rw [String.toList_ofList]
      exact .identifier hc hrest
    rw [← hname.foreignCount_eq_zero, String.toList_ofList]
  | text => exact absurd rfl hne
  | symbol hs => exact foreignCount_of_symbol? hs

/-- Of all tokens only texts hold foreign characters. -/
theorem foreignCount_source {t : Token} (h : t.kind.Fits t.text.toList) :
    foreignCount t.source = foreignTotal t.quoted?.toList := by
  unfold Token.source
  by_cases ht : t.kind = .text
  · rw [Token.quoted?_eq_some ht, ht]
    show foreignCount (quote t.text.toList) = foreignCount t.text.toList + 0
    rw [foreignCount_quote, Nat.add_zero]
  · rw [Token.quoted?_eq_none rfl ht, TokenKind.spell, if_neg ht]
    exact foreignCount_of_fits h ht

/-- The foreign characters of what is read are those of the texts in it. -/
theorem foreignCount_of_tokensFrom {position : Nat} {s : List Char} {ts : List Token}
    (h : tokensFrom position s = .ok ts) :
    foreignCount s = foreignTotal (ts.filterMap Token.quoted?) := by
  fun_induction tokensFrom position s generalizing ts with
  | case1 position =>
    cases h
    rfl
  | case2 position c rest hb ih =>
    rw [foreignCount_cons _ _ (isForeign_of_isBlank hb), ih h]
  | case3 position c rest hb fault hfault => cases h
  | case4 position c rest hb lexeme hlexeme ih =>
    -- The token that was read stands in front, and the rest is read behind it.
    obtain ⟨us, hus, rfl⟩ := map_eq_ok_iff.mp h
    obtain ⟨hstands, hwidth⟩ := Lexeme.ofHead_eq_ok_iff.mp hlexeme
    obtain ⟨tail, htail, _⟩ := hstands.exists_tail
    have hdrop : (c :: rest).drop lexeme.width = tail := by
      rw [htail, hwidth, List.drop_left]
    have hfits : (lexeme.at position).kind.Fits (lexeme.at position).text.toList := by
      show lexeme.kind.Fits (String.ofList lexeme.text).toList
      rw [String.toList_ofList]
      exact hstands.fits
    have hsource : (lexeme.at position).source = lexeme.kind.spell lexeme.text := by
      show lexeme.kind.spell (String.ofList lexeme.text).toList = _
      rw [String.toList_ofList]
    have htotal : ((lexeme.at position) :: us).filterMap Token.quoted? =
        (lexeme.at position).quoted?.toList ++ us.filterMap Token.quoted? := by
      cases hquoted : (lexeme.at position).quoted? with
      | none => rw [List.filterMap_cons_none hquoted]; rfl
      | some s => rw [List.filterMap_cons_some hquoted]; rfl
    have hrest := ih hus
    rw [hdrop] at hrest
    show _ = foreignTotal (((lexeme.at position) :: us).filterMap Token.quoted?)
    rw [htotal, foreignTotal_append, ← foreignCount_source hfits, ← hrest, htail,
      foreignCount_append, hsource]

/-- Blanks at the edges and an equals sign in front are not foreign. -/
theorem foreignCount_stripped (s : List Char) :
    foreignCount (dropEquals (Text.trim s)) = foreignCount s := by
  have hstart : ∀ t : List Char, foreignCount (Text.trimStart t) = foreignCount t := by
    intro t
    induction t with
    | nil => rfl
    | cons c t ih =>
      unfold Text.trimStart at *
      by_cases hc : Text.isBlank c = true
      · rw [List.dropWhile_cons_of_pos hc, ih, foreignCount_cons _ _ (isForeign_of_isBlank hc)]
      · rw [List.dropWhile_cons_of_neg hc]
  have hreverse : ∀ t : List Char, foreignCount t.reverse = foreignCount t :=
    fun t => List.countP_reverse
  have hequals : ∀ t : List Char, foreignCount (dropEquals t) = foreignCount t := by
    intro t
    unfold dropEquals
    split
    · exact (foreignCount_cons _ _ (isForeign_of_ascii (by decide))).symm
    · rfl
  rw [hequals, Text.trim, Text.trimEnd, hreverse, hstart, hreverse, hstart]

/-- **Foreign characters of a formula.** They stand in its texts, which are those of its tree. -/
theorem foreignCount_of_ofText {formula : String} {e : Expr} (h : Expr.ofText formula = .ok e) :
    foreignCount formula.toList = foreignTotal e.texts := by
  obtain ⟨body, hread, _, hderives⟩ := exists_tokens_of_ofText h
  have hcount := foreignCount_of_tokensFrom hread
  rw [foreignCount_stripped, List.filterMap_append, hderives.texts_eq] at hcount
  rw [hcount]
  exact congrArg foreignTotal (List.append_nil _)

/-! ## Foreign characters of written forms -/

namespace Expr

theorem foreignCount_argChars (args : List Expr) :
    foreignCount (argChars args) = foreignCount (args.flatMap chars) := by
  have hmore : ∀ es, foreignCount (moreArgChars es) = foreignCount (es.flatMap chars) := by
    intro es
    induction es with
    | nil => rfl
    | cons e es ih =>
      have hcomma : Text.isForeign ',' = false := isForeign_of_ascii (by decide)
      rw [moreArgChars, List.cons_append, foreignCount_cons _ _ hcomma, foreignCount_append, ih,
        List.flatMap_cons, foreignCount_append]
  cases args with
  | nil => rfl
  | cons e rest =>
    rw [argChars, foreignCount_append, hmore, List.flatMap_cons, foreignCount_append]

theorem foreignTotal_flatMap_le {args : List Expr}
    (h : ∀ e ∈ args, foreignTotal e.texts + foreignTotal e.callees ≤ foreignCount e.chars) :
    foreignTotal (args.flatMap texts) + foreignTotal (args.flatMap callees) ≤
      foreignCount (args.flatMap chars) := by
  induction args with
  | nil => exact Nat.le_refl 0
  | cons e rest ih =>
    have hfirst := h e (List.mem_cons_self ..)
    have hrest := ih fun a ha => h a (List.mem_cons_of_mem _ ha)
    simp only [List.flatMap_cons, foreignTotal_append, foreignCount_append]
    omega

/-- The written form holds the foreign characters of its texts and of the names of functions. -/
theorem Parsed.foreignTotal_le {e : Expr} (h : e.Parsed) :
    foreignTotal e.texts + foreignTotal e.callees ≤ foreignCount e.chars := by
  induction h with
  | number _ | cell _ | range _ _ => exact Nat.zero_le _
  | text s =>
    show foreignCount s.toList + 0 + 0 ≤ foreignCount (quote s.toList)
    rw [foreignCount_quote]
    exact Nat.le_refl _
  | binary _ _ ihleft ihright =>
    simp only [texts_binary, callees_binary, foreignTotal_append, chars, List.cons_append,
      foreignCount_append, foreignCount_cons _ _ (isForeign_of_ascii (c := '(') (by decide))]
    omega
  | unary _ ih =>
    simp only [texts_unary, callees_unary, chars, List.cons_append, foreignCount_append,
      foreignCount_cons _ _ (isForeign_of_ascii (c := '(') (by decide))]
    omega
  | @call name args _ _ ih =>
    have hargs := foreignTotal_flatMap_le ih
    have hcallees : foreignTotal (Expr.call (Text.upper name) args).callees =
        foreignCount (Text.upper name).toList + foreignTotal (args.flatMap callees) := by
      rw [callees_call]
      rfl
    rw [texts_call, hcallees]
    simp only [chars, foreignCount_append, foreignCount_argChars,
      foreignCount_cons _ _ (isForeign_of_ascii (c := '(') (by decide))]
    omega

end Expr

/-! ## Names of functions -/

/-- The upper case of a name is a name, unless it holds foreign characters. -/
theorem isName_upper {name : String} (h : IsName name)
    (hforeign : foreignCount (Text.upper name).toList = 0) : IsName (Text.upper name) := by
  rw [foreignCount_eq_zero_iff] at hforeign
  obtain ⟨c, rest, heq, hc, _⟩ := h.exists_cons
  obtain ⟨d, more, hd, hstarts⟩ := Text.exists_head_upperChar hc
  have hupper : (Text.upper name).toList = d :: (more ++ Text.upperChars rest) := by
    rw [Text.upper, String.toList_ofList, heq, Text.upperChars, List.flatMap_cons, hd]
    rfl
  unfold IsName
  rw [hupper, fits_identifier_iff]
  refine ⟨hstarts, fun a ha => ?_⟩
  have hfound : ∃ b ∈ name.toList, a ∈ Text.upperChar b := by
    rw [heq, ← List.mem_flatMap, List.flatMap_cons, hd]
    exact List.mem_cons_of_mem _ ha
  obtain ⟨b, hb, hab⟩ := hfound
  rcases Text.of_mem_upperChar (h.continuesName b hb) hab with hname | hno
  · exact hname
  · rw [hforeign a (by rw [hupper]; exact List.mem_cons_of_mem _ ha)] at hno
    cases hno

theorem Expr.Parsed.exists_name {e : Expr} (h : e.Parsed) :
    ∀ callee ∈ e.callees, ∃ name, IsName name ∧ callee = Text.upper name := by
  induction h with
  | number _ | text _ | cell _ | range _ _ => exact fun callee hmem => nomatch hmem
  | binary _ _ ihleft ihright =>
    intro callee hmem
    rw [callees_binary, List.mem_append] at hmem
    exact hmem.elim (ihleft callee) (ihright callee)
  | unary _ ih => exact ih
  | @call name args hname _ ih =>
    intro callee hmem
    rw [callees_call, List.mem_cons, List.mem_flatMap] at hmem
    rcases hmem with rfl | ⟨e, he, hmem⟩
    · exact ⟨name, hname, rfl⟩
    · exact ih e he callee hmem

/-- If a formula is read back from its written form, the names of its functions are names. -/
theorem isName_of_mem_callees {e : Expr} (h : Expr.ofText e.render = .ok e) :
    ∀ callee ∈ e.callees, IsName callee := by
  have hparsed := parsed_of_ofText h
  have hcount := foreignCount_of_ofText h
  have hle := hparsed.foreignTotal_le
  rw [Expr.render, String.toList_ofList] at hcount
  -- The same text holds the marks of the texts alone, as it was read, and those of the functions
  -- besides, as it was written.
  have hzero : foreignTotal e.callees = 0 := by omega
  intro callee hmem
  obtain ⟨name, hname, rfl⟩ := hparsed.exists_name callee hmem
  refine isName_upper hname ?_
  unfold foreignTotal at hzero
  rw [List.sum_eq_zero_iff_forall_eq_nat] at hzero
  exact hzero _ (List.mem_map.mpr ⟨_, hmem, rfl⟩)

/-! ## What is read back -/

namespace Expr

mutual

/-- A tree as its written form is read: infinite numbers become names. -/
def reread : Expr → Expr
  | number x => if x.isFinite then number x else cell (Number.text x)
  | text s => text s
  | cell name => cell name
  | range first last => range first last
  | binary op left right => binary op left.reread right.reread
  | unary op operand => unary op operand.reread
  | call name args => call name (rereadAll args)

/-- Arguments as their written forms are read. -/
def rereadAll : List Expr → List Expr
  | [] => []
  | e :: rest => e.reread :: rereadAll rest

end

theorem rereadAll_eq_map (es : List Expr) : rereadAll es = es.map reread := by
  induction es with
  | nil => rfl
  | cons e es ih => rw [rereadAll, ih, List.map_cons]

mutual

/-- A tree is written as it is read back. -/
theorem chars_reread : ∀ e : Expr, e.reread.chars = e.chars
  | number x => by
    unfold reread
    split <;> rfl
  | text _ | cell _ | range _ _ => rfl
  | binary _ left right => by
    rw [reread, chars, chars, chars_reread left, chars_reread right]
  | unary _ operand => by
    rw [reread, chars, chars, chars_reread operand]
  | call _ args => by
    rw [reread, chars, chars, argChars_rereadAll args]

theorem argChars_rereadAll : ∀ es : List Expr, argChars (rereadAll es) = argChars es
  | [] => rfl
  | e :: rest => by
    rw [rereadAll, argChars, argChars, chars_reread e, moreArgChars_rereadAll rest]

theorem moreArgChars_rereadAll : ∀ es : List Expr, moreArgChars (rereadAll es) = moreArgChars es
  | [] => rfl
  | e :: rest => by
    rw [rereadAll, moreArgChars, moreArgChars, chars_reread e, moreArgChars_rereadAll rest]

end

/-- What is read back can be written, if the names of functions are names. -/
theorem Parsed.spellable_reread {e : Expr} (h : e.Parsed) :
    (∀ callee ∈ e.callees, IsName callee) → e.reread.Spellable := by
  induction h with
  | @number x hx =>
    intro _
    unfold reread
    -- No literal has a sign or is NaN, so a number that is not finite is written `inf`.
    rcases Number.isFinite_or_eq_infinity hx with hfinite | rfl
    · rw [if_pos hfinite]
      exact .number hfinite (Number.isNegative_of_le hx)
    · rw [if_neg (by decide), Number.text_infinity]
      exact .cell (by decide)
  | text s => exact fun _ => .text s
  | cell hname => exact fun _ => .cell hname
  | range hfirst hlast => exact fun _ => .range hfirst hlast
  | binary _ _ ihleft ihright =>
    intro hnames
    rw [callees_binary] at hnames
    exact .binary (ihleft fun name hmem => hnames name (List.mem_append_left _ hmem))
      (ihright fun name hmem => hnames name (List.mem_append_right _ hmem))
  | unary _ ih => exact fun hnames => .unary (ih hnames)
  | @call name args _ _ ih =>
    intro hnames
    rw [callees_call] at hnames
    refine .call (hnames _ (List.mem_cons_self ..)) (Text.upper_upper name) ?_
    intro e he
    rw [rereadAll_eq_map] at he
    obtain ⟨a, ha, rfl⟩ := List.mem_map.mp he
    exact ih a ha fun callee hmem =>
      hnames callee (List.mem_cons_of_mem _ (List.mem_flatMap.mpr ⟨a, ha, hmem⟩))

/-- The trees that stay as they are have finite numbers only. -/
theorem Parsed.reread_eq_self_iff {e : Expr} (h : e.Parsed) :
    e.reread = e ↔ ∀ x ∈ e.numbers, x.isFinite = true := by
  induction h with
  | @number x _ =>
    show reread (.number x) = .number x ↔ ∀ y ∈ [x], y.isFinite = true
    rw [List.forall_mem_singleton]
    unfold reread
    split
    · next hfinite => exact ⟨fun _ => hfinite, fun _ => rfl⟩
    · next hinfinite => exact ⟨fun heq => (nomatch heq), fun hfinite => absurd hfinite hinfinite⟩
  | text _ | cell _ | range _ _ => exact ⟨fun _ _ hmem => (nomatch hmem), fun _ => rfl⟩
  | binary _ _ ihleft ihright =>
    rw [numbers_binary, List.forall_mem_append, ← ihleft, ← ihright, reread, binary.injEq]
    exact ⟨fun heq => heq.2, fun heq => ⟨rfl, heq⟩⟩
  | unary _ ih =>
    rw [numbers_unary, ← ih, reread, unary.injEq]
    exact ⟨fun heq => heq.2, fun heq => ⟨rfl, heq⟩⟩
  | @call name args _ _ ih =>
    have hargs : rereadAll args = args ↔ ∀ e ∈ args, e.reread = e := by
      rw [rereadAll_eq_map]
      have hmap := List.map_inj_left (l := args) (f := reread) (g := id)
      rwa [List.map_id] at hmap
    rw [reread, call.injEq, hargs, numbers_call]
    constructor
    · rintro ⟨_, heq⟩ x hmem
      obtain ⟨e, he, hx⟩ := List.mem_flatMap.mp hmem
      exact (ih e he).mp (heq e he) x hx
    · intro hfinite
      exact ⟨rfl, fun e he => (ih e he).mpr fun x hx =>
        hfinite x (List.mem_flatMap.mpr ⟨e, he, hx⟩)⟩

end Expr

example : (Expr.number Number.infinity).reread = .cell "inf" := by rfl

/-- What the written form of a formula reads as, if the names of its functions are names. -/
theorem ofText_render_of_names {formula : String} {e : Expr} (h : Expr.ofText formula = .ok e)
    (hnames : ∀ callee ∈ e.callees, IsName callee) : Expr.ofText e.render = .ok e.reread := by
  have hspellable := (parsed_of_ofText h).spellable_reread hnames
  obtain ⟨ts, hread, hends, hderives⟩ := hspellable.yields.tokensFrom_eq
  unfold Expr.ofText Expr.render
  rw [String.toList_ofList, ← Expr.chars_reread, hspellable.trim_chars,
    hspellable.dropEquals_chars, Expr.ofChars, hread]
  exact (ofTokens_eq_ok_iff hends rfl _).mpr (hderives.loosen (Nat.zero_le _))

/-- **Formulas that are read back.** The written form of what a formula reads as reads as the same
tree exactly when all numbers in it are finite and the names of all functions are names. -/
theorem ofText_render_iff {formula : String} {e : Expr} (h : Expr.ofText formula = .ok e) :
    Expr.ofText e.render = .ok e ↔
      (∀ x ∈ e.numbers, x.isFinite = true) ∧ ∀ callee ∈ e.callees, IsName callee := by
  have hparsed := parsed_of_ofText h
  constructor
  · intro hback
    have hnames := isName_of_mem_callees hback
    have hsame : e.reread = e :=
      Except.ok.inj ((ofText_render_of_names h hnames).symm.trans hback)
    exact ⟨hparsed.reread_eq_self_iff.mp hsame, hnames⟩
  · rintro ⟨hfinite, hnames⟩
    rw [ofText_render_of_names h hnames, hparsed.reread_eq_self_iff.mpr hfinite]

/-- The tree of `=ß(1.5,a)`: the name of the function grows in upper case. -/
def calledSharpS : Expr :=
  .call "SS" [.number (.ofBits 0x3FF8000000000000), .cell "a"]

theorem ofText_calledSharpS : Expr.ofText "=ß(1.5,a)" = .ok calledSharpS := by
  have hchars : dropEquals (Text.trim "=ß(1.5,a)".toList) =
      ['ß', '(', '1', '.', '5', ',', 'a', ')'] := by rfl
  have htokens : tokensFrom 0 ['ß', '(', '1', '.', '5', ',', 'a', ')'] =
      .ok [⟨.identifier, "ß", 0⟩, ⟨.openParen, "(", 1⟩, ⟨.number, "1.5", 2⟩, ⟨.comma, ",", 5⟩,
        ⟨.identifier, "a", 6⟩, ⟨.closeParen, ")", 7⟩, ⟨.endOfInput, "", 8⟩] := by decide +kernel
  unfold Expr.ofText Expr.ofChars
  rw [hchars, htokens]
  rfl

/-- The written form `SS(1.5,a)` is read back. -/
theorem ofText_render_calledSharpS :
    Expr.ofText "=ß(1.5,a)" = .ok calledSharpS ∧
      Expr.ofText calledSharpS.render = .ok calledSharpS := by
  have hname : IsName "SS" := by decide
  refine ⟨ofText_calledSharpS, (ofText_render_iff ofText_calledSharpS).mpr ⟨?_, ?_⟩⟩
  · show ∀ x ∈ [Float.ofBits 0x3FF8000000000000], x.isFinite = true
    decide
  · show ∀ callee ∈ ["SS"], IsName callee
    rwa [List.forall_mem_singleton]

theorem ofText_marked : Expr.ofText "\u0390()" = .ok (.call "\u0399\u0308\u0301" []) := by
  have hchars : dropEquals (Text.trim "\u0390()".toList) = ['\u0390', '(', ')'] := by rfl
  have htokens : tokensFrom 0 ['\u0390', '(', ')'] =
      .ok [⟨.identifier, "\u0390", 0⟩, ⟨.openParen, "(", 1⟩, ⟨.closeParen, ")", 2⟩,
        ⟨.endOfInput, "", 3⟩] := by decide +kernel
  unfold Expr.ofText Expr.ofChars
  rw [hchars, htokens]
  rfl

theorem ofText_render_marked : Expr.ofText (Expr.call "\u0399\u0308\u0301" []).render =
    .error ⟨1, .unexpectedCharacter '\u0308'⟩ := by
  have hchars : dropEquals (Text.trim (Expr.call "\u0399\u0308\u0301" []).render.toList) =
      ['\u0399', '\u0308', '\u0301', '(', ')'] := by rfl
  have hrefused : tokensFrom 0 ['\u0399', '\u0308', '\u0301', '(', ')'] =
      .error ⟨1, .unexpectedCharacter '\u0308'⟩ := by decide +kernel
  unfold Expr.ofText Expr.ofChars
  rw [hchars, hrefused]

/-- In upper case the name that `ΐ()` calls holds two marks, and the written form is refused at the
first of them. -/
theorem not_read_back_marked :
    Expr.ofText "\u0390()" = .ok (.call "\u0399\u0308\u0301" []) ∧
      Expr.ofText (Expr.call "\u0399\u0308\u0301" []).render =
        .error ⟨1, .unexpectedCharacter '\u0308'⟩ :=
  ⟨ofText_marked, ofText_render_marked⟩

end Worksheet.Formula
