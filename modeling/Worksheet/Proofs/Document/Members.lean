import Std.Data.TreeMap.Lemmas
import Worksheet.Document.Reader

/-!
# Members of objects

The members of an object that is read from a text come in the order of their keys, each key once.
Texts are compared by characters; that is the order of their bytes in UTF-8, since the encoding of
a character grows with its code and none is the start of another one.

Results:
* `Text.bytes_lt_bytes_iff`: the order of texts is that of their bytes.
* `Document.State.isOrdered_step`, `Document.State.isOrdered_run`: one token and a whole run leave
  members in order.
* `Document.pairwise_of_ofText?`: the keys of an object that is read are in the order of bytes.
-/

namespace Worksheet

/-! ## The order of bytes -/

namespace Text

/-- The bytes of a text in UTF-8. -/
def bytes (s : String) : List UInt8 :=
  s.toUTF8.data.toList

theorem bytes_eq (s : String) : bytes s = s.toList.flatMap String.utf8EncodeChar := by
  rw [bytes, String.toUTF8_eq_toByteArray, ← String.utf8Encode_toList, List.utf8Encode,
    List.data_toByteArray]

/-- The encoding of a character by its digits to the base 64. -/
theorem utf8EncodeChar_cases (c : Char) :
    (c.toNat ≤ 0x7f ∧ String.utf8EncodeChar c = [.ofNat c.toNat]) ∨
    (0x7f < c.toNat ∧ c.toNat ≤ 0x7ff ∧ String.utf8EncodeChar c =
      [.ofNat (c.toNat / 64 % 32 + 0xc0), .ofNat (c.toNat % 64 + 0x80)]) ∨
    (0x7ff < c.toNat ∧ c.toNat ≤ 0xffff ∧ String.utf8EncodeChar c =
      [.ofNat (c.toNat / 64 / 64 % 16 + 0xe0), .ofNat (c.toNat / 64 % 64 + 0x80),
        .ofNat (c.toNat % 64 + 0x80)]) ∨
    (0xffff < c.toNat ∧ c.toNat < 0x110000 ∧ String.utf8EncodeChar c =
      [.ofNat (c.toNat / 64 / 64 / 64 % 8 + 0xf0), .ofNat (c.toNat / 64 / 64 % 64 + 0x80),
        .ofNat (c.toNat / 64 % 64 + 0x80), .ofNat (c.toNat % 64 + 0x80)]) := by
  have hvalid : c.toNat < 0x110000 := by
    rcases c.valid with h | ⟨_, h⟩
    · exact Nat.lt_trans h (by decide)
    · exact h
  have hcode : String.utf8EncodeChar c =
      if c.toNat ≤ 0x7f then [.ofNat c.toNat]
      else if c.toNat ≤ 0x7ff then
        [.ofNat (c.toNat / 64 % 32 + 0xc0), .ofNat (c.toNat % 64 + 0x80)]
      else if c.toNat ≤ 0xffff then
        [.ofNat (c.toNat / 4096 % 16 + 0xe0), .ofNat (c.toNat / 64 % 64 + 0x80),
          .ofNat (c.toNat % 64 + 0x80)]
      else
        [.ofNat (c.toNat / 262144 % 8 + 0xf0), .ofNat (c.toNat / 4096 % 64 + 0x80),
          .ofNat (c.toNat / 64 % 64 + 0x80), .ofNat (c.toNat % 64 + 0x80)] := rfl
  simp only [Nat.div_div_eq_div_mul]
  rw [hcode]
  by_cases h1 : c.toNat ≤ 0x7f
  · exact .inl ⟨h1, if_pos h1⟩
  · rw [if_neg h1]
    by_cases h2 : c.toNat ≤ 0x7ff
    · exact .inr (.inl ⟨Nat.lt_of_not_le h1, h2, if_pos h2⟩)
    · rw [if_neg h2]
      by_cases h3 : c.toNat ≤ 0xffff
      · exact .inr (.inr (.inl ⟨Nat.lt_of_not_le h2, h3, if_pos h3⟩))
      · exact .inr (.inr (.inr ⟨Nat.lt_of_not_le h3, hvalid, if_neg h3⟩))

theorem ofNat_cons_lt_iff {m n : Nat} (hm : m < 256) (hn : n < 256) (s t : List UInt8) :
    UInt8.ofNat m :: s < UInt8.ofNat n :: t ↔ m < n ∨ m = n ∧ s < t := by
  rw [List.cons_lt_cons_iff, UInt8.lt_iff_toNat_lt, ← UInt8.toNat_inj, UInt8.toNat_ofNat',
    UInt8.toNat_ofNat', Nat.mod_eq_of_lt hm, Nat.mod_eq_of_lt hn]

/-- The encodings of two characters differ before either of them ends. -/
theorem utf8EncodeChar_append_lt {c d : Char} (h : c < d) (s t : List UInt8) :
    String.utf8EncodeChar c ++ s < String.utf8EncodeChar d ++ t := by
  have hlt : c.toNat < d.toNat := h
  rcases utf8EncodeChar_cases c with
      ⟨_, hc⟩ | ⟨_, _, hc⟩ | ⟨_, _, hc⟩ | ⟨_, _, hc⟩ <;>
    rcases utf8EncodeChar_cases d with
      ⟨_, hd⟩ | ⟨_, _, hd⟩ | ⟨_, _, hd⟩ | ⟨_, _, hd⟩ <;>
    rw [hc, hd] <;>
    simp (disch := omega) only [List.cons_append, List.nil_append, ofNat_cons_lt_iff] <;>
    omega

theorem flatMap_utf8EncodeChar_lt {s t : List Char} (h : s < t) :
    s.flatMap String.utf8EncodeChar < t.flatMap String.utf8EncodeChar := by
  induction h with
  | @nil c rest =>
    obtain ⟨b, more, hb⟩ := List.exists_cons_of_ne_nil (String.utf8EncodeChar_ne_nil (c := c))
    rw [List.flatMap_nil, List.flatMap_cons, hb]
    exact List.nil_lt_cons _ _
  | cons _ ih =>
    rw [List.flatMap_cons, List.flatMap_cons]
    exact List.append_left_lt ih
  | rel h =>
    rw [List.flatMap_cons, List.flatMap_cons]
    exact utf8EncodeChar_append_lt h _ _

/-- The order of texts is that of their bytes. -/
theorem bytes_lt_bytes_iff {s t : String} : bytes s < bytes t ↔ s < t := by
  have hmono : ∀ {s t : String}, s < t → bytes s < bytes t := by
    intro s t h
    rw [bytes_eq, bytes_eq]
    exact flatMap_utf8EncodeChar_lt h
  refine ⟨fun h => String.not_le.mp fun hle => ?_, hmono⟩
  by_cases hge : s ≤ t
  · cases String.le_antisymm hge hle
    exact List.lt_irrefl _ h
  · exact List.lt_asymm h (hmono (String.not_le.mp hge))

end Text

/-! ## Objects that are read -/

namespace Document

/-- If the document is an object, its members are in the order of their keys, each key once. -/
def IsOrdered : Document → Prop
  | object members => members.Pairwise fun a b => a.1 < b.1
  | _ => True

theorem isOrdered_ofMembers (members : List (String × Document)) :
    (ofMembers members).IsOrdered := by
  have h := Std.TreeMap.ordered_keys_toList (t := Std.TreeMap.ofList members)
  exact h.imp fun hlt => compareOfLessAndEq_eq_lt.mp hlt

theorem Literal.isOrdered_of_value? {l : Literal} {d : Document} (h : l.value? = some d) :
    d.IsOrdered := by
  unfold value? at h
  split at h
  · cases h
    trivial
  · obtain ⟨x, _, rfl⟩ := Option.map_eq_some_iff.mp h
    trivial

namespace Token

/-- The document that a token holds is ordered: none holds an object. -/
def IsOrdered : Token → Prop
  | atom d => d.IsOrdered
  | _ => True

theorem isOrdered_of_ofHead? {c : Char} {rest : List Char} {t : Token} {width : Nat}
    (h : ofHead? c rest = some (t, width)) : t.IsOrdered := by
  unfold ofHead? at h
  split at h
  case h_7 =>
    obtain ⟨_, _, h⟩ := Option.bind_eq_some_iff.mp h
    obtain ⟨_, _, h⟩ := Option.bind_eq_some_iff.mp h
    cases h
    trivial
  case h_8 | h_9 | h_10 =>
    split at h <;> cases h
    trivial
  case h_11 =>
    obtain ⟨⟨literal, after⟩, _, h⟩ := Option.bind_eq_some_iff.mp h
    obtain ⟨d, hd, h⟩ := Option.bind_eq_some_iff.mp h
    cases h
    exact Literal.isOrdered_of_value? hd
  all_goals
    cases h
    trivial

theorem isOrdered_of_all? {s : List Char} {tokens : List Token} (h : all? s = some tokens) :
    ∀ t ∈ tokens, t.IsOrdered := by
  induction s using all?.induct generalizing tokens with
  | case1 =>
    rw [all?] at h
    cases h
    exact List.forall_mem_nil _
  | case2 c rest hblank ih =>
    rw [all?, if_pos hblank] at h
    exact ih h
  | case3 c rest hblank t width hhead ih =>
    rw [all?, if_neg hblank, hhead] at h
    obtain ⟨more, hmore, rfl⟩ := Option.map_eq_some_iff.mp h
    exact List.forall_mem_cons.mpr ⟨isOrdered_of_ofHead? hhead, ih hmore⟩
  | case4 c rest hblank hhead =>
    rw [all?, if_neg hblank, hhead] at h
    cases h

end Token

namespace State

variable {state next : State} {stack : List Frame} {t : Token}

/-- A value that is complete is ordered. -/
def IsOrdered : State → Prop
  | done d _ => d.IsOrdered
  | _ => True

theorem isOrdered_beginValue (ht : t.IsOrdered) (h : beginValue stack t = some next) :
    next.IsOrdered := by
  cases t with
  | atom d =>
    cases h
    exact ht
  | text s =>
    cases h
    trivial
  | openArray | openObject =>
    simp only [beginValue, enter] at h
    split at h <;> cases h
    trivial
  | _ => cases h

theorem isOrdered_step (ht : t.IsOrdered) (h : state.step t = some next) : next.IsOrdered := by
  cases state with
  | value stack => exact isOrdered_beginValue ht h
  | openedArray stack =>
    simp only [step] at h
    split at h
    · cases h
      trivial
    · exact isOrdered_beginValue ht h
  | openedObject stack =>
    cases t with
    | closeObject =>
      cases h
      exact isOrdered_ofMembers []
    | text s =>
      cases h
      trivial
    | _ => cases h
  | nextKey members stack =>
    cases t with
    | text s =>
      cases h
      trivial
    | _ => cases h
  | keyed members key stack =>
    cases t with
    | colon =>
      cases h
      trivial
    | _ => cases h
  | done d stack =>
    simp only [step] at h
    split at h
    · cases h
      trivial
    · cases h
      trivial
    · cases h
      trivial
    · cases h
      exact isOrdered_ofMembers _
    · cases h

theorem isOrdered_run {tokens : List Token} {d : Document} (hs : state.IsOrdered)
    (ht : ∀ t ∈ tokens, t.IsOrdered) (h : state.run tokens = some d) : d.IsOrdered := by
  induction tokens generalizing state with
  | nil =>
    unfold run at h
    split at h
    · cases h
      exact hs
    · cases h
  | cons t rest ih =>
    obtain ⟨htoken, hrest⟩ := List.forall_mem_cons.mp ht
    rw [run] at h
    split at h
    · next next hnext => exact ih (isOrdered_step htoken hnext) hrest h
    · cases h

end State

/-- The members of an object that a text holds come in the order of the bytes of their keys, each
key once. -/
theorem pairwise_of_ofText? {s : String} {members : List (String × Document)}
    (h : ofText? s = some (.object members)) :
    members.Pairwise fun a b => Text.bytes a.1 < Text.bytes b.1 := by
  obtain ⟨tokens, htokens, hrun⟩ := Option.bind_eq_some_iff.mp h
  have hstart : (State.value []).IsOrdered := trivial
  have hordered : (object members).IsOrdered :=
    State.isOrdered_run hstart (Token.isOrdered_of_all? htokens) hrun
  exact hordered.imp Text.bytes_lt_bytes_iff.mpr

end Document

end Worksheet
