import Mathlib.Data.List.Forall2
import Worksheet.CommandLine.Run
import Worksheet.Proofs.Document.Members
import Worksheet.Proofs.Overwriting
import Worksheet.Proofs.Text.Classes

/-!
# The cells that a command evaluates against

What a cells file and assignments give, as relations that say which texts are taken and which
contents they stand for, apart from how they are read. Reading finds entries exactly where they are
given, and the sheet they are written to holds at each address what the last of them left there.

Results:
* `FileGives.pairwise`: the cells of a file come in the order of the bytes of their keys.
* `readCellsFile_eq_ok_iff`, `readAssignment_eq_ok_iff`: what a file and an assignment give.
* `contentOf_eq_blank_iff`: which assignments clear a cell.
* `cellsFor_eq_ok_iff`, `Rejected.cellsFor_eq`: when a command has its cells, and which.
* `get?_setAll`: the cells after writes that follow each other.
-/

namespace Worksheet.CommandLine

/-! ## Cells files -/

/-- The cell that a member of a cells file gives: its key is an address, and its value is a null,
which clears the cell, or one that a cell can hold. -/
inductive MemberGives : String × Document → String × Cell → Prop
  | null {key a} : Address.ofText key = .ok a → MemberGives (key, .null) (key, .blank)
  | logical {key a b} : Address.ofText key = .ok a →
      MemberGives (key, .logical b) (key, .logical b)
  | whole {key a n} : Address.ofText key = .ok a →
      MemberGives (key, .whole n) (key, .number (Document.wholeToFloat n))
  | decimal {key a x} : Address.ofText key = .ok a →
      MemberGives (key, .decimal x) (key, .number x)
  | code {key a s e} : Address.ofText key = .ok a → ErrorCode.ofCode? s = some e →
      MemberGives (key, .text s) (key, .error e)
  | text {key a s} : Address.ofText key = .ok a → ErrorCode.ofCode? s = none →
      MemberGives (key, .text s) (key, .text s)

/-- The cells that the file of a command gives, in the order of its members: none without a file,
and otherwise the file can be read and holds an object whose members give cells. -/
inductive FileGives (contents : Option String) : Option String → List (String × Cell) → Prop
  | absent : FileGives contents none []
  | object {path s members entries} : contents = some s →
      Document.ofText? s = some (.object members) → List.Forall₂ MemberGives members entries →
      FileGives contents (some path) entries

/-- The cell of a member is under the text of its key, as it stands. -/
theorem MemberGives.key_eq {member : String × Document} {entry : String × Cell}
    (h : MemberGives member entry) : entry.1 = member.1 := by
  cases h <;> rfl

/-- The cells of a file come in the order of the bytes of their keys, each key once. -/
theorem FileGives.pairwise {contents path? : Option String} {entries : List (String × Cell)}
    (h : FileGives contents path? entries) :
    entries.Pairwise fun a b => Text.bytes a.1 < Text.bytes b.1 := by
  cases h with
  | absent => exact .nil
  | @object path s members _ _ hobject hgives =>
    have hkeys : entries.map Prod.fst = members.map Prod.fst := by
      clear hobject
      induction hgives with
      | nil => rfl
      | cons hmember _ ih => rw [List.map_cons, List.map_cons, hmember.key_eq, ih]
    have hordered : (members.map Prod.fst).Pairwise fun a b => Text.bytes a < Text.bytes b :=
      List.pairwise_map.mpr (Document.pairwise_of_ofText? hobject)
    rw [← hkeys, List.pairwise_map] at hordered
    exact hordered

/-- Without a file there are no entries. -/
theorem fileGives_none_iff {contents : Option String} {entries : List (String × Cell)} :
    FileGives contents none entries ↔ Except.ok (ε := Trouble) [] = .ok entries := by
  constructor
  · rintro ⟨⟩
    rfl
  · rintro ⟨⟩
    exact .absent

theorem cellOfMember_eq_ok_iff {path : String} {member : String × Document}
    {entry : String × Cell} :
    cellOfMember path member = .ok entry ↔ MemberGives member entry := by
  obtain ⟨key, value⟩ := member
  constructor
  · intro h
    unfold cellOfMember at h
    cases haddress : Address.ofText key with
    | error cause =>
      rw [haddress] at h
      cases h
    | ok a =>
      rw [haddress] at h
      cases value with
      | null =>
        cases h
        exact .null haddress
      | logical b =>
        cases h
        exact .logical haddress
      | whole n =>
        cases h
        exact .whole haddress
      | decimal x =>
        cases h
        exact .decimal haddress
      | text s =>
        simp only [contentOfDocument] at h
        cases hcode : ErrorCode.ofCode? s with
        | some e =>
          rw [hcode] at h
          cases h
          exact .code haddress hcode
        | none =>
          rw [hcode] at h
          cases h
          exact .text haddress hcode
      | array | object => cases h
  · rintro (haddress | haddress | haddress | haddress | ⟨haddress, hcode⟩ | ⟨haddress, hcode⟩)
    all_goals simp only [cellOfMember, haddress, contentOfDocument]
    case null | logical | whole | decimal => rfl
    case code | text =>
      rw [hcode]
      rfl

/-- Two steps succeed if the first does and the second does with what the first gives. -/
theorem bind_eq_ok_iff {ε α β : Type} {x : Except ε α} {f : α → Except ε β} {b : β} :
    x >>= f = .ok b ↔ ∃ a, x = .ok a ∧ f a = .ok b := by
  cases x with
  | ok a => exact ⟨fun h => ⟨a, rfl, h⟩, fun ⟨_, hx, hf⟩ => Except.ok.inj hx ▸ hf⟩
  | error fault => exact ⟨nofun, nofun⟩

/-- A list is read if each of its members is. -/
theorem mapM_eq_ok_iff {ε α β : Type} {f : α → Except ε β} {xs : List α} {ys : List β} :
    xs.mapM f = .ok ys ↔ List.Forall₂ (fun x y => f x = .ok y) xs ys := by
  induction xs generalizing ys with
  | nil =>
    rw [List.forall₂_nil_left_iff]
    exact ⟨fun h => (Except.ok.inj h).symm, fun h => h ▸ rfl⟩
  | cons x xs ih =>
    rw [List.mapM_cons, List.forall₂_cons_left_iff, bind_eq_ok_iff]
    constructor
    · rintro ⟨y, hy, h⟩
      obtain ⟨rest, hrest, h⟩ := bind_eq_ok_iff.mp h
      exact ⟨y, rest, hy, ih.mp hrest, (Except.ok.inj h).symm⟩
    · rintro ⟨y, rest, hy, hrest, rfl⟩
      exact ⟨y, hy, bind_eq_ok_iff.mpr ⟨rest, ih.mpr hrest, rfl⟩⟩

theorem readCellsFile_eq_ok_iff {contents : Option String} {path : String}
    {entries : List (String × Cell)} :
    readCellsFile path contents = .ok entries ↔ FileGives contents (some path) entries := by
  constructor
  · intro h
    unfold readCellsFile at h
    split at h
    · cases h
    · split at h
      · cases h
      · next hobject =>
        exact .object rfl hobject
          ((mapM_eq_ok_iff.mp h).imp fun _ _ => cellOfMember_eq_ok_iff.mp)
      · cases h
  · rintro (_ | ⟨rfl, hobject, hgives⟩)
    simp only [readCellsFile, hobject]
    exact mapM_eq_ok_iff.mpr (hgives.imp fun _ _ => cellOfMember_eq_ok_iff.mpr)

/-! ## Assignments -/

/-- The cell that an assignment gives: in front of the first equals sign stands an address, perhaps
between blanks, and behind it the content, or else nothing but blanks, which clears the cell. -/
inductive AssignmentGives (assignment : String) : String × Cell → Prop
  | clear {before after a} : assignment.toList = before ++ '=' :: after → '=' ∉ before →
      Address.ofText (String.ofList (Text.trim before)) = .ok a →
      (∀ c ∈ after, Text.isBlank c = true) →
      AssignmentGives assignment (String.ofList (Text.trim before), .blank)
  | content {before after a} : assignment.toList = before ++ '=' :: after → '=' ∉ before →
      Address.ofText (String.ofList (Text.trim before)) = .ok a →
      ¬ (∀ c ∈ after, Text.isBlank c = true) →
      AssignmentGives assignment (String.ofList (Text.trim before), contentOf after)

theorem splitEquals_eq_some_iff {s before after : List Char} :
    splitEquals s = some (before, after) ↔ s = before ++ '=' :: after ∧ '=' ∉ before := by
  induction s generalizing before with
  | nil => simp [splitEquals]
  | cons c rest ih =>
    unfold splitEquals
    split
    · next hc =>
      subst hc
      cases before with
      | nil => simp
      | cons d before =>
        refine ⟨fun h => absurd h (by simp), fun ⟨hs, hbefore⟩ => ?_⟩
        cases hs
        exact absurd (List.mem_cons_self ..) hbefore
    · next hc =>
      rw [Option.map_eq_some_iff]
      constructor
      · rintro ⟨⟨front, back⟩, hsplit, heq⟩
        cases heq
        obtain ⟨rfl, hfront⟩ := ih.mp hsplit
        exact ⟨rfl, fun hmem => (List.mem_cons.mp hmem).elim (Ne.symm hc) hfront⟩
      · rintro ⟨hs, hbefore⟩
        cases before with
        | nil =>
          cases hs
          exact absurd rfl hc
        | cons d front =>
          cases hs
          exact ⟨(front, after), ih.mpr ⟨rfl, List.not_mem_of_not_mem_cons hbefore⟩, rfl⟩

theorem contentOfTrimmed_ne_blank {raw trimmed : List Char} (h : trimmed ≠ []) :
    contentOfTrimmed raw trimmed ≠ .blank := by
  unfold contentOfTrimmed
  dsimp only
  rw [if_neg h]
  split
  · simp
  · split
    · simp
    · split
      · simp
      · split <;> simp

theorem exists_of_unquoted? {raw s : List Char} (h : unquoted? raw = some s) :
    ∃ rest, raw = '"' :: rest := by
  unfold unquoted? at h
  split at h
  · exact ⟨_, rfl⟩
  · cases h

/-- An assignment clears its cell exactly if nothing but blanks is behind its equals sign. -/
theorem contentOf_eq_blank_iff {raw : List Char} :
    contentOf raw = .blank ↔ ∀ c ∈ raw, Text.isBlank c = true := by
  rw [← Text.trim_eq_nil_iff]
  unfold contentOf
  split
  · next s hquoted =>
    obtain ⟨rest, rfl⟩ := exists_of_unquoted? hquoted
    constructor
    · intro h
      cases h
    · intro h
      exact absurd (Text.trim_eq_nil_iff.mp h _ (List.mem_cons_self ..)) (by decide)
  · by_cases h : Text.trim raw = []
    · simp [contentOfTrimmed, h]
    · simp [contentOfTrimmed_ne_blank h, h]

theorem readAssignment_eq_ok_iff {assignment : String} {entry : String × Cell} :
    readAssignment assignment = .ok entry ↔ AssignmentGives assignment entry := by
  constructor
  · intro h
    unfold readAssignment at h
    split at h
    · cases h
    · next before after hsplit =>
      obtain ⟨hs, hbefore⟩ := splitEquals_eq_some_iff.mp hsplit
      dsimp only at h
      split at h
      · cases h
      · next haddress =>
        cases h
        by_cases hblank : ∀ c ∈ after, Text.isBlank c = true
        · rw [contentOf_eq_blank_iff.mpr hblank]
          exact .clear hs hbefore haddress hblank
        · exact .content hs hbefore haddress hblank
  · rintro (⟨hs, hbefore, haddress, hblank⟩ | ⟨hs, hbefore, haddress, _⟩)
    · simp only [readAssignment, splitEquals_eq_some_iff.mpr ⟨hs, hbefore⟩, haddress,
        contentOf_eq_blank_iff.mpr hblank]
    · simp only [readAssignment, splitEquals_eq_some_iff.mpr ⟨hs, hbefore⟩, haddress]

/-- The cells of a command are those of its file and then those of its assignments. -/
theorem cellsFor_eq_ok_iff {contents : Option String} {e : Evaluation}
    {cells : List (String × Cell)} :
    cellsFor contents e = .ok cells ↔ ∃ fromFile assigned,
      FileGives contents e.cellsFile fromFile ∧
        List.Forall₂ AssignmentGives e.assignments assigned ∧ cells = fromFile ++ assigned := by
  have hassigned : ∀ assigned, e.assignments.mapM readAssignment = .ok assigned ↔
      List.Forall₂ AssignmentGives e.assignments assigned := by
    intro assigned
    rw [mapM_eq_ok_iff]
    exact ⟨fun h => h.imp fun _ _ => readAssignment_eq_ok_iff.mp,
      fun h => h.imp fun _ _ => readAssignment_eq_ok_iff.mpr⟩
  -- with a file and without one, the assignments are read behind what the file gives
  have hbind : ∀ file : Except Trouble (List (String × Cell)),
      (do return (← file) ++ (← e.assignments.mapM readAssignment)) = .ok cells ↔
        ∃ fromFile assigned, file = .ok fromFile ∧
          List.Forall₂ AssignmentGives e.assignments assigned ∧ cells = fromFile ++ assigned := by
    intro file
    simp only [bind_eq_ok_iff, hassigned]
    constructor
    · rintro ⟨fromFile, hfile, assigned, hgives, h⟩
      exact ⟨fromFile, assigned, hfile, hgives, (Except.ok.inj h).symm⟩
    · rintro ⟨fromFile, assigned, hfile, hgives, rfl⟩
      exact ⟨fromFile, hfile, assigned, hgives, rfl⟩
  unfold cellsFor
  cases e.cellsFile with
  | some path =>
    simp only [← readCellsFile_eq_ok_iff]
    exact hbind (readCellsFile path contents)
  | none =>
    simp only [fileGives_none_iff]
    exact hbind (.ok [])

/-- The file of a command gives no cells, or one of its assignments does not. -/
def Rejected (contents : Option String) (e : Evaluation) : Prop :=
  (∀ entries, ¬ FileGives contents e.cellsFile entries) ∨
    ∃ assignment ∈ e.assignments, ∀ entry, ¬ AssignmentGives assignment entry

theorem exists_assignmentGives {assignments : List String} {assigned : List (String × Cell)}
    (h : List.Forall₂ AssignmentGives assignments assigned) :
    ∀ assignment ∈ assignments, ∃ entry, AssignmentGives assignment entry := by
  induction h with
  | nil => exact List.forall_mem_nil _
  | cons hgives _ ih => exact List.forall_mem_cons.mpr ⟨⟨_, hgives⟩, ih⟩

theorem Rejected.cellsFor_eq {contents : Option String} {e : Evaluation}
    (h : Rejected contents e) : ∃ trouble, cellsFor contents e = .error trouble := by
  cases hcells : cellsFor contents e with
  | error trouble => exact ⟨trouble, rfl⟩
  | ok cells =>
    obtain ⟨fromFile, assigned, hfile, hassigned, _⟩ := cellsFor_eq_ok_iff.mp hcells
    rcases h with hnone | ⟨assignment, hmem, hnone⟩
    · exact absurd hfile (hnone fromFile)
    · obtain ⟨entry, hentry⟩ := exists_assignmentGives hassigned assignment hmem
      exact absurd hentry (hnone entry)

/-! ## Writing cells -/

/-- What the last of the entries for an address leaves there: its content, or nothing if that is
blank. Addresses are the same if their upper cases are. -/
def latest (entries : List (String × Cell)) (address : String) : Option Cell :=
  ((entries.reverse.find? fun entry => Text.upper entry.1 = Text.upper address).map Prod.snd).filter
    fun cell => !cell.isBlank

theorem get?_setAll (entries : List (String × Cell)) (address : String) :
    (Sheet.empty.setAll entries).get? address = latest entries address := by
  have hstep : ∀ (sheet : Sheet) (entry : String × Cell),
      (sheet.set entry.1 entry.2).get? address =
        if decide (Text.upper entry.1 = Text.upper address) then
          if entry.2.isBlank then none else some entry.2
        else sheet.get? address := by
    simp [Sheet.get?_set]
  refine (read_foldl (fun sheet => sheet.get? address) hstep Sheet.empty entries).trans ?_
  rw [latest]
  cases entries.reverse.find? fun entry => Text.upper entry.1 = Text.upper address with
  | none => exact Sheet.get?_empty address
  | some entry => cases hblank : entry.2.isBlank <;> simp [hblank, Option.filter]

end Worksheet.CommandLine
