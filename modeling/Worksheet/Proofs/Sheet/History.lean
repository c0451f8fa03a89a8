import Mathlib.Data.Finset.Dedup
import Mathlib.Data.Finset.Card
import Worksheet.Proofs.Overwriting
import Worksheet.Proofs.Sheet.Changes
import Worksheet.Proofs.Text.UpperCase
import Worksheet.Session

/-!
# What changes leave on a sheet

Of the changes that led to a sheet, the last one that concerns an address says what is read there.
A change concerns an address if it writes or clears a text with the same upper case, or clears all
cells; the others might as well not have been made. The keys of a sheet are in upper case already,
so what a sheet lists reads back under the keys it is listed with.

Results:
* `get?_change`, `get?_changeAll`: one change and any number of changes, read at an address.
* `get?_changeAll_eq_some_iff`: the cells that are left.
* `get?_changeAll_filter`: changes that do not concern an address.
* `Folded.changeAll`, `Folded.mem_toList_iff`: the keys of a sheet, and what it lists.
* `changeAll_latest`: reading, removing and listing after any changes.
-/

namespace Worksheet.Sheet

namespace Change

/-- Whether a change concerns an address. -/
def concerns (address : String) : Change → Bool
  | set other _ | remove other => Text.upper other = Text.upper address
  | clear => true

/-- What a change leaves where it concerns an address. -/
def leaves : Change → Option Cell
  | set _ cell => if cell.isBlank then none else some cell
  | remove _ | clear => none

/-- The change as a request to a workbook. -/
def request : Change → Session.Request
  | set address cell => .set address cell
  | remove address => .remove address
  | clear => .clear

theorem leaves_eq_some_iff {c : Change} {cell : Cell} :
    c.leaves = some cell ↔ (∃ address, c = .set address cell) ∧ cell ≠ .blank := by
  constructor
  · intro h
    cases c with
    | set address other =>
      have h : (if other.isBlank then none else some other) = some cell := h
      split at h
      · cases h
      · next hblank =>
        cases h
        exact ⟨⟨address, rfl⟩, by simpa [Cell.isBlank] using hblank⟩
    | remove address | clear => cases h
  · rintro ⟨⟨address, rfl⟩, hblank⟩
    simp [leaves, Cell.isBlank, hblank]

end Change

variable {sheet : Sheet} {changes : List Change} {address : String} {cell : Cell}

/-! ## Reading -/

theorem get?_change (sheet : Sheet) (c : Change) (address : String) :
    (sheet.change c).get? address =
      if c.concerns address then c.leaves else sheet.get? address := by
  cases c with
  | set other cell => simp [change, get?_set, Change.concerns, Change.leaves]
  | remove other => simp [change, get?_remove, Change.concerns, Change.leaves]
  | clear => simp [change, get?_empty, Change.concerns, Change.leaves]

/-- The last change that concerns an address says what is read there. -/
theorem get?_changeAll (sheet : Sheet) (changes : List Change) (address : String) :
    (sheet.changeAll changes).get? address =
      match changes.reverse.find? (Change.concerns address) with
      | some c => c.leaves
      | none => sheet.get? address := by
  refine (read_foldl (fun s => s.get? address) (fun s c => get?_change s c address) sheet
    changes).trans ?_
  cases changes.reverse.find? (Change.concerns address) <;> rfl

/-- Changes leave a cell at an address if one of them writes it there, it is not blank, and no
later change concerns the address. -/
def Leave (changes : List Change) (address : String) (cell : Cell) : Prop :=
  ∃ front other back, changes = front ++ .set other cell :: back ∧
    Text.upper other = Text.upper address ∧ cell ≠ .blank ∧
    ∀ c ∈ back, c.concerns address = false

theorem get?_changeAll_eq_some_iff :
    (empty.changeAll changes).get? address = some cell ↔ Leave changes address cell := by
  rw [get?_changeAll]
  constructor
  · intro h
    cases hfind : changes.reverse.find? (Change.concerns address) with
    | none =>
      rw [hfind, get?_empty] at h
      cases h
    | some c =>
      rw [hfind] at h
      obtain ⟨⟨other, rfl⟩, hblank⟩ := Change.leaves_eq_some_iff.mp h
      obtain ⟨hconcerns, front, back, hchanges, hback⟩ := find?_reverse_eq_some_iff.mp hfind
      exact ⟨front, other, back, hchanges, of_decide_eq_true hconcerns, hblank, hback⟩
  · rintro ⟨front, other, back, hchanges, hother, hblank, hback⟩
    have hfind : changes.reverse.find? (Change.concerns address) = some (.set other cell) :=
      find?_reverse_eq_some_iff.mpr ⟨decide_eq_true hother, front, back, hchanges, hback⟩
    rw [hfind]
    exact Change.leaves_eq_some_iff.mpr ⟨⟨other, rfl⟩, hblank⟩

/-- Changes that do not concern an address might as well not have been made. -/
theorem get?_changeAll_filter (sheet : Sheet) (changes : List Change) (address : String) :
    (sheet.changeAll (changes.filter (Change.concerns address))).get? address =
      (sheet.changeAll changes).get? address := by
  rw [get?_changeAll, get?_changeAll, ← List.filter_reverse, List.find?_filter]
  simp

/-! ## Listing -/

/-- The keys of the sheet are in upper case. -/
def Folded (sheet : Sheet) : Prop :=
  ∀ key cell, sheet.cells[key]? = some cell → Text.upper key = key

namespace Folded

theorem empty : Folded Sheet.empty := by
  intro key cell h
  simp [Sheet.empty] at h

theorem remove (h : sheet.Folded) (address : String) : (sheet.remove address).Folded := by
  intro key cell hcell
  rw [Sheet.remove, Std.TreeMap.getElem?_erase] at hcell
  split at hcell
  · cases hcell
  · exact h key cell hcell

theorem set (h : sheet.Folded) (address : String) (cell : Cell) :
    (sheet.set address cell).Folded := by
  unfold Sheet.set
  split
  · exact h.remove address
  · intro key other hother
    rw [Std.TreeMap.getElem?_insert] at hother
    split at hother
    · next hkey =>
      rw [← Std.LawfulEqCmp.compare_eq_iff_eq.mp hkey, Text.upper_upper]
    · exact h key other hother

theorem change (h : sheet.Folded) : ∀ c, (sheet.change c).Folded
  | .set address cell => h.set address cell
  | .remove address => h.remove address
  | .clear => Folded.empty

theorem changeAll (h : sheet.Folded) (changes : List Change) :
    (sheet.changeAll changes).Folded := by
  induction changes generalizing sheet with
  | nil => exact h
  | cons c rest ih => exact ih (h.change c)

/-- A sheet lists the texts in upper case that hold a cell, with that cell. -/
theorem mem_toList_iff (h : sheet.Folded) {key : String} :
    (key, cell) ∈ sheet.toList ↔ Text.upper key = key ∧ sheet.get? key = some cell := by
  rw [toList, Std.TreeMap.mem_toList_iff_getElem?_eq_some, get?]
  constructor
  · intro hcell
    have hkey := h key cell hcell
    exact ⟨hkey, by rwa [hkey]⟩
  · rintro ⟨hkey, hcell⟩
    rwa [hkey] at hcell

end Folded

theorem nodup_keys (sheet : Sheet) : (sheet.toList.map Prod.fst).Nodup := by
  rw [toList, Std.TreeMap.map_fst_toList_eq_keys]
  exact Std.TreeMap.nodup_keys

theorem length_toList (sheet : Sheet) : sheet.toList.length = sheet.size :=
  Std.TreeMap.length_toList

/-- As many cells are set as there are upper cases under which a cell is read. -/
theorem Folded.exists_keys (h : sheet.Folded) :
    ∃ keys : Finset String, keys.card = sheet.size ∧
      ∀ key, key ∈ keys ↔ ∃ address, Text.upper address = key ∧ (sheet.get? address).isSome := by
  refine ⟨(sheet.toList.map Prod.fst).toFinset, ?_, fun key => ?_⟩
  · rw [List.toFinset_card_of_nodup sheet.nodup_keys, List.length_map, length_toList]
  · rw [List.mem_toFinset, List.mem_map]
    constructor
    · rintro ⟨⟨_, cell⟩, hmem, rfl⟩
      obtain ⟨hkey, hcell⟩ := h.mem_toList_iff.mp hmem
      exact ⟨_, hkey, by simp [hcell]⟩
    · rintro ⟨address, rfl, hsome⟩
      obtain ⟨cell, hcell⟩ := Option.isSome_iff_exists.mp hsome
      have hfolded : sheet.get? (Text.upper address) = some cell := by
        rw [get?, Text.upper_upper]
        exact hcell
      exact ⟨(Text.upper address, cell),
        h.mem_toList_iff.mpr ⟨Text.upper_upper address, hfolded⟩, rfl⟩

/-! ## Any changes -/

/-- Changes asked of a workbook change its sheet. -/
theorem sheet_run (book : Workbook) (changes : List Change) :
    (Session.run book (changes.map Change.request)).2.sheet = book.sheet.changeAll changes := by
  induction changes generalizing book with
  | nil => rfl
  | cons c rest ih =>
    have hperform : (Session.perform book c.request).2.sheet = book.sheet.change c := by
      cases c <;> rfl
    show (Session.run (Session.perform book c.request).2 (rest.map Change.request)).2.sheet =
      (book.sheet.change c).changeAll rest
    rw [ih, hperform]

/-- **The latest change.** Take any changes of the sheet without cells. What is read at an address
is the cell that was written last to a text with the same upper case, unless it was blank or such a
text or all cells were cleared later, and otherwise nothing. So the changes that concern other
addresses might as well not have been made, wherever they stand among those that concern this one.
A removal replies what was read just before, and formulas read the same. What is listed is not
blank and reads back under its key, no key is listed twice, and the size of the sheet is the number
of upper cases under which a cell is read. -/
theorem changeAll_latest (changes : List Change) :
    let sheet := empty.changeAll changes
    (∀ address cell, sheet.get? address = some cell ↔ Leave changes address cell) ∧
      (∀ address,
        (empty.changeAll (changes.filter (Change.concerns address))).get? address =
          sheet.get? address) ∧
      (∀ calculator address,
        let book := (Session.run ⟨empty, calculator⟩ (changes.map Change.request)).2
        (Session.perform book (.get address)).1 = .cell (sheet.get? address) ∧
          (Session.perform book (.remove address)).1 = .cell (sheet.get? address) ∧
          (Session.perform book (.remove address)).2.sheet = sheet.remove address ∧
          ∀ formula, book.evaluate formula = book.evaluateWith sheet.get? formula) ∧
      (∀ key cell, (key, cell) ∈ sheet.toList → cell ≠ .blank ∧ sheet.get? key = some cell) ∧
      (sheet.toList.map Prod.fst).Nodup ∧
      ∃ keys : Finset String, keys.card = sheet.size ∧
        ∀ key, key ∈ keys ↔ ∃ address, Text.upper address = key ∧ (sheet.get? address).isSome := by
  intro sheet
  have hfolded : sheet.Folded := Folded.empty.changeAll changes
  refine ⟨fun address cell => get?_changeAll_eq_some_iff, fun address =>
    get?_changeAll_filter empty changes address, fun calculator address => ?_,
    fun key cell hmem => ?_, sheet.nodup_keys, hfolded.exists_keys⟩
  · intro book
    have hsheet : book.sheet = sheet := sheet_run ⟨empty, calculator⟩ changes
    rw [← hsheet]
    exact ⟨rfl, rfl, rfl, fun _ => rfl⟩
  · obtain ⟨_, hcell⟩ := hfolded.mem_toList_iff.mp hmem
    refine ⟨?_, hcell⟩
    rintro rfl
    exact noBlanks_changeAll changes key hcell

/-- Writes under three spellings of one key, one of them longer than the key, with a write
elsewhere and a removal between them. -/
def streetChanges : List Change :=
  [.set "straße" (.logical true), .remove "Strasse", .set "STRASSE" (.text "s"),
    .set "a1" (.logical false), .set "straSSe" (.error .notAvailable), .set "A1" .blank]

theorem changeAll_latest_street :
    let sheet := empty.changeAll streetChanges
    ("STRASSE", .error .notAvailable) ∈ sheet.toList ∧
      sheet.get? "STRASSE" = some (.error .notAvailable) ∧
      sheet.get? "straße" = some (.error .notAvailable) := by
  intro sheet
  obtain ⟨hread, _, _, hlisted, _⟩ := changeAll_latest streetChanges
  have hmem : ("STRASSE", .error .notAvailable) ∈ sheet.toList := by decide +kernel
  have hleave : Leave streetChanges "straße" (.error .notAvailable) :=
    ⟨streetChanges.take 4, "straSSe", [.set "A1" .blank], rfl, by decide +kernel, nofun,
      by decide +kernel⟩
  exact ⟨hmem, (hlisted _ _ hmem).2, (hread _ _).mpr hleave⟩

end Worksheet.Sheet
