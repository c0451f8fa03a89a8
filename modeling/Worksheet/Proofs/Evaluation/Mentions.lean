import Worksheet.Functions.Library
import Worksheet.Proofs.Address.Access
import Worksheet.Proofs.Address.Grid
import Worksheet.Proofs.Formula.Parts

/-!
# The cells that a formula mentions

A tree looks cells up by the names of the single cells in it and by the written forms of the
addresses that its ranges cover, and by no other texts. So its value is the same against any two
sources of cells that agree on these. The policy for cells that are not set is asked for single
cells only, never within a range.

Results:
* `AgreeOn.value_eq`: the value of a tree is made of what its references yield.
* `rangeValues_eq_grid`: what a range yields, row by row.
* `rangeValues_congr`: what a range yields depends on the cells that it covers, not on the policy.
* `value_eq_of_mentions`: the value of a tree depends on the cells that it mentions.
-/

namespace Worksheet

open Formula (Expr)

/-- A tree looks cells up by this text: it is the name of a single cell in the tree, or the written
form of an address that some range in the tree covers. -/
inductive Formula.Expr.Mentions (e : Expr) : String → Prop
  | cell {name} : .cell name ∈ e.parts → Mentions e name
  | covered {first last a b c} : .range first last ∈ e.parts → Address.ofText first = .ok a →
      Address.ofText last = .ok b → (Range.between a b).Covers c → Mentions e c.a1

namespace Context

/-! ## References -/

/-- Two contexts have the same functions and yield the same for every reference among parts of
trees. -/
structure AgreeOn (context other : Context) (parts : List Expr) : Prop where
  registry : context.registry = other.registry
  reference : ∀ name, .cell name ∈ parts → context.reference name = other.reference name
  range : ∀ first last, .range first last ∈ parts →
    context.rangeValues first last = other.rangeValues first last

namespace AgreeOn

variable {context other : Context}

theorem mono {parts fewer : List Expr} (h : context.AgreeOn other parts) (hfewer : fewer ⊆ parts) :
    context.AgreeOn other fewer :=
  ⟨h.registry, fun name hname => h.reference name (hfewer hname),
    fun first last hrange => h.range first last (hfewer hrange)⟩

mutual

/-- The value of a tree is made of what its references yield. -/
theorem value_eq : ∀ {e : Expr}, context.AgreeOn other e.parts → context.value e = other.value e
  | .number _, _ | .text _, _ => rfl
  | .cell name, h => h.reference name (List.mem_singleton_self _)
  | .range first last, h => h.range first last (List.mem_singleton_self _)
  | .binary op left right, h => by
    have hleft : context.AgreeOn other left.parts := h.mono (by simp [Expr.parts])
    have hright : context.AgreeOn other right.parts := h.mono (by simp [Expr.parts])
    rw [value, value, hleft.value_eq, hright.value_eq]
  | .unary op operand, h => by
    have hoperand : context.AgreeOn other operand.parts := h.mono (by simp [Expr.parts])
    rw [value, value, hoperand.value_eq]
  | .call name args, h => by
    have hargs : context.AgreeOn other (Expr.argParts args) := h.mono (by simp [Expr.parts])
    rw [value, value, hargs.values_eq, h.registry]

theorem values_eq : ∀ {es : List Expr}, context.AgreeOn other (Expr.argParts es) →
    context.values es = other.values es
  | [], _ => rfl
  | e :: rest, h => by
    have hfirst : context.AgreeOn other e.parts := h.mono (by simp [Expr.argParts])
    have hrest : context.AgreeOn other (Expr.argParts rest) := h.mono (by simp [Expr.argParts])
    rw [values, values, hfirst.value_eq, hrest.values_eq]

end

end AgreeOn

/-! ## Cells behind the references -/

variable {cell? others? : String → Option Cell} {registry : Registry}

/-- A range whose corners are read yields its cells row by row. -/
theorem rangeValues_eq_grid (context : Context) {first last : String} {a b : Address}
    (hfirst : Address.ofText first = .ok a) (hlast : Address.ofText last = .ok b) :
    context.rangeValues first last = .list ((Range.between a b).grid.map context.member) := by
  have hproper :=
    Range.between_proper (Address.pos_of_ofText hfirst) (Address.pos_of_ofText hlast)
  simp only [rangeValues, hfirst, hlast, hproper.cells_eq_grid]

/-- What a range yields depends on the cells that it covers, and not on the policy for cells that
are not set. -/
theorem rangeValues_congr {first last : String} (missing anyMissing : MissingCell)
    (h : ∀ a b c, Address.ofText first = .ok a → Address.ofText last = .ok b →
      (Range.between a b).Covers c → cell? c.a1 = others? c.a1) :
    rangeValues ⟨cell?, registry, missing⟩ first last =
      rangeValues ⟨others?, registry, anyMissing⟩ first last := by
  cases hfirst : Address.ofText first with
  | error e => simp only [rangeValues, hfirst]
  | ok a =>
    cases hlast : Address.ofText last with
    | error e => simp only [rangeValues, hfirst, hlast]
    | ok b =>
      rw [rangeValues_eq_grid _ hfirst hlast, rangeValues_eq_grid _ hfirst hlast]
      refine congrArg Value.list (List.map_congr_left fun c hc => ?_)
      simp only [member, h a b c hfirst hlast (Range.mem_grid_iff.mp hc)]

/-- **Mentioned cells.** Against two sources of cells that agree on what a tree mentions, the tree
has the same value. If each single cell in it is set, the value is the same under every policy too,
whichever cells of its ranges are not set. -/
theorem value_eq_of_mentions {e : Expr} (h : ∀ name, e.Mentions name → cell? name = others? name)
    (registry : Registry) :
    (∀ missing, value ⟨cell?, registry, missing⟩ e = value ⟨others?, registry, missing⟩ e) ∧
      ((∀ name, .cell name ∈ e.parts → cell? name ≠ none) → ∀ missing anyMissing,
        value ⟨cell?, registry, missing⟩ e = value ⟨others?, registry, anyMissing⟩ e) := by
  have hrange : ∀ missing anyMissing first last, .range first last ∈ e.parts →
      rangeValues ⟨cell?, registry, missing⟩ first last =
        rangeValues ⟨others?, registry, anyMissing⟩ first last := fun _ _ _ _ hpart =>
    rangeValues_congr _ _ fun _ _ _ hfirst hlast hc => h _ (.covered hpart hfirst hlast hc)
  constructor
  · intro missing
    have hagree : AgreeOn ⟨cell?, registry, missing⟩ ⟨others?, registry, missing⟩ e.parts := by
      refine ⟨rfl, fun name hname => ?_, hrange missing missing⟩
      simp only [reference, h name (.cell hname)]
    exact hagree.value_eq
  · intro hset missing anyMissing
    have hagree : AgreeOn ⟨cell?, registry, missing⟩ ⟨others?, registry, anyMissing⟩ e.parts := by
      refine ⟨rfl, fun name hname => ?_, hrange missing anyMissing⟩
      obtain ⟨cell, hcell⟩ := Option.ne_none_iff_exists'.mp (hset name hname)
      have hother : others? name = some cell := (h name (.cell hname)).symm.trans hcell
      simp only [reference, hcell, hother]
    exact hagree.value_eq

/-- The tree of `A1+SUM(b2:A1)`, which mentions four cells. -/
def fourCells : Expr :=
  .binary .add (.cell "A1") (.call "SUM" [.range "b2" "A1"])

theorem mem_of_mentions_fourCells {name : String} (h : fourCells.Mentions name) :
    name ∈ ["A1", "B1", "A2", "B2"] := by
  have hparts : fourCells.parts = [fourCells, .cell "A1", .call "SUM" [.range "b2" "A1"],
      .range "b2" "A1"] := rfl
  cases h with
  | cell hpart =>
    rw [hparts] at hpart
    obtain rfl : name = "A1" := by simpa [fourCells] using hpart
    decide
  | @covered first last a b c hpart hfirst hlast hc =>
    rw [hparts] at hpart
    obtain ⟨rfl, rfl⟩ : first = "b2" ∧ last = "A1" := by simpa [fourCells] using hpart
    obtain rfl : ⟨2, 2⟩ = a := Except.ok.inj hfirst
    obtain rfl : ⟨1, 1⟩ = b := Except.ok.inj hlast
    have hall : ∀ c ∈ (Range.between ⟨2, 2⟩ ⟨1, 1⟩).grid,
        c.a1 ∈ ["A1", "B1", "A2", "B2"] := by decide +kernel
    exact hall c (Range.mem_grid_iff.mpr hc)

/-- With `A1` set and `B2` not, a write to `Z9` and another policy leave the value of
`A1+SUM(b2:A1)` alone. -/
theorem value_fourCells_eq :
    (∀ name, fourCells.Mentions name → (Sheet.empty.set "A1" (.number 1)).get? name =
        ((Sheet.empty.set "A1" (.number 1)).set "Z9" (.text "x")).get? name) ∧
      (∀ name, .cell name ∈ fourCells.parts →
        (Sheet.empty.set "A1" (.number 1)).get? name ≠ none) ∧
      value ⟨(Sheet.empty.set "A1" (.number 1)).get?, .standard, .referenceError⟩ fourCells =
        value ⟨((Sheet.empty.set "A1" (.number 1)).set "Z9" (.text "x")).get?, .standard, .blank⟩
          fourCells := by
  have hagree : ∀ name, fourCells.Mentions name → (Sheet.empty.set "A1" (.number 1)).get? name =
      ((Sheet.empty.set "A1" (.number 1)).set "Z9" (.text "x")).get? name := by
    intro name hname
    have hkeys : ∀ name ∈ ["A1", "B1", "A2", "B2"], Text.upper "Z9" ≠ Text.upper name := by
      decide +kernel
    rw [Sheet.get?_set _ "Z9", if_neg (hkeys name (mem_of_mentions_fourCells hname))]
  have hset : ∀ name, .cell name ∈ fourCells.parts →
      (Sheet.empty.set "A1" (.number 1)).get? name ≠ none := by
    intro name hname
    obtain rfl : name = "A1" := by simpa [fourCells, Expr.parts, Expr.argParts] using hname
    rw [Sheet.get?_set, if_pos rfl]
    decide
  exact ⟨hagree, hset, (value_eq_of_mentions hagree .standard).2 hset _ _⟩

end Context

end Worksheet
