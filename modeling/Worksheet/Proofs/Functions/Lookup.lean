import Mathlib.Data.List.Nodup
import Worksheet.Functions.Library
import Worksheet.Proofs.Overwriting
import Worksheet.Proofs.Text.UpperCase

/-!
# Looking functions up

Of the functions registered one after the other, the last one whose name has the upper case of the
name asked for is found. The names of the library differ in upper case, so each of its functions is
found under its name. A function that is found is run unless it is given too few or too many
arguments.

Results:
* `Registry.get?_registerAll`: the last function of a name is found.
* `Registry.get?_standard`: every function of the library is found.
* `Definition.call_of_takes`, `Definition.call_of_not_takes`: when a function is run.
* `Registry.call_standard`: calls of functions of the library.
-/

namespace Worksheet

/-! ## Numbers of arguments -/

namespace Definition

variable {d : Definition} {args : List Value}

/-- Whether a function takes a number of arguments. -/
def Takes (d : Definition) (n : Nat) : Prop :=
  d.least ≤ n ∧ ∀ most, d.most = some most → n ≤ most

theorem countFault?_eq_none_iff {n : Nat} : d.countFault? n = none ↔ d.Takes n := by
  unfold countFault? Takes
  by_cases hleast : n < d.least
  · simp [hleast, Nat.not_le.mpr hleast]
  · cases d.most with
    | none => simp [hleast, Nat.not_lt.mp hleast]
    | some most => simp [hleast, Nat.not_lt.mp hleast]

theorem call_of_takes (h : d.Takes args.length) : d.call args = d.body args := by
  rw [call, countFault?_eq_none_iff.mpr h]

/-- A function that is given too few or too many arguments is not run. -/
theorem call_of_not_takes (h : ¬ d.Takes args.length) :
    ∃ expected, d.call args = .error (.refused (.argumentCount d.name expected args.length)) := by
  cases hfault : d.countFault? args.length with
  | none => exact absurd (countFault?_eq_none_iff.mp hfault) h
  | some expected => exact ⟨expected, by rw [call, hfault]⟩

end Definition

/-! ## Finding a function -/

namespace Registry

theorem call_of_get? {registry : Registry} {name : String} {d : Definition}
    (h : registry.get? name = some d) (args : List Value) :
    registry.call name args = d.call args := by
  rw [call, h]

theorem get?_registerAll (registry : Registry) (ds : List Definition) (name : String) :
    (registry.registerAll ds).get? name =
      (ds.reverse.find? fun d => Text.upper d.name = Text.upper name).or (registry.get? name) := by
  have hstep : ∀ (r : Registry) d, (r.register d).get? name =
      if decide (Text.upper d.name = Text.upper name) then some d else r.get? name := by
    simp [get?_register]
  refine (read_foldl (fun r => r.get? name) hstep registry ds).trans ?_
  cases ds.reverse.find? fun d => Text.upper d.name = Text.upper name <;> rfl

/-- Among functions whose names differ in upper case, each is found under its name. -/
theorem get?_registerAll_of_mem {registry : Registry} {ds : List Definition} {d : Definition}
    {name : String} (hnodup : (ds.map fun d => Text.upper d.name).Nodup) (hd : d ∈ ds)
    (hname : Text.upper d.name = Text.upper name) :
    (registry.registerAll ds).get? name = some d := by
  have hfound : (ds.reverse.find? fun e => Text.upper e.name = Text.upper name) = some d := by
    cases hfind : ds.reverse.find? fun e => Text.upper e.name = Text.upper name with
    | none =>
      have hnot := find?_reverse_eq_none_iff.mp hfind d hd
      exact absurd hname (of_decide_eq_false hnot)
    | some e =>
      have he : e ∈ ds := List.mem_reverse.mp (List.mem_of_find?_eq_some hfind)
      have hsame : Text.upper e.name = Text.upper name := by simpa using List.find?_some hfind
      rw [List.inj_on_of_nodup_map hnodup he hd (hsame.trans hname.symm)]
  rw [get?_registerAll, hfound, Option.some_or]

/-! ## The library -/

theorem nodup_library : (Functions.library.map fun d => Text.upper d.name).Nodup := by
  decide +kernel

variable {name : String} {least : Nat} {most : Option Nat} {f : List Value → Value}

/-- Every function of the library is found under its name. -/
theorem get?_standard (h : Functions.entry name least most f ∈ Functions.library) :
    standard.get? name = some (Functions.entry name least most f) :=
  get?_registerAll_of_mem nodup_library h (Text.upper_upper name)

/-- A function of the library that takes its arguments has the value that it makes of them. -/
theorem call_standard (h : Functions.entry name least most f ∈ Functions.library)
    {args : List Value} (htakes : (Functions.entry name least most f).Takes args.length) :
    standard.call name args = .ok (f args) := by
  rw [call_of_get? (get?_standard h), Definition.call_of_takes htakes]
  rfl

end Registry

end Worksheet
