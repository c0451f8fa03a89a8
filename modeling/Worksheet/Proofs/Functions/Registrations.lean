import Worksheet.Proofs.Document.Members
import Worksheet.Proofs.Functions.Lookup

/-!
# Registrations

A function is registered as it stands, or made for a name with the numbers of arguments it takes,
or made for a name to take any number of them. Registrations follow each other on the registry
without functions or on that of the library. A call then goes to the function that was registered
last under the upper case of its name, whichever registrations came before it and whatever case
they wrote the name in: a name goes to upper case when a function is made, when it is registered
and when it is looked up, and the second and the third time change nothing more.

Results:
* `InForce.get?_eq`: the function that registrations leave under a name.
* `call_register_of_ne`: what a registration leaves alone.
* `pairwise_names`, `mem_names_registerAll`, `size_eq`: the names of a registry.
* `registered_last_wins`: calls and names after any registrations.
-/

namespace Worksheet

/-! ## Arguments that a function does not take -/

namespace Definition

variable {d : Definition} {args : List Value}

theorem call_of_lt_least (h : args.length < d.least) : d.call args =
    .error (.refused (.argumentCount d.name s!"at least {d.least}" args.length)) := by
  rw [call, countFault?, if_pos h]

theorem call_of_most_lt {most : Nat} (hmost : d.most = some most) (hleast : d.least ≤ args.length)
    (h : most < args.length) : d.call args =
      .error (.refused (.argumentCount d.name s!"at most {most}" args.length)) := by
  rw [call, countFault?, if_neg (Nat.not_lt.mpr hleast), hmost]
  simp only [if_pos h]

/-- Where a function does not take its arguments, its body does not matter. -/
theorem call_body (h : ¬ d.Takes args.length) (body : Body) :
    ({ d with body } : Definition).call args = d.call args := by
  obtain ⟨expected, hfault⟩ := Option.ne_none_iff_exists'.mp (mt countFault?_eq_none_iff.mp h)
  have hsame : ({ d with body } : Definition).countFault? args.length = some expected := hfault
  rw [call, call, hfault, hsame]

end Definition

/-! ## Ways to register -/

/-- A registration of a function. -/
inductive Registration where
  /-- Any function, whatever the case of its name. -/
  | given (d : Definition)
  /-- A function made for a name. -/
  | made (name : String) (least : Nat) (most : Option Nat) (body : Body)
  /-- A function made for a name that takes any number of arguments. -/
  | variadic (name : String) (body : Body)

namespace Registration

/-- The name as it is written. -/
def name : Registration → String
  | given d => d.name
  | made name _ _ _ | variadic name _ => name

/-- The function that is registered. -/
def definition : Registration → Definition
  | given d => d
  | made name least most body => .make name least most body
  | variadic name body => .make name 0 none body

/-- The function goes under the upper case of the name as it is written. -/
theorem upper_name_definition (r : Registration) :
    Text.upper r.definition.name = Text.upper r.name := by
  cases r with
  | given d => rfl
  | made name | variadic name => exact Text.upper_upper name

end Registration

namespace Registry

/-- The registries that registrations start from. -/
inductive Start where
  | empty
  | standard
deriving DecidableEq

namespace Start

def registry : Start → Registry
  | empty => Registry.empty
  | standard => Registry.standard

/-- The functions that are registered from the start. -/
def functions : Start → List Definition
  | empty => []
  | standard => Functions.library

end Start

/-- Of functions registered one after the other, `d` is the last one whose name has the upper case
of `name`. -/
def InForce (history : List Definition) (name : String) (d : Definition) : Prop :=
  ∃ front back, history = front ++ d :: back ∧ Text.upper d.name = Text.upper name ∧
    ∀ e ∈ back, Text.upper e.name ≠ Text.upper name

theorem InForce.upper_eq {history : List Definition} {name : String} {d : Definition}
    (h : InForce history name d) : Text.upper d.name = Text.upper name := by
  obtain ⟨_, _, _, hname, _⟩ := h
  exact hname

variable {registry : Registry} {history : List Definition} {name : String} {d : Definition}

/-! ## Calls -/

theorem registerAll_append (registry : Registry) (ds es : List Definition) :
    registry.registerAll (ds ++ es) = (registry.registerAll ds).registerAll es :=
  List.foldl_append

/-- Registrations on either registry are registrations on the one without functions. -/
theorem registerAll_start (start : Start) (ds : List Definition) :
    start.registry.registerAll ds = empty.registerAll (start.functions ++ ds) := by
  rw [registerAll_append]
  cases start <;> rfl

theorem get?_eq_none (h : ∀ d ∈ history, Text.upper d.name ≠ Text.upper name) :
    (empty.registerAll history).get? name = none := by
  have hfind : (history.reverse.find? fun d => Text.upper d.name = Text.upper name) = none :=
    find?_reverse_eq_none_iff.mpr fun d hd => decide_eq_false (h d hd)
  rw [get?_registerAll, hfind, get?_empty, Option.none_or]

theorem InForce.get?_eq (h : InForce history name d) :
    (empty.registerAll history).get? name = some d := by
  obtain ⟨front, back, hhistory, hname, hback⟩ := h
  have hfind : (history.reverse.find? fun e => Text.upper e.name = Text.upper name) = some d :=
    find?_reverse_eq_some_iff.mpr ⟨decide_eq_true hname, front, back, hhistory,
      fun e he => decide_eq_false (hback e he)⟩
  rw [get?_registerAll, hfind, Option.some_or]

/-- What is registered last of all under a name is in force there. -/
theorem get?_register_of_eq (h : Text.upper d.name = Text.upper name) :
    (registry.register d).get? name = some d := by
  rw [get?_register, if_pos h]

theorem call_register_of_ne (h : Text.upper d.name ≠ Text.upper name) (args : List Value) :
    (registry.register d).call name args = registry.call name args := by
  rw [call, get?_register, if_neg h]
  rfl

/-! ## Names -/

theorem pairwise_names (registry : Registry) :
    registry.names.Pairwise fun a b => Text.bytes a < Text.bytes b :=
  (Std.TreeMap.ordered_keys (t := registry.entries)).imp fun h =>
    Text.bytes_lt_bytes_iff.mpr (compareOfLessAndEq_eq_lt.mp h)

theorem size_eq (registry : Registry) : registry.size = registry.names.length :=
  Std.TreeMap.length_keys.symm

theorem mem_names_register (registry : Registry) (d : Definition) (key : String) :
    key ∈ (registry.register d).names ↔ Text.upper d.name = key ∨ key ∈ registry.names := by
  simp only [names, register, Std.TreeMap.mem_keys, Std.TreeMap.mem_insert,
    Std.LawfulEqCmp.compare_eq_iff_eq]

theorem mem_names_registerAll (registry : Registry) (ds : List Definition) (key : String) :
    key ∈ (registry.registerAll ds).names ↔
      (∃ d ∈ ds, Text.upper d.name = key) ∨ key ∈ registry.names := by
  induction ds generalizing registry with
  | nil => simp [registerAll]
  | cons d ds ih =>
    have hcons : registry.registerAll (d :: ds) = (registry.register d).registerAll ds := rfl
    rw [hcons, ih, mem_names_register]
    simp only [List.mem_cons, exists_eq_or_imp]
    rw [or_left_comm, or_assoc]

theorem not_mem_names_empty (key : String) : key ∉ empty.names := by
  simp [names, empty]

/-! ## Any registrations -/

/-- **The last registration wins.** Take any registrations, on the registry without functions or on
that of the library. A call under a name that no function has in upper case is refused under that
upper case. Otherwise the last function of that upper case is in force. If it takes the arguments,
the call gives what its body makes of them. If they are too few or too many, the call is refused
with the name of the function and the number of arguments, and the body is not run: another body in
its place changes nothing. One more registration changes no call under a name of another upper
case. The names ascend by their bytes and are the upper cases of the names ever registered, and the
size of the registry is their number. -/
theorem registered_last_wins (start : Start) (rs : List Registration) :
    let history := start.functions ++ rs.map Registration.definition
    let registry := start.registry.registerAll (rs.map Registration.definition)
    (∀ name, (∀ d ∈ history, Text.upper d.name ≠ Text.upper name) → ∀ args,
        registry.call name args = .error (.refused (.unknownFunction (Text.upper name)))) ∧
      (∀ name d, InForce history name d → ∀ args,
        (d.Takes args.length → registry.call name args = d.body args) ∧
        (args.length < d.least → registry.call name args =
          .error (.refused (.argumentCount d.name s!"at least {d.least}" args.length))) ∧
        (∀ most, d.most = some most → d.least ≤ args.length → most < args.length →
          registry.call name args =
            .error (.refused (.argumentCount d.name s!"at most {most}" args.length))) ∧
        (¬ d.Takes args.length → ∀ body,
          (registry.register { d with body }).call name args = registry.call name args)) ∧
      (∀ (r : Registration) name, Text.upper r.name ≠ Text.upper name → ∀ args,
        (registry.register r.definition).call name args = registry.call name args) ∧
      registry.names.Pairwise (fun a b => Text.bytes a < Text.bytes b) ∧
      (∀ key, key ∈ registry.names ↔
        (∃ d ∈ start.functions, Text.upper d.name = key) ∨ ∃ r ∈ rs, Text.upper r.name = key) ∧
      registry.size = registry.names.length := by
  intro history registry
  have hregistry : registry = empty.registerAll history := registerAll_start start _
  refine ⟨fun name hnone args => ?_, fun name d hd args => ?_, fun r name hne => ?_,
    pairwise_names registry, fun key => ?_, size_eq registry⟩
  · rw [hregistry, call_eq_of_get?_eq_none (get?_eq_none hnone)]
  · have hcall : registry.call name args = d.call args := by
      rw [hregistry, call_of_get? hd.get?_eq]
    rw [hcall]
    refine ⟨Definition.call_of_takes, Definition.call_of_lt_least,
      fun most => Definition.call_of_most_lt, fun hnot body => ?_⟩
    have hother : (registry.register { d with body }).get? name = some { d with body } :=
      get?_register_of_eq hd.upper_eq
    rw [call_of_get? hother, Definition.call_body hnot]
  · exact call_register_of_ne (by rwa [Registration.upper_name_definition])
  · rw [hregistry, mem_names_registerAll]
    simp only [not_mem_names_empty, or_false, history, List.mem_append, List.mem_map, or_and_right,
      exists_or, exists_exists_and_eq_and, Registration.upper_name_definition]

/-- Two registrations under the upper case of `SUM`: a function that takes any arguments, and one
that takes none, since it asks for three and allows one, and would crash. -/
def hiddenSum : List Registration :=
  [.variadic "sum" fun _ => .ok .blank, .made "ſum" 3 (some 1) fun _ => .error .crashed]

theorem registered_last_wins_hiddenSum :
    let registry := standard.registerAll (hiddenSum.map Registration.definition)
    registry.call "Sum" [.blank] =
        .error (.refused (.argumentCount "SUM" "at least 3" 1)) ∧
      registry.call "Sum" [.blank, .blank, .blank] =
        .error (.refused (.argumentCount "SUM" "at most 1" 3)) ∧
      registry.call "total" [] = .error (.refused (.unknownFunction "TOTAL")) := by
  intro registry
  obtain ⟨hunknown, hcalls, _⟩ := registered_last_wins .standard hiddenSum
  have hforce : InForce (Functions.library ++ hiddenSum.map Registration.definition) "Sum"
      (.make "ſum" 3 (some 1) fun _ => .error .crashed) :=
    ⟨Functions.library ++ [.make "sum" 0 none fun _ => .ok .blank], [], by
      rw [List.append_assoc]
      rfl, by decide +kernel, List.forall_mem_nil _⟩
  have hname : Text.upper "ſum" = "SUM" := by decide +kernel
  have htotal : Text.upper "total" = "TOTAL" := by decide +kernel
  have hfew := (hcalls "Sum" _ hforce [.blank]).2.1 (by decide)
  have hmany := (hcalls "Sum" _ hforce [.blank, .blank, .blank]).2.2.1 1 rfl (by decide) (by decide)
  have hnone := hunknown "total" (by decide +kernel) []
  rw [Definition.make, hname] at hfew hmany
  rw [htotal] at hnone
  exact ⟨hfew, hmany, hnone⟩

end Registry

end Worksheet
