import Std.Data.TreeMap
import Worksheet.Formula.Error
import Worksheet.Value

/-!
# Function registries

A registry holds functions under the upper case of their names, each with the least and the most
number of arguments it takes. A later registration under a name replaces an earlier one. A call
checks the number of arguments before the function is run.

Results:
* `get?_register`: looking up after a registration.
* `call_eq_of_get?_eq_none`: calls of unknown functions.
-/

namespace Worksheet

/-- Why a function call has no value. -/
inductive Failure where
  | refused (e : Formula.FormulaError)
  | crashed
deriving DecidableEq, Repr

/-- What a function does with its arguments. -/
abbrev Body := List Value → Except Failure Value

/-- A function with its name and the number of arguments it takes. -/
structure Definition where
  name : String
  least : Nat
  most : Option Nat
  body : Body

namespace Definition

/-- A function named by the upper case of a text. -/
def make (name : String) (least : Nat) (most : Option Nat) (body : Body) : Definition :=
  ⟨Text.upper name, least, most, body⟩

/-- The number of arguments that a function expects instead of `got`, if it does not take it. -/
def countFault? (d : Definition) (got : Nat) : Option String :=
  if got < d.least then some s!"at least {d.least}"
  else
    match d.most with
    | some most => if most < got then some s!"at most {most}" else none
    | none => none

/-- Runs a function once the number of arguments is checked. -/
def call (d : Definition) (args : List Value) : Except Failure Value :=
  match d.countFault? args.length with
  | some expected => .error (.refused (.argumentCount d.name expected args.length))
  | none => d.body args

end Definition

/-- Functions by the upper case of their names. -/
structure Registry where
  entries : Std.TreeMap String Definition

namespace Registry

/-- The registry without functions. -/
def empty : Registry :=
  ⟨∅⟩

/-- Registers a function in place of any other of its name. -/
def register (registry : Registry) (d : Definition) : Registry :=
  ⟨registry.entries.insert (Text.upper d.name) d⟩

/-- Registers functions one after the other. -/
def registerAll (registry : Registry) (ds : List Definition) : Registry :=
  ds.foldl register registry

/-- The function of a name. -/
def get? (registry : Registry) (name : String) : Option Definition :=
  registry.entries[Text.upper name]?

/-- Calls a function by its name. -/
def call (registry : Registry) (name : String) (args : List Value) : Except Failure Value :=
  match registry.get? name with
  | some d => d.call args
  | none => .error (.refused (.unknownFunction (Text.upper name)))

/-- The names of the functions, in order. -/
def names (registry : Registry) : List String :=
  registry.entries.keys

/-- The number of functions. -/
def size (registry : Registry) : Nat :=
  registry.entries.size

/-- Whether there are no functions. -/
def isEmpty (registry : Registry) : Bool :=
  registry.entries.isEmpty

/-! ## Looking up after a change -/

theorem get?_empty (name : String) : empty.get? name = none := by
  simp [get?, empty]

theorem get?_register (registry : Registry) (d : Definition) (name : String) :
    (registry.register d).get? name =
      if Text.upper d.name = Text.upper name then some d else registry.get? name := by
  simp only [get?, register, Std.TreeMap.getElem?_insert, Std.LawfulEqCmp.compare_eq_iff_eq]

theorem call_eq_of_get?_eq_none {registry : Registry} {name : String} {args : List Value}
    (h : registry.get? name = none) :
    registry.call name args = .error (.refused (.unknownFunction (Text.upper name))) := by
  simp [call, h]

end Registry

end Worksheet
