import Worksheet.Proofs.Functions.Lookup

/-!
# What the functions of the library answer

A function of the library answers with a number, a text or a logical value of its own, with one of
its arguments as it is, or with an error. The error is one that an element of its arguments is, or
the one for arguments that it cannot read, or, for a few functions, one that it raises itself. So no
function makes a list or a blank, and no error comes from nowhere.

Reading arguments may end early, with an error in the place of what was to be read. That each such
error may be answered with is carried along from one reading to the next.

Results:
* `ErrorsAnswered.bind`, `answers_bind`: readings one after the other.
* `answers_of_mem_library`: the answers of all functions.
* `Registry.mem_library_of_get?`: what is found under a name is a function of the library.
-/

namespace Worksheet

namespace Functions

/-! ## Answers -/

/-- The functions that raise an error of their own, other than the one for arguments that cannot be
read. -/
def raisers : List (String × ErrorCode) :=
  [("SQRT", .number), ("MOD", .divisionByZero), ("AVERAGE", .divisionByZero),
    ("NA", .notAvailable)]

/-- What a function of the library may answer to arguments. -/
inductive Answers (name : String) (args : List Value) : Value → Prop
  | number (x) : Answers name args (.number x)
  | text (s) : Answers name args (.text s)
  | logical (b) : Answers name args (.logical b)
  /-- An argument is handed back as it is. -/
  | argument {v} : v ∈ args → Answers name args v
  /-- An error among the elements of the arguments is passed on. -/
  | passed {code} : .error code ∈ flatten args → Answers name args (.error code)
  /-- The arguments cannot be read. -/
  | refused : Answers name args (.error .value)
  | raised {code} : (name, code) ∈ raisers → Answers name args (.error code)

variable {name : String} {args : List Value} {α β : Type}

theorem error_mem_flatten {code : ErrorCode} (h : .error code ∈ args) :
    .error code ∈ flatten args := by
  apply List.mem_flatMap.mpr
  exact ⟨.error code, h, List.mem_singleton_self _⟩

/-! ## Reading arguments -/

/-- Each error that a reading may end with may be answered with. -/
def ErrorsAnswered (name : String) (args : List Value) (reading : Except ErrorCode α) : Prop :=
  ∀ code, reading = .error code → Answers name args (.error code)

namespace ErrorsAnswered

theorem ok (a : α) : ErrorsAnswered name args (.ok a) := by
  intro code h
  cases h

theorem error {code : ErrorCode} (h : Answers name args (.error code)) :
    ErrorsAnswered name args (.error code : Except ErrorCode α) := by
  intro other hother
  rwa [← Except.error.inj hother]

theorem bind {reading : Except ErrorCode α} {next : α → Except ErrorCode β}
    (h : ErrorsAnswered name args reading) (hnext : ∀ a, ErrorsAnswered name args (next a)) :
    ErrorsAnswered name args (reading >>= next) := by
  cases reading with
  | ok a => exact hnext a
  | error code => exact error (h code rfl)

end ErrorsAnswered

/-- A function that goes on after a reading answers with an error of the reading or as it does
then. -/
theorem answers_bind {reading : Except ErrorCode α} {next : α → Except ErrorCode Value}
    (h : ErrorsAnswered name args reading) (hnext : ∀ a, Answers name args (settle (next a))) :
    Answers name args (settle (reading >>= next)) := by
  cases reading with
  | ok a => exact hnext a
  | error code => exact h code rfl

theorem answers_map {reading : Except ErrorCode α} {f : α → Value}
    (h : ErrorsAnswered name args reading) (hf : ∀ a, Answers name args (f a)) :
    Answers name args (settle (reading.map f)) := by
  cases reading with
  | ok a => exact hf a
  | error code => exact h code rfl

theorem refuseErrors_answered : ErrorsAnswered name args (refuseErrors args) := by
  intro code h
  unfold refuseErrors at h
  split at h
  · next e hfirst =>
    cases h
    obtain ⟨v, hv, herror⟩ := List.exists_of_findSome?_eq_some hfirst
    cases v with
    | error e =>
      cases herror
      exact .passed (error_mem_flatten hv)
    | _ => cases herror
  · cases h

theorem numberAt_answered (index : Nat) : ErrorsAnswered name args (numberAt args index) := by
  intro code h
  unfold numberAt at h
  split at h
  · next e hargument =>
    cases h
    exact .passed (error_mem_flatten (List.mem_of_getElem? hargument))
  · split at h <;> cases h
    exact .refused
  · cases h
    exact .refused

theorem textAt_answered (index : Nat) : ErrorsAnswered name args (textAt args index) := by
  intro code h
  unfold textAt at h
  split at h
  · next e hargument =>
    cases h
    exact .passed (error_mem_flatten (List.mem_of_getElem? hargument))
  · cases h
    exact .refused
  · cases h
    exact .refused
  · cases h

theorem countAt_answered (index : Nat) : ErrorsAnswered name args (countAt args index) := by
  apply (numberAt_answered index).bind
  intro x
  split
  · exact .ok _
  · exact .error .refused

theorem logicalOf_answered {v : Value} (h : ∀ code, v = .error code → v ∈ flatten args) :
    ErrorsAnswered name args (logicalOf v) := by
  intro code hcode
  unfold logicalOf at hcode
  split at hcode
  · cases hcode
    exact .passed (h _ rfl)
  · split at hcode <;> cases hcode
    exact .refused

/-! ## Reading elements -/

/-- A scan of logical values that goes on behind an element or ends with what is read of it. -/
theorem scan_answered {scan : List Value → Except ErrorCode Bool} {b : Bool}
    (hnil : scan [] = .ok b)
    (hcons : ∀ v rest, scan (v :: rest) = scan rest ∨ scan (v :: rest) = logicalOf v)
    {items : List Value} (h : items ⊆ flatten args) : ErrorsAnswered name args (scan items) := by
  induction items with
  | nil =>
    rw [hnil]
    exact .ok b
  | cons v rest ih =>
    rcases hcons v rest with heq | heq
    · rw [heq]
      exact ih fun item hitem => h (List.mem_cons_of_mem _ hitem)
    · rw [heq]
      exact logicalOf_answered fun _ _ => h (List.mem_cons_self ..)

theorem allTrue_answered {items : List Value} (h : items ⊆ flatten args) :
    ErrorsAnswered name args (allTrue items) := by
  apply scan_answered rfl _ h
  intro v rest
  rw [allTrue]
  split
  · exact .inl rfl
  · exact .inr rfl

theorem someTrue_answered {items : List Value} (h : items ⊆ flatten args) :
    ErrorsAnswered name args (someTrue items) := by
  apply scan_answered rfl _ h
  intro v rest
  rw [someTrue]
  split
  · exact .inl rfl
  · exact .inr rfl

theorem joinTexts_answered {items : List Value} (h : items ⊆ flatten args) :
    ErrorsAnswered name args (joinTexts items) := by
  induction items with
  | nil => exact .ok _
  | cons v rest ih =>
    have hrest := ih fun item hitem => h (List.mem_cons_of_mem _ hitem)
    cases v with
    | error e => exact .error (.passed (h (List.mem_cons_self ..)))
    | _ =>
      unfold joinTexts
      split
      · exact .ok _
      · next hjoin => exact .error (hrest _ hjoin)

/-! ## The functions of the library -/

theorem sumIf_answers : Answers name args (sumIf args) := by
  unfold sumIf
  split
  · exact .number _
  · exact .number _
  · exact .refused

theorem rounded_answers : Answers name args (rounded args) := by
  apply answers_bind refuseErrors_answered
  intro _
  apply answers_bind (numberAt_answered 0)
  intro x
  apply answers_bind (numberAt_answered 1)
  intro places
  exact .number _

theorem absolute_answers : Answers name args (absolute args) := by
  apply answers_bind (numberAt_answered 0)
  intro x
  exact .number _

theorem squareRoot_answers (h : (name, .number) ∈ raisers) :
    Answers name args (squareRoot args) := by
  apply answers_bind (numberAt_answered 0)
  intro x
  split
  · exact .raised h
  · exact .number _

theorem remainder_answers (h : (name, .divisionByZero) ∈ raisers) :
    Answers name args (remainder args) := by
  apply answers_bind refuseErrors_answered
  intro _
  apply answers_bind (numberAt_answered 0)
  intro x
  apply answers_bind (numberAt_answered 1)
  intro divisor
  split
  · exact .raised h
  · exact .number _

theorem average_answers (h : (name, .divisionByZero) ∈ raisers) :
    Answers name args (average args) := by
  unfold average
  dsimp only
  split
  · exact .raised h
  · exact .number _

theorem countIf_answers : Answers name args (countIf args) := by
  unfold countIf
  split
  · exact .number _
  · exact .refused

/-- The condition is the only one of the three that is read. -/
theorem ifThenElse_answers : Answers name args (ifThenElse args) := by
  unfold ifThenElse
  split
  · next condition whenTrue whenFalse =>
    have hcondition : ErrorsAnswered name [condition, whenTrue, whenFalse] (logicalOf condition) :=
      logicalOf_answered fun _ herror => herror ▸ error_mem_flatten (herror ▸ by simp)
    apply answers_bind hcondition
    intro chosen
    cases chosen with
    | true => exact .argument (v := whenTrue) (by simp)
    | false => exact .argument (v := whenFalse) (by simp)
  · exact .refused

theorem conjunction_answers : Answers name args (conjunction args) :=
  answers_map (allTrue_answered (List.Subset.refl _)) .logical

theorem disjunction_answers : Answers name args (disjunction args) :=
  answers_map (someTrue_answered (List.Subset.refl _)) .logical

theorem negation_answers : Answers name args (negation args) := by
  apply answers_bind refuseErrors_answered
  intro _
  split
  · next v =>
    have hread : ErrorsAnswered name [v] (logicalOf v) :=
      logicalOf_answered fun _ herror => herror ▸ error_mem_flatten (herror ▸ by simp)
    apply answers_bind hread
    intro b
    exact .logical _
  · exact .refused

theorem ifError_answers : Answers name args (ifError args) := by
  unfold ifError
  split
  · split
    · exact .argument (by simp)
    · exact .argument (by simp)
  · exact .refused

theorem concatenate_answers : Answers name args (concatenate args) :=
  answers_map (joinTexts_answered (List.Subset.refl _)) .text

/-- Functions that read a text and a count. -/
theorem answers_textAt_countAt {f : String → Nat → Value} (hf : ∀ s n, Answers name args (f s n)) :
    Answers name args (settle do
      refuseErrors args
      let s ← textAt args 0
      let n ← countAt args 1
      return f s n) := by
  apply answers_bind refuseErrors_answered
  intro _
  apply answers_bind (textAt_answered 0)
  intro s
  apply answers_bind (countAt_answered 1)
  intro n
  exact hf s n

theorem middle_answers : Answers name args (middle args) := by
  apply answers_bind refuseErrors_answered
  intro _
  apply answers_bind (textAt_answered 0)
  intro s
  apply answers_bind (numberAt_answered 1)
  intro start
  apply answers_bind (countAt_answered 2)
  intro n
  exact .text _

/-- Functions that read a text and nothing else. -/
theorem answers_textAt {f : String → Value} (hf : ∀ s, Answers name args (f s)) :
    Answers name args (settle do return f (← textAt args 0)) := by
  apply answers_bind (textAt_answered 0)
  intro s
  exact hf s

/-- Functions that test an argument. -/
theorem test_answers (holds : Value → Bool) : Answers name args (test holds args) := by
  unfold test
  split
  · exact .logical _
  · exact .refused

theorem entry_answers {least : Nat} {most : Option Nat} {f : List Value → Value}
    (h : Answers (Text.upper name) args (f args)) :
    ∃ v, (entry name least most f).body args = .ok v ∧
      Answers (entry name least most f).name args v :=
  ⟨f args, rfl, h⟩

/-- Every function of the library has an answer to any arguments, and it is one of those. -/
theorem answers_of_mem_library {d : Definition} (h : d ∈ library) (args : List Value) :
    ∃ v, d.body args = .ok v ∧ Answers d.name args v := by
  revert d
  simp only [library, List.forall_mem_cons, List.not_mem_nil, false_implies, implies_true, and_true]
  exact ⟨entry_answers (.number _), entry_answers sumIf_answers, entry_answers rounded_answers,
    entry_answers absolute_answers, entry_answers (squareRoot_answers (by decide +kernel)),
    entry_answers (remainder_answers (by decide +kernel)),
    entry_answers (average_answers (by decide +kernel)), entry_answers (.number _),
    entry_answers (.number _), entry_answers (.number _), entry_answers countIf_answers,
    entry_answers ifThenElse_answers, entry_answers conjunction_answers,
    entry_answers disjunction_answers, entry_answers negation_answers,
    entry_answers ifError_answers, entry_answers concatenate_answers,
    entry_answers (answers_textAt_countAt fun _ _ => .text _),
    entry_answers (answers_textAt_countAt fun _ _ => .text _), entry_answers middle_answers,
    entry_answers (answers_textAt fun _ => .number _),
    entry_answers (answers_textAt fun _ => .text _),
    entry_answers (answers_textAt fun _ => .text _),
    entry_answers (answers_textAt fun _ => .text _),
    entry_answers (test_answers _), entry_answers (test_answers _), entry_answers (test_answers _),
    entry_answers (test_answers _), entry_answers (test_answers _),
    entry_answers (.raised (by decide +kernel))⟩

end Functions

/-! ## Calls -/

namespace Registry

/-- What is found under a name is the function of the library with that name in upper case. -/
theorem mem_library_of_get? {name : String} {d : Definition} (h : standard.get? name = some d) :
    d ∈ Functions.library ∧ Text.upper d.name = Text.upper name := by
  rw [standard, get?_registerAll, get?_empty, Option.or_none] at h
  have hmem := List.mem_reverse.mp (List.mem_of_find?_eq_some h)
  have hname := List.find?_some h
  exact ⟨hmem, by simpa using hname⟩

end Registry

end Worksheet
