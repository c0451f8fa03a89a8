import Mathlib.Data.List.Basic

/-!
# Steps that overwrite

Sheets and registries change step by step and are read in one place at a time. A step that concerns
the place puts something of its own there, whatever was there before, and any other step leaves the
place alone. So after any number of steps it is the last one that concerns the place that says what
is read.

Results:
* `find?_reverse_eq_some_iff`: the last member of a list that meets a condition.
* `read_foldl`: what is read in a place after steps that overwrite it.
-/

namespace Worksheet

variable {α β σ : Type} {p : α → Bool} {xs : List α} {x : α}

theorem find?_reverse_eq_none_iff : xs.reverse.find? p = none ↔ ∀ x ∈ xs, p x = false := by
  rw [List.find?_eq_none]
  simp only [List.mem_reverse, Bool.not_eq_true]

/-- Of the members that meet the condition, the last one is found from the end. -/
theorem find?_reverse_eq_some_iff :
    xs.reverse.find? p = some x ↔
      p x = true ∧ ∃ front back, xs = front ++ x :: back ∧ ∀ y ∈ back, p y = false := by
  rw [List.find?_eq_some_iff_append]
  constructor
  · rintro ⟨hx, later, earlier, hreverse, hlater⟩
    have hxs := congrArg List.reverse hreverse
    rw [List.reverse_reverse, List.reverse_append, List.reverse_cons, List.append_assoc,
      List.singleton_append] at hxs
    exact ⟨hx, earlier.reverse, later.reverse, hxs,
      fun y hy => by simpa using hlater y (List.mem_reverse.mp hy)⟩
  · rintro ⟨hx, front, back, rfl, hback⟩
    exact ⟨hx, back.reverse, front.reverse, by simp,
      fun y hy => by simp [hback y (List.mem_reverse.mp hy)]⟩

/-- The last step that concerns a place says what is read there. -/
theorem read_foldl {step : σ → α → σ} {concerns : α → Bool} {leaves : α → β} (read : σ → β)
    (h : ∀ s x, read (step s x) = if concerns x then leaves x else read s) (s : σ) (xs : List α) :
    read (xs.foldl step s) =
      match xs.reverse.find? concerns with
      | some x => leaves x
      | none => read s := by
  induction xs generalizing s with
  | nil => rfl
  | cons x xs ih =>
    -- the first step stands last in the reversed list, so it is asked only behind all others
    rw [List.foldl_cons, ih, h, List.reverse_cons, List.find?_append]
    cases xs.reverse.find? concerns with
    | some later => rfl
    | none => by_cases hx : concerns x <;> simp [hx]

end Worksheet
