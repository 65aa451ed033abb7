import Mathlib.Tactic

/-!
Contract: fallible computations read backwards from their success.

Owns: the refusal step, the equivalences that peel a successful `Except`
computation apart, one step at a time, and the selection of some results of a
computation on a list.

Does not own: any error type.
-/

namespace Oxo.Foundation

variable {ε α β : Type}

/-- Refuse with `error` when the condition holds. -/
def refuseIf (condition : Bool) (error : ε) : Except ε Unit :=
  if condition then .error error else .ok ()

theorem bind_eq_ok {first : Except ε α} {next : α → Except ε β} {result : β} :
    (first >>= next) = .ok result ↔ ∃ value, first = .ok value ∧ next value = .ok result := by
  cases first with
  | error failure => simp [bind, Except.bind]
  | ok value => simp [bind, Except.bind]

theorem mapError_eq_ok {ε' : Type} {result : Except ε α} {change : ε → ε'} {value : α} :
    result.mapError change = .ok value ↔ result = .ok value := by
  cases result with
  | error failure => simp [Except.mapError]
  | ok other => simp [Except.mapError]

@[simp] theorem ok_bind (value : α) (next : α → Except ε β) :
    (Except.ok value >>= next) = next value :=
  rfl

@[simp] theorem refuseIf_eq_ok {condition : Bool} {error : ε} {result : Unit} :
    refuseIf condition error = .ok result ↔ condition = false := by
  cases condition <;> simp [refuseIf]

theorem refuseIf_bind_eq_ok {condition : Bool} {error : ε} {next : Unit → Except ε β}
    {result : β} :
    (refuseIf condition error >>= next) = .ok result ↔
      condition = false ∧ next () = .ok result := by
  cases condition <;> simp [refuseIf, bind, Except.bind]

/-- Selecting inputs selects their results. -/
theorem mapM_filter_of_ok {convert : α → Except ε β} {keepInput : α → Bool}
    {keepResult : β → Bool}
    (agree : ∀ input result, convert input = .ok result → keepResult result = keepInput input)
    {inputs : List α} {results : List β} (converted : inputs.mapM convert = .ok results) :
    (inputs.filter keepInput).mapM convert = .ok (results.filter keepResult) := by
  induction inputs generalizing results with
  | nil =>
      cases converted
      rfl
  | cons input rest inductionHypothesis =>
      rw [List.mapM_cons, bind_eq_ok] at converted
      obtain ⟨result, first, converted⟩ := converted
      rw [bind_eq_ok] at converted
      obtain ⟨later, restConverted, built⟩ := converted
      cases built
      rw [List.filter_cons, List.filter_cons, agree input result first]
      cases keepInput input with
      | false => exact inductionHypothesis restConverted
      | true =>
          simp only [if_true]
          rw [List.mapM_cons, first, ok_bind, inductionHypothesis restConverted]
          rfl

end Oxo.Foundation
