import Oxo.Foundation.Program

/-!
Contract: programs in an environment that gives every operation one answer.

Owns: what such a program comes to, the operations it performs, and the rules that compute both
along a program.

Does not own: environments that change with the operations.
-/

namespace Oxo.Foundation

namespace Program

variable {Op : Type} {Answer : Op → Type} {α β ε : Type}

/-- What the program comes to, unless it stops. -/
def eval (reply : (op : Op) → Answer op) : Program Op Answer α → Option α
  | pure value => some value
  | call op next => (next (reply op)).eval reply
  | stop => none

/-- The operations of the run, in order. -/
def performed (reply : (op : Op) → Answer op) : Program Op Answer α → List Op
  | pure _ => []
  | call op next => op :: (next (reply op)).performed reply
  | stop => []

section

variable {reply : (op : Op) → Answer op}

@[simp] theorem eval_pure (value : α) :
    (Pure.pure value : Program Op Answer α).eval reply = some value :=
  rfl

@[simp] theorem eval_perform (op : Op) :
    (perform op : Program Op Answer _).eval reply = some (reply op) :=
  rfl

theorem eval_bind (program : Program Op Answer α) (continuation : α → Program Op Answer β) :
    (program >>= continuation).eval reply =
      (program.eval reply).bind fun value => (continuation value).eval reply := by
  induction program with
  | pure value => rfl
  | call op next inductionHypothesis => exact inductionHypothesis (reply op)
  | stop => rfl

/-- A program that may fail in front of another. -/
theorem eval_bindExcept (program : ExceptT ε (Program Op Answer) α)
    (continuation : α → ExceptT ε (Program Op Answer) β) :
    Program.eval reply (program >>= continuation).run =
      match Program.eval reply program.run with
      | some (.ok value) => Program.eval reply (continuation value).run
      | some (.error failure) => some (.error failure)
      | none => none := by
  refine (eval_bind program.run _).trans ?_
  cases Program.eval reply program.run with
  | none => rfl
  | some result =>
      cases result with
      | ok value => rfl
      | error failure => rfl

/-- A run performs only what the program may perform whatever is answered. -/
theorem performed_of_only {kind : Op → Prop} {program : Program Op Answer α}
    {post : α → Unit → Prop} (meets : (Contract.only kind).Meets program () post) :
    ∀ op ∈ program.performed reply, kind op := by
  induction program with
  | pure value => exact fun op member => nomatch member
  | call op next inductionHypothesis =>
      intro other member
      rcases List.mem_cons.mp member with rfl | later
      · exact meets.1
      · exact inductionHypothesis (reply op) (meets.2 (reply op)) other later
  | stop => exact fun op member => nomatch member

end

end Program

end Oxo.Foundation
