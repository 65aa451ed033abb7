import Mathlib.Algebra.BigOperators.Group.Finset.Basic
import Mathlib.Data.Finset.Dedup
import Oxo.Foundation.Program

/-!
Contract: programs that run side by side.

Owns: the traces of finished programs, what a contract says about them, logs that interleave
the events of many tasks, and quantities that add up over a log.

Does not own: what the tasks do.
-/

namespace Oxo.Foundation

/-! ## Finished programs -/

section

variable {Op : Type} {Answer : Op → Type} {σ α : Type}

/-- The events of a program that ran to its end, and its result. -/
inductive Program.Completes : Program Op Answer α → List (Program.Event Op Answer) → α → Prop where
  | pure (value : α) : Completes (.pure value) [] value
  | step {op : Op} {next : Answer op → Program Op Answer α}
      {events : List (Program.Event Op Answer)} {value : α} (answer : Answer op)
      (rest : Completes (next answer) events value) :
      Completes (.call op next) (⟨op, answer⟩ :: events) value

/-- A contract says of a finished program what holds at its end. -/
theorem Contract.Meets.of_completes {contract : Contract Op Answer σ}
    {program : Program Op Answer α} {state : σ} {post : α → σ → Prop} {value : α}
    {events : List (Program.Event Op Answer)} (meets : contract.Meets program state post)
    (completes : program.Completes events value) : post value (contract.watch state events) := by
  induction completes generalizing state with
  | pure value => exact meets
  | step answer rest inductionHypothesis => exact inductionHypothesis (meets.2 answer)

end

/-! ## Logs -/

section

variable {ι ε M : Type} [DecidableEq ι] [AddCommMonoid M]

/-- The events of one task, in order. -/
def eventsOf (task : ι) (log : List (ι × ε)) : List ε :=
  (log.filter fun entry => entry.1 = task).map Prod.snd

/-- The tasks that have an event. -/
def tasksOf (log : List (ι × ε)) : Finset ι :=
  (log.map Prod.fst).toFinset

theorem sum_eventsOf_cons (weight : ε → M) (task : ι) (entry : ι × ε) (log : List (ι × ε)) :
    ((eventsOf task (entry :: log)).map weight).sum =
      (if entry.1 = task then weight entry.2 else 0) + ((eventsOf task log).map weight).sum := by
  by_cases own : entry.1 = task
  · have kept : decide (entry.1 = task) = true := decide_eq_true own
    rw [if_pos own, eventsOf, List.filter_cons, if_pos kept, List.map_cons, List.map_cons,
      List.sum_cons]
    rfl
  · have dropped : ¬ decide (entry.1 = task) = true := by simpa using own
    rw [if_neg own, zero_add, eventsOf, List.filter_cons, if_neg dropped]
    rfl

private theorem sum_eventsOf_tasks (weight : ε → M) {log : List (ι × ε)} {tasks : Finset ι}
    (covers : ∀ entry ∈ log, entry.1 ∈ tasks) :
    ∑ task ∈ tasks, ((eventsOf task log).map weight).sum =
      (log.map fun entry => weight entry.2).sum := by
  induction log with
  | nil => exact Finset.sum_const_zero
  | cons entry rest inductionHypothesis =>
      obtain ⟨covered, coversRest⟩ := List.forall_mem_cons.mp covers
      simp only [sum_eventsOf_cons]
      rw [Finset.sum_add_distrib, inductionHypothesis coversRest, Finset.sum_ite_eq,
        if_pos covered, List.map_cons, List.sum_cons]

/-- What adds up over the log adds up over its tasks. -/
theorem sum_eventsOf (weight : ε → M) (log : List (ι × ε)) :
    ∑ task ∈ tasksOf log, ((eventsOf task log).map weight).sum =
      (log.map fun entry => weight entry.2).sum :=
  sum_eventsOf_tasks weight fun _ member =>
    List.mem_toFinset.mpr (List.mem_map_of_mem member)

end

end Oxo.Foundation
