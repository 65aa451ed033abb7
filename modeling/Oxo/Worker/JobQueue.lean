import Mathlib.Tactic
import Oxo.Foundation.Machine

/-!
Contract: the native worker's job queue (`oxo-worker/src/native/serve.rs`, `JobQueue`).

Owns: the queue operations under their lock, every interleaving of threads that push, pop
and close, the log of what they were answered, and what the log and the queue say of each
other in every reachable state.

Does not own: the jobs, or what a thread does with one. Each critical section is one step.
A thread that waits on the condition variable may wake at any step, notified or not.
-/

namespace Oxo.Worker.JobQueue

open Oxo.Foundation

/-! ## Operations under the lock -/

structure QueueState (J : Type) where
  closed : Bool
  jobs : List J
deriving DecidableEq

variable {J : Type}

def QueueState.new : QueueState J := ⟨false, []⟩

def QueueState.close (state : QueueState J) : QueueState J :=
  { state with closed := true }

def QueueState.push (capacity : Nat) (state : QueueState J) (job : J) : QueueState J × Bool :=
  if state.closed ∨ capacity ≤ state.jobs.length then (state, false)
  else ({ state with jobs := state.jobs ++ [job] }, true)

/-- How one turn of the pop loop ends. -/
inductive Turn (J : Type) where
  | returned (job : Option J)
  | waits

/-- One turn of the loop in `pop_blocking`. -/
def QueueState.turn (state : QueueState J) : QueueState J × Turn J :=
  match state.jobs with
  | job :: rest => ({ state with jobs := rest }, .returned (some job))
  | [] => if state.closed then (state, .returned none) else (state, .waits)

/-! ## Threads -/

/-- A thread is outside the queue, about to take a turn of its pop loop, or in the wait of
the condition variable. -/
inductive Thread where
  | outside
  | polling
  | waiting
deriving DecidableEq

/-- What a thread was answered. -/
inductive Event (τ J : Type) where
  | accepted (thread : τ) (job : J)
  | refused (thread : τ) (job : J)
  | served (thread : τ) (job : J)
  | dismissed (thread : τ)
  | closed (thread : τ)
deriving DecidableEq

inductive Action (τ J : Type) where
  | push (thread : τ) (job : J)
  | close (thread : τ)
  | pop (thread : τ)
  | turn (thread : τ)
  | wake (thread : τ)

structure State (τ J : Type) where
  queue : QueueState J
  thread : τ → Thread
  log : List (Event τ J)

variable {τ : Type} [DecidableEq τ]

def State.initial : State τ J := ⟨.new, fun _ => .outside, []⟩

def State.move (state : State τ J) (thread : τ) (next : Thread) : State τ J :=
  { state with thread := Function.update state.thread thread next }

def State.note (state : State τ J) (queue : QueueState J) (event : Event τ J) : State τ J :=
  { state with queue := queue, log := state.log ++ [event] }

/-- A thread runs its next critical section, or wakes. -/
def step (capacity : Nat) (state : State τ J) : Action τ J → Option (State τ J)
  | .push thread job =>
      if state.thread thread = .outside then
        match state.queue.push capacity job with
        | (queue, true) => some (state.note queue (.accepted thread job))
        | (queue, false) => some (state.note queue (.refused thread job))
      else none
  | .close thread =>
      if state.thread thread = .outside then
        some (state.note state.queue.close (.closed thread))
      else none
  | .pop thread =>
      if state.thread thread = .outside then some (state.move thread .polling) else none
  | .turn thread =>
      if state.thread thread = .polling then
        match state.queue.turn with
        | (queue, .returned (some job)) =>
            some ((state.move thread .outside).note queue (.served thread job))
        | (queue, .returned none) =>
            some ((state.move thread .outside).note queue (.dismissed thread))
        | (_, .waits) => some (state.move thread .waiting)
      else none
  | .wake thread =>
      if state.thread thread = .waiting then some (state.move thread .polling) else none

/-! ## The log -/

/-- The job whose push was answered `true`. -/
def Event.accepted? : Event τ J → Option J
  | .accepted _ job => some job
  | _ => none

/-- The job that a pop returned. -/
def Event.served? : Event τ J → Option J
  | .served _ job => some job
  | _ => none

def acceptedJobs (log : List (Event τ J)) : List J :=
  log.filterMap Event.accepted?

def servedJobs (log : List (Event τ J)) : List J :=
  log.filterMap Event.served?

def hasClosed (log : List (Event τ J)) : Prop :=
  ∃ thread, Event.closed thread ∈ log

/-- What an event says of the log in front of it. -/
def Event.Fits (before : List (Event τ J)) : Event τ J → Prop
  | .accepted .. => ¬ hasClosed before
  | .dismissed _ => hasClosed before ∧ acceptedJobs before = servedJobs before
  | _ => True

/-- The queue is what was accepted and not yet served, in order and within the capacity;
nothing was accepted behind a close, and a pop was dismissed only when the queue was closed
and empty. -/
structure Exact (capacity : Nat) (state : State τ J) : Prop where
  accounted : acceptedJobs state.log = servedJobs state.log ++ state.queue.jobs
  bounded : state.queue.jobs.length ≤ capacity
  closed : state.queue.closed = true ↔ hasClosed state.log
  events : ∀ before event after, state.log = before ++ event :: after → event.Fits before

/-! ## Every step keeps the account -/

omit [DecidableEq τ] in
theorem acceptedJobs_concat (log : List (Event τ J)) (event : Event τ J) :
    acceptedJobs (log ++ [event]) = acceptedJobs log ++ event.accepted?.toList := by
  cases event <;> simp [acceptedJobs, Event.accepted?]

omit [DecidableEq τ] in
theorem servedJobs_concat (log : List (Event τ J)) (event : Event τ J) :
    servedJobs (log ++ [event]) = servedJobs log ++ event.served?.toList := by
  cases event <;> simp [servedJobs, Event.served?]

omit [DecidableEq τ] in
theorem hasClosed_concat (log : List (Event τ J)) (event : Event τ J) :
    hasClosed (log ++ [event]) ↔ hasClosed log ∨ ∃ thread, event = .closed thread := by
  simp only [hasClosed, List.mem_append, List.mem_singleton, exists_or, eq_comm]

/-- A cut of a longer log is a cut of the log, or its last event. -/
private theorem cut_concat {ε : Type} {log before after : List ε} {last event : ε}
    (cut : log ++ [last] = before ++ event :: after) :
    (∃ rest, log = before ++ event :: rest) ∨ (log = before ∧ last = event) := by
  induction after using List.reverseRecOn with
  | nil =>
      obtain ⟨sameLog, sameEvent⟩ := List.append_inj' cut rfl
      exact Or.inr ⟨sameLog, List.singleton_inj.mp sameEvent⟩
  | append_singleton rest final _ =>
      rw [← List.cons_append, ← List.append_assoc] at cut
      exact Or.inl ⟨rest, (List.append_inj' cut rfl).1⟩

section Steps

variable {capacity : Nat} {state : State τ J}

omit [DecidableEq τ] in
theorem exact_initial : Exact capacity (State.initial : State τ J) := by
  constructor
  · rfl
  · exact Nat.zero_le _
  · constructor
    · intro closed
      cases closed
    · rintro ⟨thread, member⟩
      cases member
  · intro before event after cut
    exact absurd cut.symm (List.append_ne_nil_of_right_ne_nil before (List.cons_ne_nil event after))

omit [DecidableEq τ] in
/-- An event that fits joins the log, beside a queue it accounts for. -/
private theorem Exact.note (exact : Exact capacity state) {queue : QueueState J}
    {event : Event τ J} (fits : event.Fits state.log)
    (accounted : state.queue.jobs ++ event.accepted?.toList = event.served?.toList ++ queue.jobs)
    (bounded : queue.jobs.length ≤ capacity)
    (closed : queue.closed = true ↔
      state.queue.closed = true ∨ ∃ thread, event = .closed thread) :
    Exact capacity (state.note queue event) := by
  constructor
  · show acceptedJobs (state.log ++ [event]) = servedJobs (state.log ++ [event]) ++ queue.jobs
    rw [acceptedJobs_concat, servedJobs_concat, exact.accounted, List.append_assoc, accounted,
      List.append_assoc]
  · exact bounded
  · show queue.closed = true ↔ hasClosed (state.log ++ [event])
    rw [hasClosed_concat, ← exact.closed]
    exact closed
  · intro before other after cut
    rcases cut_concat cut with ⟨rest, earlier⟩ | ⟨sameLog, sameEvent⟩
    · exact exact.events before other rest earlier
    · rw [← sameLog, ← sameEvent]
      exact fits

omit [DecidableEq τ] in
private theorem Exact.push (exact : Exact capacity state) (thread : τ) {job : J}
    {queue : QueueState J} {accepted : Bool}
    (pushed : state.queue.push capacity job = (queue, accepted)) :
    Exact capacity (state.note queue
      (if accepted then .accepted thread job else .refused thread job)) := by
  unfold QueueState.push at pushed
  split at pushed
  · cases pushed
    apply exact.note
    · exact trivial
    · exact List.append_nil _
    · exact exact.bounded
    · simp
  · rename_i admitted
    rw [not_or, Nat.not_le] at admitted
    cases pushed
    apply exact.note
    · show ¬ hasClosed state.log
      rw [← exact.closed]
      exact admitted.1
    · rfl
    · rw [List.length_append]
      exact admitted.2
    · simp

omit [DecidableEq τ] in
private theorem Exact.close (exact : Exact capacity state) (thread : τ) :
    Exact capacity (state.note state.queue.close (.closed thread)) := by
  apply exact.note
  · exact trivial
  · exact List.append_nil _
  · exact exact.bounded
  · simp [QueueState.close]

omit [DecidableEq τ] in
private theorem Exact.serve (exact : Exact capacity state) (thread : τ) {job : J}
    {queue : QueueState J} (turned : state.queue.turn = (queue, .returned (some job))) :
    Exact capacity (state.note queue (.served thread job)) := by
  unfold QueueState.turn at turned
  split at turned
  · rename_i front rest jobs
    cases turned
    have bounded := exact.bounded
    rw [jobs] at bounded
    apply exact.note
    · exact trivial
    · rw [jobs]
      exact List.append_nil _
    · exact Nat.le_of_succ_le bounded
    · simp
  · split at turned <;> cases turned

omit [DecidableEq τ] in
private theorem Exact.dismiss (exact : Exact capacity state) (thread : τ)
    {queue : QueueState J} (turned : state.queue.turn = (queue, .returned none)) :
    Exact capacity (state.note queue (.dismissed thread)) := by
  unfold QueueState.turn at turned
  split at turned
  · cases turned
  · rename_i empty
    split at turned
    · rename_i closed
      cases turned
      have accounted := exact.accounted
      rw [empty, List.append_nil] at accounted
      apply exact.note
      · exact ⟨exact.closed.mp closed, accounted⟩
      · exact List.append_nil _
      · exact exact.bounded
      · simp
    · cases turned

private theorem Exact.move (exact : Exact capacity state) (thread : τ) (next : Thread) :
    Exact capacity (state.move thread next) :=
  ⟨exact.accounted, exact.bounded, exact.closed, exact.events⟩

private theorem Exact.step (exact : Exact capacity state) {action : Action τ J}
    {next : State τ J} (stepped : JobQueue.step capacity state action = some next) :
    Exact capacity next := by
  cases action with
  | push thread job =>
      simp only [JobQueue.step, Option.ite_none_right_eq_some] at stepped
      have stepped := stepped.2
      split at stepped
      · rename_i pushed
        cases stepped
        exact exact.push thread pushed
      · rename_i pushed
        cases stepped
        exact exact.push thread pushed
  | close thread =>
      simp only [JobQueue.step, Option.ite_none_right_eq_some, Option.some.injEq] at stepped
      rw [← stepped.2]
      exact exact.close thread
  | pop thread =>
      simp only [JobQueue.step, Option.ite_none_right_eq_some, Option.some.injEq] at stepped
      rw [← stepped.2]
      exact exact.move thread .polling
  | wake thread =>
      simp only [JobQueue.step, Option.ite_none_right_eq_some, Option.some.injEq] at stepped
      rw [← stepped.2]
      exact exact.move thread .polling
  | turn thread =>
      simp only [JobQueue.step, Option.ite_none_right_eq_some] at stepped
      have stepped := stepped.2
      split at stepped
      · rename_i turned
        cases stepped
        exact (exact.move thread .outside).serve thread turned
      · rename_i turned
        cases stepped
        exact (exact.move thread .outside).dismiss thread turned
      · cases stepped
        exact exact.move thread .waiting

end Steps

/-! ## Every accepted job is served -/

section Service

variable {capacity : Nat} {state : State τ J}

/-- The thread works on its pop. -/
def Action.Pops (worker : τ) : Action τ J → Prop
  | .pop thread | .turn thread | .wake thread => thread = worker
  | .push .. | .close _ => False

/-- A thread gets to a turn of its pop loop from wherever it is. -/
private theorem reaches_turn (capacity : Nat) (state : State τ J) (thread : τ) :
    ∃ more polled, (∀ action ∈ more, action.Pops thread) ∧
      Machine.exec (step capacity) state more = some polled ∧
      polled.thread thread = .polling ∧ polled.queue = state.queue ∧ polled.log = state.log := by
  have moved : (state.move thread .polling).thread thread = .polling :=
    Function.update_self ..
  cases place : state.thread thread with
  | polling =>
      exact ⟨[], state, fun _ member => (List.not_mem_nil member).elim, rfl, place, rfl, rfl⟩
  | outside =>
      refine ⟨[.pop thread], state.move thread .polling, ?_, ?_, moved, rfl, rfl⟩
      · exact List.forall_mem_singleton.mpr rfl
      · simp only [Machine.exec, step, if_pos place, Option.bind_some]
  | waiting =>
      refine ⟨[.wake thread], state.move thread .polling, ?_, ?_, moved, rfl, rfl⟩
      · exact List.forall_mem_singleton.mpr rfl
      · simp only [Machine.exec, step, if_pos place, Option.bind_some]

/-- One thread that keeps popping is served everything that waits, in order. -/
private theorem serves_waiting (thread : τ) {jobs : List J} (state : State τ J)
    (waiting : state.queue.jobs = jobs) :
    ∃ more final, (∀ action ∈ more, action.Pops thread) ∧
      Machine.exec (step capacity) state more = some final ∧
      acceptedJobs final.log = acceptedJobs state.log ∧
      servedJobs final.log = servedJobs state.log ++ jobs := by
  induction jobs generalizing state with
  | nil =>
      exact ⟨[], state, fun _ member => (List.not_mem_nil member).elim, rfl, rfl,
        (List.append_nil _).symm⟩
  | cons job rest inductionHypothesis =>
      obtain ⟨more, polled, onlyPops, reached, polling, sameQueue, sameLog⟩ :=
        reaches_turn capacity state thread
      have front : polled.queue.jobs = job :: rest := sameQueue ▸ waiting
      let served := (polled.move thread .outside).note ⟨polled.queue.closed, rest⟩
        (.served thread job)
      have stepped : step capacity polled (.turn thread) = some served := by
        simp only [step, if_pos polling, QueueState.turn, front]
        rfl
      obtain ⟨later, final, laterPops, ran, accepted, servedAll⟩ := inductionHypothesis served rfl
      refine ⟨more ++ .turn thread :: later, final, ?_, ?_, ?_, ?_⟩
      · rw [List.forall_mem_append, List.forall_mem_cons]
        exact ⟨onlyPops, rfl, laterPops⟩
      · rw [Machine.exec_append, reached, Option.bind_some]
        simp only [Machine.exec, stepped, Option.bind_some]
        exact ran
      · rw [accepted]
        show acceptedJobs (polled.log ++ [.served thread job]) = _
        rw [acceptedJobs_concat, sameLog]
        exact List.append_nil _
      · rw [servedAll]
        show servedJobs (polled.log ++ [.served thread job]) ++ rest = _
        rw [servedJobs_concat, sameLog, List.append_assoc]
        rfl

omit [DecidableEq τ] in
/-- Behind a dismissed pop nothing is accepted any more, and nothing was left. -/
private theorem Exact.served_of_dismissed (exact : Exact capacity state) {thread : τ}
    (dismissed : Event.dismissed thread ∈ state.log) :
    acceptedJobs state.log = servedJobs state.log := by
  obtain ⟨before, after, cut⟩ := List.append_of_mem dismissed
  obtain ⟨closed, emptied⟩ := exact.events before _ after cut
  have noneAccepted : acceptedJobs after = [] := by
    rw [acceptedJobs, List.filterMap_eq_nil_iff]
    intro event member
    cases event with
    | accepted other job =>
        obtain ⟨between, rest, afterCut⟩ := List.append_of_mem member
        have open' := exact.events (before ++ .dismissed thread :: between) _ rest
          (by rw [cut, afterCut, List.append_assoc, List.cons_append])
        obtain ⟨closer, closerMember⟩ := closed
        exact absurd ⟨closer, List.mem_append_left _ closerMember⟩ open'
    | refused | served | dismissed | closed => rfl
  have accounted := exact.accounted
  have acceptedAll : acceptedJobs state.log = acceptedJobs before := by
    rw [cut, acceptedJobs, List.filterMap_append, List.filterMap_cons]
    show acceptedJobs before ++ acceptedJobs after = _
    rw [noneAccepted, List.append_nil]
  have servedAll : servedJobs state.log = servedJobs before ++ servedJobs after := by
    rw [cut, servedJobs, List.filterMap_append, List.filterMap_cons]
    rfl
  have lengths := congrArg List.length accounted
  rw [acceptedAll, servedAll, ← emptied] at lengths accounted
  simp only [List.length_append] at lengths
  have noneServed : servedJobs after = [] := List.length_eq_zero_iff.mp (by omega)
  rw [acceptedAll, servedAll, noneServed, List.append_nil, emptied]

end Service

/-- In every state that threads pushing, popping and closing in any order can reach, the log
and the queue are exact, a thread that keeps popping is served every accepted job, and once
a pop was dismissed every accepted job has been. -/
theorem job_queue_exact {capacity : Nat} {actions : List (Action τ J)} {state : State τ J}
    (ran : Machine.exec (step capacity) State.initial actions = some state) :
    Exact capacity state ∧
      (∀ thread : τ, ∃ more final, (∀ action ∈ more, action.Pops thread) ∧
        Machine.exec (step capacity) state more = some final ∧
        acceptedJobs final.log = acceptedJobs state.log ∧
        servedJobs final.log = acceptedJobs state.log) ∧
      ∀ thread : τ, Event.dismissed thread ∈ state.log →
        acceptedJobs state.log = servedJobs state.log := by
  have exact : Exact capacity state :=
    Machine.invariant_of_exec (fun _ _ _ exact stepped => exact.step stepped) exact_initial ran
  refine ⟨exact, ?_, fun thread dismissed => exact.served_of_dismissed dismissed⟩
  intro thread
  obtain ⟨more, final, onlyPops, moreRan, accepted, served⟩ := serves_waiting thread state rfl
  exact ⟨more, final, onlyPops, moreRan, accepted, served.trans exact.accounted.symm⟩

/-- Two producers, two consumers and a close between them. -/
def closedRun : List (Action Nat String) :=
  [.pop 2, .turn 2, .push 0 "a", .push 1 "b", .wake 2, .turn 2, .close 0, .push 1 "c",
    .pop 3, .turn 3, .pop 2, .turn 2]

theorem job_queue_exact_closed :
    ∃ state, Machine.exec (step 1024) State.initial closedRun = some state ∧
      Exact 1024 state ∧ acceptedJobs state.log = ["a", "b"] ∧
      acceptedJobs state.log = servedJobs state.log := by
  have runs : (Machine.exec (step 1024) State.initial closedRun).any (fun state =>
      decide (acceptedJobs state.log = ["a", "b"] ∧ Event.dismissed 2 ∈ state.log)) = true := by
    decide +kernel
  obtain ⟨state, ran, accepted, dismissed⟩ := Machine.exists_exec runs
  have correct := job_queue_exact ran
  exact ⟨state, ran, correct.1, accepted, correct.2.2 2 dismissed⟩

end Oxo.Worker.JobQueue
