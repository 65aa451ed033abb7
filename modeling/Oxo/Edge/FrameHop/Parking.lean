import Oxo.Edge.FrameHop.Dispatch
import Oxo.Foundation.Machine
import Oxo.Foundation.Tally

/-!
Contract: parked requests and the wakes they live on
(`oxo-pingora-edge/src/platform/frame_hop.rs`, the capped dispatch).

Owns: any number of tasks that acquire workers under a cap, drop their guards, and park in
`park_for_slot`, one atomic operation a step; the notification object they share; and the
interleavings in which no wake dies on a waiter it was not meant for.

Does not own: which worker a task tries (any that is below the cap), the exchange, or the
uncapped mode. The notification object hands a wake to the longest-registered waiter, keeps
one permit when there is none, and passes on the wake of a waiter that is dropped with it.
-/

namespace Oxo.Edge.FrameHop.Parking

open Oxo.Foundation

/-- A waiter's `Notified`: not created, enabled and queued, handed a wake, or completed. -/
inductive Slot where
  | none
  | queued
  | marked
  | done
deriving DecidableEq, Repr

/-- Where a task stands. `released` and `notifying` are the drop of an `InFlightGuard`; the
others, from `enabling` on, are inside `park_for_slot`. -/
inductive Phase where
  | outside
  | released
  | notifying
  | enabling
  | checkingDrain
  | scanning (next : Nat)
  | found
  | forwarding
  | asleep
  | leaving
  | unparking
deriving DecidableEq, Repr

structure Task where
  phase : Phase := .outside
  mask : BitVec 32 := 0
  slot : Slot := .none
  /-- It consumed a wake and has not finished the recheck that follows. -/
  woken : Bool := false
  holds : Option (Fin maxWorkers) := none
deriving DecidableEq, Repr

structure State (n : Nat) where
  inFlight : Fin maxWorkers → Nat
  parked : Nat
  permit : Bool
  queue : List (Fin n)
  draining : Bool
  task : Fin n → Task

def State.initial (n : Nat) : State n :=
  ⟨fun _ => 0, 0, false, [], false, fun _ => {}⟩

inductive Action (n : Nat) where
  | acquire (task : Fin n) (worker : Fin maxWorkers)
  | decrement (task : Fin n)
  | loadParked (task : Fin n)
  | notifyFreed (task : Fin n)
  | enter (task : Fin n) (mask : BitVec 32)
  | enable (task : Fin n)
  | checkDrain (task : Fin n)
  | scan (task : Fin n)
  | settle (task : Fin n)
  | loadOthers (task : Fin n)
  | forward (task : Fin n)
  | wake (task : Fin n)
  | drainChanged (task : Fin n)
  | cancel (task : Fin n)
  | dropNotified (task : Fin n)
  | unpark (task : Fin n)
  | drain
deriving DecidableEq

namespace State

variable {n : Nat}

def setTask (state : State n) (task : Fin n) (value : Task) : State n :=
  { state with task := Function.update state.task task value }

/-- `Notify::notify_one`. -/
def notifyOne (state : State n) : State n :=
  match state.queue with
  | [] => { state with permit := true }
  | first :: rest =>
      { state with queue := rest }.setTask first { state.task first with slot := .marked }

/-- The drop of a task's `Notified` on its way to a phase without one: a queued one leaves the
queue, a handed wake is passed on. -/
def discard (state : State n) (task : Fin n) (phase : Phase) : State n :=
  let cleared := state.setTask task { state.task task with phase, slot := .none }
  match (state.task task).slot with
  | .queued => { cleared with queue := state.queue.erase task }
  | .marked => cleared.notifyOne
  | .none | .done => cleared

/-- A waiter's mask names a worker. -/
def names (state : State n) (task : Fin n) (worker : Nat) : Bool :=
  (state.task task).mask.getLsbD worker

/-- The load of one worker's counter by `any_admittable`. -/
def admits (state : State n) (cap : Nat) (task : Fin n) (worker : Nat) : Bool :=
  if bound : worker < maxWorkers then
    state.names task worker && decide (state.inFlight ⟨worker, bound⟩ < cap)
  else false

end State

open State in
def step {n : Nat} (cap : Nat) (state : State n) : Action n → Option (State n)
  | .acquire task worker =>
      let self := state.task task
      if self.phase = .outside ∧ self.holds = none ∧ state.inFlight worker < cap then
        some ({ state with
          inFlight := Function.update state.inFlight worker (state.inFlight worker + 1)
          }.setTask task { self with holds := some worker })
      else none
  -- `InFlightGuard::drop`: decrement, then look for waiters, then notify.
  | .decrement task =>
      let self := state.task task
      match self.holds with
      | some worker =>
          if self.phase = .outside then
            some ({ state with
              inFlight := Function.update state.inFlight worker (state.inFlight worker - 1)
              }.setTask task { self with phase := .released, holds := none })
          else none
      | none => none
  | .loadParked task =>
      let self := state.task task
      if self.phase = .released then
        some (state.setTask task
          { self with phase := if state.parked > 0 then .notifying else .outside })
      else none
  | .notifyFreed task =>
      let self := state.task task
      if self.phase = .notifying then
        some (state.setTask task { self with phase := .outside }).notifyOne
      else none
  -- `ParkGuard::enter`.
  | .enter task mask =>
      let self := state.task task
      if self.phase = .outside ∧ self.holds = none then
        some ({ state with parked := state.parked + 1 }.setTask task
          { self with phase := .enabling, mask, slot := .none, woken := false })
      else none
  -- `enable` completes at once when a permit is stored.
  | .enable task =>
      let self := state.task task
      if self.phase = .enabling then
        if state.permit then
          some ({ state with permit := false }.setTask task
            { self with phase := .checkingDrain, slot := .done, woken := true })
        else
          some ({ state with queue := state.queue ++ [task] }.setTask task
            { self with phase := .checkingDrain, slot := .queued })
      else none
  | .checkDrain task =>
      let self := state.task task
      if self.phase = .checkingDrain then
        some (state.setTask task (if state.draining
          then { self with phase := .leaving, woken := false }
          else { self with phase := .scanning 0 }))
      else none
  | .scan task =>
      let self := state.task task
      match self.phase with
      | .scanning next =>
          if next < maxWorkers then
            some (state.setTask task { self with
              phase := if state.admits cap task next then .found else .scanning (next + 1) })
          else none
      | _ => none
  -- The scan found nothing: a completed `Notified` rechecks at once, another is awaited.
  | .settle task =>
      let self := state.task task
      if self.phase = .scanning maxWorkers then
        some (state.setTask task (if self.slot = .done
          then { self with phase := .enabling, slot := .none }
          else { self with phase := .asleep, woken := false }))
      else none
  | .loadOthers task =>
      let self := state.task task
      if self.phase = .found then
        some (state.setTask task { self with
          phase := if state.parked > 1 then .forwarding else .leaving
          woken := false })
      else none
  | .forward task =>
      let self := state.task task
      if self.phase = .forwarding then
        some (state.setTask task { self with phase := .leaving }).notifyOne
      else none
  | .wake task =>
      let self := state.task task
      if self.phase = .asleep ∧ self.slot = .marked then
        some (state.setTask task { self with phase := .enabling, slot := .none, woken := true })
      else none
  -- The drain arm comes first: it leaves with 503, or loops when the value is unchanged.
  | .drainChanged task =>
      let self := state.task task
      if self.phase = .asleep then
        some (if state.draining then state.setTask task { self with phase := .leaving }
          else state.discard task .enabling)
      else none
  | .cancel task =>
      let self := state.task task
      if self.phase = .asleep then some (state.setTask task { self with phase := .leaving })
      else none
  | .dropNotified task =>
      let self := state.task task
      if self.phase = .leaving then
        some (state.discard task .unparking)
      else none
  | .unpark task =>
      let self := state.task task
      if self.phase = .unparking then
        some ({ state with parked := state.parked - 1 }.setTask task { self with phase := .outside })
      else none
  | .drain => some { state with draining := true }

/-! ## Pending wakes -/

def Phase.isInside : Phase → Bool
  | .outside | .released | .notifying => false
  | _ => true

/-- A `Notified` exists from `enable` to the way out, and a sleeper's is not completed. -/
def Task.fits (task : Task) : Bool :=
  match task.phase with
  | .outside | .released | .notifying | .enabling | .unparking => task.slot = .none
  | .checkingDrain | .scanning _ => task.slot ≠ .none
  | .found | .forwarding | .leaving => true
  | .asleep => task.slot = .queued || task.slot = .marked

/-- The scan of the current round has gone by a worker. -/
def Phase.passed (phase : Phase) (worker : Nat) : Bool :=
  match phase with
  | .scanning next => decide (worker < next)
  | .asleep => true
  | _ => false

/-- A task that will notify, or look at the worker itself: a guard's drop that has not notified, a
waiter handed a wake, a recheck after a wake that has not gone by the worker, or one that found
capacity. -/
def Task.carries (task : Task) (worker : Nat) : Bool :=
  task.slot = .marked || task.phase = .released || task.phase = .notifying ||
    task.phase = .found || task.phase = .forwarding ||
    (task.woken && match task.phase with
      | .enabling | .checkingDrain => true
      | .scanning next => decide (next ≤ worker) || !task.mask.getLsbD worker
      | _ => false)

section

variable {n : Nat}

def Carried (state : State n) (worker : Nat) : Prop :=
  state.permit = true ∨ ∃ task, (state.task task).carries worker = true

/-- A registered waiter without a wake has gone by a worker of its mask that is below the cap. -/
structure Waits (cap : Nat) (state : State n) (waiter : Fin n) (worker : Fin maxWorkers) :
    Prop where
  queued : (state.task waiter).slot = .queued
  passed : (state.task waiter).phase.passed worker = true
  names : state.names waiter worker = true
  free : state.inFlight worker < cap

def Served (cap : Nat) (state : State n) : Prop :=
  ∀ waiter worker, Waits cap state waiter worker → Carried state worker

variable {cap : Nat} {state : State n} {task : Fin n}

@[simp] theorem setTask_task_self (value : Task) : (state.setTask task value).task task = value :=
  Function.update_self ..

theorem setTask_task_of_ne {other : Fin n} (different : other ≠ task) (value : Task) :
    (state.setTask task value).task other = state.task other :=
  Function.update_of_ne different ..

@[simp] theorem setTask_queue (value : Task) : (state.setTask task value).queue = state.queue := rfl

@[simp] theorem setTask_permit (value : Task) :
    (state.setTask task value).permit = state.permit := rfl

@[simp] theorem setTask_parked (value : Task) :
    (state.setTask task value).parked = state.parked := rfl

@[simp] theorem setTask_inFlight (value : Task) :
    (state.setTask task value).inFlight = state.inFlight := rfl

@[simp] theorem setTask_draining (value : Task) :
    (state.setTask task value).draining = state.draining := rfl

/-- After a notification some wake is pending: a waiter was handed one or a permit is stored. -/
theorem carried_notifyOne (worker : Nat) : Carried state.notifyOne worker := by
  unfold State.notifyOne
  split
  · exact Or.inl rfl
  · rename_i first rest _
    exact Or.inr ⟨first, by simp [Task.carries]⟩

theorem served_notifyOne : Served cap state.notifyOne :=
  fun _ worker _ => carried_notifyOne worker

/-- A change of one task that keeps the wakes others rely on. -/
theorem Served.setTask (served : Served cap state) {value : Task}
    (keeps : ∀ waiter worker, Waits cap state waiter worker →
      (state.task task).carries worker = true → value.carries worker = true)
    (own : ∀ worker : Fin maxWorkers, value.slot = .queued → value.phase.passed worker = true →
      value.mask.getLsbD worker = true → state.inFlight worker < cap →
        Waits cap state task worker) :
    Served cap (state.setTask task value) := by
  intro waiter worker waits
  have before : ∃ waiter, Waits cap state waiter worker := by
    by_cases same : waiter = task
    · subst same
      obtain ⟨queued, passed, names, free⟩ := waits
      simp only [State.names, setTask_task_self] at queued passed names
      exact ⟨_, own worker queued passed names free⟩
    · obtain ⟨queued, passed, names, free⟩ := waits
      simp only [State.names, setTask_task_of_ne same] at queued passed names
      exact ⟨waiter, queued, passed, names, free⟩
  obtain ⟨other, waited⟩ := before
  rcases served other worker waited with stored | ⟨carrier, carries⟩
  · exact Or.inl stored
  · right
    by_cases same : carrier = task
    · subst same
      exact ⟨carrier, by simpa using keeps other worker waited carries⟩
    · exact ⟨carrier, by rwa [setTask_task_of_ne same]⟩

/-- Neither the queue nor the count of waiters matters to who is served. -/
theorem Served.requeue (served : Served cap state) (queue : List (Fin n)) :
    Served cap { state with queue } :=
  fun waiter worker waits =>
    served waiter worker ⟨waits.queued, waits.passed, waits.names, waits.free⟩

theorem Served.repark (served : Served cap state) (parked : Nat) :
    Served cap { state with parked } :=
  fun waiter worker waits =>
    served waiter worker ⟨waits.queued, waits.passed, waits.names, waits.free⟩

/-! ## The queue and the count of waiters -/

/-- How many tasks are inside `park_for_slot`. -/
def insideCount (state : State n) : Nat :=
  ∑ task, if (state.task task).phase.isInside then 1 else 0

/-- The queue holds the tasks whose `Notified` waits in it, every `Notified` is where it belongs,
and `parked` counts the tasks inside. -/
structure Wired (state : State n) : Prop where
  queued : ∀ task, task ∈ state.queue ↔ (state.task task).slot = .queued
  nodup : state.queue.Nodup
  fits : ∀ task, (state.task task).fits = true
  counted : state.parked = insideCount state

private theorem insideCount_eq_tally : insideCount state =
    tally (fun task => if task.phase.isInside then 1 else 0) state.task := rfl

theorem insideCount_setTask (state : State n) (task : Fin n) (value : Task) :
    insideCount (state.setTask task value) +
        (if (state.task task).phase.isInside then 1 else 0) =
      insideCount state + if value.phase.isInside then 1 else 0 := by
  simp only [insideCount_eq_tally]
  exact tally_update (fun task => if task.phase.isInside then 1 else 0) state.task task value

theorem insideCount_setTask_same {value : Task}
    (inside : value.phase.isInside = (state.task task).phase.isInside) :
    insideCount (state.setTask task value) = insideCount state := by
  have moved := insideCount_setTask state task value
  rw [inside] at moved
  omega

/-- Two tasks inside are counted twice. -/
theorem two_le_insideCount {first second : Fin n} (different : first ≠ second)
    (firstInside : (state.task first).phase.isInside = true)
    (secondInside : (state.task second).phase.isInside = true) : 2 ≤ insideCount state := by
  have pair := weights_le_tally (fun task => if task.phase.isInside then 1 else 0) state.task
    different
  simpa [insideCount_eq_tally, firstInside, secondInside] using pair

theorem one_le_insideCount (inside : (state.task task).phase.isInside = true) :
    1 ≤ insideCount state := by
  have single := weight_le_tally (fun task => if task.phase.isInside then 1 else 0) state.task task
  simpa [insideCount_eq_tally, inside] using single

/-- A change of one task together with the count of waiters. -/
theorem Wired.recount (wired : Wired state) {value : Task} {parked : Nat}
    (slot : value.slot = .queued ↔ (state.task task).slot = .queued)
    (fits : value.fits = true)
    (count : parked + (if (state.task task).phase.isInside then 1 else 0) =
      state.parked + if value.phase.isInside then 1 else 0) :
    Wired ({ state with parked }.setTask task value) where
  queued := by
    intro other
    by_cases same : other = task
    · subst same
      rw [setTask_task_self, slot]
      exact wired.queued other
    · rw [setTask_task_of_ne same]
      exact wired.queued other
  nodup := wired.nodup
  fits := by
    intro other
    by_cases same : other = task
    · subst same
      rw [setTask_task_self]
      exact fits
    · rw [setTask_task_of_ne same]
      exact wired.fits other
  counted := by
    have moved := insideCount_setTask { state with parked } task value
    have before := wired.counted
    have same : insideCount { state with parked } = insideCount state := rfl
    simp only [setTask_parked]
    simp only [same] at moved
    omega

/-- A change of one task that leaves its place in the queue and in the count alone. -/
theorem Wired.setTask (wired : Wired state) {value : Task}
    (slot : value.slot = .queued ↔ (state.task task).slot = .queued)
    (fits : value.fits = true)
    (inside : value.phase.isInside = (state.task task).phase.isInside) :
    Wired (state.setTask task value) :=
  wired.recount slot fits (by rw [inside])

theorem Wired.notifyOne (wired : Wired state) : Wired state.notifyOne := by
  unfold State.notifyOne
  split
  · exact ⟨wired.queued, wired.nodup, wired.fits, wired.counted⟩
  · rename_i first rest isQueue
    have nodup := wired.nodup
    rw [isQueue, List.nodup_cons] at nodup
    have firstQueued : (state.task first).slot = .queued := by
      rw [← wired.queued, isQueue]
      exact List.mem_cons_self
    constructor
    · intro other
      by_cases same : other = first
      · subst same
        simp [nodup.1]
      · have before := wired.queued other
        rw [isQueue, List.mem_cons] at before
        rw [setTask_task_of_ne same]
        simpa [same] using before
    · exact nodup.2
    · intro other
      by_cases same : other = first
      · subst same
        have fits := wired.fits other
        revert fits
        simp only [Task.fits, setTask_task_self, firstQueued]
        cases (state.task other).phase <;> simp
      · rw [setTask_task_of_ne same]
        exact wired.fits other
    · change state.parked =
        insideCount (state.setTask first { state.task first with slot := .marked })
      refine wired.counted.trans (Eq.symm ?_)
      apply insideCount_setTask_same
      rfl

theorem Wired.discard (wired : Wired state) {phase : Phase}
    (fits : Task.fits { state.task task with phase, slot := .none } = true)
    (inside : phase.isInside = (state.task task).phase.isInside) :
    Wired (state.discard task phase) := by
  unfold State.discard
  split
  · rename_i queued
    constructor
    · intro other
      simp only
      by_cases same : other = task
      · subst same
        simp [wired.nodup.not_mem_erase]
      · rw [setTask_task_of_ne same, List.mem_erase_of_ne same]
        exact wired.queued other
    · exact wired.nodup.erase task
    · intro other
      simp only
      by_cases same : other = task
      · subst same
        rw [setTask_task_self]
        exact fits
      · rw [setTask_task_of_ne same]
        exact wired.fits other
    · refine wired.counted.trans (Eq.symm ?_)
      exact insideCount_setTask_same inside
  · rename_i marked
    have cleared : Wired (state.setTask task { state.task task with phase, slot := .none }) :=
      wired.setTask (by simp [marked]) fits inside
    exact cleared.notifyOne
  · rename_i none
    exact wired.setTask (by simp [none]) fits inside
  · rename_i done
    exact wired.setTask (by simp [done]) fits inside

/-! ## Each step -/

/-- A woken waiter whose recheck has failed may go back to sleep only when every worker below the
cap that its mask does not name is named by no queued waiter. -/
def Relevant (cap : Nat) (state : State n) (action : Action n) : Prop :=
  ∀ task, action = .settle task → (state.task task).woken = true →
    (state.task task).slot ≠ .done → (state.task task).slot ≠ .marked →
      ∀ worker : Fin maxWorkers, state.inFlight worker < cap → state.names task worker = false →
        ∀ waiter ∈ state.queue, state.names waiter worker = false

structure Sound (cap : Nat) (state : State n) : Prop where
  wired : Wired state
  served : state.draining = false → Served cap state

/-- A task joins the queue with a fresh `Notified`. -/
theorem Wired.enqueue (wired : Wired state) (none : (state.task task).slot = .none)
    (enabling : (state.task task).phase = .enabling) :
    Wired ({ state with queue := state.queue ++ [task] }.setTask task
      { state.task task with phase := .checkingDrain, slot := .queued }) where
  queued := by
    intro other
    by_cases same : other = task
    · subst same
      simp
    · rw [setTask_task_of_ne same, setTask_queue]
      simpa [same] using wired.queued other
  nodup := by
    have fresh : task ∉ state.queue := by
      rw [wired.queued, none]
      simp
    rw [setTask_queue, ← List.concat_eq_append]
    exact wired.nodup.concat fresh
  fits := by
    intro other
    by_cases same : other = task
    · subst same
      simp [Task.fits]
    · rw [setTask_task_of_ne same]
      exact wired.fits other
  counted := by
    refine wired.counted.trans (Eq.symm ?_)
    exact insideCount_setTask_same (by simp [enabling, Phase.isInside])

/-- Outside, in a guard's drop, before `enable` and after the drop there is no `Notified`. -/
theorem Wired.slot_none (wired : Wired state)
    (bare : (state.task task).phase = .outside ∨ (state.task task).phase = .released ∨
      (state.task task).phase = .notifying ∨ (state.task task).phase = .enabling ∨
      (state.task task).phase = .unparking) : (state.task task).slot = .none := by
  have fits := wired.fits task
  rcases bare with phase | phase | phase | phase | phase <;> simpa [Task.fits, phase] using fits

theorem Wired.step (wired : Wired state) {action : Action n} {next : State n}
    (stepped : step cap state action = some next) : Wired next := by
  have recounted : ∀ inFlight, Wired { state with inFlight } :=
    fun _ => ⟨wired.queued, wired.nodup, wired.fits, wired.counted⟩
  cases action with
  | acquire task worker =>
      simp only [Parking.step, Option.ite_none_right_eq_some, Option.some.injEq] at stepped
      obtain ⟨-, rfl⟩ := stepped
      exact (recounted _).setTask Iff.rfl (wired.fits task) rfl
  | decrement task =>
      simp only [Parking.step] at stepped
      split at stepped
      · simp only [Option.ite_none_right_eq_some, Option.some.injEq] at stepped
        obtain ⟨outside, rfl⟩ := stepped
        have none := wired.slot_none (Or.inl outside)
        exact (recounted _).setTask Iff.rfl (by simp [Task.fits, none])
          (by simp [outside, Phase.isInside])
      · cases stepped
  | loadParked task =>
      simp only [Parking.step, Option.ite_none_right_eq_some, Option.some.injEq] at stepped
      obtain ⟨released, rfl⟩ := stepped
      have none := wired.slot_none (Or.inr (Or.inl released))
      refine wired.setTask Iff.rfl ?_ ?_
      · by_cases some : state.parked > 0 <;> simp [Task.fits, none, some]
      · simp only [released]
        split <;> rfl
  | notifyFreed task =>
      simp only [Parking.step, Option.ite_none_right_eq_some, Option.some.injEq] at stepped
      obtain ⟨notifying, rfl⟩ := stepped
      have none := wired.slot_none (Or.inr (Or.inr (Or.inl notifying)))
      apply Wired.notifyOne
      exact wired.setTask Iff.rfl (by simp [Task.fits, none]) (by simp [notifying, Phase.isInside])
  | enter task mask =>
      simp only [Parking.step, Option.ite_none_right_eq_some, Option.some.injEq] at stepped
      obtain ⟨⟨outside, -⟩, rfl⟩ := stepped
      have none := wired.slot_none (Or.inl outside)
      refine wired.recount (by simp [none]) (by simp [Task.fits]) ?_
      simp [outside, Phase.isInside]
  | enable task =>
      simp only [Parking.step, Option.ite_none_right_eq_some] at stepped
      obtain ⟨enabling, stepped⟩ := stepped
      have none := wired.slot_none (Or.inr (Or.inr (Or.inr (Or.inl enabling))))
      split at stepped
      · cases stepped
        have spent : Wired { state with permit := false } :=
          ⟨wired.queued, wired.nodup, wired.fits, wired.counted⟩
        exact spent.setTask (by simp [none]) (by simp [Task.fits])
          (by simp [enabling, Phase.isInside])
      · cases stepped
        exact wired.enqueue none enabling
  | checkDrain task =>
      simp only [Parking.step, Option.ite_none_right_eq_some, Option.some.injEq] at stepped
      obtain ⟨checking, rfl⟩ := stepped
      have fits := wired.fits task
      split
      · exact wired.setTask Iff.rfl (by simp [Task.fits]) (by simp [checking, Phase.isInside])
      · refine wired.setTask Iff.rfl ?_ (by simp [checking, Phase.isInside])
        simpa [Task.fits, checking] using fits
  | scan task =>
      simp only [Parking.step] at stepped
      split at stepped
      · rename_i index scanning
        simp only [Option.ite_none_right_eq_some, Option.some.injEq] at stepped
        obtain ⟨-, rfl⟩ := stepped
        have fits := wired.fits task
        refine wired.setTask Iff.rfl ?_ ?_
        · split
          · simp [Task.fits]
          · simpa [Task.fits, scanning] using fits
        · simp only [scanning]
          split <;> rfl
      · cases stepped
  | settle task =>
      simp only [Parking.step, Option.ite_none_right_eq_some, Option.some.injEq] at stepped
      obtain ⟨scanned, rfl⟩ := stepped
      have fits := wired.fits task
      split
      · rename_i done
        exact wired.setTask (by simp [done]) (by simp [Task.fits])
          (by simp [scanned, Phase.isInside])
      · rename_i undone
        refine wired.setTask Iff.rfl ?_ (by simp [scanned, Phase.isInside])
        simp only [Task.fits, scanned] at fits ⊢
        revert fits undone
        cases (state.task task).slot <;> simp
  | loadOthers task =>
      simp only [Parking.step, Option.ite_none_right_eq_some, Option.some.injEq] at stepped
      obtain ⟨isFound, rfl⟩ := stepped
      refine wired.setTask Iff.rfl ?_ ?_
      · split <;> simp [Task.fits]
      · simp only [isFound]
        split <;> rfl
  | forward task =>
      simp only [Parking.step, Option.ite_none_right_eq_some, Option.some.injEq] at stepped
      obtain ⟨forwarding, rfl⟩ := stepped
      apply Wired.notifyOne
      exact wired.setTask Iff.rfl (by simp [Task.fits]) (by simp [forwarding, Phase.isInside])
  | wake task =>
      simp only [Parking.step, Option.ite_none_right_eq_some, Option.some.injEq] at stepped
      obtain ⟨⟨asleep, marked⟩, rfl⟩ := stepped
      exact wired.setTask (by simp [marked]) (by simp [Task.fits])
        (by simp [asleep, Phase.isInside])
  | drainChanged task =>
      simp only [Parking.step, Option.ite_none_right_eq_some, Option.some.injEq] at stepped
      obtain ⟨asleep, rfl⟩ := stepped
      split
      · exact wired.setTask Iff.rfl (by simp [Task.fits]) (by simp [asleep, Phase.isInside])
      · exact wired.discard (by simp [Task.fits]) (by simp [asleep, Phase.isInside])
  | cancel task =>
      simp only [Parking.step, Option.ite_none_right_eq_some, Option.some.injEq] at stepped
      obtain ⟨asleep, rfl⟩ := stepped
      exact wired.setTask Iff.rfl (by simp [Task.fits]) (by simp [asleep, Phase.isInside])
  | dropNotified task =>
      simp only [Parking.step, Option.ite_none_right_eq_some, Option.some.injEq] at stepped
      obtain ⟨leaving, rfl⟩ := stepped
      exact wired.discard (by simp [Task.fits]) (by simp [leaving, Phase.isInside])
  | unpark task =>
      simp only [Parking.step, Option.ite_none_right_eq_some, Option.some.injEq] at stepped
      obtain ⟨unparking, rfl⟩ := stepped
      have none := wired.slot_none (Or.inr (Or.inr (Or.inr (Or.inr unparking))))
      have inside : 1 ≤ insideCount state :=
        one_le_insideCount (by simp [unparking, Phase.isInside] : (state.task task).phase.isInside)
      have counted := wired.counted
      refine wired.recount Iff.rfl (by simp [Task.fits, none]) ?_
      simp only [unparking, Phase.isInside, if_true, Bool.false_eq_true, if_false]
      omega
  | drain =>
      cases stepped
      exact ⟨wired.queued, wired.nodup, wired.fits, wired.counted⟩

/-- A waiter that has gone by a worker is inside. -/
theorem Waits.inside {waiter : Fin n} {worker : Fin maxWorkers}
    (waits : Waits cap state waiter worker) : (state.task waiter).phase.isInside = true := by
  have passed := waits.passed
  revert passed
  cases (state.task waiter).phase <;> simp [Phase.passed, Phase.isInside]

/-- More requests in flight free no worker. -/
theorem Served.acquire (served : Served cap state) (worker : Fin maxWorkers) :
    Served cap { state with
      inFlight := Function.update state.inFlight worker (state.inFlight worker + 1) } := by
  intro waiter other waits
  refine served waiter other ⟨waits.queued, waits.passed, waits.names, ?_⟩
  have free := waits.free
  by_cases same : other = worker
  · subst same
    simp only [Function.update_self] at free
    omega
  · simpa [Function.update_of_ne same] using free

/-- A task that will notify whatever it finds carries a wake for everyone. -/
theorem served_of_carries (task : Fin n)
    (carries : ∀ worker, (state.task task).carries worker = true) :
    Served cap state :=
  fun _ worker _ => Or.inr ⟨task, carries worker⟩

private theorem carries_scanning {task : Task} {index : Nat}
    (scanning : task.phase = .scanning index) (worker : Nat) :
    task.carries worker = true ↔ task.slot = .marked ∨
      task.woken = true ∧ (index ≤ worker ∨ task.mask.getLsbD worker = false) := by
  simp [Task.carries, scanning]

private theorem carries_resting {task : Task} {worker : Nat}
    (resting : task.phase = .outside ∨ task.phase = .asleep ∨ task.phase = .leaving ∨
      task.phase = .unparking) : task.carries worker = true ↔ task.slot = .marked := by
  rcases resting with phase | phase | phase | phase <;> simp [Task.carries, phase]

theorem Served.scan (served : Served cap state) {index : Nat} (bound : index < maxWorkers)
    (scanning : (state.task task).phase = .scanning index) :
    Served cap (state.setTask task { state.task task with
      phase := if state.admits cap task index then .found else .scanning (index + 1) }) := by
  by_cases admits : state.admits cap task index = true
  · exact served_of_carries task (by simp [admits, Task.carries])
  · have full : state.names task index = true → ¬ state.inFlight ⟨index, bound⟩ < cap := by
      simpa [State.admits, bound] using admits
    simp only [admits, Bool.false_eq_true, if_false]
    apply served.setTask
    · intro waiter worker waits carries
      rw [carries_scanning scanning] at carries
      rw [carries_scanning rfl]
      -- The worker just loaded is full for this waiter, or not one of its own.
      have loaded : index = worker → (state.task task).mask.getLsbD worker = false := by
        intro same
        rw [← Bool.not_eq_true]
        intro named
        subst same
        exact full named waits.free
      rcases carries with marked | ⟨woken, early | foreign⟩
      · exact Or.inl marked
      · right
        refine ⟨woken, ?_⟩
        by_cases same : index = worker
        · exact Or.inr (loaded same)
        · left
          omega
      · exact Or.inr ⟨woken, Or.inr foreign⟩
    · intro worker queued passed named free
      simp only [Phase.passed, decide_eq_true_eq] at passed
      have earlier : (worker : Nat) < index := by
        by_contra late
        have same : index = worker := by omega
        subst same
        exact full named free
      exact ⟨queued, by simp [scanning, Phase.passed, earlier], named, free⟩

/-- A waiter goes to sleep. A wake it consumed dies here, which the condition permits only when
no other waiter is served by it. -/
theorem Served.sleep (served : Served cap state) (wired : Wired state)
    (scanned : (state.task task).phase = .scanning maxWorkers)
    (undone : (state.task task).slot ≠ .done) (relevant : Relevant cap state (.settle task)) :
    Served cap (state.setTask task { state.task task with phase := .asleep, woken := false }) := by
  apply served.setTask
  · intro waiter worker waits carries
    rw [carries_scanning scanned] at carries
    rw [carries_resting (by simp)]
    by_contra unmarked
    rcases carries with marked | ⟨woken, late | foreign⟩
    · exact unmarked marked
    · omega
    · have unnamed := relevant task rfl woken undone unmarked worker waits.free foreign waiter
        ((wired.queued waiter).mpr waits.queued)
      rw [waits.names] at unnamed
      cases unnamed
  · intro worker queued _ named free
    exact ⟨queued, by simp [scanned, Phase.passed], named, free⟩

/-- A resting waiter drops its `Notified` and moves on. -/
theorem Served.discard (served : Served cap state)
    (resting : (state.task task).phase = .asleep ∨ (state.task task).phase = .leaving)
    (phase : Phase) : Served cap (state.discard task phase) := by
  have cleared : (state.task task).slot ≠ .marked →
      Served cap (state.setTask task { state.task task with phase, slot := .none }) := by
    intro unmarked
    apply served.setTask
    · intro _ worker _ carries
      rw [carries_resting (Or.inr (resting.imp_right Or.inl))] at carries
      exact absurd carries unmarked
    · intro worker queued
      cases queued
  unfold State.discard
  split
  · rename_i queued
    exact (cleared (by simp [queued])).requeue _
  · exact served_notifyOne
  · rename_i none
    exact cleared (by simp [none])
  · rename_i done
    exact cleared (by simp [done])

theorem Served.step (wired : Wired state) (served : Served cap state)
    {action : Action n} {next : State n}
    (relevant : Relevant cap state action) (stepped : step cap state action = some next)
    (still : next.draining = false) : Served cap next := by
  cases action with
  | acquire task worker =>
      simp only [Parking.step, Option.ite_none_right_eq_some, Option.some.injEq] at stepped
      obtain ⟨⟨outside, -⟩, rfl⟩ := stepped
      refine (served.acquire worker).setTask ?_ ?_
      · intro _ _ _ carries
        exact carries
      · intro _ _ passed
        simp [outside, Phase.passed] at passed
  | decrement task =>
      simp only [Parking.step] at stepped
      split at stepped
      · simp only [Option.ite_none_right_eq_some, Option.some.injEq] at stepped
        obtain ⟨-, rfl⟩ := stepped
        exact served_of_carries task (by simp [Task.carries])
      · cases stepped
  | loadParked task =>
      simp only [Parking.step, Option.ite_none_right_eq_some, Option.some.injEq] at stepped
      obtain ⟨-, rfl⟩ := stepped
      refine served.setTask ?_ ?_
      · intro waiter worker waits _
        have counted := one_le_insideCount waits.inside
        rw [← wired.counted] at counted
        simp [Task.carries, Nat.lt_of_succ_le counted]
      · intro _ _ passed
        simp only at passed
        split at passed <;> simp [Phase.passed] at passed
  | notifyFreed task =>
      simp only [Parking.step, Option.ite_none_right_eq_some, Option.some.injEq] at stepped
      obtain ⟨-, rfl⟩ := stepped
      exact served_notifyOne
  | enter task mask =>
      simp only [Parking.step, Option.ite_none_right_eq_some, Option.some.injEq] at stepped
      obtain ⟨⟨outside, -⟩, rfl⟩ := stepped
      have bare := wired.slot_none (Or.inl outside)
      refine Served.setTask (served.repark _) ?_ ?_
      · intro _ _ _ carries
        have marked := (carries_resting (Or.inl outside)).mp carries
        simp [bare] at marked
      · intro _ queued
        cases queued
  | enable task =>
      simp only [Parking.step, Option.ite_none_right_eq_some] at stepped
      obtain ⟨enabling, stepped⟩ := stepped
      split at stepped
      · cases stepped
        exact served_of_carries task (by simp [Task.carries])
      · cases stepped
        refine Served.setTask (served.requeue _) ?_ ?_
        · intro _ _ _ carries
          have bare := wired.slot_none (Or.inr (Or.inr (Or.inr (Or.inl enabling))))
          simpa [Task.carries, enabling, bare] using carries
        · intro _ _ passed
          cases passed
  | checkDrain task =>
      simp only [Parking.step, Option.ite_none_right_eq_some, Option.some.injEq] at stepped
      obtain ⟨checking, rfl⟩ := stepped
      rw [setTask_draining] at still
      rw [if_neg (by simp [still])]
      refine served.setTask ?_ ?_
      · intro _ worker _ carries
        rw [carries_scanning rfl]
        simpa [Task.carries, checking] using carries
      · intro _ _ passed
        simp [Phase.passed] at passed
  | scan task =>
      simp only [Parking.step] at stepped
      split at stepped
      · rename_i index scanning
        simp only [Option.ite_none_right_eq_some, Option.some.injEq] at stepped
        obtain ⟨bound, rfl⟩ := stepped
        exact served.scan bound scanning
      · cases stepped
  | settle task =>
      simp only [Parking.step, Option.ite_none_right_eq_some, Option.some.injEq] at stepped
      obtain ⟨scanned, rfl⟩ := stepped
      by_cases done : (state.task task).slot = .done
      · rw [if_pos done]
        refine served.setTask ?_ ?_
        · intro _ worker _ carries
          rw [carries_scanning scanned] at carries
          rcases carries with marked | ⟨woken, -⟩
          · rw [done] at marked
            cases marked
          · simp [Task.carries, woken]
        · intro _ queued
          cases queued
      · rw [if_neg done]
        exact served.sleep wired scanned done relevant
  | loadOthers task =>
      simp only [Parking.step, Option.ite_none_right_eq_some, Option.some.injEq] at stepped
      obtain ⟨isFound, rfl⟩ := stepped
      refine served.setTask ?_ ?_
      · intro waiter worker waits _
        have different : waiter ≠ task := by
          rintro rfl
          have passed := waits.passed
          simp [isFound, Phase.passed] at passed
        have counted := two_le_insideCount different waits.inside
          (by simp [isFound, Phase.isInside])
        rw [← wired.counted] at counted
        simp [Task.carries, Nat.lt_of_succ_le counted]
      · intro _ _ passed
        simp only at passed
        split at passed <;> simp [Phase.passed] at passed
  | forward task =>
      simp only [Parking.step, Option.ite_none_right_eq_some, Option.some.injEq] at stepped
      obtain ⟨-, rfl⟩ := stepped
      exact served_notifyOne
  | wake task =>
      simp only [Parking.step, Option.ite_none_right_eq_some, Option.some.injEq] at stepped
      obtain ⟨-, rfl⟩ := stepped
      exact served_of_carries task (by simp [Task.carries])
  | drainChanged task =>
      simp only [Parking.step, Option.ite_none_right_eq_some, Option.some.injEq] at stepped
      obtain ⟨asleep, rfl⟩ := stepped
      split at still
      · rename_i draining
        rw [setTask_draining, draining] at still
        cases still
      · rename_i undrained
        rw [if_neg undrained]
        exact served.discard (Or.inl asleep) _
  | cancel task =>
      simp only [Parking.step, Option.ite_none_right_eq_some, Option.some.injEq] at stepped
      obtain ⟨asleep, rfl⟩ := stepped
      refine served.setTask ?_ ?_
      · intro _ _ _ carries
        rw [carries_resting (by simp [asleep])] at carries
        rw [carries_resting (by simp)]
        exact carries
      · intro _ _ passed
        simp [Phase.passed] at passed
  | dropNotified task =>
      simp only [Parking.step, Option.ite_none_right_eq_some, Option.some.injEq] at stepped
      obtain ⟨leaving, rfl⟩ := stepped
      exact served.discard (Or.inr leaving) _
  | unpark task =>
      simp only [Parking.step, Option.ite_none_right_eq_some, Option.some.injEq] at stepped
      obtain ⟨unparking, rfl⟩ := stepped
      refine Served.setTask (served.repark _) ?_ ?_
      · intro _ _ _ carries
        rw [carries_resting (by simp [unparking])] at carries
        rw [carries_resting (by simp)]
        exact carries
      · intro _ _ passed
        simp [Phase.passed] at passed
  | drain =>
      cases stepped
      cases still

@[simp] theorem notifyOne_draining : state.notifyOne.draining = state.draining := by
  unfold State.notifyOne
  split <;> rfl

@[simp] theorem discard_draining (phase : Phase) :
    (state.discard task phase).draining = state.draining := by
  unfold State.discard
  split <;> simp

/-- Draining is latched. -/
theorem undrained_of_step {action : Action n} {next : State n}
    (stepped : step cap state action = some next) (still : next.draining = false) :
    state.draining = false := by
  cases action <;> simp only [Parking.step] at stepped <;>
    grind [setTask_draining, notifyOne_draining, discard_draining]

theorem Sound.initial : Sound cap (State.initial n) where
  wired :=
    { queued := by simp [State.initial]
      nodup := List.nodup_nil
      fits := fun _ => rfl
      counted := by simp [State.initial, insideCount, Phase.isInside] }
  served := by
    intro _ waiter worker waits
    cases waits.queued

theorem Sound.step (sound : Sound cap state) {action : Action n} {next : State n}
    (relevant : Relevant cap state action) (stepped : step cap state action = some next) :
    Sound cap next where
  wired := sound.wired.step stepped
  served := fun still =>
    (sound.served (undrained_of_step stepped still)).step sound.wired relevant stepped still

/-- A notification is pending or in progress: stored, handed to a waiter, consumed by one that is
still rechecking, about to be sent by a guard's drop or by a waiter that found capacity, or the
drain's own. -/
def Pending (state : State n) : Prop :=
  state.permit = true ∨ state.draining = true ∨ ∃ task,
    (state.task task).slot = .marked ∨ (state.task task).phase = .released ∨
      (state.task task).phase = .notifying ∨ (state.task task).phase = .found ∨
      (state.task task).phase = .forwarding ∨ (state.task task).woken = true

theorem Carried.pending {worker : Nat} (carried : Carried state worker) : Pending state := by
  rcases carried with stored | ⟨task, carries⟩
  · exact Or.inl stored
  · refine Or.inr (Or.inr ⟨task, ?_⟩)
    simp only [Task.carries, Bool.or_eq_true, decide_eq_true_eq, Bool.and_eq_true] at carries
    tauto

/-- As long as no wake dies on a waiter that another waiter needed it for, nobody sleeps beside a
free worker it waits for without a notification on its way. -/
theorem no_lost_wakeup {actions : List (Action n)} {final : State n}
    (relevant : Machine.Meets (Parking.step cap) (Relevant cap) (State.initial n) actions)
    (ran : Machine.exec (Parking.step cap) (State.initial n) actions = some final)
    (waiter : Fin n) (worker : Fin maxWorkers) (asleep : (final.task waiter).phase = .asleep)
    (named : final.names waiter worker = true) (free : final.inFlight worker < cap) :
    Pending final := by
  have sound : Sound cap final :=
    Machine.invariant_of_meets (fun _ _ _ before condition stepped => before.step condition stepped)
      Sound.initial relevant ran
  have fits := sound.wired.fits waiter
  simp only [Task.fits, asleep, Bool.or_eq_true, decide_eq_true_eq] at fits
  rcases fits with queued | marked
  · by_cases draining : final.draining = true
    · exact Or.inr (Or.inl draining)
    · have waits : Waits cap final waiter worker :=
        ⟨queued, by simp [asleep, Phase.passed], named, free⟩
      exact (sound.served (by simpa using draining) waiter worker waits).pending
  · exact Or.inr (Or.inr ⟨waiter, Or.inl marked⟩)

/-! ## Two runs -/

/-- A request that finds its workers full, from `ParkGuard::enter` to sleep. -/
def parkAt (task : Fin n) (mask : BitVec 32) : List (Action n) :=
  [.enter task mask, .enable task, .checkDrain task] ++
    List.replicate maxWorkers (.scan task) ++ [.settle task]

/-- The whole drop of a guard while requests are parked. -/
def release (task : Fin n) : List (Action n) :=
  [.decrement task, .loadParked task, .notifyFreed task]

/-- A waiter consumes its wake, finds its workers still full and sleeps again. -/
def wakeInVain (task : Fin n) : List (Action n) :=
  [.wake task, .enable task, .checkDrain task] ++
    List.replicate maxWorkers (.scan task) ++ [.settle task]

instance (state : State n) (action : Action n) : Decidable (Relevant cap state action) :=
  inferInstanceAs (Decidable (∀ _ : Fin n, _ → _ → _ → _ → ∀ _ : Fin maxWorkers, _ → _ →
    ∀ waiter ∈ state.queue, _))

instance (state : State n) : Decidable (Pending state) :=
  inferInstanceAs (Decidable (_ ∨ _ ∨ ∃ _ : Fin n, _))

/-- Two requests wait for the one worker, and its guard drops. -/
def sharedWorker : List (Action 3) :=
  [.acquire 0 0] ++ parkAt 1 1 ++ parkAt 2 1 ++ release 0

theorem no_lost_wakeup_shared_worker :
    ∃ final, Machine.exec (Parking.step 1) (State.initial 3) sharedWorker = some final ∧
      (final.task 2).phase = .asleep ∧ final.names 2 0 = true ∧ final.inFlight 0 < 1 ∧
      Pending final := by
  obtain ⟨final, ran, asleep, named, free⟩ :
      ∃ final, Machine.exec (Parking.step 1) (State.initial 3) sharedWorker = some final ∧
        (final.task 2).phase = .asleep ∧ final.names 2 0 = true ∧ final.inFlight 0 < 1 :=
    Machine.exists_exec (by decide +kernel)
  exact ⟨final, ran, asleep, named, free,
    no_lost_wakeup (by decide +kernel) ran 2 0 asleep named free⟩

/-- One request waits for worker 0, another for either. Worker 1 frees and the first is woken. -/
def foreignMask : List (Action 4) :=
  [.acquire 0 0, .acquire 1 1] ++ parkAt 2 1 ++ parkAt 3 3 ++ release 1 ++ wakeInVain 2

/-- The wake dies on the first, and the second sleeps on beside its free worker. -/
theorem wake_lost_on_foreign_mask :
    ∃ final, Machine.exec (Parking.step 1) (State.initial 4) foreignMask = some final ∧
      (final.task 3).phase = .asleep ∧ final.names 3 1 = true ∧ final.inFlight 1 < 1 ∧
      ¬ Pending final :=
  Machine.exists_exec (by decide +kernel)

end

end Oxo.Edge.FrameHop.Parking
