import Oxo.Edge.FrameHop.Dispatch
import Oxo.Foundation.Machine
import Oxo.Foundation.Tally

/-!
Contract: the in-flight gauges
(`oxo-pingora-edge/src/platform/frame_hop.rs`, `InFlightGuard`).

Owns: any number of tasks that run `try_acquire` and drop their guards, one atomic operation
a step, in every interleaving; and that the gauges count the guards exactly.

Does not own: the parking that a completion wakes, or the order in which workers are tried.
A gauge is a `Nat`: a guard is a value in memory, so there are fewer of them than a `usize`
counts.
-/

namespace Oxo.Edge.FrameHop.InFlight

open Oxo.Foundation

/-- What boot latched: the cap every attempt is given, and the flag every completion reads. -/
structure Config where
  cap : Option Nat
  capped : Bool
deriving DecidableEq, Repr

/-- `InFlightGuard`. -/
structure Guard where
  idx : Fin maxWorkers
  depth : Nat
deriving DecidableEq, Repr

/-- Where a task stands in `try_acquire` or in the drop of a guard. -/
inductive Phase where
  | idle
  | entered (idx : Fin maxWorkers)
  | loaded (idx : Fin maxWorkers) (cur : Nat)
  | swapping (idx : Fin maxWorkers) (cur : Nat)
  | committed (guard : Guard)
  | dropping (guard : Guard) (capped : Bool)
  | released
deriving DecidableEq, Repr

structure Task where
  phase : Phase := .idle
  guards : List Guard := []
deriving DecidableEq, Repr

structure State (n : Nat) where
  inFlight : Fin maxWorkers → Nat
  task : Fin n → Task

def State.initial (n : Nat) : State n :=
  ⟨fun _ => 0, fun _ => {}⟩

inductive Action (n : Nat) where
  | call (task : Fin n) (idx : Nat)
  | fetchAdd (task : Fin n)
  | load (task : Fin n)
  | compare (task : Fin n)
  | compareExchange (task : Fin n)
  | admitted (task : Fin n)
  | drop (task : Fin n) (guard : Guard)
  | fetchSub (task : Fin n)
  | wakeParked (task : Fin n)
deriving DecidableEq

def Action.task {n : Nat} : Action n → Fin n
  | .call task _ | .fetchAdd task | .load task | .compare task | .compareExchange task
  | .admitted task | .drop task _ | .fetchSub task | .wakeParked task => task

def State.setTask {n : Nat} (state : State n) (task : Fin n) (value : Task) : State n :=
  { state with task := Function.update state.task task value }

def State.setGauge {n : Nat} (state : State n) (idx : Fin maxWorkers) (value : Nat) : State n :=
  { state with inFlight := Function.update state.inFlight idx value }

def step {n : Nat} (config : Config) (state : State n) : Action n → Option (State n)
  | .call task idx =>
      let self := state.task task
      if self.phase = .idle then
        some (state.setTask task { self with phase := .entered (clamp idx) })
      else none
  -- Uncapped: one addition, whose old value is the depth.
  | .fetchAdd task =>
      let self := state.task task
      match self.phase, config.cap with
      | .entered idx, none =>
          some ((state.setGauge idx (state.inFlight idx + 1)).setTask task
            { self with phase := .committed ⟨idx, state.inFlight idx⟩ })
      | _, _ => none
  | .load task =>
      let self := state.task task
      match self.phase, config.cap with
      | .entered idx, some _ =>
          some (state.setTask task { self with phase := .loaded idx (state.inFlight idx) })
      | _, _ => none
  -- At the cap `try_acquire` returns `None`.
  | .compare task =>
      let self := state.task task
      match self.phase, config.cap with
      | .loaded idx cur, some bound =>
          some (state.setTask task
            { self with phase := if cur ≥ bound then .idle else .swapping idx cur })
      | _, _ => none
  | .compareExchange task =>
      let self := state.task task
      match self.phase with
      | .swapping idx cur =>
          if state.inFlight idx = cur then
            some ((state.setGauge idx (cur + 1)).setTask task
              { self with phase := .committed ⟨idx, cur⟩ })
          else
            some (state.setTask task { self with phase := .loaded idx (state.inFlight idx) })
      | _ => none
  -- `try_acquire` returns the guard.
  | .admitted task =>
      let self := state.task task
      match self.phase with
      | .committed guard =>
          some (state.setTask task { phase := .idle, guards := guard :: self.guards })
      | _ => none
  -- A guard goes out of scope, on whatever path; the drop reads the flag first.
  | .drop task guard =>
      let self := state.task task
      if self.phase = .idle ∧ guard ∈ self.guards then
        some (state.setTask task
          { phase := .dropping guard config.capped, guards := self.guards.erase guard })
      else none
  | .fetchSub task =>
      let self := state.task task
      match self.phase with
      | .dropping guard capped =>
          some ((state.setGauge guard.idx (state.inFlight guard.idx - 1)).setTask task
            { self with phase := if capped then .released else .idle })
      | _ => none
  -- The load of `PARKED` and the notification touch no gauge.
  | .wakeParked task =>
      let self := state.task task
      if self.phase = .released then some (state.setTask task { self with phase := .idle })
      else none

/-! ## What the gauges count -/

/-- An operation that has raised the gauge and not yet handed over its guard, or taken the guard
and not yet lowered the gauge. -/
def Phase.charge (idx : Fin maxWorkers) : Phase → Nat
  | .committed guard | .dropping guard _ => if guard.idx = idx then 1 else 0
  | _ => 0

def Task.live (idx : Fin maxWorkers) (task : Task) : Nat :=
  task.guards.countP fun guard => guard.idx = idx

def Task.charge (idx : Fin maxWorkers) (task : Task) : Nat :=
  task.live idx + task.phase.charge idx

section

variable {n : Nat} {config : Config} {state : State n} {task : Fin n}

/-- How many guards for a worker are alive. -/
def liveGuards (state : State n) (idx : Fin maxWorkers) : Nat :=
  tally (Task.live idx) state.task

/-- No operation is in progress. -/
def Quiescent (state : State n) : Prop :=
  ∀ task, (state.task task).phase = .idle

structure Sound (config : Config) (state : State n) : Prop where
  exact : ∀ idx, state.inFlight idx = tally (Task.charge idx) state.task
  /-- A value that was compared is below the cap. -/
  compared : ∀ task idx cur, (state.task task).phase = .swapping idx cur →
    ∃ bound, config.cap = some bound ∧ cur < bound
  bounded : ∀ bound, config.cap = some bound → ∀ idx, state.inFlight idx ≤ bound

@[simp] theorem setTask_task_self (value : Task) : (state.setTask task value).task task = value :=
  Function.update_self ..

theorem setTask_task_of_ne {other : Fin n} (different : other ≠ task) (value : Task) :
    (state.setTask task value).task other = state.task other :=
  Function.update_of_ne different ..

theorem sound_initial : Sound config (State.initial n) where
  exact := by
    intro idx
    simp [State.initial, tally, Task.charge, Task.live, Phase.charge]
  compared := by
    intro task idx cur swapping
    cases swapping
  bounded := fun bound _ _ => Nat.zero_le bound

/-- One task moves, and the gauges follow what it is charged with. -/
theorem Sound.move (sound : Sound config state) {inFlight : Fin maxWorkers → Nat} {value : Task}
    (balance : ∀ idx, inFlight idx + (state.task task).charge idx =
      state.inFlight idx + value.charge idx)
    (compared : ∀ idx cur, value.phase = .swapping idx cur →
      ∃ bound, config.cap = some bound ∧ cur < bound)
    (bounded : ∀ bound, config.cap = some bound → ∀ idx, inFlight idx ≤ bound) :
    Sound config (State.setTask { state with inFlight } task value) where
  exact := by
    intro idx
    have before := sound.exact idx
    have moved := tally_update (Task.charge idx) state.task task value
    have balanced := balance idx
    simp only [State.setTask]
    omega
  compared := by
    intro other idx cur swapping
    by_cases same : other = task
    · subst same
      rw [setTask_task_self] at swapping
      exact compared idx cur swapping
    · rw [setTask_task_of_ne same] at swapping
      exact sound.compared other idx cur swapping
  bounded := bounded

/-- A step that touches no gauge. -/
theorem Sound.stay (sound : Sound config state) {value : Task}
    (charge : ∀ idx, value.charge idx = (state.task task).charge idx)
    (compared : ∀ idx cur, value.phase = .swapping idx cur →
      ∃ bound, config.cap = some bound ∧ cur < bound) :
    Sound config (state.setTask task value) :=
  sound.move (fun idx => by rw [charge]) compared sound.bounded

/-- A step that raises one gauge. -/
theorem Sound.raise (sound : Sound config state) {idx : Fin maxWorkers} {depth : Nat}
    (uncharged : ∀ other, (state.task task).phase.charge other = 0)
    (below : ∀ bound, config.cap = some bound → state.inFlight idx < bound) :
    Sound config ((state.setGauge idx (state.inFlight idx + 1)).setTask task
      { state.task task with phase := .committed ⟨idx, depth⟩ }) := by
  apply sound.move
  · intro other
    have raised : Phase.charge other (.committed ⟨idx, depth⟩) = if idx = other then 1 else 0 := rfl
    simp only [Task.charge, Task.live, uncharged, raised]
    by_cases same : other = idx
    · subst same
      simp only [Function.update_self, if_true]
      omega
    · rw [Function.update_of_ne same, if_neg (Ne.symm same)]
  · intro _ _ swapping
    cases swapping
  · intro bound capped other
    have before := sound.bounded bound capped other
    by_cases same : other = idx
    · subst same
      simpa using below bound capped
    · simpa [same] using before

/-- A guard that is being dropped is counted: the decrement does not underflow. -/
theorem Sound.one_le_of_dropping (sound : Sound config state) {guard : Guard} {capped : Bool}
    (dropping : (state.task task).phase = .dropping guard capped) :
    1 ≤ state.inFlight guard.idx := by
  have single := weight_le_tally (Task.charge guard.idx) state.task task
  rw [← sound.exact] at single
  have charged : 1 ≤ (state.task task).charge guard.idx := by
    simp [Task.charge, dropping, Phase.charge]
  omega

/-- The step that lowers one gauge. -/
theorem Sound.lower (sound : Sound config state) {guard : Guard} {capped : Bool}
    (dropping : (state.task task).phase = .dropping guard capped) :
    Sound config ((state.setGauge guard.idx (state.inFlight guard.idx - 1)).setTask task
      { state.task task with phase := if capped then .released else .idle }) := by
  have counted := sound.one_le_of_dropping dropping
  apply sound.move
  · intro other
    have taken : Phase.charge other (if capped then .released else .idle) = 0 := by
      cases capped <;> rfl
    have charged : (state.task task).phase.charge other =
        if guard.idx = other then 1 else 0 := by
      rw [dropping]
      rfl
    simp only [Task.charge, Task.live, taken, charged]
    by_cases same : other = guard.idx
    · subst same
      simp only [Function.update_self, if_true]
      omega
    · rw [Function.update_of_ne same, if_neg (Ne.symm same)]
  · intro _ _ swapping
    cases capped <;> cases swapping
  · intro bound capped other
    have before := sound.bounded bound capped other
    by_cases same : other = guard.idx
    · subst same
      simp only [Function.update_self]
      omega
    · rw [Function.update_of_ne same]
      exact before

theorem Sound.step (sound : Sound config state) {action : Action n} {next : State n}
    (stepped : step config state action = some next) : Sound config next := by
  cases action with
  | call task idx =>
      simp only [InFlight.step, Option.ite_none_right_eq_some, Option.some.injEq] at stepped
      obtain ⟨idle, rfl⟩ := stepped
      exact sound.stay (by simp [Task.charge, Task.live, Phase.charge, idle]) (by simp)
  | fetchAdd task =>
      simp only [InFlight.step] at stepped
      split at stepped
      · rename_i idx entered uncapped
        cases stepped
        exact sound.raise (by simp [entered, Phase.charge]) (by simp [uncapped])
      · cases stepped
  | load task =>
      simp only [InFlight.step] at stepped
      split at stepped
      · rename_i idx bound entered capped
        cases stepped
        exact sound.stay (by simp [Task.charge, Task.live, Phase.charge, entered]) (by simp)
      · cases stepped
  | compare task =>
      simp only [InFlight.step] at stepped
      split at stepped
      · rename_i idx cur bound loaded capped
        cases stepped
        by_cases full : cur ≥ bound
        · rw [if_pos full]
          exact sound.stay (by simp [Task.charge, Task.live, Phase.charge, loaded]) (by simp)
        · rw [if_neg full]
          refine sound.stay (by simp [Task.charge, Task.live, Phase.charge, loaded]) ?_
          intro _ _ swapping
          cases swapping
          exact ⟨bound, capped, Nat.lt_of_not_le full⟩
      · cases stepped
  | compareExchange task =>
      simp only [InFlight.step] at stepped
      split at stepped
      · rename_i idx cur swapping
        split at stepped
        · rename_i unchanged
          cases stepped
          subst unchanged
          refine sound.raise (by simp [swapping, Phase.charge]) ?_
          intro bound capped
          obtain ⟨bound, isBound, below⟩ := sound.compared task idx _ swapping
          rw [capped] at isBound
          cases isBound
          exact below
        · cases stepped
          exact sound.stay (by simp [Task.charge, Task.live, Phase.charge, swapping]) (by simp)
      · cases stepped
  | admitted task =>
      simp only [InFlight.step] at stepped
      split at stepped
      · rename_i guard committed
        cases stepped
        refine sound.stay ?_ (by simp)
        intro idx
        simp [Task.charge, Task.live, Phase.charge, committed, List.countP_cons]
      · cases stepped
  | drop task guard =>
      simp only [InFlight.step, Option.ite_none_right_eq_some, Option.some.injEq] at stepped
      obtain ⟨⟨idle, held⟩, rfl⟩ := stepped
      refine sound.stay ?_ (by simp)
      intro idx
      have split := (List.perm_cons_erase held).countP_eq fun guard => guard.idx = idx
      rw [List.countP_cons] at split
      simpa [Task.charge, Task.live, Phase.charge, idle] using split.symm
  | fetchSub task =>
      simp only [InFlight.step] at stepped
      split at stepped
      · rename_i guard capped dropping
        cases stepped
        exact sound.lower dropping
      · cases stepped
  | wakeParked task =>
      simp only [InFlight.step, Option.ite_none_right_eq_some, Option.some.injEq] at stepped
      obtain ⟨released, rfl⟩ := stepped
      exact sound.stay (by simp [Task.charge, Task.live, Phase.charge, released]) (by simp)

/-! ## Failed acquisitions -/

/-- How many steps of one task changed a gauge. -/
def changes (config : Config) (task : Fin n) (state : State n) : List (Action n) → Nat
  | [] => 0
  | action :: rest =>
      match step config state action with
      | none => 0
      | some next =>
          (if action.task = task ∧ next.inFlight ≠ state.inFlight then 1 else 0) +
            changes config task next rest

/-- Inside `try_acquire`, with no gauge raised. -/
def Phase.isAcquiring : Phase → Bool
  | .entered _ | .loaded .. | .swapping .. => true
  | _ => false

theorem step_other {action : Action n} {next : State n}
    (stepped : step config state action = some next) (other : task ≠ action.task) :
    next.task task = state.task task := by
  cases action <;> simp only [step, Action.task] at stepped other <;>
    grind [setTask_task_of_ne, State.setGauge]

/-- Only a call makes a task acquire, and a task that acquires on has changed no gauge. -/
theorem acquiring_of_step {action : Action n} {next : State n}
    (stepped : step config state action = some next) (uncalled : ∀ idx, action ≠ .call task idx)
    (acquiring : (next.task task).phase.isAcquiring = true) :
    (state.task task).phase.isAcquiring = true ∧
      (action.task = task → next.inFlight = state.inFlight) := by
  by_cases own : task = action.task
  · subst own
    cases action with
    | call task idx => exact absurd rfl (uncalled idx)
    | load task =>
        simp only [step] at stepped
        split at stepped
        · rename_i entered _
          cases stepped
          exact ⟨by simp [Action.task, entered, Phase.isAcquiring], fun _ => rfl⟩
        · cases stepped
    | compare task =>
        simp only [step] at stepped
        split at stepped
        · rename_i loaded _
          cases stepped
          exact ⟨by simp [Action.task, loaded, Phase.isAcquiring], fun _ => rfl⟩
        · cases stepped
    | compareExchange task =>
        simp only [step] at stepped
        split at stepped
        · rename_i swapping
          split at stepped
          · cases stepped
            simp [Action.task, Phase.isAcquiring] at acquiring
          · cases stepped
            exact ⟨by simp [Action.task, swapping, Phase.isAcquiring], fun _ => rfl⟩
        · cases stepped
    | fetchAdd task | admitted task | drop task guard | fetchSub task | wakeParked task =>
        -- these leave a task outside, or with the gauge raised
        simp only [step, Action.task] at stepped acquiring
        grind [setTask_task_self, Phase.isAcquiring]
  · rw [step_other stepped own] at acquiring
    exact ⟨acquiring, fun same => absurd same.symm own⟩

/-- A task that is acquiring at the end of a run without a call of its own was acquiring all
along, and changed no gauge. -/
theorem changes_of_acquiring {actions : List (Action n)} {final : State n}
    (ran : Machine.exec (step config) state actions = some final)
    (uncalled : ∀ idx, .call task idx ∉ actions)
    (acquiring : (final.task task).phase.isAcquiring = true) :
    (state.task task).phase.isAcquiring = true ∧ changes config task state actions = 0 := by
  induction actions generalizing state with
  | nil =>
      cases ran
      exact ⟨acquiring, rfl⟩
  | cons action rest inductionHypothesis =>
      simp only [Machine.exec, Option.bind_eq_some_iff] at ran
      obtain ⟨next, stepped, ran⟩ := ran
      have later := inductionHypothesis ran
        (fun idx mem => uncalled idx (List.mem_cons_of_mem _ mem))
      have now := acquiring_of_step stepped
        (fun idx same => uncalled idx (same ▸ List.mem_cons_self)) later.1
      refine ⟨now.1, ?_⟩
      simp only [changes, stepped, later.2, Nat.add_zero, ite_eq_right_iff]
      intro moved
      exact absurd (now.2 moved.1) moved.2

theorem changes_append {first second : List (Action n)} {middle : State n}
    (ran : Machine.exec (step config) state first = some middle) :
    changes config task state (first ++ second) =
      changes config task state first + changes config task middle second := by
  induction first generalizing state with
  | nil =>
      cases ran
      simp [changes]
  | cons action rest inductionHypothesis =>
      simp only [Machine.exec, Option.bind_eq_some_iff] at ran
      obtain ⟨next, stepped, ran⟩ := ran
      simp only [List.cons_append, changes, stepped, inductionHypothesis ran]
      omega

private theorem call_keeps_gauges {idx : Nat} {next : State n}
    (stepped : step config state (.call task idx) = some next) :
    next.inFlight = state.inFlight := by
  simp only [step, Option.ite_none_right_eq_some, Option.some.injEq] at stepped
  obtain ⟨-, rfl⟩ := stepped
  rfl

private theorem compare_keeps_gauges {next : State n}
    (stepped : step config state (.compare task) = some next) :
    (state.task task).phase.isAcquiring = true ∧ next.inFlight = state.inFlight := by
  simp only [step] at stepped
  split at stepped
  · rename_i loaded _
    cases stepped
    exact ⟨by simp [loaded, Phase.isAcquiring], rfl⟩
  · cases stepped

/-- From the call to the comparison that returns `None`, the steps of an acquisition leave every
gauge alone, whatever other tasks do meanwhile. -/
theorem changes_of_compared {idx : Nat} {middle : List (Action n)} {last : State n}
    (uncalled : ∀ other, .call task other ∉ middle)
    (ran : Machine.exec (step config) state (.call task idx :: (middle ++ [.compare task])) =
      some last) :
    changes config task state (.call task idx :: (middle ++ [.compare task])) = 0 := by
  rw [Machine.exec, Option.bind_eq_some_iff] at ran
  obtain ⟨entered, called, ran⟩ := ran
  rw [Machine.exec_append, Option.bind_eq_some_iff] at ran
  obtain ⟨loaded, searched, ran⟩ := ran
  have compared : step config loaded (.compare task) = some last := by
    simpa [Machine.exec] using ran
  have atEnd := compare_keeps_gauges compared
  have between := (changes_of_acquiring searched uncalled atEnd.1).2
  simp [changes, called, compared, call_keeps_gauges called, changes_append searched, between,
    atEnd.2]

/-- The gauges count the guards exactly: between operations each is the number of live guards for
its worker, under a cap none exceeds it, an acquisition that fails changes none, and a decrement
finds at least one. -/
theorem in_flight_exact {actions : List (Action n)} {final : State n}
    (ran : Machine.exec (step config) (State.initial n) actions = some final) :
    (Quiescent final → ∀ idx, final.inFlight idx = liveGuards final idx) ∧
      (∀ bound, config.cap = some bound → ∀ idx, final.inFlight idx ≤ bound) ∧
      (∀ task idx middle last, (∀ other, .call task other ∉ middle) →
        Machine.exec (step config) final (.call task idx :: (middle ++ [.compare task])) =
          some last → (last.task task).phase = .idle →
        changes config task final (.call task idx :: (middle ++ [.compare task])) = 0) ∧
      ∀ task guard capped, (final.task task).phase = .dropping guard capped →
        1 ≤ final.inFlight guard.idx := by
  have sound : Sound config final :=
    Machine.invariant_of_exec (fun _ _ _ before stepped => before.step stepped) sound_initial ran
  refine ⟨?_, sound.bounded, ?_, fun _ _ _ dropping => sound.one_le_of_dropping dropping⟩
  · intro quiescent idx
    have charges : ∀ task, (final.task task).charge idx = (final.task task).live idx := by
      intro task
      simp [Task.charge, quiescent task, Phase.charge]
    rw [sound.exact]
    exact tally_congr _ _ charges
  · intro task idx middle last uncalled attempted _
    exact changes_of_compared uncalled attempted

/-- Two tasks load the idle gauge under a cap of one. The first exchange wins; the second fails,
compares again and gives up. -/
def contended : List (Action 2) :=
  [.call 0 0, .call 1 0, .load 0, .load 1, .compare 0, .compare 1, .compareExchange 0,
    .compareExchange 1, .compare 1, .admitted 0]

theorem in_flight_exact_contended :
    ∃ final, Machine.exec (step ⟨some 1, true⟩) (State.initial 2) contended = some final ∧
      final.inFlight 0 = liveGuards final 0 ∧ final.inFlight 0 ≤ 1 ∧ liveGuards final 0 = 1 := by
  obtain ⟨final, ran, idle, live⟩ :
      ∃ final, Machine.exec (step ⟨some 1, true⟩) (State.initial 2) contended = some final ∧
        (∀ task, (final.task task).phase = .idle) ∧ liveGuards final 0 = 1 :=
    Machine.exists_exec (by decide +kernel)
  have counted := in_flight_exact ran
  exact ⟨final, ran, counted.1 idle 0, counted.2.1 1 rfl 0, live⟩

end

end Oxo.Edge.FrameHop.InFlight
