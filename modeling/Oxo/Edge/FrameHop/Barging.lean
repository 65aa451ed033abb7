import Oxo.Edge.FrameHop.Parking

/-!
Contract: the barging guard in front of the sweep (`send_worker_frame_to_pool` and
`park_for_slot` in `oxo-pingora-edge/src/platform/frame_hop.rs`).

Owns: the runs in which a newcomer finds a request parked and its first look at the gauges lets
it through, what the gauges of workers that are not configured count, and the fleets for which
the guard lets a newcomer through only for real capacity.

Does not own: the parking itself, or the sweep behind the guard.
-/

namespace Oxo.Edge.FrameHop.Parking

open Oxo.Foundation

/-! ## Newcomers -/

/-- The mask that the guard parks with: all workers there can be. -/
def guardMask : BitVec 32 :=
  BitVec.allOnes 32

/-- A gauge that a fleet of some workers uses. -/
def UsedBy (workers : Nat) (gauge : Fin maxWorkers) : Prop :=
  ∃ idx < workers, clamp idx = gauge

/-- What the tasks of a fleet do: only configured workers are acquired, and a mask is the guard's
or names configured workers. -/
def Configured {n : Nat} (workers : Nat) (_ : State n) : Action n → Prop
  | .acquire _ gauge => UsedBy workers gauge
  | .enter _ mask => mask = guardMask ∨
      ∀ gauge : Fin maxWorkers, mask.getLsbD gauge = true → UsedBy workers gauge
  | _ => True

/-- A run in which a newcomer finds a request parked, enters `park_for_slot` with the guard's mask,
and the scan of its first round finds capacity. Other tasks run in between. A fleet without
workers is refused in front of the guard. -/
structure GuardPass (n workers cap : Nat) where
  newcomer : Fin n
  before : List (Action n)
  between : List (Action n)
  during : List (Action n)
  arrived : State n
  last : State n
  next : State n
  dispatched : 0 < workers
  configured : Machine.Meets (step cap) (Configured workers) (State.initial n)
    (before ++ (between ++ .enter newcomer guardMask :: during))
  arrives : Machine.exec (step cap) (State.initial n) before = some arrived
  parked : 0 < arrived.parked
  notYet : ∀ action ∈ between, (∀ gauge, action ≠ .acquire newcomer gauge) ∧
    ∀ mask, action ≠ .enter newcomer mask
  looks : Machine.exec (step cap) arrived (between ++ .enter newcomer guardMask :: during) =
    some last
  firstRound : ∀ action ∈ during, action ≠ .settle newcomer ∧
    ∀ mask, action ≠ .enter newcomer mask
  scans : step cap last (.scan newcomer) = some next
  found : (next.task newcomer).phase = .found

/-- The guard lets newcomers through for nothing but capacity: at the gauge's load some configured
worker is below the cap. -/
def GuardSound (workers cap : Nat) : Prop :=
  ∀ (n : Nat) (pass : GuardPass n workers cap),
    ∃ idx < workers, pass.last.inFlight (clamp idx) < cap

/-! ## Gauges without a worker -/

theorem usedBy_iff {workers : Nat} {gauge : Fin maxWorkers} :
    UsedBy workers gauge ↔ gauge.val < workers := by
  unfold UsedBy clamp
  constructor
  · rintro ⟨idx, configured, rfl⟩
    exact Nat.lt_of_le_of_lt (Nat.min_le_left _ _) configured
  · intro configured
    exact ⟨gauge.val, configured, Fin.ext (Nat.min_eq_left (Nat.le_sub_one_of_lt gauge.isLt))⟩

section

variable {n cap workers : Nat} {state next : State n}

@[simp] theorem notifyOne_inFlight : state.notifyOne.inFlight = state.inFlight := by
  unfold State.notifyOne
  split <;> rfl

@[simp] theorem discard_inFlight (task : Fin n) (phase : Phase) :
    (state.discard task phase).inFlight = state.inFlight := by
  unfold State.discard
  split <;> simp

/-- Only an admission raises a gauge. -/
theorem inFlight_of_step {action : Action n} (stepped : step cap state action = some next)
    (gauge : Fin maxWorkers) :
    next.inFlight gauge ≤ state.inFlight gauge ∨ ∃ task, action = .acquire task gauge := by
  cases action with
  | acquire task worker =>
      simp only [step, Option.ite_none_right_eq_some, Option.some.injEq] at stepped
      obtain ⟨-, rfl⟩ := stepped
      by_cases same : gauge = worker
      · exact Or.inr ⟨task, by rw [same]⟩
      · refine Or.inl (le_of_eq ?_)
        rw [setTask_inFlight]
        exact Function.update_of_ne same ..
  | decrement task =>
      simp only [step] at stepped
      split at stepped
      · next worker held =>
          simp only [Option.ite_none_right_eq_some, Option.some.injEq] at stepped
          obtain ⟨-, rfl⟩ := stepped
          left
          simp only [setTask_inFlight, Function.update_apply]
          split
          · next same =>
              rw [same]
              exact Nat.sub_le _ 1
          · exact le_rfl
      · cases stepped
  | drain =>
      cases stepped
      exact Or.inl le_rfl
  | _ =>
      left
      simp only [step] at stepped
      grind [setTask_inFlight, notifyOne_inFlight, discard_inFlight]

private theorem idle_of_step {gauge : Fin maxWorkers} (unused : workers ≤ gauge.val)
    (idle : state.inFlight gauge = 0) {action : Action n}
    (permitted : Configured workers state action) (stepped : step cap state action = some next) :
    next.inFlight gauge = 0 := by
  rcases inFlight_of_step stepped gauge with kept | ⟨task, rfl⟩
  · exact Nat.le_zero.mp (idle ▸ kept)
  · exact absurd (usedBy_iff.mp permitted) (Nat.not_lt.mpr unused)

/-- Nobody works on a worker that is not configured. -/
theorem unused_gauge_idle {actions : List (Action n)} {final : State n}
    (configured : Machine.Meets (step cap) (Configured workers) (State.initial n) actions)
    (ran : Machine.exec (step cap) (State.initial n) actions = some final)
    {gauge : Fin maxWorkers} (unused : workers ≤ gauge.val) : final.inFlight gauge = 0 := by
  exact Machine.invariant_of_meets
    (fun _ _ _ idle permitted stepped => idle_of_step unused idle permitted stepped) rfl
    configured ran

/-! ## A guard that nobody waits at -/

theorem setTask_task_apply (task other : Fin n) (value : Task) :
    (state.setTask task value).task other = if other = task then value else state.task other := by
  simp only [State.setTask, Function.update_apply]

@[simp] theorem notifyOne_phase (task : Fin n) :
    (state.notifyOne.task task).phase = (state.task task).phase := by
  unfold State.notifyOne
  split
  · rfl
  · rw [setTask_task_apply]
    split
    · next same => rw [same]
    · rfl

@[simp] theorem notifyOne_mask (task : Fin n) :
    (state.notifyOne.task task).mask = (state.task task).mask := by
  unfold State.notifyOne
  split
  · rfl
  · rw [setTask_task_apply]
    split
    · next same => rw [same]
    · rfl

theorem discard_phase (task other : Fin n) (phase : Phase) :
    ((state.discard task phase).task other).phase =
      if other = task then phase else (state.task other).phase := by
  unfold State.discard
  split <;> simp only [notifyOne_phase, setTask_task_apply] <;> split <;> rfl

@[simp] theorem discard_mask (task other : Fin n) (phase : Phase) :
    ((state.discard task phase).task other).mask = (state.task other).mask := by
  unfold State.discard
  split <;> simp only [notifyOne_mask, setTask_task_apply] <;> split <;> simp_all

private theorem named_by_guard {gauge : Nat} (inside : gauge < maxWorkers) :
    guardMask.getLsbD gauge = true := by
  have all : ∀ gauge < maxWorkers, guardMask.getLsbD gauge = true := by decide +kernel
  exact all gauge inside

/-- A round with the guard's mask has not gone by a gauge without a worker. -/
def RoundWithin (workers : Nat) (task : Task) : Prop :=
  task.mask = guardMask → task.phase ≠ .asleep ∧
    ∀ index, task.phase = .scanning index → index ≤ workers

theorem RoundWithin.step (spare : workers < maxWorkers) (positive : 0 < cap)
    (idle : state.inFlight ⟨workers, spare⟩ = 0)
    (within : ∀ task, RoundWithin workers (state.task task)) {action : Action n}
    (stepped : step cap state action = some next) (task : Fin n) :
    RoundWithin workers (next.task task) := by
  cases action with
  | scan mover =>
      simp only [Parking.step] at stepped
      split at stepped
      · next index scanning =>
          simp only [Option.ite_none_right_eq_some, Option.some.injEq] at stepped
          obtain ⟨-, rfl⟩ := stepped
          by_cases mine : task = mover
          · subst mine
            rw [setTask_task_self]
            intro guards
            have reached := (within task guards).2 index scanning
            -- at the first gauge without a worker the scan stops
            by_cases spareGauge : index = workers
            · subst spareGauge
              have admitted : state.admits cap task index = true := by
                unfold State.admits State.names
                rw [dif_pos spare, idle, decide_eq_true positive, Bool.and_true]
                rw [show (state.task task).mask = guardMask from guards]
                exact named_by_guard spare
              simp [admitted]
            · split
              · simp
              · simp only [Phase.scanning.injEq, forall_eq', ne_eq, reduceCtorEq,
                  not_false_eq_true, true_and]
                omega
          · rw [setTask_task_of_ne mine]
            exact within task
      · cases stepped
  | drain =>
      cases stepped
      exact within task
  | _ =>
      simp only [Parking.step] at stepped
      grind [RoundWithin, setTask_task_apply, discard_phase, discard_mask, notifyOne_phase,
        notifyOne_mask]

/-- With a gauge to spare, the guard parks nobody: no newcomer ever sleeps on its mask. -/
theorem guard_never_sleeps {actions : List (Action n)} {final : State n}
    (spare : workers < maxWorkers) (positive : 0 < cap)
    (configured : Machine.Meets (step cap) (Configured workers) (State.initial n) actions)
    (ran : Machine.exec (step cap) (State.initial n) actions = some final) {task : Fin n}
    (guards : (final.task task).mask = guardMask) : (final.task task).phase ≠ .asleep := by
  have kept : ∀ (state : State n) (action : Action n) (next : State n),
      ((∀ gauge : Fin maxWorkers, workers ≤ gauge.val → state.inFlight gauge = 0) ∧
        ∀ task, RoundWithin workers (state.task task)) → Configured workers state action →
      step cap state action = some next →
        (∀ gauge : Fin maxWorkers, workers ≤ gauge.val → next.inFlight gauge = 0) ∧
          ∀ task, RoundWithin workers (next.task task) := by
    intro state action next before permitted stepped
    exact ⟨fun gauge unused => idle_of_step unused (before.1 gauge unused) permitted stepped,
      RoundWithin.step spare positive (before.1 ⟨workers, spare⟩ le_rfl) before.2 stepped⟩
  have within := Machine.invariant_of_meets kept
    ⟨fun _ _ => rfl, fun _ _ => ⟨by simp [State.initial], by simp [State.initial]⟩⟩ configured ran
  exact (within.2 task guards).1

/-! ## A fleet at its cap -/

private theorem step_acquire {task : Fin n} {worker : Fin maxWorkers}
    (fresh : state.task task = {}) (free : state.inFlight worker < cap) :
    ∃ next, step cap state (.acquire task worker) = some next ∧
      (∀ gauge, next.inFlight gauge =
        state.inFlight gauge + if gauge = worker then 1 else 0) ∧
      (∀ other ≠ task, next.task other = state.task other) ∧
      next.permit = state.permit ∧ next.draining = state.draining := by
  simp only [step, fresh, free, and_self, if_true, Option.some.injEq, exists_eq_left']
  refine ⟨fun gauge => ?_, fun other different => setTask_task_of_ne different _, rfl, rfl⟩
  simp only [setTask_inFlight, Function.update_apply]
  split
  · next same => rw [same]
  · rfl

/-- Fresh tasks acquire workers that stay within the cap. -/
private theorem exec_acquires {pairs : List (Fin n × Fin maxWorkers)} {state : State n}
    (fresh : ∀ pair ∈ pairs, state.task pair.1 = {}) (distinct : (pairs.map Prod.fst).Nodup)
    (room : ∀ gauge, state.inFlight gauge + (pairs.map Prod.snd).count gauge ≤ cap) :
    ∃ filled, Machine.exec (step cap) state (pairs.map fun pair => .acquire pair.1 pair.2) =
        some filled ∧
      (∀ gauge, filled.inFlight gauge =
        state.inFlight gauge + (pairs.map Prod.snd).count gauge) ∧
      (∀ task ∉ pairs.map Prod.fst, filled.task task = state.task task) ∧
      filled.permit = state.permit ∧ filled.draining = state.draining := by
  induction pairs generalizing state with
  | nil => exact ⟨state, rfl, fun _ => rfl, fun _ _ => rfl, rfl, rfl⟩
  | cons pair rest inductionHypothesis =>
      obtain ⟨task, worker⟩ := pair
      obtain ⟨mine, others⟩ := List.forall_mem_cons.mp fresh
      rw [List.map_cons, List.nodup_cons] at distinct
      have split : ∀ gauge, (((task, worker) :: rest).map Prod.snd).count gauge =
          (if gauge = worker then 1 else 0) + (rest.map Prod.snd).count gauge := by
        intro gauge
        by_cases same : gauge = worker
        · simp [same, Nat.add_comm]
        · simp [same, Ne.symm same]
      have free : state.inFlight worker < cap := by
        have own := room worker
        rw [split, if_pos rfl] at own
        omega
      obtain ⟨next, stepped, raised, tasks, permit, draining⟩ := step_acquire mine free
      have later : ∀ pair ∈ rest, next.task pair.1 = {} := by
        intro pair member
        rw [tasks pair.1, others pair member]
        intro same
        exact distinct.1 (same ▸ List.mem_map_of_mem member)
      obtain ⟨filled, ran, counted, kept, samePermit, sameDraining⟩ :=
        inductionHypothesis later distinct.2 (by
          intro gauge
          rw [raised, Nat.add_assoc, ← split]
          exact room gauge)
      refine ⟨filled, ?_, ?_, ?_, samePermit.trans permit, sameDraining.trans draining⟩
      · rw [List.map_cons, Machine.exec, stepped]
        exact ran
      · intro gauge
        rw [counted, raised, split, Nat.add_assoc]
      · intro other absent
        rw [List.map_cons, List.mem_cons, not_or] at absent
        rw [kept other absent.2, tasks other absent.1]

/-- A waiter scans by gauges that it does not name or that are at the cap. -/
private theorem exec_scans {task : Fin n} (count : Nat) {index : Nat} {state : State n}
    (scanning : (state.task task).phase = .scanning index) (bound : index + count ≤ maxWorkers)
    (full : ∀ gauge : Fin maxWorkers, index ≤ gauge.val → gauge.val < index + count →
      state.names task gauge = true → cap ≤ state.inFlight gauge) :
    Machine.exec (step cap) state (List.replicate count (.scan task)) =
      some (state.setTask task
        { state.task task with phase := .scanning (index + count) }) := by
  induction count generalizing index state with
  | zero =>
      have same : { state.task task with phase := .scanning (index + 0) } = state.task task := by
        rw [Nat.add_zero, ← scanning]
      rw [same, State.setTask, Function.update_eq_self]
      rfl
  | succ count inductionHypothesis =>
      have inside : index < maxWorkers := by omega
      have passed : state.admits cap task index = false := by
        unfold State.admits
        rw [dif_pos inside]
        cases named : state.names task index with
        | false => rfl
        | true =>
            have atCap := full ⟨index, inside⟩ le_rfl (by simp) named
            simp [atCap]
      have stepped : step cap state (.scan task) =
          some (state.setTask task { state.task task with phase := .scanning (index + 1) }) := by
        simp only [step, scanning, inside, passed, if_true, Bool.false_eq_true, if_false]
      rw [List.replicate_succ, Machine.exec, stepped, Option.bind_some,
        @inductionHypothesis (index + 1) _]
      · simp only [setTask_task_self]
        simp only [State.setTask, Function.update_idem, Nat.add_assoc, Nat.add_comm 1]
      · rw [setTask_task_self]
      · omega
      · intro gauge atLeast below named
        refine full gauge (by omega) (by omega) ?_
        simpa [State.names] using named

/-- A fresh task goes into the park, up to its scan, where nobody has left a permit. -/
private theorem exec_entering {task : Fin n} (mask : BitVec 32) (fresh : state.task task = {})
    (unpermitted : state.permit = false) (undrained : state.draining = false) :
    ∃ entered, Machine.exec (step cap) state [.enter task mask, .enable task, .checkDrain task] =
        some entered ∧
      entered.task task = { phase := .scanning 0, mask, slot := .queued } ∧
      (∀ other ≠ task, entered.task other = state.task other) ∧
      entered.inFlight = state.inFlight ∧ entered.permit = false ∧ entered.draining = false ∧
      entered.parked = state.parked + 1 := by
  simp only [Machine.exec, step, fresh, unpermitted, undrained, setTask_task_self, and_self,
    if_true, Bool.false_eq_true, if_false, Option.bind_some, setTask_permit, setTask_draining,
    Option.some.injEq, exists_eq_left']
  refine ⟨trivial, fun other different => ?_, rfl, trivial, trivial, rfl⟩
  rw [setTask_task_of_ne different, setTask_task_of_ne different, setTask_task_of_ne different]

/-- A request whose workers are all at the cap goes to sleep. -/
private theorem exec_parkAt {task : Fin n} {mask : BitVec 32} (fresh : state.task task = {})
    (unpermitted : state.permit = false) (undrained : state.draining = false)
    (full : ∀ gauge : Fin maxWorkers, mask.getLsbD gauge = true → cap ≤ state.inFlight gauge) :
    ∃ parked, Machine.exec (step cap) state (parkAt task mask) = some parked ∧
      (∀ other ≠ task, parked.task other = state.task other) ∧
      parked.inFlight = state.inFlight ∧ parked.permit = false ∧ parked.draining = false ∧
      0 < parked.parked := by
  obtain ⟨entered, ran, own, others, gauges, permit, draining, counted⟩ :=
    exec_entering mask fresh unpermitted undrained
  have scanned := @exec_scans n cap task maxWorkers 0 entered (by rw [own])
    (Nat.zero_add _).le (by
      intro gauge _ _ named
      rw [gauges]
      refine full gauge ?_
      rw [State.names, own] at named
      exact named)
  rw [Nat.zero_add] at scanned
  unfold parkAt
  rw [Machine.exec_append, Machine.exec_append, ran, Option.bind_some, scanned, Option.bind_some]
  simp only [Machine.exec, step, setTask_task_self, if_true, own, Option.bind_some,
    Option.some.injEq, exists_eq_left']
  refine ⟨fun other different => ?_, gauges, permit, draining, ?_⟩
  · rw [setTask_task_of_ne different, setTask_task_of_ne different, others other different]
  · rw [setTask_parked, setTask_parked, counted]
    exact Nat.succ_pos _

/-- Each configured worker as often as the cap. -/
private def fillers (workers cap : Nat) : List (Fin maxWorkers) :=
  (List.replicate cap ((List.finRange maxWorkers).filter fun gauge => gauge.val < workers)).flatten

private theorem count_fillers (workers cap : Nat) (gauge : Fin maxWorkers) :
    (fillers workers cap).count gauge = if gauge.val < workers then cap else 0 := by
  rw [fillers, List.count_flatten, List.map_replicate, List.sum_replicate]
  by_cases configured : gauge.val < workers
  · rw [List.count_filter (by simpa using configured),
      List.count_eq_one_of_mem (List.nodup_finRange _) (List.mem_finRange gauge), if_pos configured,
      smul_eq_mul, Nat.mul_one]
  · rw [List.count_eq_zero_of_not_mem (by simp [configured]), if_neg configured, smul_zero]

private theorem fillers_configured {workers cap : Nat} {gauge : Fin maxWorkers}
    (member : gauge ∈ fillers workers cap) : UsedBy workers gauge := by
  have present := List.count_pos_iff.mpr member
  rw [count_fillers] at present
  refine usedBy_iff.mpr ?_
  by_contra outside
  rw [if_neg outside] at present
  exact Nat.lt_irrefl 0 present

/-- A run after which every configured worker is at the cap, with two tasks that have done
nothing. -/
private theorem exists_full_fleet (workers cap : Nat) :
    ∃ (n : Nat) (waiter newcomer : Fin n) (actions : List (Action n)) (filled : State n),
      Machine.exec (step cap) (State.initial n) actions = some filled ∧
        (∀ action ∈ actions, ∀ state, Configured workers state action) ∧ newcomer ≠ waiter ∧
        filled.task waiter = {} ∧ filled.task newcomer = {} ∧ filled.permit = false ∧
        filled.draining = false ∧
        ∀ gauge, filled.inFlight gauge = if gauge.val < workers then cap else 0 := by
  generalize isHeld : fillers workers cap = held
  obtain ⟨pairs, isPairs⟩ : ∃ pairs : List (Fin (held.length + 2) × Fin maxWorkers), pairs =
    (List.finRange held.length).map fun task => (Fin.castAdd 2 task, held[task]) := ⟨_, rfl⟩
  have workersHeld : pairs.map Prod.snd = held := by
    rw [isPairs, List.map_map]
    exact List.map_getElem_finRange held
  have tasks : pairs.map Prod.fst = (List.finRange held.length).map (Fin.castAdd 2) := by
    rw [isPairs, List.map_map]
    rfl
  have counted : ∀ gauge, (pairs.map Prod.snd).count gauge =
      if gauge.val < workers then cap else 0 := by
    intro gauge
    rw [workersHeld, ← isHeld, count_fillers]
  have apart : ∀ other : Fin 2, Fin.natAdd held.length other ∉ pairs.map Prod.fst := by
    intro other member
    rw [tasks] at member
    obtain ⟨task, -, same⟩ := List.mem_map.mp member
    have values := congrArg Fin.val same
    rw [Fin.val_castAdd, Fin.val_natAdd] at values
    omega
  obtain ⟨filled, filling, gauges, untouched, permit, draining⟩ :=
    @exec_acquires _ cap pairs (State.initial (held.length + 2)) (fun _ _ => rfl)
      (by
        rw [tasks]
        exact (List.nodup_finRange _).map (Fin.castAdd_injective _ _))
      (by
        intro gauge
        rw [counted]
        show 0 + _ ≤ cap
        split <;> omega)
  refine ⟨_, Fin.natAdd held.length 0, Fin.natAdd held.length 1, _, filled, filling, ?_, ?_,
    untouched _ (apart 0), untouched _ (apart 1), permit, draining, fun gauge => ?_⟩
  · intro action member state
    obtain ⟨pair, inPairs, rfl⟩ := List.mem_map.mp member
    have inHeld := List.mem_map_of_mem (f := Prod.snd) inPairs
    rw [workersHeld] at inHeld
    exact fillers_configured (by
      rw [isHeld]
      exact inHeld)
  · intro same
    exact absurd (Fin.natAdd_injective _ _ same) (by decide)
  · rw [gauges, counted]
    exact Nat.zero_add _

/-- The guard's scan stops at a gauge below the cap. -/
private theorem finds_spare {newcomer : Fin n} {gauge : Nat} (inside : gauge < maxWorkers)
    (scanning : state.task newcomer =
      { phase := .scanning gauge, mask := guardMask, slot := .queued })
    (free : state.inFlight ⟨gauge, inside⟩ < cap) :
    ∃ next, step cap state (.scan newcomer) = some next ∧ (next.task newcomer).phase = .found := by
  have admitted : state.admits cap newcomer gauge = true := by
    unfold State.admits State.names
    rw [dif_pos inside, scanning, named_by_guard inside, decide_eq_true free]
    rfl
  simp only [step, scanning, inside, admitted, if_true, Option.some.injEq, exists_eq_left',
    setTask_task_self]

private theorem first_of_named : ∀ gauge : Fin maxWorkers,
    (1 : BitVec 32).getLsbD gauge = true → gauge.val = 0 := by
  decide +kernel

private theorem configured_guardRun {actions : List (Action n)}
    (permitted : ∀ action ∈ actions, ∀ state, Configured workers state action)
    (waiter newcomer : Fin n) (count : Nat) (someWorker : 0 < workers) :
    ∀ action ∈ (actions ++ parkAt waiter 1) ++ ([] ++ .enter newcomer guardMask ::
        ([.enable newcomer, .checkDrain newcomer] ++ List.replicate count (.scan newcomer))),
      ∀ state, Configured workers state action := by
  intro action member state
  simp only [parkAt, List.mem_append, List.mem_cons, List.not_mem_nil, or_false,
    List.mem_replicate, false_or] at member
  rcases member with (early | ((rfl | rfl | rfl) | ⟨-, rfl⟩) | rfl) | rfl | (rfl | rfl) | ⟨-, rfl⟩
  · exact permitted action early state
  · exact Or.inr fun gauge named =>
      usedBy_iff.mpr ((first_of_named gauge named).trans_lt someWorker)
  · exact True.intro
  · exact True.intro
  · exact True.intro
  · exact True.intro
  · exact Or.inl rfl
  · exact True.intro
  · exact True.intro
  · exact True.intro

/-- With a gauge to spare, a newcomer passes the guard of a fleet that is full. -/
private theorem passes_full_fleet (someWorker : 0 < workers) (spare : workers < maxWorkers)
    (positive : 0 < cap) :
    ∃ (n : Nat) (pass : GuardPass n workers cap),
      ∀ idx < workers, cap ≤ pass.last.inFlight (clamp idx) := by
  obtain ⟨n, waiter, newcomer, actions, filled, filling, permitted, different, waiterFresh,
    newcomerFresh, permit, draining, level⟩ := exists_full_fleet workers cap
  -- a request parks
  obtain ⟨arrived, parking, others, sameGauges, unpermitted, undrained, parked⟩ :=
    @exec_parkAt _ cap filled waiter 1 waiterFresh permit draining (by
      intro gauge named
      rw [level, if_pos ((first_of_named gauge named).trans_lt someWorker)])
  -- the newcomer looks at the gauges
  obtain ⟨entered, entering, own, -, stillGauges, -⟩ :=
    @exec_entering _ cap arrived newcomer guardMask
      ((others newcomer different).trans newcomerFresh) unpermitted undrained
  have levelNow : ∀ gauge, entered.inFlight gauge = if gauge.val < workers then cap else 0 := by
    intro gauge
    rw [stillGauges, sameGauges, level]
  have scanned := @exec_scans _ cap newcomer workers 0 entered (by rw [own])
    ((Nat.zero_add workers).trans_le spare.le) (by
      intro gauge _ below _
      rw [Nat.zero_add] at below
      rw [levelNow, if_pos below])
  obtain ⟨last, looks, ownLast, levelLast⟩ : ∃ last : State n,
      Machine.exec (step cap) entered (List.replicate workers (.scan newcomer)) = some last ∧
        last.task newcomer = { phase := .scanning workers, mask := guardMask, slot := .queued } ∧
        ∀ gauge, last.inFlight gauge = if gauge.val < workers then cap else 0 := by
    refine ⟨_, scanned, ?_, levelNow⟩
    rw [setTask_task_self, own, Nat.zero_add]
  obtain ⟨next, scans, found⟩ := finds_spare spare ownLast (by
    rw [levelLast, if_neg (Nat.lt_irrefl workers)]
    exact positive)
  refine ⟨n, {
    newcomer
    before := actions ++ parkAt waiter 1
    between := []
    during := [.enable newcomer, .checkDrain newcomer] ++ List.replicate workers (.scan newcomer)
    arrived
    last
    next
    dispatched := someWorker
    configured := ?_
    arrives := ?_
    parked
    notYet := fun action member => nomatch member
    looks := ?_
    firstRound := ?_
    scans
    found }, ?_⟩
  · exact Machine.meets_of_forall
      (configured_guardRun permitted waiter newcomer workers someWorker) _
  · rw [Machine.exec_append, filling, Option.bind_some]
    exact parking
  · rw [List.nil_append, ← List.cons_append, Machine.exec_append, entering, Option.bind_some]
    exact looks
  · intro action member
    simp only [List.mem_append, List.mem_cons, List.not_mem_nil, or_false, List.mem_replicate]
      at member
    rcases member with (rfl | rfl) | ⟨-, rfl⟩ <;> simp
  · intro idx configured
    rw [levelLast, if_pos (usedBy_iff.mp ⟨idx, configured, rfl⟩)]

/-! ## The guard -/

/-- The scan that finds capacity has loaded a gauge below the cap. -/
private theorem gauge_of_found {task : Fin n} (scans : step cap state (.scan task) = some next)
    (found : (next.task task).phase = .found) : ∃ gauge, state.inFlight gauge < cap := by
  simp only [step] at scans
  split at scans
  · next index scanning =>
      simp only [Option.ite_none_right_eq_some, Option.some.injEq] at scans
      obtain ⟨inside, rfl⟩ := scans
      rw [setTask_task_self] at found
      have admitted : state.admits cap task index = true := by
        by_contra refused
        rw [if_neg refused] at found
        cases found
      unfold State.admits at admitted
      rw [dif_pos inside, Bool.and_eq_true, decide_eq_true_eq] at admitted
      exact ⟨⟨index, inside⟩, admitted.2⟩
  · cases scans

/-- The guard lets newcomers through for real capacity only, in every run, exactly if every gauge
belongs to a configured worker (or nobody is ever admitted). -/
theorem guardSound_iff (workers cap : Nat) :
    GuardSound workers cap ↔ workers = 0 ∨ cap = 0 ∨ maxWorkers ≤ workers := by
  constructor
  · intro sound
    by_contra neither
    simp only [not_or, not_le] at neither
    obtain ⟨someWorker, someCap, spare⟩ := neither
    obtain ⟨n, pass, full⟩ := passes_full_fleet (Nat.pos_of_ne_zero someWorker) spare
      (Nat.pos_of_ne_zero someCap)
    obtain ⟨idx, configured, free⟩ := sound n pass
    exact Nat.not_lt.mpr (full idx configured) free
  · intro fleet n pass
    obtain ⟨gauge, free⟩ := gauge_of_found pass.scans pass.found
    rcases fleet with noWorker | noCap | all
    · exact absurd pass.dispatched (Nat.not_lt.mpr noWorker.le)
    · exact absurd (free.trans_le noCap.le) (Nat.not_lt_zero _)
    · obtain ⟨idx, configured, rfl⟩ := usedBy_iff.mpr (gauge.isLt.trans_le all)
      exact ⟨idx, configured, free⟩

/-- One worker under a cap of one: a request holds it, another sleeps, and a newcomer passes. -/
theorem full_worker_passed : ¬ GuardSound 1 1 := by
  intro sound
  obtain ⟨arrived, arrives, parked⟩ : ∃ arrived,
      Machine.exec (step 1) (State.initial 3) ([.acquire 0 0] ++ parkAt 1 1) = some arrived ∧
        0 < arrived.parked :=
    Machine.exists_exec (by decide +kernel)
  obtain ⟨last, ran, full, passes⟩ : ∃ last,
      Machine.exec (step 1) (State.initial 3) (([.acquire 0 0] ++ parkAt 1 1) ++
          ([] ++ .enter 2 guardMask ::
            ([.enable 2, .checkDrain 2] ++ List.replicate 1 (.scan 2)))) = some last ∧
        last.inFlight (clamp 0) = 1 ∧
        (step 1 last (.scan 2)).any (fun next => (next.task 2).phase = .found) = true :=
    Machine.exists_exec (by decide +kernel)
  rw [Machine.exec_append, arrives, Option.bind_some] at ran
  obtain ⟨next, scans, found⟩ := (Option.any_eq_true _ _).mp passes
  have acquires : ∀ action ∈ ([.acquire 0 0] : List (Action 3)),
      ∀ state, Configured 1 state action := by
    intro action member state
    rw [List.mem_singleton.mp member]
    exact ⟨0, Nat.zero_lt_one, rfl⟩
  obtain ⟨idx, isConfigured, free⟩ := sound 3 ⟨2, [.acquire 0 0] ++ parkAt 1 1, [],
    [.enable 2, .checkDrain 2] ++ List.replicate 1 (.scan 2), arrived, last, next,
    Nat.zero_lt_one,
    Machine.meets_of_forall (configured_guardRun acquires 1 2 1 Nat.zero_lt_one) _, arrives,
    parked, (fun action member => nomatch member), ran, by simp, scans, of_decide_eq_true found⟩
  rw [Nat.lt_one_iff.mp isConfigured] at free
  exact absurd (full.symm.trans_lt free) (Nat.lt_irrefl 1)

end

end Oxo.Edge.FrameHop.Parking
