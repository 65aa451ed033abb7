import Mathlib.Data.List.AList
import Oxo.Edge.FrameHop.Dispatch
import Oxo.Foundation.Machine
import Oxo.Foundation.Tally

/-!
Contract: the sticky pin store and its counts
(`oxo-pingora-edge/src/platform/frame_hop.rs`, `sticky_lookup_or_assign`, `sticky_reread`,
`sticky_repin`).

Owns: the sharded map behind its locks, the three operations one lock or atomic operation a
step, in every interleaving of any number of tasks; and that the counts are the number of
stored pins.

Does not own: the hit, miss and eviction totals, the order built from a pin, or the in-flight
gauges, whose loads answer with whatever the caller says. A shard drains in an order the
scheduler picks. The worker arguments of `sticky_reread` and `sticky_repin` are indexes that
an earlier answer or a candidate order gave, so below `MAX_WORKERS`.
-/

namespace Oxo.Edge.FrameHop.Sticky

open Oxo.Foundation

def stickyShards : Nat := 16

def stickyShardMax : Nat := 4096 / stickyShards

/-- `HashMap<u64, u8>`. -/
abbrev Pins := AList fun _ : UInt64 => UInt8

def shardOf (key : UInt64) : Fin stickyShards :=
  ⟨key.toNat % stickyShards, Nat.mod_lt _ (by decide)⟩

/-- The count a stored byte stands for; a byte beyond the array has none. -/
def workerOf (stored : UInt8) : Option (Fin maxWorkers) :=
  if bound : stored.toNat < maxWorkers then some ⟨stored.toNat, bound⟩ else none

/-- The running minimum of `min_by_key`: pins, in-flight depth, index. -/
structure Candidate where
  pins : Nat
  depth : Nat
  idx : Fin maxWorkers
deriving DecidableEq, Repr

/-- Strictly smaller in the key's lexicographic order. -/
def Candidate.beats (left right : Candidate) : Bool :=
  left.pins < right.pins ||
    left.pins = right.pins && (left.depth < right.depth ||
      left.depth = right.depth && left.idx < right.idx)

/-- Where a task stands. From `checking` on, each phase that names a key holds that key's shard,
apart from `missing`, `choosing` and `assigning`; `assigned` says that the assignment lock is
held too. -/
inductive Phase where
  | idle
  | lookingUp (key : UInt64) (n : Nat)
  | rereading (key : UInt64) (prior : Nat)
  | repinning (key : UInt64) (pinned served : Nat)
  | missing (key : UInt64) (n : Nat)
  | choosing (key : UInt64) (n next : Nat) (best : Option Candidate)
  | assigning (key : UInt64) (idx : Fin maxWorkers)
  | checking (key : UInt64) (n : Nat)
  | missed (key : UInt64) (n : Nat)
  | inserting (key : UInt64) (idx : Fin maxWorkers)
  | draining (key : UInt64) (idx : Fin maxWorkers) (rest : List UInt8)
  | storing (key : UInt64) (idx : Fin maxWorkers)
  | restoring (key : UInt64) (prior : Nat)
  | moving (key : UInt64) (pinned served : Nat)
  | lowering (key : UInt64) (old : UInt8) (idx : Fin maxWorkers) (assigned : Bool)
  | raising (key : UInt64) (idx : Fin maxWorkers) (assigned : Bool)
  | finished (key : UInt64) (assigned : Bool)
  | unassigning
deriving DecidableEq, Repr

structure State (n : Nat) where
  counts : Fin maxWorkers → Nat
  pins : Fin stickyShards → Pins
  shardLock : Fin stickyShards → Option (Fin n)
  assignLock : Option (Fin n)
  task : Fin n → Phase

def State.initial (n : Nat) : State n :=
  ⟨fun _ => 0, fun _ => ∅, fun _ => none, none, fun _ => .idle⟩

inductive Action (n : Nat) where
  | lookupOrAssign (task : Fin n) (key : UInt64) (n : Nat)
  | reread (task : Fin n) (key : UInt64) (prior : Nat)
  | repin (task : Fin n) (key : UInt64) (pinned served : Nat)
  | lockShard (task : Fin n)
  | access (task : Fin n)
  | unlockShard (task : Fin n)
  | lockAssign (task : Fin n)
  | weigh (task : Fin n) (depth : Nat)
  | choose (task : Fin n)
  | drainOne (task : Fin n) (old : UInt8)
  | lower (task : Fin n)
  | raise (task : Fin n)
  | unlockAssign (task : Fin n)
deriving DecidableEq

namespace State

variable {n : Nat}

def setTask (state : State n) (task : Fin n) (phase : Phase) : State n :=
  { state with task := Function.update state.task task phase }

def setPins (state : State n) (shard : Fin stickyShards) (pins : Pins) : State n :=
  { state with pins := Function.update state.pins shard pins }

def setLock (state : State n) (shard : Fin stickyShards) (holder : Option (Fin n)) : State n :=
  { state with shardLock := Function.update state.shardLock shard holder }

/-- `fetch_sub` on the count of a stored byte, if it has one. -/
def lowerCount (state : State n) (old : UInt8) : State n :=
  match workerOf old with
  | some worker =>
      { state with counts := Function.update state.counts worker (state.counts worker - 1) }
  | none => state

/-- `fetch_add` on a worker's count. -/
def raiseCount (state : State n) (worker : Fin maxWorkers) : State n :=
  { state with counts := Function.update state.counts worker (state.counts worker + 1) }

end State

/-- What a task becomes when it gets the shard lock it waits for. -/
def Phase.locked : Phase → Option (UInt64 × Phase)
  | .lookingUp key n => some (key, .checking key n)
  | .assigning key idx => some (key, .inserting key idx)
  | .rereading key prior => some (key, .restoring key prior)
  | .repinning key pinned served => some (key, .moving key pinned served)
  | _ => none

/-- What a task becomes when it drops the shard lock. -/
def Phase.unlocked : Phase → Option (UInt64 × Phase)
  | .missed key n => some (key, .missing key n)
  | .finished key assigned => some (key, if assigned then .unassigning else .idle)
  | _ => none

/-- The map operations of a task that holds its shard. -/
def access {n : Nat} (state : State n) (task : Fin n) : Option (State n) :=
  match state.task task with
  | .checking key n =>
      match (state.pins (shardOf key)).lookup key with
      | some stored =>
          if stored.toNat < min n maxWorkers then some (state.setTask task (.finished key false))
          else some (state.setTask task (.missed key n))
      | none => some (state.setTask task (.missed key n))
  | .inserting key idx =>
      let pins := state.pins (shardOf key)
      if pins.entries.length ≥ stickyShardMax then
        some ((state.setPins (shardOf key) ∅).setTask task
          (.draining key idx (pins.entries.map Sigma.snd)))
      else some (state.setTask task (.storing key idx))
  | .draining key idx [] => some (state.setTask task (.storing key idx))
  -- A raced assignment of the same key: the last write wins, the loser's count is corrected.
  | .storing key idx =>
      let pins := state.pins (shardOf key)
      some ((state.setPins (shardOf key) (pins.insert key (UInt8.ofNat idx))).setTask task
        (match pins.lookup key with
        | some old => .lowering key old idx true
        | none => .raising key idx true))
  | .restoring key prior =>
      let pins := state.pins (shardOf key)
      match pins.lookup key with
      | some _ => some (state.setTask task (.finished key false))
      | none =>
          some ((state.setPins (shardOf key) (pins.insert key (UInt8.ofNat prior))).setTask task
            (.raising key (clamp prior) false))
  | .moving key pinned served =>
      let pins := state.pins (shardOf key)
      if pins.lookup key = some (UInt8.ofNat pinned) then
        some ((state.setPins (shardOf key) (pins.insert key (UInt8.ofNat served))).setTask task
          (.lowering key (UInt8.ofNat (clamp pinned)) (clamp served) false))
      else some (state.setTask task (.finished key false))
  | _ => none

def step {n : Nat} (state : State n) : Action n → Option (State n)
  | .lookupOrAssign task key workers =>
      if state.task task = .idle then some (state.setTask task (.lookingUp key workers)) else none
  | .reread task key prior =>
      if state.task task = .idle ∧ prior < maxWorkers then
        some (state.setTask task (.rereading key prior))
      else none
  | .repin task key pinned served =>
      if state.task task = .idle ∧ pinned < maxWorkers ∧ served < maxWorkers then
        some (state.setTask task (.repinning key pinned served))
      else none
  | .lockShard task =>
      match (state.task task).locked with
      | some (key, phase) =>
          if state.shardLock (shardOf key) = none then
            some ((state.setLock (shardOf key) (some task)).setTask task phase)
          else none
      | none => none
  | .access task => access state task
  | .unlockShard task =>
      match (state.task task).unlocked with
      | some (key, phase) => some ((state.setLock (shardOf key) none).setTask task phase)
      | none => none
  | .lockAssign task =>
      match state.task task with
      | .missing key workers =>
          if state.assignLock = none then
            some ({ state with assignLock := some task }.setTask task
              (.choosing key workers 0 none))
          else none
      | _ => none
  -- One round of `min_by_key`; the depth is what the in-flight gauge answers.
  | .weigh task depth =>
      match state.task task with
      | .choosing key workers next best =>
          if bound : next < min workers maxWorkers then
            let idx : Fin maxWorkers := ⟨next, by omega⟩
            let candidate : Candidate := ⟨state.counts idx, depth, idx⟩
            let better := match best with
              | some best => if candidate.beats best then candidate else best
              | none => candidate
            some (state.setTask task (.choosing key workers (next + 1) (some better)))
          else none
      | _ => none
  | .choose task =>
      match state.task task with
      | .choosing key workers next best =>
          if next < min workers maxWorkers then none
          else some (state.setTask task (.assigning key ((best.map Candidate.idx).getD 0)))
      | _ => none
  | .drainOne task old =>
      match state.task task with
      | .draining key idx rest =>
          if old ∈ rest then
            some ((state.lowerCount old).setTask task (.draining key idx (rest.erase old)))
          else none
      | _ => none
  | .lower task =>
      match state.task task with
      | .lowering key old idx assigned =>
          some ((state.lowerCount old).setTask task (.raising key idx assigned))
      | _ => none
  | .raise task =>
      match state.task task with
      | .raising key idx assigned =>
          some ((state.raiseCount idx).setTask task (.finished key assigned))
      | _ => none
  | .unlockAssign task =>
      match state.task task with
      | .unassigning => some ({ state with assignLock := none }.setTask task .idle)
      | _ => none

/-! ## Stored pins -/

/-- How many entries of a shard pin a worker. -/
def pinnedIn (pins : Pins) (worker : Fin maxWorkers) : Nat :=
  pins.entries.countP fun entry => workerOf entry.2 = some worker

theorem workerOf_ofNat {idx : Nat} (bound : idx < maxWorkers) :
    workerOf (UInt8.ofNat idx) = some (clamp idx) := by
  have small : idx < 16 := bound
  have exact : (UInt8.ofNat idx).toNat = idx := by
    rw [UInt8.toNat_ofNat']
    omega
  unfold workerOf
  rw [dif_pos (by rw [exact]; exact bound), Option.some.injEq]
  apply Fin.ext
  simp only [exact, clamp]
  omega

theorem clamp_val (idx : Fin maxWorkers) : clamp idx = idx := by
  have bound := idx.isLt
  apply Fin.ext
  simp only [clamp]
  omega

theorem clamp_of_lt {idx : Nat} (bound : idx < maxWorkers) : (clamp idx : Nat) = idx := by
  simp only [clamp]
  omega

/-- An insertion adds the new entry and takes away the one it overwrites. -/
theorem pinnedIn_insert (pins : Pins) (key : UInt64) (stored : UInt8) (worker : Fin maxWorkers) :
    pinnedIn (pins.insert key stored) worker +
        ((pins.lookup key).toList.countP fun old => workerOf old = some worker) =
      pinnedIn pins worker + if workerOf stored = some worker then 1 else 0 := by
  unfold pinnedIn
  rw [AList.entries_insert, List.countP_cons]
  by_cases fresh : key ∈ pins
  · obtain ⟨old, before, after, absent, isPins, erased⟩ :=
      List.exists_of_kerase (AList.mem_keys.mp fresh)
    have found : pins.lookup key = some old := by
      apply AList.mem_lookup_iff.mpr
      rw [isPins]
      simp
    rw [erased, found, isPins]
    simp [List.countP_append, List.countP_cons]
    omega
  · rw [AList.lookup_eq_none.mpr fresh, List.kerase_of_notMem_keys fresh]
    simp

theorem le_pinnedIn_insert (pins : Pins) (key : UInt64) (stored : UInt8)
    (worker : Fin maxWorkers) :
    (if workerOf stored = some worker then 1 else 0) ≤ pinnedIn (pins.insert key stored) worker := by
  unfold pinnedIn
  rw [AList.entries_insert, List.countP_cons]
  simp

/-! ## What a holder owes -/

/-- The shard a task has locked. -/
def Phase.holding : Phase → Option (Fin stickyShards)
  | .checking key _ | .missed key _ | .inserting key _ | .draining key _ _ | .storing key _
  | .restoring key _ | .moving key _ _ | .lowering key _ _ _ | .raising key _ _
  | .finished key _ => some (shardOf key)
  | .idle | .lookingUp _ _ | .rereading _ _ | .repinning _ _ _ | .missing _ _
  | .choosing _ _ _ _ | .assigning _ _ | .unassigning => none

/-- The decrements a task has still to make. -/
def Phase.lowers (worker : Fin maxWorkers) : Phase → Nat
  | .draining _ _ rest => rest.countP fun old => workerOf old = some worker
  | .lowering _ old _ _ => if workerOf old = some worker then 1 else 0
  | _ => 0

/-- The increment a task has still to make. -/
def Phase.raises (worker : Fin maxWorkers) : Phase → Nat
  | .lowering _ _ idx _ | .raising _ idx _ => if idx = worker then 1 else 0
  | _ => 0

/-- The workers a caller names are within the array. -/
def Phase.ranged : Phase → Bool
  | .rereading _ prior | .restoring _ prior => prior < maxWorkers
  | .repinning _ pinned served | .moving _ pinned served =>
      pinned < maxWorkers && served < maxWorkers
  | _ => true

/-- A shard's part of the counts is its entries, plus what its holder has still to take away,
less the one entry it has stored and not yet added. -/
structure Balanced (pins : Pins) (phase : Phase) (counted : Fin maxWorkers → Nat) : Prop where
  balance : ∀ worker,
    counted worker + phase.raises worker = pinnedIn pins worker + phase.lowers worker
  stored : ∀ worker, phase.raises worker ≤ pinnedIn pins worker

theorem Balanced.of_settled {pins : Pins} {phase : Phase} {counted : Fin maxWorkers → Nat}
    (raises : ∀ worker, phase.raises worker = 0) (lowers : ∀ worker, phase.lowers worker = 0)
    (exact : ∀ worker, counted worker = pinnedIn pins worker) : Balanced pins phase counted where
  balance := fun worker => by rw [raises, lowers, exact]
  stored := fun worker => by rw [raises]; exact Nat.zero_le _

section

variable {n : Nat} {state : State n} {task : Fin n}

/-- The phase of the task that holds a shard. -/
def State.sectionOf (state : State n) (shard : Fin stickyShards) : Phase :=
  match state.shardLock shard with
  | some holder => state.task holder
  | none => .idle

structure Sound (state : State n) : Prop where
  held : ∀ shard task, state.shardLock shard = some task ↔ (state.task task).holding = some shard
  ranged : ∀ task, (state.task task).ranged = true
  counted : ∃ counted : Fin stickyShards → Fin maxWorkers → Nat,
    (∀ worker, state.counts worker = tally (fun part => part worker) counted) ∧
      ∀ shard, Balanced (state.pins shard) (state.sectionOf shard) (counted shard)

theorem sound_initial : Sound (State.initial n) where
  held := by
    intro shard task
    simp [State.initial, Phase.holding]
  ranged := fun _ => rfl
  counted := by
    refine ⟨fun _ _ => 0, ?_, ?_⟩
    · intro worker
      simp [State.initial, tally]
    · intro shard
      exact Balanced.of_settled (fun _ => rfl) (fun _ => rfl) (fun _ => rfl)

@[simp] theorem setTask_task_self (phase : Phase) :
    (state.setTask task phase).task task = phase :=
  Function.update_self ..

theorem setTask_task_of_ne {other : Fin n} (different : other ≠ task) (phase : Phase) :
    (state.setTask task phase).task other = state.task other :=
  Function.update_of_ne different ..

/-- A shard whose lock the task does not hold is not concerned by what it does. -/
theorem sectionOf_setTask {shard : Fin stickyShards} (free : state.shardLock shard ≠ some task)
    (phase : Phase) : (state.setTask task phase).sectionOf shard = state.sectionOf shard := by
  simp only [State.sectionOf, State.setTask]
  split
  · rename_i holder isHolder
    apply Function.update_of_ne
    intro same
    exact free (same ▸ isHolder)
  · rfl

private theorem ranged_setTask (sound : Sound state) {phase : Phase}
    (ranged : phase.ranged = true) (other : Fin n) :
    ((state.setTask task phase).task other).ranged = true := by
  by_cases same : other = task
  · subst same
    rw [setTask_task_self]
    exact ranged
  · rw [setTask_task_of_ne same]
    exact sound.ranged other

/-- A holder works on its shard and the counts. -/
theorem Sound.inside (sound : Sound state) {shard : Fin stickyShards} {phase : Phase}
    (counts : Fin maxWorkers → Nat) (pins : Pins)
    (holds : (state.task task).holding = some shard) (still : phase.holding = some shard)
    (ranged : phase.ranged = true)
    (moves : ∀ counted, Balanced (state.pins shard) (state.task task) counted →
      (∀ worker, counted worker ≤ state.counts worker) →
        ∃ next, Balanced pins phase next ∧
          ∀ worker, counts worker + counted worker = state.counts worker + next worker) :
    Sound (({ state with counts }.setPins shard pins).setTask task phase) where
  held := by
    intro other holder
    by_cases same : holder = task
    · subst same
      rw [setTask_task_self, still, ← holds]
      exact sound.held other holder
    · rw [setTask_task_of_ne same]
      exact sound.held other holder
  ranged := ranged_setTask sound ranged
  counted := by
    have locked : state.shardLock shard = some task := (sound.held shard task).mpr holds
    obtain ⟨counted, total, balanced⟩ := sound.counted
    have own : Balanced (state.pins shard) (state.task task) (counted shard) := by
      have before := balanced shard
      rwa [State.sectionOf, locked] at before
    obtain ⟨next, after, moved⟩ := moves (counted shard) own fun worker => by
      rw [total]
      exact weight_le_tally (fun part => part worker) counted shard
    refine ⟨Function.update counted shard next, ?_, ?_⟩
    · intro worker
      have sum := tally_update (fun part : Fin maxWorkers → Nat => part worker) counted shard next
      have change := moved worker
      have before := total worker
      change counts worker = _
      omega
    · intro other
      by_cases same : other = shard
      · subst same
        have now : ((({ state with counts } : State n).setPins other pins).setTask task
            phase).sectionOf other = phase := by
          simp [State.sectionOf, State.setTask, State.setPins, locked]
        rw [now]
        simpa [State.setTask, State.setPins] using after
      · have free : state.shardLock other ≠ some task := by
          rw [Ne, sound.held, holds]
          simpa using Ne.symm same
        rw [sectionOf_setTask (by exact free)]
        simpa [State.setTask, State.setPins, State.sectionOf, same] using balanced other

/-- A task without a lock moves on without one. -/
theorem Sound.outside (sound : Sound state) {phase : Phase}
    (free : (state.task task).holding = none) (still : phase.holding = none)
    (ranged : phase.ranged = true) : Sound (state.setTask task phase) where
  held := by
    intro shard holder
    by_cases same : holder = task
    · subst same
      rw [setTask_task_self, still, ← free]
      exact sound.held shard holder
    · rw [setTask_task_of_ne same]
      exact sound.held shard holder
  ranged := ranged_setTask sound ranged
  counted := by
    obtain ⟨counted, total, balanced⟩ := sound.counted
    refine ⟨counted, total, fun shard => ?_⟩
    rw [sectionOf_setTask (by rw [Ne, sound.held, free]; simp)]
    exact balanced shard

/-- Nothing is owed to the counts. -/
def Phase.Settled (phase : Phase) : Prop :=
  ∀ worker, phase.raises worker = 0 ∧ phase.lowers worker = 0

theorem sectionOf_setLock_self (shard : Fin stickyShards) (phase : Phase) :
    ((state.setLock shard (some task)).setTask task phase).sectionOf shard = phase := by
  simp [State.sectionOf, State.setLock, State.setTask]

theorem sectionOf_setLock_none (shard : Fin stickyShards) (phase : Phase) :
    ((state.setLock shard none).setTask task phase).sectionOf shard = .idle := by
  simp [State.sectionOf, State.setLock, State.setTask]

theorem sectionOf_setLock_of_ne {shard other : Fin stickyShards} (different : other ≠ shard)
    (free : state.shardLock other ≠ some task) (holder : Option (Fin n)) (phase : Phase) :
    ((state.setLock shard holder).setTask task phase).sectionOf other =
      state.sectionOf other := by
  have kept : (state.setLock shard holder).shardLock other = state.shardLock other :=
    Function.update_of_ne different ..
  rw [sectionOf_setTask (by rwa [kept])]
  simp only [State.sectionOf, kept]
  rfl

/-- A lock changes hands while nothing is owed in its shard. -/
private theorem counted_setLock (sound : Sound state) {shard : Fin stickyShards}
    {holder : Option (Fin n)} {phase : Phase} (before : (state.sectionOf shard).Settled)
    (after : (((state.setLock shard holder).setTask task phase).sectionOf shard).Settled)
    (free : ∀ other, other ≠ shard → state.shardLock other ≠ some task) :
    ∃ counted : Fin stickyShards → Fin maxWorkers → Nat,
      (∀ worker, state.counts worker = tally (fun part => part worker) counted) ∧
        ∀ other, Balanced (state.pins other)
          (((state.setLock shard holder).setTask task phase).sectionOf other) (counted other) := by
  obtain ⟨counted, total, balanced⟩ := sound.counted
  refine ⟨counted, total, fun other => ?_⟩
  by_cases same : other = shard
  · subst same
    apply Balanced.of_settled (fun worker => (after worker).1) (fun worker => (after worker).2)
    intro worker
    have balance := (balanced other).balance worker
    rw [(before worker).1, (before worker).2] at balance
    exact balance
  · rw [sectionOf_setLock_of_ne same (free other same)]
    exact balanced other

theorem Sound.lock (sound : Sound state) {shard : Fin stickyShards} {phase : Phase}
    (unlocked : state.shardLock shard = none) (free : (state.task task).holding = none)
    (holds : phase.holding = some shard) (settled : phase.Settled)
    (ranged : phase.ranged = true) :
    Sound ((state.setLock shard (some task)).setTask task phase) where
  held := by
    intro other holder
    have before := sound.held other holder
    by_cases isTask : holder = task
    · subst isTask
      rw [free] at before
      rw [setTask_task_self, holds]
      by_cases same : other = shard
      · subst same
        simp [State.setLock, State.setTask]
      · simpa [State.setLock, State.setTask, same, Ne.symm same] using before
    · rw [setTask_task_of_ne isTask]
      by_cases same : other = shard
      · subst same
        rw [unlocked] at before
        simpa [State.setLock, State.setTask, Ne.symm isTask] using before
      · simpa [State.setLock, State.setTask, same] using before
  ranged := ranged_setTask sound ranged
  counted := by
    apply counted_setLock sound
    · rw [State.sectionOf, unlocked]
      exact fun _ => ⟨rfl, rfl⟩
    · rw [sectionOf_setLock_self]
      exact settled
    · intro other _
      rw [Ne, sound.held, free]
      simp

theorem Sound.unlock (sound : Sound state) {shard : Fin stickyShards} {phase : Phase}
    (holds : (state.task task).holding = some shard) (settled : (state.task task).Settled)
    (leaves : phase.holding = none) (ranged : phase.ranged = true) :
    Sound ((state.setLock shard none).setTask task phase) where
  held := by
    intro other holder
    have before := sound.held other holder
    by_cases isTask : holder = task
    · subst isTask
      rw [holds] at before
      rw [setTask_task_self, leaves]
      by_cases same : other = shard
      · subst same
        simp [State.setLock, State.setTask]
      · simpa [State.setLock, State.setTask, same, Ne.symm same] using before
    · rw [setTask_task_of_ne isTask]
      by_cases same : other = shard
      · subst same
        rw [(sound.held other task).mpr holds] at before
        simpa [State.setLock, State.setTask, Ne.symm isTask] using before
      · simpa [State.setLock, State.setTask, same] using before
  ranged := ranged_setTask sound ranged
  counted := by
    apply counted_setLock sound
    · rw [State.sectionOf, (sound.held shard task).mpr holds]
      exact settled
    · rw [sectionOf_setLock_none]
      exact fun _ => ⟨rfl, rfl⟩
    · intro other different
      rw [Ne, sound.held, holds]
      simpa using Ne.symm different

/-! ## Each step -/

private theorem setPins_self (shard : Fin stickyShards) :
    state.setPins shard (state.pins shard) = state := by
  simp [State.setPins, Function.update_eq_self]

/-- A holder moves on and owes what it owed. -/
theorem Sound.advance (sound : Sound state) {shard : Fin stickyShards} {phase : Phase}
    (holds : (state.task task).holding = some shard) (still : phase.holding = some shard)
    (ranged : phase.ranged = true)
    (same : ∀ worker, phase.raises worker = (state.task task).raises worker ∧
      phase.lowers worker = (state.task task).lowers worker) :
    Sound (state.setTask task phase) := by
  have moved := sound.inside state.counts (state.pins shard) holds still ranged
    fun counted balanced _ => ⟨counted,
      ⟨fun worker => by rw [(same worker).1, (same worker).2]; exact balanced.balance worker,
        fun worker => by rw [(same worker).1]; exact balanced.stored worker⟩,
      fun _ => rfl⟩
  rwa [show ({ state with counts := state.counts } : State n) = state from rfl,
    setPins_self] at moved

/-- A holder changes the map and owes the difference. -/
theorem Sound.rewrite (sound : Sound state) {shard : Fin stickyShards} {phase : Phase}
    {pins : Pins} (holds : (state.task task).holding = some shard)
    (still : phase.holding = some shard) (ranged : phase.ranged = true)
    (settled : (state.task task).Settled)
    (owes : ∀ worker, pinnedIn (state.pins shard) worker + phase.raises worker =
      pinnedIn pins worker + phase.lowers worker)
    (stored : ∀ worker, phase.raises worker ≤ pinnedIn pins worker) :
    Sound ((state.setPins shard pins).setTask task phase) := by
  refine sound.inside state.counts pins holds still ranged ?_
  intro counted balanced _
  refine ⟨counted, ⟨fun worker => ?_, stored⟩, fun _ => rfl⟩
  have before := balanced.balance worker
  have owed := owes worker
  rw [(settled worker).1, (settled worker).2] at before
  omega

/-- A holder stores a pin: it owes the new one's increment and the old one's decrement. -/
theorem Sound.store (sound : Sound state) {key : UInt64} {phase : Phase} {stored : UInt8}
    {idx : Fin maxWorkers} (holds : (state.task task).holding = some (shardOf key))
    (still : phase.holding = some (shardOf key)) (ranged : phase.ranged = true)
    (settled : (state.task task).Settled) (isWorker : workerOf stored = some idx)
    (raises : ∀ worker, phase.raises worker = if idx = worker then 1 else 0)
    (lowers : ∀ worker, phase.lowers worker =
      ((state.pins (shardOf key)).lookup key).toList.countP fun old => workerOf old = some worker) :
    Sound ((state.setPins (shardOf key) ((state.pins (shardOf key)).insert key stored)).setTask task
      phase) := by
  refine sound.rewrite holds still ranged settled ?_ ?_
  · intro worker
    have inserted := pinnedIn_insert (state.pins (shardOf key)) key stored worker
    simp only [isWorker, Option.some.injEq] at inserted
    rw [raises, lowers]
    omega
  · intro worker
    have inserted := le_pinnedIn_insert (state.pins (shardOf key)) key stored worker
    simp only [isWorker, Option.some.injEq] at inserted
    rw [raises]
    exact inserted

/-- A decrement that is owed finds at least one. -/
theorem Balanced.one_le {pins : Pins} {phase : Phase} {counted : Fin maxWorkers → Nat}
    (balanced : Balanced pins phase counted) {worker : Fin maxWorkers}
    (owed : 0 < phase.lowers worker) : 1 ≤ counted worker := by
  have balance := balanced.balance worker
  have stored := balanced.stored worker
  omega

/-- A holder makes one of the decrements it owes. -/
theorem Sound.lower (sound : Sound state) {shard : Fin stickyShards} {phase : Phase} {old : UInt8}
    (holds : (state.task task).holding = some shard) (still : phase.holding = some shard)
    (ranged : phase.ranged = true)
    (raises : ∀ worker, phase.raises worker = (state.task task).raises worker)
    (lowers : ∀ worker, (state.task task).lowers worker =
      phase.lowers worker + if workerOf old = some worker then 1 else 0) :
    Sound ((state.lowerCount old).setTask task phase) := by
  cases isWorker : workerOf old with
  | none =>
      have unchanged : state.lowerCount old = state := by simp [State.lowerCount, isWorker]
      rw [unchanged]
      apply sound.advance holds still ranged
      intro worker
      refine ⟨raises worker, ?_⟩
      simp [lowers, isWorker]
  | some lowered =>
      have moved := sound.inside
        (Function.update state.counts lowered (state.counts lowered - 1)) (state.pins shard)
        holds still ranged ?_
      · rw [show (({ state with
            counts := Function.update state.counts lowered (state.counts lowered - 1) } :
              State n).setPins shard (state.pins shard)) = state.lowerCount old by
          simp [State.setPins, State.lowerCount, isWorker, Function.update_eq_self]] at moved
        exact moved
      · intro counted balanced within
        have least : 1 ≤ counted lowered := balanced.one_le (by simp [lowers, isWorker])
        refine ⟨Function.update counted lowered (counted lowered - 1), ⟨?_, ?_⟩, ?_⟩
        · intro worker
          have balance := balanced.balance worker
          rw [lowers, isWorker] at balance
          rw [raises]
          by_cases same : worker = lowered
          · subst same
            simp only [Function.update_self, if_true] at balance ⊢
            omega
          · rw [Function.update_of_ne same]
            simp only [Option.some.injEq, Ne.symm same, if_false] at balance
            omega
        · intro worker
          rw [raises]
          exact balanced.stored worker
        · intro worker
          by_cases same : worker = lowered
          · subst same
            have bound := within worker
            simp only [Function.update_self]
            omega
          · rw [Function.update_of_ne same, Function.update_of_ne same]

/-- A holder makes the increment it owes. -/
theorem Sound.raise (sound : Sound state) {shard : Fin stickyShards} {phase : Phase}
    {idx : Fin maxWorkers} (holds : (state.task task).holding = some shard)
    (still : phase.holding = some shard) (ranged : phase.ranged = true) (settled : phase.Settled)
    (raises : ∀ worker, (state.task task).raises worker = if idx = worker then 1 else 0)
    (lowers : ∀ worker, (state.task task).lowers worker = 0) :
    Sound ((state.raiseCount idx).setTask task phase) := by
  have moved := sound.inside
    (Function.update state.counts idx (state.counts idx + 1)) (state.pins shard) holds still
    ranged ?_
  · rw [show (({ state with
        counts := Function.update state.counts idx (state.counts idx + 1) } :
          State n).setPins shard (state.pins shard)) = state.raiseCount idx by
      simp [State.setPins, State.raiseCount, Function.update_eq_self]] at moved
    exact moved
  · intro counted balanced _
    refine ⟨Function.update counted idx (counted idx + 1), ?_, ?_⟩
    · apply Balanced.of_settled (fun worker => (settled worker).1)
        (fun worker => (settled worker).2)
      intro worker
      have balance := balanced.balance worker
      rw [raises, lowers] at balance
      by_cases same : worker = idx
      · subst same
        simp only [Function.update_self, if_true] at balance ⊢
        omega
      · rw [Function.update_of_ne same]
        rw [if_neg (Ne.symm same)] at balance
        omega
    · intro worker
      by_cases same : worker = idx
      · subst same
        simp only [Function.update_self]
        omega
      · rw [Function.update_of_ne same, Function.update_of_ne same]

/-- The map operations of a holder. -/
theorem Sound.access (sound : Sound state) {next : State n}
    (accessed : access state task = some next) : Sound next := by
  have ranged := sound.ranged task
  unfold Sticky.access at accessed
  split at accessed
  · rename_i key workers checking
    have settles : ∀ phase : Phase, phase.holding = some (shardOf key) → phase.Settled →
        phase.ranged = true → Sound (state.setTask task phase) := by
      intro phase still settled inRange
      apply sound.advance (by rw [checking]; rfl) still inRange
      intro worker
      rw [checking]
      exact settled worker
    split at accessed
    · split at accessed
      · cases accessed
        exact settles _ rfl (fun _ => ⟨rfl, rfl⟩) rfl
      · cases accessed
        exact settles _ rfl (fun _ => ⟨rfl, rfl⟩) rfl
    · cases accessed
      exact settles _ rfl (fun _ => ⟨rfl, rfl⟩) rfl
  · rename_i key idx inserting
    simp only at accessed
    split at accessed
    · cases accessed
      refine sound.rewrite (by rw [inserting]; rfl) rfl rfl ?_ ?_ ?_
      · rw [inserting]
        exact fun _ => ⟨rfl, rfl⟩
      · -- every entry that leaves the map is a decrement owed
        intro worker
        simp only [Phase.raises, Phase.lowers, pinnedIn, AList.empty_entries, List.countP_nil,
          List.countP_map]
        rw [Nat.add_zero, Nat.zero_add]
        rfl
      · exact fun _ => Nat.zero_le _
    · cases accessed
      apply sound.advance (by rw [inserting]; rfl) rfl rfl
      rw [inserting]
      exact fun _ => ⟨rfl, rfl⟩
  · rename_i key idx draining
    cases accessed
    apply sound.advance (by rw [draining]; rfl) rfl rfl
    rw [draining]
    exact fun _ => ⟨rfl, rfl⟩
  · rename_i key idx storing
    cases accessed
    have isWorker : workerOf (UInt8.ofNat idx) = some idx := by
      rw [workerOf_ofNat idx.isLt, clamp_val]
    apply sound.store (by rw [storing]; rfl)
    · split <;> rfl
    · split <;> rfl
    · rw [storing]
      exact fun _ => ⟨rfl, rfl⟩
    · exact isWorker
    · intro worker
      split <;> rfl
    · intro worker
      split
      · rename_i old found
        simp [found, Phase.lowers, List.countP_cons]
      · rename_i absent
        simp [absent, Phase.lowers]
  · rename_i key prior restoring
    rw [restoring] at ranged
    simp only at accessed
    split at accessed
    · cases accessed
      apply sound.advance (by rw [restoring]; rfl) rfl rfl
      rw [restoring]
      exact fun _ => ⟨rfl, rfl⟩
    · rename_i absent
      cases accessed
      apply sound.store (by rw [restoring]; rfl) rfl rfl
      · rw [restoring]
        exact fun _ => ⟨rfl, rfl⟩
      · exact workerOf_ofNat (by simpa [Phase.ranged] using ranged)
      · exact fun _ => rfl
      · intro worker
        simp [absent, Phase.lowers]
  · rename_i key pinned served moving
    rw [moving] at ranged
    have inRange : pinned < maxWorkers ∧ served < maxWorkers := by
      simpa [Phase.ranged] using ranged
    simp only at accessed
    split at accessed
    · rename_i found
      cases accessed
      apply sound.store (by rw [moving]; rfl) rfl rfl
      · rw [moving]
        exact fun _ => ⟨rfl, rfl⟩
      · exact workerOf_ofNat inRange.2
      · exact fun _ => rfl
      · intro worker
        simp [found, Phase.lowers, List.countP_cons, clamp_of_lt inRange.1]
    · cases accessed
      apply sound.advance (by rw [moving]; rfl) rfl rfl
      rw [moving]
      exact fun _ => ⟨rfl, rfl⟩
  · cases accessed

private theorem locked_shape {phase next : Phase} {key : UInt64}
    (locked : phase.locked = some (key, next)) :
    phase.holding = none ∧ next.holding = some (shardOf key) ∧ next.Settled ∧
      next.ranged = phase.ranged := by
  cases phase with
  | lookingUp | assigning | rereading | repinning =>
      cases locked
      exact ⟨rfl, rfl, fun _ => ⟨rfl, rfl⟩, rfl⟩
  | _ => cases locked

private theorem unlocked_shape {phase next : Phase} {key : UInt64}
    (unlocked : phase.unlocked = some (key, next)) :
    phase.holding = some (shardOf key) ∧ phase.Settled ∧ next.holding = none ∧
      next.ranged = true := by
  cases phase with
  | missed =>
      cases unlocked
      exact ⟨rfl, fun _ => ⟨rfl, rfl⟩, rfl, rfl⟩
  | finished key assigned =>
      cases assigned <;> cases unlocked <;> exact ⟨rfl, fun _ => ⟨rfl, rfl⟩, rfl, rfl⟩
  | _ => cases unlocked

theorem Sound.step (sound : Sound state) {action : Action n} {next : State n}
    (stepped : step state action = some next) : Sound next := by
  have assigned : ∀ assignLock, Sound { state with assignLock } :=
    fun _ => ⟨sound.held, sound.ranged, sound.counted⟩
  cases action with
  | lookupOrAssign task key workers =>
      simp only [Sticky.step, Option.ite_none_right_eq_some, Option.some.injEq] at stepped
      obtain ⟨idle, rfl⟩ := stepped
      exact sound.outside (by rw [idle]; rfl) rfl rfl
  | reread task key prior =>
      simp only [Sticky.step, Option.ite_none_right_eq_some, Option.some.injEq] at stepped
      obtain ⟨⟨idle, inRange⟩, rfl⟩ := stepped
      exact sound.outside (by rw [idle]; rfl) rfl (by simp [Phase.ranged, inRange])
  | repin task key pinned served =>
      simp only [Sticky.step, Option.ite_none_right_eq_some, Option.some.injEq] at stepped
      obtain ⟨⟨idle, inRange⟩, rfl⟩ := stepped
      exact sound.outside (by rw [idle]; rfl) rfl (by simp [Phase.ranged, inRange])
  | lockShard task =>
      simp only [Sticky.step] at stepped
      split at stepped
      · rename_i key phase locked
        simp only [Option.ite_none_right_eq_some, Option.some.injEq] at stepped
        obtain ⟨unlocked, rfl⟩ := stepped
        have shape := locked_shape locked
        exact sound.lock unlocked shape.1 shape.2.1 shape.2.2.1
          (by rw [shape.2.2.2]; exact sound.ranged task)
      · cases stepped
  | access task => exact sound.access stepped
  | unlockShard task =>
      simp only [Sticky.step] at stepped
      split at stepped
      · rename_i key phase unlocked
        cases stepped
        have shape := unlocked_shape unlocked
        exact sound.unlock shape.1 shape.2.1 shape.2.2.1 shape.2.2.2
      · cases stepped
  | lockAssign task =>
      simp only [Sticky.step] at stepped
      split at stepped
      · rename_i key workers missing
        simp only [Option.ite_none_right_eq_some, Option.some.injEq] at stepped
        obtain ⟨-, rfl⟩ := stepped
        exact (assigned _).outside (by rw [missing]; rfl) rfl rfl
      · cases stepped
  | weigh task depth =>
      simp only [Sticky.step] at stepped
      split at stepped
      · rename_i key workers index best choosing
        split at stepped
        · cases stepped
          exact sound.outside (by rw [choosing]; rfl) rfl rfl
        · cases stepped
      · cases stepped
  | choose task =>
      simp only [Sticky.step] at stepped
      split at stepped
      · rename_i key workers index best choosing
        split at stepped
        · cases stepped
        · cases stepped
          exact sound.outside (by rw [choosing]; rfl) rfl rfl
      · cases stepped
  | drainOne task old =>
      simp only [Sticky.step] at stepped
      split at stepped
      · rename_i key idx rest draining
        simp only [Option.ite_none_right_eq_some, Option.some.injEq] at stepped
        obtain ⟨mem, rfl⟩ := stepped
        refine sound.lower
          (show (state.task task).holding = some (shardOf key) by rw [draining]; rfl) rfl rfl ?_ ?_
        · intro worker
          rw [draining]
          rfl
        · intro worker
          have split := (List.perm_cons_erase mem).countP_eq fun old => workerOf old = some worker
          rw [List.countP_cons] at split
          rw [draining]
          simpa [Phase.lowers] using split
      · cases stepped
  | lower task =>
      simp only [Sticky.step] at stepped
      split at stepped
      · rename_i key old idx assigned lowering
        cases stepped
        refine sound.lower
          (show (state.task task).holding = some (shardOf key) by rw [lowering]; rfl) rfl rfl ?_ ?_
        · intro worker
          rw [lowering]
          rfl
        · intro worker
          rw [lowering]
          simp [Phase.lowers]
      · cases stepped
  | raise task =>
      simp only [Sticky.step] at stepped
      split at stepped
      · rename_i key idx assigned raising
        cases stepped
        refine sound.raise (show (state.task task).holding = some (shardOf key) by rw [raising]; rfl)
          rfl rfl (fun _ => ⟨rfl, rfl⟩) ?_ ?_
        · intro worker
          rw [raising]
          rfl
        · intro worker
          rw [raising]
          rfl
      · cases stepped
  | unlockAssign task =>
      simp only [Sticky.step] at stepped
      split at stepped
      · rename_i unassigning
        cases stepped
        exact (assigned none).outside (by rw [unassigning]; rfl) rfl rfl
      · cases stepped

/-- How many entries over all shards pin a worker. -/
def storedPins (state : State n) (worker : Fin maxWorkers) : Nat :=
  tally (fun pins => pinnedIn pins worker) state.pins

def Quiescent (state : State n) : Prop :=
  ∀ task, state.task task = .idle

/-- The counts follow the store: between operations each is the number of stored entries that pin
its worker, and every decrement a task has still to make finds at least one. -/
theorem pin_counts_exact {actions : List (Action n)} {final : State n}
    (ran : Machine.exec Sticky.step (State.initial n) actions = some final) :
    (Quiescent final → ∀ worker, final.counts worker = storedPins final worker) ∧
      ∀ task worker, 0 < (final.task task).lowers worker → 1 ≤ final.counts worker := by
  have sound : Sound final :=
    Machine.invariant_of_exec (fun _ _ _ before stepped => before.step stepped) sound_initial ran
  obtain ⟨counted, total, balanced⟩ := sound.counted
  constructor
  · intro quiescent worker
    have free : ∀ shard, final.sectionOf shard = .idle := by
      intro shard
      unfold State.sectionOf
      split
      · exact quiescent _
      · rfl
    rw [total]
    apply tally_congr
    intro shard
    have balance := (balanced shard).balance worker
    simpa [free, Phase.raises, Phase.lowers] using balance
  · intro task worker owed
    have holds : ∃ shard, (final.task task).holding = some shard := by
      revert owed
      cases final.task task <;> simp [Phase.lowers, Phase.holding]
    obtain ⟨shard, holds⟩ := holds
    have own := balanced shard
    rw [State.sectionOf, (sound.held shard task).mpr holds] at own
    have least := own.one_le owed
    have part := weight_le_tally (fun part : Fin maxWorkers → Nat => part worker) counted shard
    rw [← total] at part
    omega

/-- The first lookup of a task, which misses. -/
def miss (task : Fin n) (key : UInt64) (workers : Nat) : List (Action n) :=
  [.lookupOrAssign task key workers, .lockShard task, .access task, .unlockShard task]

/-- The assignment by a task that missed, over two idle workers. -/
def assign (task : Fin n) : List (Action n) :=
  [.lockAssign task, .weigh task 0, .weigh task 0, .choose task, .lockShard task, .access task,
    .access task]

/-- Two tasks miss the same key and assign it one after the other: the second takes the other
worker, overwrites the pin and corrects the first one's count. -/
def racedAssignment : List (Action 2) :=
  miss 0 7 2 ++ miss 1 7 2 ++ assign 0 ++ [.raise 0, .unlockShard 0, .unlockAssign 0] ++
    assign 1 ++ [.lower 1, .raise 1, .unlockShard 1, .unlockAssign 1]

theorem pin_counts_exact_raced :
    ∃ final, Machine.exec Sticky.step (State.initial 2) racedAssignment = some final ∧
      final.counts 0 = storedPins final 0 ∧ final.counts 1 = storedPins final 1 ∧
      storedPins final 0 = 0 ∧ storedPins final 1 = 1 := by
  obtain ⟨final, ran, idle, stored⟩ :
      ∃ final, Machine.exec Sticky.step (State.initial 2) racedAssignment = some final ∧
        (∀ task, final.task task = .idle) ∧ storedPins final 0 = 0 ∧ storedPins final 1 = 1 :=
    Machine.exists_exec (by decide +kernel)
  have counted := (pin_counts_exact ran).1 idle
  exact ⟨final, ran, counted 0, counted 1, stored⟩

end

end Oxo.Edge.FrameHop.Sticky
