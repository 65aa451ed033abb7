import Oxo.Edge.FrameHop.Sticky

/-!
Contract: how evenly sticky assignment spreads its pins over the workers
(`oxo-pingora-edge/src/platform/frame_hop.rs`, `sticky_lookup_or_assign`).

Owns: the runs of concurrent misses in which the pin counts stay within one of each other, and a
run in which they do not.

Does not own: evictions, rereads and repins.
-/

namespace Oxo.Edge.FrameHop.Sticky

open Oxo.Foundation

/-! ## Counts -/

/-- The counts of the first workers are within one of each other. -/
def Level (len : Nat) (counts : Fin maxWorkers → Nat) : Prop :=
  ∀ left right : Fin maxWorkers, left < len → right < len → counts left ≤ counts right + 1

instance (len : Nat) (counts : Fin maxWorkers → Nat) : Decidable (Level len counts) :=
  inferInstanceAs (Decidable (∀ _, _))

/-- A worker with the fewest pins among the first, if there are any. -/
structure Least (len : Nat) (counts : Fin maxWorkers → Nat) (idx : Fin maxWorkers) : Prop where
  inside : 0 < len → idx < len
  least : ∀ other : Fin maxWorkers, other < len → counts idx ≤ counts other

def raisedAt (counts : Fin maxWorkers → Nat) (idx : Fin maxWorkers) : Fin maxWorkers → Nat :=
  Function.update counts idx (counts idx + 1)

def loweredAt (counts : Fin maxWorkers → Nat) (old : UInt8) : Fin maxWorkers → Nat :=
  match workerOf old with
  | some worker => Function.update counts worker (counts worker - 1)
  | none => counts

/-- An overwritten pin is the chosen worker's own, or that of one with more pins. -/
def Heavier (counts : Fin maxWorkers → Nat) (old : UInt8) (idx : Fin maxWorkers) : Prop :=
  ∀ worker, workerOf old = some worker → worker = idx ∨ counts idx < counts worker

instance (counts : Fin maxWorkers → Nat) (old : UInt8) (idx : Fin maxWorkers) :
    Decidable (Heavier counts old idx) :=
  inferInstanceAs (Decidable (∀ _, _))

section

variable {len : Nat} {counts : Fin maxWorkers → Nat} {idx : Fin maxWorkers}

theorem Level.raised (level : Level len counts) (least : Least len counts idx) :
    Level len (raisedAt counts idx) := by
  intro left right leftIn rightIn
  have apart := level left right leftIn rightIn
  have leftLeast := least.least left leftIn
  have rightLeast := least.least right rightIn
  unfold raisedAt
  by_cases isLeft : left = idx
  · subst isLeft
    rw [Function.update_self]
    by_cases isRight : right = left
    · rw [isRight, Function.update_self]
      omega
    · rw [Function.update_of_ne isRight]
      omega
  · rw [Function.update_of_ne isLeft]
    by_cases isRight : right = idx
    · rw [isRight, Function.update_self]
      rw [isRight] at apart
      omega
    · rw [Function.update_of_ne isRight]
      exact apart

/-- A worker with a pin to spare may give it up. -/
private theorem Level.lowered {worker : Fin maxWorkers} (level : Level len counts)
    (least : Least len counts idx) (more : counts idx < counts worker) :
    Level len (Function.update counts worker (counts worker - 1)) ∧
      Least len (Function.update counts worker (counts worker - 1)) idx := by
  have other : idx ≠ worker := by
    rintro rfl
    exact Nat.lt_irrefl _ more
  refine ⟨fun left right leftIn rightIn => ?_, least.inside, fun right rightIn => ?_⟩
  · have apart := level left right leftIn rightIn
    have spare := level left idx leftIn (least.inside (Nat.zero_lt_of_lt leftIn))
    by_cases isRight : right = worker
    · subst isRight
      rw [Function.update_self]
      by_cases isLeft : left = right
      · rw [isLeft, Function.update_self]
        omega
      · rw [Function.update_of_ne isLeft]
        omega
    · rw [Function.update_of_ne isRight]
      by_cases isLeft : left = worker
      · subst isLeft
        rw [Function.update_self]
        omega
      · rw [Function.update_of_ne isLeft]
        exact apart
  · rw [Function.update_of_ne other]
    have before := least.least right rightIn
    by_cases isRight : right = worker
    · subst isRight
      rw [Function.update_self]
      omega
    · rw [Function.update_of_ne isRight]
      exact before

/-- An overwrite takes a pin off a worker that has one to spare. -/
theorem Level.overwritten {old : UInt8} (level : Level len counts) (least : Least len counts idx)
    (heavier : Heavier counts old idx) : Level len (raisedAt (loweredAt counts old) idx) := by
  unfold loweredAt
  cases found : workerOf old with
  | none => exact level.raised least
  | some worker =>
      rcases heavier worker found with rfl | more
      · -- the chosen worker's own pin: at most one comes to nothing
        have same : raisedAt (Function.update counts worker (counts worker - 1)) worker =
            Function.update counts worker (counts worker - 1 + 1) := by
          rw [raisedAt, Function.update_self, Function.update_idem]
        simp only [same]
        by_cases none : counts worker = 0
        · rw [none]
          have raised := level.raised least
          rwa [raisedAt, none] at raised
        · rw [Nat.sub_add_cancel (Nat.pos_of_ne_zero none), Function.update_eq_self]
          exact level
      · exact (level.lowered least more).1.raised (level.lowered least more).2

end

/-! ## Assignments -/

/-- From the assignment lock to its release. -/
def Phase.underAssignLock : Phase → Bool
  | .choosing _ _ _ _ | .assigning _ _ | .inserting _ _ | .draining _ _ _ | .storing _ _
  | .unassigning => true
  | .lowering _ _ _ assigned | .raising _ _ assigned | .finished _ assigned => assigned
  | .idle | .lookingUp _ _ | .rereading _ _ | .repinning _ _ _ | .missing _ _ | .checking _ _
  | .missed _ _ | .restoring _ _ | .moving _ _ _ => false

/-- The counts once the task has done what it has still to do. -/
def Phase.planned (counts : Fin maxWorkers → Nat) : Phase → Fin maxWorkers → Nat
  | .lowering _ old idx _ => raisedAt (loweredAt counts old) idx
  | .raising _ idx _ => raisedAt counts idx
  | _ => counts

/-- The first of the weighed workers with the fewest pins so far. -/
def Weighed (counts : Fin maxWorkers → Nat) (weighed : Nat) : Option Candidate → Prop
  | none => weighed = 0
  | some best => best.pins = counts best.idx ∧ best.idx < weighed ∧
      ∀ other : Fin maxWorkers, other < weighed → best.pins ≤ counts other

/-- What an assignment over the fleet knows of the counts. -/
def Phase.Knows (workers : Nat) (counts : Fin maxWorkers → Nat) : Phase → Prop
  | .lookingUp _ asked | .missing _ asked | .checking _ asked | .missed _ asked => asked = workers
  | .choosing _ asked next best =>
      asked = workers ∧ next ≤ min workers maxWorkers ∧ Weighed counts next best
  | .assigning _ idx | .inserting _ idx | .storing _ idx =>
      Least (min workers maxWorkers) counts idx
  | .lowering _ _ _ assigned | .raising _ _ assigned => assigned = true
  | .finished _ _ | .idle | .unassigning => True
  | .rereading _ _ | .repinning _ _ _ | .restoring _ _ | .moving _ _ _ | .draining _ _ _ => False

/-- The key of an assignment that looks at the size of its shard. -/
def Phase.inserts : Phase → Option UInt64
  | .inserting key _ => some key
  | _ => none

/-- The key that an assignment is about to store, and the worker. -/
def Phase.stores : Phase → Option (UInt64 × Fin maxWorkers)
  | .storing key idx => some (key, idx)
  | _ => none

/-- Only lookups over one fleet, and no assignment finds its shard full. -/
def MissesOnly {n : Nat} (workers : Nat) (state : State n) : Action n → Prop
  | .lookupOrAssign _ _ asked => asked = workers
  | .reread _ _ _ | .repin _ _ _ _ => False
  | .access task => ∀ key ∈ (state.task task).inserts,
      (state.pins (shardOf key)).entries.length < stickyShardMax
  | _ => True

instance {n : Nat} (workers : Nat) (state : State n) :
    (action : Action n) → Decidable (MissesOnly workers state action)
  | .lookupOrAssign _ _ _ => inferInstanceAs (Decidable (_ = _))
  | .reread _ _ _ | .repin _ _ _ _ => inferInstanceAs (Decidable False)
  | .access _ => Option.decidableForallMem _
  | .lockShard _ | .unlockShard _ | .lockAssign _ | .weigh _ _ | .choose _ | .drainOne _ _
  | .lower _ | .raise _ | .unlockAssign _ => inferInstanceAs (Decidable True)

/-- An assignment that overwrites the pin of its key, which another miss of the key has stored
meanwhile, takes it off the chosen worker or off one with more pins. -/
def OverwritesHeavier {n : Nat} (state : State n) : Action n → Prop
  | .access task => ∀ pin ∈ (state.task task).stores,
      ∀ old ∈ (state.pins (shardOf pin.1)).lookup pin.1, Heavier state.counts old pin.2
  | _ => True

instance {n : Nat} (state : State n) :
    (action : Action n) → Decidable (OverwritesHeavier state action)
  | .access _ => @Option.decidableForallMem _ _ (fun _ => Option.decidableForallMem _) _
  | .lookupOrAssign _ _ _ | .reread _ _ _ | .repin _ _ _ _ | .lockShard _ | .unlockShard _
  | .lockAssign _ | .weigh _ _ | .choose _ | .drainOne _ _ | .lower _ | .raise _
  | .unlockAssign _ => inferInstanceAs (Decidable True)

section

variable {n : Nat} {state next : State n} {workers : Nat}

/-- The holder of the assignment lock is the task that assigns, and once it has done what it has
still to do the counts are level. -/
structure Fair (workers : Nat) (state : State n) : Prop where
  owner : ∀ task, state.assignLock = some task ↔ (state.task task).underAssignLock = true
  knows : ∀ task, (state.task task).Knows workers state.counts
  free : state.assignLock = none → Level (min workers maxWorkers) state.counts
  planned : ∀ task, (state.task task).underAssignLock = true →
    Level (min workers maxWorkers) ((state.task task).planned state.counts)

theorem fair_initial : Fair workers (State.initial n) where
  owner := by
    intro task
    simp [State.initial, Phase.underAssignLock]
  knows := fun _ => trivial
  free := fun _ _ _ _ _ => Nat.zero_le _
  planned := fun _ assigning => nomatch assigning

/-! ## One step -/

/-- A task that does not assign knows nothing of the counts. -/
private theorem knows_of_outside {phase : Phase} {counts : Fin maxWorkers → Nat}
    (knows : phase.Knows workers counts) (outside : phase.underAssignLock = false)
    (others : Fin maxWorkers → Nat) : phase.Knows workers others := by
  cases phase with
  | choosing | assigning | inserting | storing => cases outside
  | _ => exact knows

private theorem outside_of_ne (fair : Fair workers state) {task other : Fin n}
    (assigning : (state.task task).underAssignLock = true) (different : other ≠ task) :
    (state.task other).underAssignLock = false := by
  have mine := (fair.owner task).mpr assigning
  rw [← Bool.not_eq_true, ← fair.owner other, mine]
  exact fun same => different (Option.some.inj same).symm

/-- A task that does not assign leaves the counts and the lock as they are. -/
private theorem Fair.outside (fair : Fair workers state) {changed : State n} {task : Fin n}
    {phase : Phase} (tasks : changed.task = state.task) (counts : changed.counts = state.counts)
    (locks : changed.assignLock = state.assignLock)
    (before : (state.task task).underAssignLock = false)
    (after : phase.underAssignLock = false) (knows : phase.Knows workers state.counts) :
    Fair workers (changed.setTask task phase) where
  owner := by
    intro other
    change changed.assignLock = _ ↔ _
    rw [locks]
    by_cases same : other = task
    · subst same
      rw [setTask_task_self, fair.owner, before, after]
    · rw [setTask_task_of_ne same, tasks]
      exact fair.owner other
  knows := by
    intro other
    change Phase.Knows workers changed.counts _
    rw [counts]
    by_cases same : other = task
    · subst same
      rw [setTask_task_self]
      exact knows
    · rw [setTask_task_of_ne same, tasks]
      exact fair.knows other
  free := by
    intro unlocked
    change Level _ changed.counts
    rw [counts]
    exact fair.free (locks ▸ unlocked)
  planned := by
    intro other assigning
    change Level _ (Phase.planned changed.counts _)
    rw [counts]
    by_cases same : other = task
    · rw [same, setTask_task_self, after] at assigning
      cases assigning
    · rw [setTask_task_of_ne same, tasks] at assigning ⊢
      exact fair.planned other assigning

/-- The task that assigns changes the counts alone. -/
private theorem Fair.inside (fair : Fair workers state) {changed : State n} {task : Fin n}
    {phase : Phase} (tasks : changed.task = state.task)
    (locks : changed.assignLock = state.assignLock)
    (before : (state.task task).underAssignLock = true)
    (after : phase.underAssignLock = true) (knows : phase.Knows workers changed.counts)
    (level : Level (min workers maxWorkers) (phase.planned changed.counts)) :
    Fair workers (changed.setTask task phase) where
  owner := by
    intro other
    change changed.assignLock = _ ↔ _
    rw [locks]
    by_cases same : other = task
    · subst same
      rw [setTask_task_self, fair.owner, before, after]
    · rw [setTask_task_of_ne same, tasks]
      exact fair.owner other
  knows := by
    intro other
    change Phase.Knows workers changed.counts _
    by_cases same : other = task
    · subst same
      rw [setTask_task_self]
      exact knows
    · rw [setTask_task_of_ne same, tasks]
      exact knows_of_outside (fair.knows other) (outside_of_ne fair before same) _
  free := by
    intro unlocked
    change changed.assignLock = none at unlocked
    rw [locks, (fair.owner task).mpr before] at unlocked
    cases unlocked
  planned := by
    intro other assigning
    change Level _ (Phase.planned changed.counts _)
    by_cases same : other = task
    · subst same
      rw [setTask_task_self]
      exact level
    · rw [setTask_task_of_ne same, tasks, outside_of_ne fair before same] at assigning
      cases assigning

private theorem Fair.lockAssign (fair : Fair workers state) {task : Fin n} {key : UInt64}
    (unlocked : state.assignLock = none) :
    Fair workers ({ state with assignLock := some task }.setTask task
      (.choosing key workers 0 none)) where
  owner := by
    intro other
    change some task = some other ↔ _
    by_cases same : other = task
    · subst same
      rw [setTask_task_self]
      exact ⟨fun _ => rfl, fun _ => rfl⟩
    · rw [setTask_task_of_ne same, ← fair.owner, unlocked]
      exact ⟨fun held => absurd (Option.some.inj held).symm same, fun held => nomatch held⟩
  knows := by
    intro other
    by_cases same : other = task
    · subst same
      rw [setTask_task_self]
      exact ⟨rfl, Nat.zero_le _, rfl⟩
    · rw [setTask_task_of_ne same]
      exact fair.knows other
  free := fun held => nomatch held
  planned := by
    intro other assigning
    by_cases same : other = task
    · subst same
      rw [setTask_task_self]
      exact fair.free unlocked
    · rw [setTask_task_of_ne same] at assigning
      have held := (fair.owner other).mpr assigning
      rw [unlocked] at held
      cases held

private theorem Fair.unlockAssign (fair : Fair workers state) {task : Fin n}
    (unassigning : state.task task = .unassigning) :
    Fair workers ({ state with assignLock := none }.setTask task .idle) where
  owner := by
    intro other
    refine ⟨fun held => (nomatch held), fun assigning => ?_⟩
    by_cases same : other = task
    · rw [same, setTask_task_self] at assigning
      cases assigning
    · rw [setTask_task_of_ne same,
        show ({ state with assignLock := none } : State n).task other = state.task other from rfl,
        outside_of_ne fair (by rw [unassigning]; rfl) same] at assigning
      cases assigning
  knows := by
    intro other
    by_cases same : other = task
    · rw [same, setTask_task_self]
      trivial
    · rw [setTask_task_of_ne same]
      exact fair.knows other
  free := by
    intro _
    have level := fair.planned task (by rw [unassigning]; rfl)
    rwa [unassigning] at level
  planned := by
    intro other assigning
    by_cases same : other = task
    · rw [same, setTask_task_self] at assigning
      cases assigning
    · rw [setTask_task_of_ne same] at assigning ⊢
      exact fair.planned other assigning

private theorem eq_of_last {index : Nat} {last other : Fin maxWorkers} (isLast : last = index)
    (below : other < index + 1) (beyond : ¬ other < index) : other = last :=
  Fin.ext (by omega)

private theorem weighed_first {counts : Fin maxWorkers → Nat} {idx : Fin maxWorkers}
    (isFirst : idx = 0) (depth : Nat) : Weighed counts 1 (some ⟨counts idx, depth, idx⟩) := by
  subst isFirst
  refine ⟨rfl, Nat.one_pos, fun other below => ?_⟩
  rw [eq_of_last (show ((0 : Fin maxWorkers) : Nat) = 0 from rfl) below (Nat.not_lt_zero _)]

/-- One round of `min_by_key`. -/
private theorem weighed_next {counts : Fin maxWorkers → Nat} {index depth : Nat}
    {idx : Fin maxWorkers} {best : Candidate} (isIndex : idx = index)
    (weighed : Weighed counts index (some best)) :
    Weighed counts (index + 1) (some
      (if (Candidate.mk (counts idx) depth idx).beats best then ⟨counts idx, depth, idx⟩
      else best)) := by
  obtain ⟨pins, inside, least⟩ := weighed
  by_cases beats : (Candidate.mk (counts idx) depth idx).beats best
  · have fewer : counts idx ≤ best.pins := by
      simp only [Candidate.beats, Bool.or_eq_true, Bool.and_eq_true, decide_eq_true_eq] at beats
      omega
    rw [if_pos beats]
    refine ⟨rfl, isIndex ▸ Nat.lt_succ_self _, fun other below => ?_⟩
    by_cases earlier : (other : Nat) < index
    · exact fewer.trans (least other earlier)
    · rw [eq_of_last isIndex below earlier]
  · have fewer : best.pins ≤ counts idx := by
      simp only [Candidate.beats, Bool.or_eq_true, Bool.and_eq_true, decide_eq_true_eq] at beats
      omega
    rw [if_neg beats]
    refine ⟨pins, Nat.lt_succ_of_lt inside, fun other below => ?_⟩
    by_cases earlier : (other : Nat) < index
    · exact least other earlier
    · rw [eq_of_last isIndex below earlier]
      exact fewer

private theorem least_of_weighed {counts : Fin maxWorkers → Nat} {len : Nat}
    {best : Option Candidate} (weighed : Weighed counts len best) :
    Least len counts ((best.map Candidate.idx).getD 0) := by
  cases best with
  | none =>
      have empty : len = 0 := weighed
      subst empty
      exact ⟨fun some => absurd some (Nat.lt_irrefl 0), fun _ below => absurd below (by omega)⟩
  | some best =>
      obtain ⟨pins, inside, least⟩ := weighed
      exact ⟨fun _ => inside, fun other below => pins ▸ least other below⟩

private theorem Fair.access (fair : Fair workers state) {task : Fin n}
    (misses : MissesOnly workers state (.access task))
    (heavier : OverwritesHeavier state (.access task))
    (accessed : Sticky.access state task = some next) : Fair workers next := by
  have knows := fair.knows task
  have planned := fair.planned task
  unfold Sticky.access at accessed
  split at accessed
  · next key asked checking =>
      rw [checking] at knows
      have before : (state.task task).underAssignLock = false := by rw [checking]; rfl
      split at accessed
      · split at accessed
        · cases accessed
          exact fair.outside rfl rfl rfl before rfl trivial
        · cases accessed
          exact fair.outside rfl rfl rfl before rfl knows
      · cases accessed
        exact fair.outside rfl rfl rfl before rfl knows
  · next key idx inserting =>
      rw [inserting] at knows planned
      have before : (state.task task).underAssignLock = true := by rw [inserting]; rfl
      simp only at accessed
      split at accessed
      · next full => exact absurd (misses key (by rw [inserting]; rfl)) (Nat.not_lt.mpr full)
      · cases accessed
        exact fair.inside rfl rfl before rfl knows (planned rfl)
  · next key idx draining =>
      rw [draining] at knows
      exact knows.elim
  · next key idx storing =>
      rw [storing] at knows planned
      have before : (state.task task).underAssignLock = true := by rw [storing]; rfl
      cases accessed
      split
      · next old found =>
          exact fair.inside rfl rfl before rfl rfl (Level.overwritten (planned rfl) knows
            (heavier (key, idx) (by rw [storing]; rfl) old found))
      · exact fair.inside rfl rfl before rfl rfl (Level.raised (planned rfl) knows)
  · next key prior restoring =>
      rw [restoring] at knows
      exact knows.elim
  · next key pinned served moving =>
      rw [moving] at knows
      exact knows.elim
  · cases accessed

theorem Fair.step (fair : Fair workers state) {action : Action n}
    (permitted : MissesOnly workers state action ∧ OverwritesHeavier state action)
    (stepped : step state action = some next) : Fair workers next := by
  obtain ⟨misses, heavier⟩ := permitted
  cases action with
  | lookupOrAssign task key asked =>
      simp only [Sticky.step, Option.ite_none_right_eq_some, Option.some.injEq] at stepped
      obtain ⟨idle, rfl⟩ := stepped
      exact fair.outside rfl rfl rfl (by rw [idle]; rfl) rfl misses
  | reread | repin => exact misses.elim
  | lockShard task =>
      have knows := fair.knows task
      have planned := fair.planned task
      simp only [Sticky.step] at stepped
      split at stepped
      · next key phase locks =>
          simp only [Option.ite_none_right_eq_some, Option.some.injEq] at stepped
          obtain ⟨-, rfl⟩ := stepped
          cases was : state.task task with
          | lookingUp =>
              rw [was] at locks knows
              cases locks
              exact fair.outside rfl rfl rfl (by rw [was]; rfl) rfl knows
          | assigning =>
              rw [was] at locks knows planned
              cases locks
              exact fair.inside rfl rfl (by rw [was]; rfl) rfl knows (planned rfl)
          | rereading | repinning =>
              rw [was] at knows
              exact knows.elim
          | _ =>
              rw [was] at locks
              cases locks
      · cases stepped
  | access task => exact fair.access misses heavier stepped
  | unlockShard task =>
      have knows := fair.knows task
      have planned := fair.planned task
      simp only [Sticky.step] at stepped
      split at stepped
      · next key phase unlocks =>
          cases stepped
          cases was : state.task task with
          | missed =>
              rw [was] at unlocks knows
              cases unlocks
              exact fair.outside rfl rfl rfl (by rw [was]; rfl) rfl knows
          | finished _ assigned =>
              rw [was] at unlocks planned
              cases assigned with
              | true =>
                  cases unlocks
                  exact fair.inside rfl rfl (by rw [was]; rfl) rfl trivial (planned rfl)
              | false =>
                  cases unlocks
                  exact fair.outside rfl rfl rfl (by rw [was]; rfl) rfl trivial
          | _ =>
              rw [was] at unlocks
              cases unlocks
      · cases stepped
  | lockAssign task =>
      have knows := fair.knows task
      simp only [Sticky.step] at stepped
      split at stepped
      · next key asked missing =>
          simp only [Option.ite_none_right_eq_some, Option.some.injEq] at stepped
          obtain ⟨unlocked, rfl⟩ := stepped
          rw [missing] at knows
          have same : asked = workers := knows
          rw [same]
          exact fair.lockAssign unlocked
      · cases stepped
  | weigh task depth =>
      have knows := fair.knows task
      have planned := fair.planned task
      simp only [Sticky.step] at stepped
      split at stepped
      · next key asked index best choosing =>
          rw [choosing] at knows planned
          obtain ⟨rfl, -, weighed⟩ := knows
          split at stepped
          · next bound =>
              cases stepped
              refine fair.inside rfl rfl (by rw [choosing]; rfl) rfl ⟨rfl, bound, ?_⟩ (planned rfl)
              cases best with
              | none =>
                  cases (show index = 0 from weighed)
                  exact weighed_first rfl depth
              | some best => exact weighed_next rfl weighed
          · cases stepped
      · cases stepped
  | choose task =>
      have knows := fair.knows task
      have planned := fair.planned task
      simp only [Sticky.step] at stepped
      split at stepped
      · next key asked index best choosing =>
          rw [choosing] at knows planned
          obtain ⟨rfl, atMost, weighed⟩ := knows
          split at stepped
          · cases stepped
          · next done =>
              cases stepped
              have all : index = min asked maxWorkers := by omega
              rw [all] at weighed
              exact fair.inside rfl rfl (by rw [choosing]; rfl) rfl (least_of_weighed weighed)
                (planned rfl)
      · cases stepped
  | drainOne task old =>
      have knows := fair.knows task
      simp only [Sticky.step] at stepped
      split at stepped
      · next key idx rest draining =>
          rw [draining] at knows
          exact knows.elim
      · cases stepped
  | lower task =>
      have knows := fair.knows task
      have planned := fair.planned task
      simp only [Sticky.step] at stepped
      split at stepped
      · next key old idx assigned lowering =>
          rw [lowering] at knows planned
          cases knows
          cases stepped
          have tasks : (state.lowerCount old).task = state.task := by
            unfold State.lowerCount
            split <;> rfl
          have locks : (state.lowerCount old).assignLock = state.assignLock := by
            unfold State.lowerCount
            split <;> rfl
          have counts : (state.lowerCount old).counts = loweredAt state.counts old := by
            unfold State.lowerCount loweredAt
            cases workerOf old <;> rfl
          refine fair.inside tasks locks (by rw [lowering]; rfl) rfl rfl ?_
          rw [counts]
          exact planned rfl
      · cases stepped
  | raise task =>
      have knows := fair.knows task
      have planned := fair.planned task
      simp only [Sticky.step] at stepped
      split at stepped
      · next key idx assigned raising =>
          rw [raising] at knows planned
          cases knows
          cases stepped
          exact fair.inside rfl rfl (by rw [raising]; rfl) rfl trivial (planned rfl)
      · cases stepped
  | unlockAssign task =>
      simp only [Sticky.step] at stepped
      split at stepped
      · next unassigning =>
          cases stepped
          exact fair.unlockAssign unassigning
      · cases stepped

/-! ## Runs -/

/-- Between assignments the counts are level, if every overwrite takes its pin off the chosen worker
or off a heavier one. -/
theorem level_of_heavier_overwrites {actions : List (Action n)} {final : State n}
    (permitted : Machine.Meets Sticky.step
      (fun state action => MissesOnly workers state action ∧ OverwritesHeavier state action)
      (State.initial n) actions)
    (ran : Machine.exec Sticky.step (State.initial n) actions = some final)
    (unassigned : ∀ task, (final.task task).underAssignLock = false) :
    Level (min workers maxWorkers) final.counts := by
  have fair : Fair workers final :=
    Machine.invariant_of_meets (fun _ _ _ before permitted stepped => before.step permitted stepped)
      fair_initial permitted ran
  apply fair.free
  cases held : final.assignLock with
  | none => rfl
  | some task =>
      have assigning := (fair.owner task).mp held
      rw [unassigned task] at assigning
      cases assigning

end

theorem level_of_heavier_overwrites_raced :
    ∃ final, Machine.exec Sticky.step (State.initial 2) racedAssignment = some final ∧
      Level 2 final.counts := by
  obtain ⟨final, ran, idle⟩ :
      ∃ final, Machine.exec Sticky.step (State.initial 2) racedAssignment = some final ∧
        ∀ task, (final.task task).underAssignLock = false :=
    Machine.exists_exec (by decide +kernel)
  have permitted : Machine.Meets Sticky.step
      (fun state action => MissesOnly 2 state action ∧ OverwritesHeavier state action)
      (State.initial 2) racedAssignment := by decide +kernel
  exact ⟨final, ran, level_of_heavier_overwrites permitted ran idle⟩

/-- The end of an assignment. -/
def release (task : Fin 2) : List (Action 2) :=
  [.raise task, .unlockShard task, .unlockAssign task]

/-- Two tasks miss a key. The first assigns it to the second worker, after another key has gone to
the first one; the second task finds both workers level, takes the first and overwrites the pin. -/
def unbalancing : List (Action 2) :=
  miss 1 9 2 ++ miss 0 7 2 ++ assign 0 ++ release 0 ++ miss 0 9 2 ++ assign 0 ++ release 0 ++
    assign 1 ++ .lower 1 :: release 1

/-- The first worker has both pins, the second none. -/
theorem overwrite_unbalances :
    Machine.Meets Sticky.step (MissesOnly 2) (State.initial 2) unbalancing ∧
      ∃ final, Machine.exec Sticky.step (State.initial 2) unbalancing = some final ∧
        Quiescent final ∧ final.counts 0 = 2 ∧ final.counts 1 = 0 ∧ ¬ Level 2 final.counts := by
  refine ⟨by decide +kernel, ?_⟩
  obtain ⟨final, ran, idle, most, least⟩ :
      ∃ final, Machine.exec Sticky.step (State.initial 2) unbalancing = some final ∧
        (∀ task, final.task task = .idle) ∧ final.counts 0 = 2 ∧ final.counts 1 = 0 :=
    Machine.exists_exec (by decide +kernel)
  refine ⟨final, ran, idle, most, least, fun level => ?_⟩
  have apart := level 0 1 (by decide) (by decide)
  rw [most, least] at apart
  exact absurd apart (by decide)

end Oxo.Edge.FrameHop.Sticky
