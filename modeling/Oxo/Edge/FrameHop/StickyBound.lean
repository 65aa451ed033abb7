import Oxo.Edge.FrameHop.Sticky

/-!
Contract: how many pins a shard of the sticky store holds
(`oxo-pingora-edge/src/platform/frame_hop.rs`, `STICKY_SHARD_MAX`).

Owns: the runs in which no shard is ever past the bound, and a run that takes one past it.

Does not own: the counts of the pins.
-/

namespace Oxo.Edge.FrameHop.Sticky

open Oxo.Foundation

/-! ## The bound -/

def Within {n : Nat} (state : State n) : Prop :=
  ∀ shard, (state.pins shard).entries.length ≤ stickyShardMax

/-- `sticky_reread` inserts a pin only into a shard with room for it. -/
def RestoresWithRoom {n : Nat} (state : State n) : Action n → Prop
  | .access task =>
      match state.task task with
      | .restoring key _ => (state.pins (shardOf key)).lookup key = none →
          (state.pins (shardOf key)).entries.length < stickyShardMax
      | _ => True
  | _ => True

/-- The key of an assignment that has looked at the size of its shard. -/
def Phase.storesNext : Phase → Option UInt64
  | .draining key _ _ | .storing key _ => some key
  | _ => none

section

variable {n : Nat} {state next : State n}

/-- No shard is past the bound, and an assignment that has looked has found or made room. -/
structure Bounded (state : State n) : Prop where
  sound : Sound state
  within : Within state
  room : ∀ task key, (state.task task).storesNext = some key →
    (state.pins (shardOf key)).entries.length < stickyShardMax

theorem bounded_initial : Bounded (State.initial n) where
  sound := sound_initial
  within := fun _ => Nat.zero_le _
  room := fun _ _ stores => nomatch stores

/-! ## One step -/

/-- What only a map operation changes. -/
private def Undisturbs (state next : State n) : Prop :=
  next.pins = state.pins ∧ ∀ task key, (next.task task).storesNext = some key →
    (state.task task).storesNext = some key

private theorem undisturbs_setTask {changed : State n} {task : Fin n} {phase : Phase}
    (pins : changed.pins = state.pins) (tasks : changed.task = state.task)
    (stores : ∀ key, phase.storesNext = some key → (state.task task).storesNext = some key) :
    Undisturbs state (changed.setTask task phase) := by
  refine ⟨pins, fun other key storing => ?_⟩
  by_cases same : other = task
  · subst same
    rw [setTask_task_self] at storing
    exact stores key storing
  · rw [setTask_task_of_ne same, tasks] at storing
    exact storing

private theorem lowerCount_pins (old : UInt8) : (state.lowerCount old).pins = state.pins := by
  unfold State.lowerCount
  split <;> rfl

private theorem lowerCount_task (old : UInt8) : (state.lowerCount old).task = state.task := by
  unfold State.lowerCount
  split <;> rfl

private theorem storesNext_locked {phase locked : Phase} {key : UInt64}
    (locks : phase.locked = some (key, locked)) : locked.storesNext = none := by
  cases phase <;> cases locks <;> rfl

private theorem storesNext_unlocked {phase unlocked : Phase} {key : UInt64}
    (unlocks : phase.unlocked = some (key, unlocked)) : unlocked.storesNext = none := by
  cases phase with
  | missed => cases unlocks; rfl
  | finished key assigned => cases assigned <;> cases unlocks <;> rfl
  | _ => cases unlocks

private theorem undisturbs_of_step {action : Action n} (stepped : step state action = some next)
    (noAccess : ∀ task, action ≠ .access task) : Undisturbs state next := by
  have none {phase : Phase} (stores : phase.storesNext = none) (task : Fin n) :
      ∀ key, phase.storesNext = some key → (state.task task).storesNext = some key := by
    intro key storing
    rw [stores] at storing
    cases storing
  cases action with
  | access task => exact absurd rfl (noAccess task)
  | lookupOrAssign task | reread task | repin task =>
      simp only [Sticky.step, Option.ite_none_right_eq_some, Option.some.injEq] at stepped
      obtain ⟨-, rfl⟩ := stepped
      exact undisturbs_setTask rfl rfl (none rfl task)
  | lockShard task =>
      simp only [Sticky.step] at stepped
      split at stepped
      · next key phase locks =>
          simp only [Option.ite_none_right_eq_some, Option.some.injEq] at stepped
          obtain ⟨-, rfl⟩ := stepped
          exact undisturbs_setTask rfl rfl (none (storesNext_locked locks) task)
      · cases stepped
  | unlockShard task =>
      simp only [Sticky.step] at stepped
      split at stepped
      · next key phase unlocks =>
          cases stepped
          exact undisturbs_setTask rfl rfl (none (storesNext_unlocked unlocks) task)
      · cases stepped
  | lockAssign task =>
      simp only [Sticky.step] at stepped
      split at stepped
      · simp only [Option.ite_none_right_eq_some, Option.some.injEq] at stepped
        obtain ⟨-, rfl⟩ := stepped
        exact undisturbs_setTask rfl rfl (none rfl task)
      · cases stepped
  | weigh task depth =>
      simp only [Sticky.step] at stepped
      split at stepped
      · split at stepped
        · cases stepped
          exact undisturbs_setTask rfl rfl (none rfl task)
        · cases stepped
      · cases stepped
  | choose task =>
      simp only [Sticky.step] at stepped
      split at stepped
      · split at stepped
        · cases stepped
        · cases stepped
          exact undisturbs_setTask rfl rfl (none rfl task)
      · cases stepped
  | drainOne task old =>
      simp only [Sticky.step] at stepped
      split at stepped
      · next key idx rest draining =>
          simp only [Option.ite_none_right_eq_some, Option.some.injEq] at stepped
          obtain ⟨-, rfl⟩ := stepped
          refine undisturbs_setTask (lowerCount_pins old) (lowerCount_task old) fun other same => ?_
          rw [draining]
          exact same
      · cases stepped
  | lower task =>
      simp only [Sticky.step] at stepped
      split at stepped
      · cases stepped
        exact undisturbs_setTask (lowerCount_pins _) (lowerCount_task _) (none rfl task)
      · cases stepped
  | raise task =>
      simp only [Sticky.step] at stepped
      split at stepped
      · cases stepped
        exact undisturbs_setTask rfl rfl (none rfl task)
      · cases stepped
  | unlockAssign task =>
      simp only [Sticky.step] at stepped
      split at stepped
      · cases stepped
        exact undisturbs_setTask rfl rfl (none rfl task)
      · cases stepped

theorem Bounded.of_undisturbed (bounded : Bounded state) (sound : Sound next)
    (undisturbed : Undisturbs state next) : Bounded next where
  sound := sound
  within := by
    intro shard
    rw [undisturbed.1]
    exact bounded.within shard
  room := by
    intro task key storing
    rw [undisturbed.1]
    exact bounded.room task key (undisturbed.2 task key storing)

private theorem holding_of_storesNext {phase : Phase} {key : UInt64}
    (stores : phase.storesNext = some key) : phase.holding = some (shardOf key) := by
  cases phase <;> cases stores <;> rfl

/-- What a holder does to its shard leaves the others as they are. -/
theorem Bounded.inside (bounded : Bounded state) {task : Fin n} {shard : Fin stickyShards}
    {pins : Pins} {phase : Phase} (sound : Sound ((state.setPins shard pins).setTask task phase))
    (holds : (state.task task).holding = some shard)
    (within : pins.entries.length ≤ stickyShardMax)
    (room : ∀ key, phase.storesNext = some key →
      shardOf key = shard ∧ pins.entries.length < stickyShardMax) :
    Bounded ((state.setPins shard pins).setTask task phase) where
  sound := sound
  within := by
    intro other
    change (Function.update state.pins shard pins other).entries.length ≤ _
    by_cases same : other = shard
    · rw [same, Function.update_self]
      exact within
    · rw [Function.update_of_ne same]
      exact bounded.within other
  room := by
    intro other key storing
    change (Function.update state.pins shard pins (shardOf key)).entries.length < _
    by_cases same : other = task
    · rw [same, setTask_task_self] at storing
      rw [(room key storing).1, Function.update_self]
      exact (room key storing).2
    · rw [setTask_task_of_ne same] at storing
      have elsewhere : shardOf key ≠ shard := by
        intro here
        have mine := (bounded.sound.held shard task).mpr holds
        have theirs := (bounded.sound.held shard other).mpr
          ((holding_of_storesNext storing).trans (congrArg some here))
        exact same (Option.some.inj (theirs.symm.trans mine))
      rw [Function.update_of_ne elsewhere]
      exact bounded.room other key storing

private theorem length_insert_le (pins : Pins) (key : UInt64) (stored : UInt8) :
    (pins.insert key stored).entries.length ≤ pins.entries.length + 1 := by
  rw [AList.entries_insert, List.length_cons]
  exact Nat.succ_le_succ (List.kerase_sublist key pins.entries).length_le

private theorem length_insert_of_lookup {pins : Pins} {key : UInt64} {old : UInt8}
    (found : pins.lookup key = some old) (stored : UInt8) :
    (pins.insert key stored).entries.length = pins.entries.length := by
  have present : key ∈ pins := AList.lookup_isSome.mp (by rw [found]; rfl)
  obtain ⟨_, before, after, -, isPins, erased⟩ :=
    List.exists_of_kerase (AList.mem_keys.mp present)
  rw [AList.entries_insert, List.length_cons, erased, isPins, List.length_append,
    List.length_append, List.length_cons]
  omega

private theorem setPins_same (state : State n) (shard : Fin stickyShards) :
    state.setPins shard (state.pins shard) = state := by
  simp [State.setPins, Function.update_eq_self]

theorem Bounded.access (bounded : Bounded state) {task : Fin n}
    (roomy : RestoresWithRoom state (.access task))
    (accessed : Sticky.access state task = some next) : Bounded next := by
  have sound := bounded.sound.access accessed
  unfold Sticky.access at accessed
  have kept {phase : Phase} {key : UInt64} (holds : (state.task task).holding = some (shardOf key))
      (isNext : next = state.setTask task phase)
      (stores : ∀ other, phase.storesNext = some other →
        shardOf other = shardOf key ∧
          (state.pins (shardOf key)).entries.length < stickyShardMax) : Bounded next := by
    subst isNext
    rw [← setPins_same state (shardOf key)] at sound ⊢
    exact bounded.inside sound holds (bounded.within _) stores
  split at accessed
  · next key workers checking =>
      have holds : (state.task task).holding = some (shardOf key) := by rw [checking]; rfl
      split at accessed
      · split at accessed
        · exact kept holds (Option.some.inj accessed).symm fun _ stores => nomatch stores
        · exact kept holds (Option.some.inj accessed).symm fun _ stores => nomatch stores
      · exact kept holds (Option.some.inj accessed).symm fun _ stores => nomatch stores
  · next key idx inserting =>
      have holds : (state.task task).holding = some (shardOf key) := by rw [inserting]; rfl
      simp only at accessed
      split at accessed
      · cases accessed
        refine bounded.inside sound holds (Nat.zero_le _) fun other stores => ?_
        cases stores
        exact ⟨rfl, Nat.lt_of_lt_of_le (by decide) (Nat.le_refl stickyShardMax)⟩
      · next roomLeft =>
          refine kept holds (Option.some.inj accessed).symm fun other stores => ?_
          cases stores
          exact ⟨rfl, Nat.not_le.mp roomLeft⟩
  · next key idx draining =>
      have holds : (state.task task).holding = some (shardOf key) := by rw [draining]; rfl
      refine kept holds (Option.some.inj accessed).symm fun other stores => ?_
      cases stores
      exact ⟨rfl, bounded.room task key (by rw [draining]; rfl)⟩
  · next key idx storing =>
      have holds : (state.task task).holding = some (shardOf key) := by rw [storing]; rfl
      have room := bounded.room task key (by rw [storing]; rfl)
      cases accessed
      refine bounded.inside sound holds ((length_insert_le _ _ _).trans room) fun other stores => ?_
      split at stores
      · cases stores
      · cases stores
  · next key prior restoring =>
      have holds : (state.task task).holding = some (shardOf key) := by rw [restoring]; rfl
      simp only [RestoresWithRoom, restoring] at roomy
      simp only at accessed
      split at accessed
      · exact kept holds (Option.some.inj accessed).symm fun _ stores => nomatch stores
      · next absent =>
          cases accessed
          exact bounded.inside sound holds ((length_insert_le _ _ _).trans (roomy absent))
            fun _ stores => nomatch stores
  · next key pinned served moving =>
      have holds : (state.task task).holding = some (shardOf key) := by rw [moving]; rfl
      simp only at accessed
      split at accessed
      · next found =>
          cases accessed
          refine bounded.inside sound holds ?_ fun _ stores => nomatch stores
          rw [length_insert_of_lookup found]
          exact bounded.within _
      · exact kept holds (Option.some.inj accessed).symm fun _ stores => nomatch stores
  · cases accessed

theorem Bounded.step (bounded : Bounded state) {action : Action n}
    (roomy : RestoresWithRoom state action) (stepped : Sticky.step state action = some next) :
    Bounded next := by
  by_cases accesses : ∃ task, action = .access task
  · obtain ⟨task, rfl⟩ := accesses
    exact bounded.access roomy stepped
  · exact bounded.of_undisturbed (bounded.sound.step stepped)
      (undisturbs_of_step stepped fun task same => accesses ⟨task, same⟩)

/-- A pin that is restored without room is one too many at once. -/
private theorem exposed (action : Action n) (against : ¬ RestoresWithRoom state action) :
    ∃ next, Sticky.step state action = some next ∧ ¬ Within next := by
  cases action with
  | access task =>
      cases phase : state.task task with
      | restoring key prior =>
          simp only [RestoresWithRoom, phase, Classical.not_imp, Nat.not_lt] at against
          obtain ⟨absent, full⟩ := against
          let pins := (state.pins (shardOf key)).insert key (UInt8.ofNat prior)
          refine ⟨(state.setPins (shardOf key) pins).setTask task
            (.raising key (clamp prior) false), ?_, fun within => ?_⟩
          · simp only [Sticky.step, Sticky.access, phase, absent]
            rfl
          · have past := within (shardOf key)
            change (Function.update state.pins (shardOf key) pins (shardOf key)).entries.length ≤ _
              at past
            rw [Function.update_self, AList.entries_insert_of_notMem (AList.lookup_eq_none.mp absent),
              List.length_cons] at past
            omega
      | _ => exact absurd trivial (by simpa only [RestoresWithRoom, phase] using against)
  | _ => exact absurd trivial against

/-- No shard is ever past the bound if and only if every pin that `sticky_reread` restores finds
room in its shard. -/
theorem shards_within_iff (actions : List (Action n)) :
    (∀ front final, front <+: actions →
        Machine.exec Sticky.step (State.initial n) front = some final → Within final) ↔
      Machine.Meets Sticky.step RestoresWithRoom (State.initial n) actions :=
  (Machine.meets_iff_fronts (fun _ bounded => bounded.within)
    (fun _ _ _ bounded roomy stepped => bounded.step roomy stepped)
    (fun _ action _ against => exposed action against) bounded_initial).symm

end

/-! ## A run past the bound -/

/-- One task between its operations. -/
def restingAt (counts : Fin maxWorkers → Nat) (pins : Fin stickyShards → Pins) : State 1 :=
  ⟨counts, pins, fun _ => none, none, fun _ => .idle⟩

/-- The task holds the assignment lock and the shard of a key. -/
def holdingAt (counts : Fin maxWorkers → Nat) (pins : Fin stickyShards → Pins) (key : UInt64)
    (phase : Phase) : State 1 :=
  ⟨counts, pins, Function.update (fun _ => none) (shardOf key) (some 0), some 0, fun _ => phase⟩

/-- A lookup that misses, up to the look at the size of the shard. -/
def missed (key : UInt64) : List (Action 1) :=
  miss 0 key 1 ++ [.lockAssign 0, .weigh 0 0, .choose 0, .lockShard 0]

/-- The insertion and what is behind it. -/
def stored : List (Action 1) :=
  [.access 0, .raise 0, .unlockShard 0, .unlockAssign 0]

private theorem update_task (before after : Phase) :
    Function.update (fun _ : Fin 1 => before) 0 after = fun _ => after := by
  funext task
  rw [Subsingleton.elim task 0, Function.update_self]

private theorem exec_missed (counts : Fin maxWorkers → Nat) {pins : Fin stickyShards → Pins}
    {key : UInt64} (absent : (pins (shardOf key)).lookup key = none) :
    Machine.exec Sticky.step (restingAt counts pins) (missed key) =
      some (holdingAt counts pins key (.inserting key 0)) := by
  have one : min 1 maxWorkers = 1 := by decide
  simp only [missed, miss, restingAt, holdingAt, List.cons_append, List.nil_append, Machine.exec,
    Sticky.step, Sticky.access, if_true, Option.bind_some, State.setTask, State.setLock,
    update_task, Phase.locked, Phase.unlocked, absent, one]
  simp [update_task]

private theorem exec_stored (counts : Fin maxWorkers → Nat) {pins : Fin stickyShards → Pins}
    {key : UInt64} (absent : (pins (shardOf key)).lookup key = none) :
    Machine.exec Sticky.step (holdingAt counts pins key (.storing key 0)) stored =
      some (restingAt (Function.update counts 0 (counts 0 + 1))
        (Function.update pins (shardOf key) ((pins (shardOf key)).insert key 0))) := by
  simp only [stored, restingAt, holdingAt, Machine.exec, Sticky.step, Sticky.access,
    Option.bind_some, State.setTask, State.setLock, State.setPins, State.raiseCount,
    update_task, Phase.unlocked, absent]
  simp

/-- The pins of keys that were assigned to the first worker one after the other. -/
def pinned (keys : List UInt64) : List (Sigma fun _ : UInt64 => UInt8) :=
  keys.reverse.map fun key => ⟨key, 0⟩

private theorem absent_of_entries {pins : Pins} {keys : List UInt64} {key : UInt64}
    (entries : pins.entries = pinned keys) (absent : key ∉ keys) : pins.lookup key = none := by
  apply AList.lookup_eq_none.mpr
  rw [AList.mem_keys, AList.keys, List.keys, entries]
  simpa [pinned] using absent

/-- The store with one shard as it is given. -/
private def InShard (shard : Fin stickyShards) (keys : List UInt64) (state : State 1) : Prop :=
  ∃ counts pins, state = restingAt counts pins ∧ (pins shard).entries = pinned keys

def assigned (key : UInt64) : List (Action 1) :=
  missed key ++ (.access 0 :: stored)

private theorem inShard_assigned {shard : Fin stickyShards} {keys : List UInt64} {state : State 1}
    (resting : InShard shard keys state) {key : UInt64} (here : shardOf key = shard)
    (absent : key ∉ keys) (room : keys.length < stickyShardMax) :
    ∃ next, Machine.exec Sticky.step state (assigned key) = some next ∧
      InShard shard (keys ++ [key]) next := by
  obtain ⟨counts, pins, rfl, entries⟩ := resting
  subst here
  have unset := absent_of_entries entries absent
  have looked : Sticky.step (holdingAt counts pins key (.inserting key 0)) (.access 0) =
      some (holdingAt counts pins key (.storing key 0)) := by
    have roomLeft : ¬ (pins (shardOf key)).entries.length ≥ stickyShardMax := by
      rw [entries, pinned, List.length_map, List.length_reverse]
      exact Nat.not_le.mpr room
    simp only [Sticky.step, Sticky.access, holdingAt, if_neg roomLeft, State.setTask, update_task]
  have ran : Machine.exec Sticky.step (restingAt counts pins) (assigned key) =
      some (restingAt (Function.update counts 0 (counts 0 + 1))
        (Function.update pins (shardOf key) ((pins (shardOf key)).insert key 0))) := by
    rw [assigned, Machine.exec_append, exec_missed counts unset, Option.bind_some, Machine.exec,
      looked, Option.bind_some]
    exact exec_stored counts unset
  refine ⟨_, ran, _, _, rfl, ?_⟩
  rw [Function.update_self, AList.entries_insert_of_notMem (AList.lookup_eq_none.mp unset),
    entries]
  simp [pinned]

/-- One key after the other, as long as there is room. -/
private theorem inShard_filled {shard : Fin stickyShards} {keys : List UInt64} {state : State 1}
    (resting : InShard shard keys state) (more : List UInt64)
    (here : ∀ key ∈ more, shardOf key = shard) (distinct : (keys ++ more).Nodup)
    (room : (keys ++ more).length ≤ stickyShardMax) :
    ∃ next, Machine.exec Sticky.step state (more.flatMap assigned) = some next ∧
      InShard shard (keys ++ more) next := by
  induction more generalizing keys state with
  | nil => exact ⟨state, rfl, by rwa [List.append_nil]⟩
  | cons key rest inductionHypothesis =>
      obtain ⟨keyHere, restHere⟩ := List.forall_mem_cons.mp here
      have absent : key ∉ keys := fun member =>
        List.disjoint_of_nodup_append distinct member List.mem_cons_self
      rw [List.length_append, List.length_cons] at room
      obtain ⟨middle, ran, after⟩ := inShard_assigned resting keyHere absent (by omega)
      rw [List.append_cons] at distinct ⊢
      obtain ⟨final, filled, last⟩ := inductionHypothesis after restHere distinct
        (by rw [List.length_append, List.length_append, List.length_singleton]; omega)
      refine ⟨final, ?_, last⟩
      rw [List.flatMap_cons, Machine.exec_append, ran]
      exact filled

private theorem exec_drained (counts : Fin maxWorkers → Nat) (pins : Fin stickyShards → Pins)
    (key : UInt64) (entries : Nat) :
    ∃ lowered, Machine.exec Sticky.step
      (holdingAt counts pins key (.draining key 0 (List.replicate entries 0)))
      (List.replicate entries (.drainOne 0 0)) =
        some (holdingAt lowered pins key (.draining key 0 [])) := by
  induction entries generalizing counts with
  | zero => exact ⟨counts, rfl⟩
  | succ entries inductionHypothesis =>
      obtain ⟨lowered, drained⟩ :=
        inductionHypothesis (Function.update counts 0 (counts 0 - 1))
      refine ⟨lowered, ?_⟩
      have one : Sticky.step
          (holdingAt counts pins key (.draining key 0 (List.replicate (entries + 1) 0)))
          (.drainOne 0 0) = some (holdingAt (Function.update counts 0 (counts 0 - 1)) pins key
            (.draining key 0 (List.replicate entries 0))) := by
        have isFirst : workerOf 0 = some 0 := by decide
        simp [Sticky.step, holdingAt, List.replicate_succ, State.lowerCount, isFirst,
          State.setTask, update_task]
      have actions : List.replicate (entries + 1) (Action.drainOne (0 : Fin 1) 0) =
          .drainOne 0 0 :: List.replicate entries (.drainOne 0 0) :=
        List.replicate_succ
      rw [actions, Machine.exec, one, Option.bind_some]
      exact drained

/-- The assignment that finds its shard full: the shard is cleared. -/
def evicting (key : UInt64) : List (Action 1) :=
  missed key ++ (.access 0 :: (List.replicate stickyShardMax (.drainOne 0 0) ++
    (.access 0 :: stored)))

private theorem inShard_evicting {shard : Fin stickyShards} {keys : List UInt64}
    {state : State 1} (resting : InShard shard keys state) {key : UInt64}
    (here : shardOf key = shard) (absent : key ∉ keys) (full : keys.length = stickyShardMax) :
    ∃ next, Machine.exec Sticky.step state (evicting key) = some next ∧
      InShard shard [key] next := by
  obtain ⟨counts, pins, rfl, entries⟩ := resting
  subst here
  have unset := absent_of_entries entries absent
  let cleared := Function.update pins (shardOf key) ∅
  have looked : Sticky.step (holdingAt counts pins key (.inserting key 0)) (.access 0) =
      some (holdingAt counts cleared key
        (.draining key 0 (List.replicate stickyShardMax 0))) := by
    have length : (pins (shardOf key)).entries.length = stickyShardMax := by
      rw [entries, pinned, List.length_map, List.length_reverse, full]
    have values : (pins (shardOf key)).entries.map Sigma.snd =
        List.replicate stickyShardMax 0 := by
      rw [entries, pinned, List.map_map, ← full, ← List.length_reverse]
      exact List.map_const
    simp only [Sticky.step, Sticky.access, holdingAt, length, values, State.setTask, State.setPins,
      update_task, ge_iff_le, Nat.le_refl, if_true]
    rfl
  obtain ⟨lowered, drained⟩ := exec_drained counts cleared key stickyShardMax
  have stores : Sticky.step (holdingAt lowered cleared key (.draining key 0 [])) (.access 0) =
      some (holdingAt lowered cleared key (.storing key 0)) := by
    simp only [Sticky.step, Sticky.access, holdingAt, State.setTask, update_task]
  have emptied : cleared (shardOf key) = ∅ := Function.update_self ..
  have ran : Machine.exec Sticky.step (restingAt counts pins) (evicting key) =
      some (restingAt (Function.update lowered 0 (lowered 0 + 1))
        (Function.update cleared (shardOf key) ((cleared (shardOf key)).insert key 0))) := by
    rw [evicting, Machine.exec_append, exec_missed counts unset, Option.bind_some, Machine.exec,
      looked, Option.bind_some, Machine.exec_append, drained, Option.bind_some, Machine.exec,
      stores, Option.bind_some]
    exact exec_stored lowered (by rw [emptied]; rfl)
  refine ⟨_, ran, _, _, rfl, ?_⟩
  rw [Function.update_self, emptied]
  rfl

/-- The keys of the first shard. -/
def shardKey (index : Nat) : UInt64 :=
  UInt64.ofNat (stickyShards * index)

private theorem shardKey_eq {index other : Nat} (inRange : index < 1024)
    (otherInRange : other < 1024) (same : shardKey index = shardKey other) : index = other := by
  have numbers := congrArg UInt64.toNat same
  simp only [shardKey, stickyShards, UInt64.toNat_ofNat', Nat.reducePow] at numbers
  omega

private theorem shardKeys_nodup {start count : Nat} (inRange : start + count ≤ 1024) :
    ((List.range count).map fun index => shardKey (index + start)).Nodup := by
  refine List.Nodup.map_on (fun index isIndex other isOther same => ?_) List.nodup_range
  have below := List.mem_range.mp isIndex
  have otherBelow := List.mem_range.mp isOther
  have sum : index + start = other + start :=
    shardKey_eq (by omega) (by omega) same
  omega

private theorem shardKey_notMem {index start count : Nat} (before : index < start)
    (inRange : start + count ≤ 1024) :
    shardKey index ∉ (List.range count).map fun index => shardKey (index + start) := by
  intro member
  obtain ⟨other, isOther, same⟩ := List.mem_map.mp member
  have below := List.mem_range.mp isOther
  have sum : other + start = index := shardKey_eq (by omega) (by omega) same
  omega

/-- A shard is filled, cleared by one more key and filled again, and then a pin that was cleared
is restored. -/
def overfull : List (Action 1) :=
  ((List.range 256).map shardKey).flatMap assigned ++ (evicting (shardKey 256) ++
    (((List.range 255).map fun index => shardKey (index + 257)).flatMap assigned ++
      [.reread 0 (shardKey 0) 0, .lockShard 0, .access 0]))

private theorem exec_reread (counts : Fin maxWorkers → Nat) {pins : Fin stickyShards → Pins}
    {key : UInt64} (absent : (pins (shardOf key)).lookup key = none) :
    ∃ final, Machine.exec Sticky.step (restingAt counts pins)
        [.reread 0 key 0, .lockShard 0, .access 0] = some final ∧
      final.pins (shardOf key) = (pins (shardOf key)).insert key 0 := by
  have bound : 0 < maxWorkers := by decide
  refine ⟨⟨counts, Function.update pins (shardOf key) ((pins (shardOf key)).insert key 0),
    Function.update (fun _ => none) (shardOf key) (some 0), none,
    fun _ => .raising key (clamp 0) false⟩, ?_, Function.update_self ..⟩
  simp only [restingAt, Machine.exec, Sticky.step, Sticky.access, bound, and_self, if_true,
    Option.bind_some, State.setTask, State.setLock, State.setPins, update_task, Phase.locked,
    absent]
  rfl

/-- The restored pin is the 257th. -/
theorem restored_past_bound :
    ∃ final, Machine.exec Sticky.step (State.initial 1) overfull = some final ∧ ¬ Within final := by
  have empty : InShard (shardOf 0) [] (State.initial 1) := ⟨fun _ => 0, fun _ => ∅, rfl, rfl⟩
  obtain ⟨filled, firstRan, first⟩ := inShard_filled empty ((List.range 256).map shardKey)
    (List.forall_mem_map.mpr (by decide +kernel)) (@shardKeys_nodup 0 256 (by decide))
    (by decide +kernel)
  obtain ⟨cleared, secondRan, second⟩ := @inShard_evicting _ _ _ first (shardKey 256)
    (by decide +kernel) (by decide +kernel) (by decide +kernel)
  obtain ⟨refilled, thirdRan, third⟩ := inShard_filled second
    ((List.range 255).map fun index => shardKey (index + 257))
    (List.forall_mem_map.mpr (by decide +kernel))
    (List.nodup_cons.mpr ⟨shardKey_notMem (by decide) (by decide), shardKeys_nodup (by decide)⟩)
    (by decide +kernel)
  obtain ⟨counts, pins, rfl, entries⟩ := third
  have here : shardOf (shardKey 0) = shardOf 0 := by decide
  have unset : (pins (shardOf (shardKey 0))).lookup (shardKey 0) = none := by
    rw [here]
    exact absent_of_entries entries (by decide +kernel)
  obtain ⟨final, lastRan, restored⟩ := exec_reread counts unset
  refine ⟨final, ?_, fun within => ?_⟩
  · rw [overfull, Machine.exec_append, firstRan, Option.bind_some, Machine.exec_append, secondRan,
      Option.bind_some, Machine.exec_append, thirdRan, Option.bind_some, lastRan]
  · have past := within (shardOf (shardKey 0))
    rw [restored, AList.entries_insert_of_notMem (AList.lookup_eq_none.mp unset), here,
      List.length_cons, entries] at past
    revert past
    decide +kernel

end Oxo.Edge.FrameHop.Sticky
