import Mathlib.Tactic.SplitIfs
import Oxo.Foundation.Machine

/-!
Contract: one pooled connection between check-in and check-out
(`oxo-pingora-edge/src/platform/frame_hop.rs`, `frame_pool.rs`).

Owns: the steps of check-in, the idle watcher, eviction, checkout and the worker on one
connection, in any interleaving; the interleavings in which the watcher's read and
checkout's pickup do not overlap; and what checkout returns in them.

Does not own: the other connections of the pool (they appear as the eviction of this one),
the counters, or the exchange that follows. Bytes are observable once the reactor has
reported them; a poll of an arm that is ready may still find it pending.
-/

namespace Oxo.Edge.FrameHop.IdleWatch

open Oxo.Foundation

/-- The pickup channel: unsent, sent, or dropped without being sent. -/
inductive Pickup where
  | unsent
  | sent
  | dropped
deriving DecidableEq, Repr

/-- The watcher task. Between `waiting` and the read the biased select asks its arms in
order; `closing` holds the guard and is about to call `pop_closed`. -/
inductive Watcher where
  | absent
  | unspawned
  | waiting
  | noPickup
  | noEviction
  | noDrain
  | closing (consumed : Bool)
  | finished
  | unlocked
  | gone
deriving DecidableEq, Repr

/-- The eviction of this connection by a put of another. -/
inductive Eviction where
  | none
  | removed
  | notified
  | dropped
deriving DecidableEq, Repr

/-- The checkout that takes this connection. `returned` records whether anything had been
observable before the liveness probe. -/
inductive Checkout where
  | idle
  | took
  | signalled
  | acquired
  | probing
  | returned (dirty : Bool)
  | refused
deriving DecidableEq, Repr

structure State where
  inPool : Bool := false
  pickup : Pickup := .unsent
  evicted : Bool := false
  draining : Bool := false
  watcher : Watcher := .absent
  eviction : Eviction := .none
  checkout : Checkout := .idle
  /-- Sent by the worker, not yet reported by the reactor. -/
  inFlight : List UInt8 := []
  observable : List UInt8 := []
  workerClosed : Bool := false
  closeObservable : Bool := false
  /-- A byte beyond the last exchange, or the close, has been observable. -/
  dirty : Bool := false
deriving DecidableEq, Repr

inductive Action where
  | checkin
  | spawnWatcher
  | loseReaper
  | workerSend (byte : UInt8)
  | workerClose
  | byteObservable
  | closeObservable
  | drain
  | evict
  | notifyEvicted
  | dropEvicted
  | pollPickup
  | pollEvicted
  | pollDrain (ready : Bool)
  | pollRead
  | pollPending
  | idleTimeout
  | popClosed
  | releaseGuard
  | dropWatcherRef
  | poolGet
  | sendPickup
  | acquireLock
  | unwrap
  | giveUp
  | probe
deriving DecidableEq, Repr

/-- Something a read would find. -/
def State.visible (state : State) : Bool :=
  !state.observable.isEmpty || state.closeObservable

def step (state : State) : Action → Option State
  -- `checkin` takes the guard, then puts the entry; the caller has no buffered surplus.
  | .checkin =>
      if state.watcher = .absent then some { state with inPool := true, watcher := .unspawned }
      else none
  | .spawnWatcher =>
      if state.watcher = .unspawned then some { state with watcher := .waiting } else none
  -- The reaper's channel is closed: the entry is removed and the guard dropped at once.
  | .loseReaper =>
      if state.watcher = .unspawned then some { state with watcher := .closing false } else none
  | .workerSend byte =>
      if state.workerClosed then none
      else some { state with inFlight := state.inFlight ++ [byte] }
  | .workerClose => some { state with workerClosed := true }
  | .byteObservable =>
      match state.inFlight with
      | [] => none
      | byte :: rest => some { state with
          inFlight := rest
          observable := state.observable ++ [byte]
          dirty := true }
  | .closeObservable =>
      if state.workerClosed ∧ state.inFlight = [] then
        some { state with closeObservable := true, dirty := true }
      else none
  | .drain => some { state with draining := true }
  -- `put` of another connection: removal under the lock, then the signals in order.
  | .evict =>
      if state.inPool then some { state with inPool := false, eviction := .removed } else none
  | .notifyEvicted =>
      if state.eviction = .removed then some { state with evicted := true, eviction := .notified }
      else none
  | .dropEvicted =>
      if state.eviction = .notified then
        some { state with pickup := .dropped, eviction := .dropped }
      else none
  | .pollPickup =>
      if state.watcher = .waiting then
        match state.pickup with
        | .unsent => some { state with watcher := .noPickup }
        | .sent => some { state with watcher := .finished }
        | .dropped => some { state with watcher := .closing false }
      else none
  | .pollEvicted =>
      if state.watcher = .noPickup then
        some { state with watcher := if state.evicted then .closing false else .noEviction }
      else none
  | .pollDrain ready =>
      if state.watcher = .noEviction ∧ (ready → state.draining) then
        some { state with watcher := if ready then .closing false else .noDrain }
      else none
  -- The one-byte read: a byte is consumed, an end of stream is not.
  | .pollRead =>
      if state.watcher = .noDrain then
        match state.observable with
        | _ :: rest => some { state with watcher := .closing true, observable := rest }
        | [] =>
            if state.closeObservable then some { state with watcher := .closing false } else none
      else none
  | .pollPending =>
      if state.watcher = .noDrain then some { state with watcher := .waiting } else none
  | .idleTimeout =>
      if state.watcher = .noDrain ∧ !state.visible then
        some { state with watcher := .closing false }
      else none
  -- A no-op when the entry was picked up or evicted; else the pickup sender drops with it.
  | .popClosed =>
      match state.watcher with
      | .closing _ =>
          if state.inPool then
            some { state with inPool := false, pickup := .dropped, watcher := .finished }
          else some { state with watcher := .finished }
      | _ => none
  | .releaseGuard =>
      if state.watcher = .finished then some { state with watcher := .unlocked } else none
  | .dropWatcherRef =>
      if state.watcher = .unlocked then some { state with watcher := .gone } else none
  -- `get` removes the entry under the lock and sends the pickup after leaving it.
  | .poolGet =>
      if state.checkout = .idle ∧ state.inPool then
        some { state with inPool := false, checkout := .took }
      else none
  | .sendPickup =>
      if state.checkout = .took then
        some { state with pickup := .sent, checkout := .signalled }
      else none
  | .acquireLock =>
      if state.checkout = .signalled ∧ (state.watcher = .unlocked ∨ state.watcher = .gone) then
        some { state with checkout := .acquired }
      else none
  | .unwrap =>
      if state.checkout = .acquired ∧ state.watcher = .gone then
        some { state with checkout := .probing }
      else none
  | .giveUp =>
      if state.checkout = .acquired then some { state with checkout := .refused } else none
  -- `is_stream_live`: only a read that would block returns the connection.
  | .probe =>
      if state.checkout = .probing then
        some { state with
          observable := state.observable.tail
          checkout := if state.visible then .refused else .returned state.dirty }
      else none

/-! ## The interleavings in which checkout is safe -/

/-- A read that would leave nothing for the probe to find. -/
def State.readsLast (state : State) : Bool :=
  state.observable.length == 1 && !state.closeObservable

/-- The watcher does not read the last thing observable once checkout has taken the entry, and
checkout does not take the entry between such a read and the watcher's `pop_closed`. -/
def Apart (state : State) (action : Action) : Prop :=
  (action = .pollRead → state.readsLast = true → state.checkout = .idle) ∧
    (action = .poolGet → state.watcher = .closing true → state.visible = true)

instance (state : State) (action : Action) : Decidable (Apart state action) :=
  inferInstanceAs (Decidable (_ ∧ _))

/-- What was observable still is, unless the watcher took it from an entry that checkout can no
longer get. -/
structure Safe (state : State) : Prop where
  /-- While checkout holds the entry, dirt is visible. -/
  held : state.checkout = .took ∨ state.checkout = .signalled ∨ state.checkout = .acquired ∨
    state.checkout = .probing → state.dirty = true → state.visible = true
  /-- While the entry can be taken, dirt is visible or the watcher is about to remove it. -/
  pooled : state.inPool = true → state.dirty = true →
    state.visible = true ∨ state.watcher = .closing true
  /-- Once checkout has the lock the watcher reads no more. -/
  locked : state.checkout = .acquired ∨ state.checkout = .probing →
    state.watcher = .unlocked ∨ state.watcher = .gone
  /-- Before check-in nobody reads. -/
  early : state.watcher = .absent → state.dirty = true → state.visible = true
  /-- An entry was checked in before it was taken, and is taken once. -/
  entered : state.inPool = true ∨ state.checkout ≠ .idle → state.watcher ≠ .absent
  taken : state.checkout ≠ .idle → state.inPool = false
  returned : ∀ dirty, state.checkout = .returned dirty → dirty = false

/-- A step that leaves checkout and the stream alone, and a watcher that only moves on. -/
theorem Safe.frame {state next : State} (safe : Safe state)
    (checkout : next.checkout = state.checkout) (dirty : next.dirty = state.dirty)
    (visible : next.visible = state.visible) (pool : next.inPool = true → state.inPool = true)
    (closing : state.watcher = .closing true → next.watcher = .closing true ∨ next.inPool = false)
    (released : state.watcher = .unlocked ∨ state.watcher = .gone →
      next.watcher = .unlocked ∨ next.watcher = .gone)
    (present : next.watcher = .absent → state.watcher = .absent) : Safe next where
  held := by
    rw [checkout, dirty, visible]
    exact safe.held
  pooled := by
    intro inPool isDirty
    rw [dirty] at isDirty
    rw [visible]
    rcases safe.pooled (pool inPool) isDirty with seen | isClosing
    · exact Or.inl seen
    · rcases closing isClosing with still | left
      · exact Or.inr still
      · rw [left] at inPool
        cases inPool
  locked := by
    rw [checkout]
    exact fun holds => released (safe.locked holds)
  early := by
    rw [dirty, visible]
    exact fun absent => safe.early (present absent)
  entered := by
    rw [checkout]
    intro arrived absent
    exact safe.entered (arrived.imp_left pool) (present absent)
  taken := by
    rw [checkout]
    intro holds
    rw [← Bool.not_eq_true]
    intro inPool
    rw [safe.taken holds] at pool
    cases pool inPool
  returned := by
    rw [checkout]
    exact safe.returned

/-- Something becomes observable. -/
theorem Safe.appear {state next : State} (safe : Safe state)
    (checkout : next.checkout = state.checkout) (watcher : next.watcher = state.watcher)
    (pool : next.inPool = state.inPool) (visible : next.visible = true) : Safe next where
  held := fun _ _ => visible
  pooled := fun _ _ => Or.inl visible
  locked := by
    rw [checkout, watcher]
    exact safe.locked
  early := fun _ _ => visible
  entered := by
    rw [checkout, watcher, pool]
    exact safe.entered
  taken := by
    rw [checkout, pool]
    exact safe.taken
  returned := by
    rw [checkout]
    exact safe.returned

theorem safe_initial : Safe {} where
  held := by simp
  pooled := by simp
  locked := by simp
  early := by simp
  entered := by simp
  taken := by simp
  returned := by simp

/-- The watcher's read of a byte. -/
theorem Safe.read {state : State} (safe : Safe state) (asked : state.watcher = .noDrain)
    {byte : UInt8} {rest : List UInt8} (isObservable : state.observable = byte :: rest)
    (apart : state.readsLast = true → state.checkout = .idle) :
    Safe { state with watcher := .closing true, observable := rest } := by
  have unlocked : ¬ (state.checkout = .acquired ∨ state.checkout = .probing) := by
    intro holds
    have released := safe.locked holds
    simp [asked] at released
  by_cases last : state.readsLast = true
  · have isIdle := apart last
    exact
      { held := by simp [isIdle]
        pooled := fun _ _ => Or.inr rfl
        locked := fun holds => absurd holds unlocked
        early := by simp
        entered := by simp
        taken := safe.taken
        returned := safe.returned }
  · have seen : ({ state with watcher := .closing true, observable := rest } : State).visible =
        true := by
      simp only [State.readsLast, isObservable, List.length_cons] at last
      cases rest with
      | nil => simpa [State.visible] using last
      | cons next others => rfl
    exact
      { held := fun _ _ => seen
        pooled := fun _ _ => Or.inr rfl
        locked := fun holds => absurd holds unlocked
        early := by simp
        entered := by simp
        taken := safe.taken
        returned := safe.returned }

private theorem holding_ne_idle {checkout : Checkout}
    (holding : checkout = .took ∨ checkout = .signalled ∨ checkout = .acquired ∨
      checkout = .probing) : checkout ≠ .idle := by
  rintro rfl
  simp at holding

/-- Checkout moves on with the entry it holds. -/
theorem Safe.advance {state next : State} (safe : Safe state)
    (holding : state.checkout = .took ∨ state.checkout = .signalled ∨
      state.checkout = .acquired ∨ state.checkout = .probing)
    (dirty : next.dirty = state.dirty) (visible : next.visible = state.visible)
    (pool : next.inPool = state.inPool) (watcher : next.watcher = state.watcher)
    (released : next.checkout = .acquired ∨ next.checkout = .probing →
      state.watcher = .unlocked ∨ state.watcher = .gone)
    (unreturned : ∀ dirty, next.checkout ≠ .returned dirty) : Safe next where
  held := by
    rw [dirty, visible]
    exact fun _ => safe.held holding
  pooled := by
    rw [pool, dirty, visible, watcher]
    exact safe.pooled
  locked := by
    rw [watcher]
    exact released
  early := by
    rw [watcher, dirty, visible]
    exact safe.early
  entered := by
    rw [watcher]
    exact fun _ => safe.entered (Or.inr (holding_ne_idle holding))
  taken := by
    rw [pool]
    exact fun _ => safe.taken (holding_ne_idle holding)
  returned := fun dirty isReturned => absurd isReturned (unreturned dirty)

/-- The probe returns only what was never dirty: dirt would still be visible. -/
theorem Safe.probe {state : State} (safe : Safe state) (probing : state.checkout = .probing) :
    Safe { state with
      observable := state.observable.tail
      checkout := if state.visible then .refused else .returned state.dirty } := by
  have holding : state.checkout ≠ .idle := by simp [probing]
  have outside := safe.taken holding
  have released := safe.locked (Or.inr probing)
  have entered := safe.entered (Or.inr holding)
  cases seen : state.visible with
  | true =>
      exact
        { held := by simp
          pooled := by simp [outside]
          locked := by simp
          early := fun absent => absurd absent entered
          entered := fun _ => entered
          taken := fun _ => outside
          returned := by simp }
  | false =>
      have clean : state.dirty = false := by
        rw [← Bool.not_eq_true]
        intro isDirty
        rw [safe.held (Or.inr (Or.inr (Or.inr probing))) isDirty] at seen
        cases seen
      exact
        { held := by simp
          pooled := by simp [outside]
          locked := by simp
          early := fun absent => absurd absent entered
          entered := fun _ => entered
          taken := fun _ => outside
          returned := by simp [clean] }

theorem Safe.step {state next : State} {action : Action} (safe : Safe state)
    (apart : Apart state action) (stepped : step state action = some next) : Safe next := by
  cases action with
  | checkin =>
      simp only [IdleWatch.step, Option.ite_none_right_eq_some, Option.some.injEq] at stepped
      obtain ⟨absent, rfl⟩ := stepped
      exact
        { held := safe.held
          pooled := fun _ isDirty => Or.inl (safe.early absent isDirty)
          locked := by
            intro holds
            have released := safe.locked holds
            simp [absent] at released
          early := by simp
          entered := by simp
          taken := fun holds => absurd absent (safe.entered (Or.inr holds))
          returned := safe.returned }
  | spawnWatcher =>
      simp only [IdleWatch.step, Option.ite_none_right_eq_some, Option.some.injEq] at stepped
      obtain ⟨unspawned, rfl⟩ := stepped
      exact safe.frame rfl rfl rfl id (by simp [unspawned]) (by simp [unspawned]) (by simp)
  | loseReaper =>
      simp only [IdleWatch.step, Option.ite_none_right_eq_some, Option.some.injEq] at stepped
      obtain ⟨unspawned, rfl⟩ := stepped
      exact safe.frame rfl rfl rfl id (by simp [unspawned]) (by simp [unspawned]) (by simp)
  | workerSend byte =>
      simp only [IdleWatch.step, Option.ite_none_left_eq_some, Option.some.injEq] at stepped
      obtain ⟨-, rfl⟩ := stepped
      exact safe.frame rfl rfl rfl id Or.inl id id
  | workerClose =>
      cases stepped
      exact safe.frame rfl rfl rfl id Or.inl id id
  | byteObservable =>
      simp only [IdleWatch.step] at stepped
      split at stepped
      · cases stepped
      · cases stepped
        exact safe.appear rfl rfl rfl (by simp [State.visible])
  | closeObservable =>
      simp only [IdleWatch.step, Option.ite_none_right_eq_some, Option.some.injEq] at stepped
      obtain ⟨-, rfl⟩ := stepped
      exact safe.appear rfl rfl rfl (by simp [State.visible])
  | drain =>
      cases stepped
      exact safe.frame rfl rfl rfl id Or.inl id id
  | evict =>
      simp only [IdleWatch.step, Option.ite_none_right_eq_some, Option.some.injEq] at stepped
      obtain ⟨-, rfl⟩ := stepped
      exact safe.frame rfl rfl rfl (by simp) Or.inl id id
  | notifyEvicted =>
      simp only [IdleWatch.step, Option.ite_none_right_eq_some, Option.some.injEq] at stepped
      obtain ⟨-, rfl⟩ := stepped
      exact safe.frame rfl rfl rfl id Or.inl id id
  | dropEvicted =>
      simp only [IdleWatch.step, Option.ite_none_right_eq_some, Option.some.injEq] at stepped
      obtain ⟨-, rfl⟩ := stepped
      exact safe.frame rfl rfl rfl id Or.inl id id
  | pollPickup =>
      simp only [IdleWatch.step, Option.ite_none_right_eq_some] at stepped
      obtain ⟨waiting, stepped⟩ := stepped
      split at stepped <;> cases stepped <;>
        exact safe.frame rfl rfl rfl id (by simp [waiting]) (by simp [waiting]) (by simp)
  | pollEvicted =>
      simp only [IdleWatch.step, Option.ite_none_right_eq_some, Option.some.injEq] at stepped
      obtain ⟨asked, rfl⟩ := stepped
      refine safe.frame rfl rfl rfl id (by simp [asked]) (by simp [asked]) ?_
      simp only
      split <;> simp
  | pollDrain ready =>
      simp only [IdleWatch.step, Option.ite_none_right_eq_some, Option.some.injEq] at stepped
      obtain ⟨⟨asked, -⟩, rfl⟩ := stepped
      refine safe.frame rfl rfl rfl id (by simp [asked]) (by simp [asked]) ?_
      simp only
      split <;> simp
  | pollRead =>
      simp only [IdleWatch.step, Option.ite_none_right_eq_some] at stepped
      obtain ⟨asked, stepped⟩ := stepped
      split at stepped
      · rename_i byte rest isObservable
        cases stepped
        exact safe.read asked isObservable (apart.1 rfl)
      · simp only [Option.ite_none_right_eq_some, Option.some.injEq] at stepped
        obtain ⟨-, rfl⟩ := stepped
        exact safe.frame rfl rfl rfl id (by simp [asked]) (by simp [asked]) (by simp)
  | pollPending =>
      simp only [IdleWatch.step, Option.ite_none_right_eq_some, Option.some.injEq] at stepped
      obtain ⟨asked, rfl⟩ := stepped
      exact safe.frame rfl rfl rfl id (by simp [asked]) (by simp [asked]) (by simp)
  | idleTimeout =>
      simp only [IdleWatch.step, Option.ite_none_right_eq_some, Option.some.injEq] at stepped
      obtain ⟨⟨asked, -⟩, rfl⟩ := stepped
      exact safe.frame rfl rfl rfl id (by simp [asked]) (by simp [asked]) (by simp)
  | popClosed =>
      simp only [IdleWatch.step] at stepped
      split at stepped
      · rename_i isClosing
        split_ifs at stepped with inPool
        · cases stepped
          exact safe.frame rfl rfl rfl (by simp) (by simp) (by simp [isClosing]) (by simp)
        · cases stepped
          exact safe.frame rfl rfl rfl id (by simp [inPool]) (by simp [isClosing]) (by simp)
      · cases stepped
  | releaseGuard =>
      simp only [IdleWatch.step, Option.ite_none_right_eq_some, Option.some.injEq] at stepped
      obtain ⟨finished, rfl⟩ := stepped
      exact safe.frame rfl rfl rfl id (by simp [finished]) (by simp [finished]) (by simp)
  | dropWatcherRef =>
      simp only [IdleWatch.step, Option.ite_none_right_eq_some, Option.some.injEq] at stepped
      obtain ⟨unlocked, rfl⟩ := stepped
      exact safe.frame rfl rfl rfl id (by simp [unlocked]) (by simp) (by simp)
  | poolGet =>
      simp only [IdleWatch.step, Option.ite_none_right_eq_some, Option.some.injEq] at stepped
      obtain ⟨⟨isIdle, inPool⟩, rfl⟩ := stepped
      -- The entry was in the pool, so its dirt is visible or the watcher has just read it.
      have seen : state.dirty = true → state.visible = true := by
        intro isDirty
        rcases safe.pooled inPool isDirty with seen | closing
        · exact seen
        · exact apart.2 rfl closing
      exact
        { held := fun _ => seen
          pooled := by simp
          locked := by simp
          early := safe.early
          entered := fun _ => safe.entered (Or.inl inPool)
          taken := by simp
          returned := by simp }
  | sendPickup =>
      simp only [IdleWatch.step, Option.ite_none_right_eq_some, Option.some.injEq] at stepped
      obtain ⟨took, rfl⟩ := stepped
      exact safe.advance (Or.inl took) rfl rfl rfl rfl (by simp) (by simp)
  | acquireLock =>
      simp only [IdleWatch.step, Option.ite_none_right_eq_some, Option.some.injEq] at stepped
      obtain ⟨⟨signalled, released⟩, rfl⟩ := stepped
      exact safe.advance (Or.inr (Or.inl signalled)) rfl rfl rfl rfl (fun _ => released) (by simp)
  | unwrap =>
      simp only [IdleWatch.step, Option.ite_none_right_eq_some, Option.some.injEq] at stepped
      obtain ⟨⟨acquired, released⟩, rfl⟩ := stepped
      exact safe.advance (Or.inr (Or.inr (Or.inl acquired))) rfl rfl rfl rfl
        (fun _ => Or.inr released) (by simp)
  | giveUp =>
      simp only [IdleWatch.step, Option.ite_none_right_eq_some, Option.some.injEq] at stepped
      obtain ⟨acquired, rfl⟩ := stepped
      exact safe.advance (Or.inr (Or.inr (Or.inl acquired))) rfl rfl rfl rfl (by simp) (by simp)
  | probe =>
      simp only [IdleWatch.step, Option.ite_none_right_eq_some, Option.some.injEq] at stepped
      obtain ⟨probing, rfl⟩ := stepped
      exact safe.probe probing

/-- In every interleaving in which the watcher's last read and checkout's pickup stay apart, a
connection that checkout returns had nothing observable before the probe. -/
theorem checkout_returns_clean {actions : List Action} {final : State}
    (apart : Machine.Meets step Apart {} actions)
    (ran : Machine.exec step {} actions = some final) {dirty : Bool}
    (returned : final.checkout = .returned dirty) : dirty = false :=
  (Machine.invariant_of_meets (fun _ _ _ safe => safe.step) safe_initial apart ran).returned
    dirty returned

/-! ## Two runs -/

/-- An idle connection is picked up and found live. -/
def cleanReuse : List Action :=
  [.checkin, .spawnWatcher, .pollPickup, .pollEvicted, .pollDrain false, .pollPending, .poolGet,
    .sendPickup, .pollPickup, .releaseGuard, .dropWatcherRef, .acquireLock, .unwrap, .probe]

theorem checkout_returns_clean_reuse :
    (Machine.exec step {} cleanReuse).map State.checkout = some (.returned false) ∧
      ∀ dirty, (Machine.exec step {} cleanReuse).map State.checkout = some (.returned dirty) →
        dirty = false := by
  have apart : Machine.Meets step Apart {} cleanReuse := by decide
  refine ⟨by decide, ?_⟩
  intro dirty returned
  obtain ⟨final, ran, isReturned⟩ := Option.map_eq_some_iff.mp returned
  exact checkout_returns_clean apart ran isReturned

/-- The worker speaks on the idle connection. Checkout takes the entry; before its pickup signal
the watcher reads the one byte, and its `pop_closed` finds nothing to remove. -/
def eatenByte : List Action :=
  [.checkin, .spawnWatcher, .workerSend 0x41, .byteObservable, .poolGet, .pollPickup,
    .pollEvicted, .pollDrain false, .pollRead, .sendPickup, .popClosed, .releaseGuard,
    .dropWatcherRef, .acquireLock, .unwrap, .probe]

/-- The probe would block, and the dirty connection is returned. -/
theorem dirty_connection_returned :
    (Machine.exec step {} eatenByte).map State.checkout = some (.returned true) := by
  decide

end Oxo.Edge.FrameHop.IdleWatch
