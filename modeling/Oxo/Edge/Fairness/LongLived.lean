import Oxo.Foundation.Machine
import Oxo.Foundation.Tally
import Mathlib.Tactic

/-!
Contract: the registry of long-lived connections
(`oxo-pingora-edge/src/platform/fairness.rs`, `LongLivedRegistry`).

Owns: admission, the operations on an admission and its drop by any number of connections,
one atomic operation a step, in every interleaving; and how the registry's counters balance
in every reachable state.

Does not own: who closes a connection and why, and the write timeout the limits carry.
A total that counts events is a `Nat`: a `u64` holds the same for any run of fewer than `2 ^ 64`
operations. `active` and its recorded maximum stay within the cap, which is a `u64`.
-/

namespace Oxo.Edge.Fairness.LongLived

open Oxo.Foundation

/-! ## The registry -/

structure LongLivedLimits where
  maxConnections : Nat
  maxBufferedBytes : UInt64
deriving DecidableEq, Repr

structure LongLivedRegistry where
  active : Nat
  acceptedTotal : Nat
  completedTotal : Nat
  drainedTotal : Nat
  cancelledTotal : Nat
  rejectedTotal : Nat
  downstreamTimeoutTotal : Nat
  bytesStreamedTotal : UInt64
  maxActiveObserved : Nat
deriving DecidableEq, Repr

def LongLivedRegistry.new : LongLivedRegistry :=
  ⟨0, 0, 0, 0, 0, 0, 0, 0, 0⟩

/-- The totals that count events. -/
def LongLivedRegistry.totals (registry : LongLivedRegistry) : List Nat :=
  [registry.acceptedTotal, registry.completedTotal, registry.drainedTotal,
    registry.cancelledTotal, registry.rejectedTotal, registry.downstreamTimeoutTotal]

structure LongLivedAdmission where
  bytesStreamed : UInt64
  completed : Bool
  drained : Bool
deriving DecidableEq, Repr

namespace LongLivedAdmission

def new : LongLivedAdmission := ⟨0, false, false⟩

/-- The bytes of one admission saturate; the answer is whether they are within the limit. -/
def recordBytes (limits : LongLivedLimits) (admission : LongLivedAdmission) (bytes : UInt64) :
    LongLivedAdmission × Bool :=
  let total := admission.bytesStreamed.toNat + bytes.toNat
  let streamed := if total < 2 ^ 64 then UInt64.ofNat total else UInt64.ofNat (2 ^ 64 - 1)
  ({ admission with bytesStreamed := streamed }, streamed ≤ limits.maxBufferedBytes)

def complete (admission : LongLivedAdmission) : LongLivedAdmission :=
  { admission with completed := true }

/-- The total counts an admission once, however often it is drained. -/
def completeDrained (registry : LongLivedRegistry) (admission : LongLivedAdmission) :
    LongLivedRegistry × LongLivedAdmission :=
  if admission.drained then (registry, { admission with completed := true })
  else
    ({ registry with drainedTotal := registry.drainedTotal + 1 },
      { admission with drained := true, completed := true })

/-- The second of the two additions in the drop of an admission. -/
def settle (registry : LongLivedRegistry) (admission : LongLivedAdmission) : LongLivedRegistry :=
  if admission.completed then { registry with completedTotal := registry.completedTotal + 1 }
  else { registry with cancelledTotal := registry.cancelledTotal + 1 }

end LongLivedAdmission

/-! ## Connections -/

/-- Where a connection stands in `try_admit`, with its admission, or in the drop of it. -/
inductive Phase where
  | outside
  | admitting
  | loaded (active : Nat)
  | rejecting
  | accepting (active : Nat)
  | recording (active : Nat)
  | raising (active current : Nat)
  | live (admission : LongLivedAdmission)
  | dropping (admission : LongLivedAdmission)
deriving DecidableEq, Repr

/-- The registry, the connections, and every value that `active` has had. -/
structure State (ι : Type) where
  registry : LongLivedRegistry
  phase : ι → Phase
  history : List Nat

/-- The atomic operations. An exchange is weak: it may fail although the value is as expected. -/
inductive Operation where
  | tryAdmit
  | load
  | compareExchange (spurious : Bool)
  | reject
  | accept
  | loadMax
  | compareExchangeMax (spurious : Bool)
  | recordBytes (bytes : UInt64)
  | complete
  | completeDrained
  | recordWriteError (timedOut : Bool)
  | drop
  | settle
deriving DecidableEq, Repr

structure Action (ι : Type) where
  connection : ι
  operation : Operation
deriving DecidableEq, Repr

variable {ι : Type}

def State.initial (ι : Type) : State ι :=
  ⟨.new, fun _ => .outside, [0]⟩

/-- The loop in `record_max_active`, with the maximum it has just seen. -/
def Phase.afterMax (active current : Nat) : Phase :=
  if active > current then .raising active current else .live .new

/-- A connection's next atomic operation: what becomes of the registry and where it stands
then. -/
def advance (limits : LongLivedLimits) (registry : LongLivedRegistry) :
    Operation → Phase → Option (LongLivedRegistry × Phase)
  | .tryAdmit, .outside => some (registry, .admitting)
  | .load, .admitting =>
      if registry.active ≥ limits.maxConnections then some (registry, .rejecting)
      else some (registry, .loaded registry.active)
  | .compareExchange spurious, .loaded active =>
      if registry.active = active ∧ spurious = false then
        some ({ registry with active := active + 1 }, .accepting (active + 1))
      else some (registry, .admitting)
  | .reject, .rejecting =>
      some ({ registry with rejectedTotal := registry.rejectedTotal + 1 }, .outside)
  | .accept, .accepting active =>
      some ({ registry with acceptedTotal := registry.acceptedTotal + 1 }, .recording active)
  | .loadMax, .recording active =>
      some (registry, .afterMax active registry.maxActiveObserved)
  | .compareExchangeMax spurious, .raising active current =>
      if registry.maxActiveObserved = current ∧ spurious = false then
        some ({ registry with maxActiveObserved := active }, .live .new)
      else some (registry, .afterMax active registry.maxActiveObserved)
  | .recordBytes bytes, .live admission =>
      some ({ registry with bytesStreamedTotal := registry.bytesStreamedTotal + bytes },
        .live (admission.recordBytes limits bytes).1)
  | .complete, .live admission => some (registry, .live admission.complete)
  | .completeDrained, .live admission =>
      some ((admission.completeDrained registry).1, .live (admission.completeDrained registry).2)
  | .recordWriteError timedOut, .live admission =>
      if timedOut then
        some ({ registry with downstreamTimeoutTotal := registry.downstreamTimeoutTotal + 1 },
          .live admission)
      else some (registry, .live admission)
  | .drop, .live admission =>
      some ({ registry with active := registry.active - 1 }, .dropping admission)
  | .settle, .dropping admission => some (admission.settle registry, .outside)
  | _, _ => none

variable [DecidableEq ι]

/-- A connection moves on, and the registry takes a new value. -/
def State.move (state : State ι) (connection : ι) (registry : LongLivedRegistry) (phase : Phase) :
    State ι :=
  { registry := registry
    phase := Function.update state.phase connection phase
    history :=
      if registry.active = state.registry.active then state.history
      else registry.active :: state.history }

def step (limits : LongLivedLimits) (state : State ι) (action : Action ι) : Option (State ι) :=
  (advance limits state.registry action.operation (state.phase action.connection)).map
    fun (registry, phase) => state.move action.connection registry phase

/-! ## What the counters count -/

namespace Phase

/-- Counted in `active`: from the exchange that admits to the subtraction in the drop. -/
@[simp] def held : Phase → Nat
  | .accepting _ | .recording _ | .raising .. | .live _ => 1
  | _ => 0

/-- In `active`, but not yet in `accepted_total`. -/
@[simp] def unaccepted : Phase → Nat
  | .accepting _ => 1
  | _ => 0

/-- Out of `active`, but not yet in a final total. -/
@[simp] def unsettled : Phase → Nat
  | .dropping _ => 1
  | _ => 0

/-- Marked drained, and not yet settled. -/
@[simp] def marked : Phase → Nat
  | .live admission | .dropping admission => if admission.drained then 1 else 0
  | _ => 0

/-- The admission has been handed out and not been dropped. -/
@[simp] def isLive : Phase → Nat
  | .live _ => 1
  | _ => 0

@[simp] def markedLive : Phase → Nat
  | .live admission => if admission.drained then 1 else 0
  | _ => 0

/-- A value of `active` that this connection is still going to record. -/
@[simp] def pending : Phase → Nat
  | .accepting active | .recording active | .raising active _ => active
  | _ => 0

/-- What holds of a connection by itself. -/
@[simp] def Fits (maximum : Nat) : Phase → Prop
  | .loaded active => active < maximum
  | .accepting active | .recording active => active ≤ maximum
  | .raising active current => active ≤ maximum ∧ current < active
  | .live admission | .dropping admission => admission.drained = true → admission.completed = true
  | _ => True

end Phase

/-- Every connection is outside or holds its admission between two operations. -/
def Quiescent (state : State ι) : Prop :=
  ∀ connection, state.phase connection = .outside ∨
    ∃ admission, state.phase connection = .live admission

variable [Fintype ι]

structure Sound (limits : LongLivedLimits) (state : State ι) : Prop where
  held : state.registry.active = tally Phase.held state.phase
  balance : state.registry.acceptedTotal + tally Phase.unaccepted state.phase =
    state.registry.active + state.registry.completedTotal + state.registry.cancelledTotal +
      tally Phase.unsettled state.phase
  drained : state.registry.drainedTotal ≤
    state.registry.completedTotal + tally Phase.marked state.phase
  fits : ∀ connection, (state.phase connection).Fits limits.maxConnections
  bounded : state.registry.active ≤ limits.maxConnections
  maximum : state.registry.maxActiveObserved ≤ limits.maxConnections
  current : state.registry.active ∈ state.history
  /-- A value is recorded, or the connection that set it still has to record one as large. -/
  recorded : ∀ value ∈ state.history, value ≤ state.registry.maxActiveObserved ∨
    ∃ connection, value ≤ (state.phase connection).pending

omit [DecidableEq ι] in
theorem sound_initial (limits : LongLivedLimits) : Sound limits (State.initial ι) where
  held := by simp [State.initial, LongLivedRegistry.new, tally, Phase.held]
  balance := by
    simp [State.initial, LongLivedRegistry.new, tally, Phase.unaccepted, Phase.unsettled]
  drained := Nat.zero_le _
  fits _ := trivial
  bounded := Nat.zero_le _
  maximum := Nat.zero_le _
  current := List.mem_singleton.mpr rfl
  recorded value seen := by
    rw [List.mem_singleton.mp seen]
    exact .inl (Nat.zero_le _)

section

variable {limits : LongLivedLimits} {state : State ι} {connection : ι}
  {registry : LongLivedRegistry} {phase : Phase}

omit [Fintype ι] in
@[simp] theorem move_registry : (state.move connection registry phase).registry = registry := rfl

omit [Fintype ι] in
@[simp] theorem move_phase_self :
    (state.move connection registry phase).phase connection = phase :=
  Function.update_self ..

omit [Fintype ι] in
theorem move_phase_of_ne {other : ι} (different : other ≠ connection) :
    (state.move connection registry phase).phase other = state.phase other :=
  Function.update_of_ne different ..

omit [Fintype ι] in
/-- A value that was covered stays covered. -/
private theorem covered_move {value : Nat}
    (higher : state.registry.maxActiveObserved ≤ registry.maxActiveObserved)
    (pending : (state.phase connection).pending ≤ registry.maxActiveObserved ∨
      (state.phase connection).pending ≤ phase.pending)
    (covered : value ≤ state.registry.maxActiveObserved ∨
      ∃ connection, value ≤ (state.phase connection).pending) :
    value ≤ registry.maxActiveObserved ∨
      ∃ other, value ≤ ((state.move connection registry phase).phase other).pending := by
  rcases covered with observed | ⟨other, expected⟩
  · exact .inl (observed.trans higher)
  · by_cases same : other = connection
    · subst same
      rcases pending with observed | kept
      · exact .inl (expected.trans observed)
      · exact .inr ⟨other, by rw [move_phase_self]; exact expected.trans kept⟩
    · exact .inr ⟨other, by rw [move_phase_of_ne same]; exact expected⟩

/-- One connection moves on, and every counter follows what it stands for. -/
theorem Sound.move (sound : Sound limits state)
    (held : registry.active + (state.phase connection).held =
      state.registry.active + phase.held)
    (balance : registry.acceptedTotal + phase.unaccepted +
        (state.registry.active + state.registry.completedTotal + state.registry.cancelledTotal +
          (state.phase connection).unsettled) =
      state.registry.acceptedTotal + (state.phase connection).unaccepted +
        (registry.active + registry.completedTotal + registry.cancelledTotal + phase.unsettled))
    (drained : registry.drainedTotal +
        (state.registry.completedTotal + (state.phase connection).marked) ≤
      state.registry.drainedTotal + (registry.completedTotal + phase.marked))
    (fits : phase.Fits limits.maxConnections)
    (bounded : registry.active ≤ limits.maxConnections)
    (maximum : registry.maxActiveObserved ≤ limits.maxConnections)
    (higher : state.registry.maxActiveObserved ≤ registry.maxActiveObserved)
    (pending : (state.phase connection).pending ≤ registry.maxActiveObserved ∨
      (state.phase connection).pending ≤ phase.pending)
    (reached : registry.active ≤ state.registry.active ∨ registry.active ≤ phase.pending) :
    Sound limits (state.move connection registry phase) where
  held := by
    have before := sound.held
    have moved := tally_update Phase.held state.phase connection phase
    simp only [State.move]
    omega
  balance := by
    have before := sound.balance
    have accepting := tally_update Phase.unaccepted state.phase connection phase
    have settling := tally_update Phase.unsettled state.phase connection phase
    simp only [State.move]
    omega
  drained := by
    have before := sound.drained
    have moved := tally_update Phase.marked state.phase connection phase
    simp only [State.move]
    omega
  fits other := by
    by_cases same : other = connection
    · subst same
      rw [move_phase_self]
      exact fits
    · rw [move_phase_of_ne same]
      exact sound.fits other
  bounded := bounded
  maximum := maximum
  current := by
    simp only [State.move]
    split
    · rename_i unchanged
      rw [unchanged]
      exact sound.current
    · exact List.mem_cons_self
  recorded := by
    have kept : ∀ value ∈ state.history, value ≤ registry.maxActiveObserved ∨
        ∃ other, value ≤ ((state.move connection registry phase).phase other).pending :=
      fun value seen => covered_move higher pending (sound.recorded value seen)
    intro value seen
    by_cases unchanged : registry.active = state.registry.active
    · rw [State.move, if_pos unchanged] at seen
      exact kept value seen
    · rw [State.move, if_neg unchanged] at seen
      rcases List.mem_cons.mp seen with rfl | earlier
      · rcases reached with lower | own
        · rcases kept _ sound.current with observed | ⟨other, expected⟩
          · exact .inl (lower.trans observed)
          · exact .inr ⟨other, lower.trans expected⟩
        · exact .inr ⟨connection, by rw [move_phase_self]; exact own⟩
      · exact kept value earlier

/-- A step that touches no counter of this balance. -/
theorem Sound.stay (sound : Sound limits state) {rejectedTotal downstreamTimeoutTotal : Nat}
    {bytesStreamedTotal : UInt64}
    (held : phase.held = (state.phase connection).held)
    (unaccepted : phase.unaccepted = (state.phase connection).unaccepted)
    (unsettled : phase.unsettled = (state.phase connection).unsettled)
    (marked : phase.marked = (state.phase connection).marked)
    (fits : phase.Fits limits.maxConnections)
    (pending : (state.phase connection).pending ≤ state.registry.maxActiveObserved ∨
      (state.phase connection).pending ≤ phase.pending) :
    Sound limits (state.move connection
      { state.registry with rejectedTotal, downstreamTimeoutTotal, bytesStreamedTotal } phase) :=
  sound.move (by rw [held]) (by rw [unaccepted, unsettled]) (by rw [marked]) fits
    sound.bounded sound.maximum le_rfl pending (.inl le_rfl)

end

/-! ## Every step -/

section

variable {limits : LongLivedLimits} {state next : State ι} {connection : ι}

/-- The exchange that admits: only it raises `active`, and it has seen room. -/
private theorem Sound.admitted (sound : Sound limits state)
    (loaded : state.phase connection = .loaded state.registry.active) :
    Sound limits (state.move connection
      { state.registry with active := state.registry.active + 1 }
      (.accepting (state.registry.active + 1))) := by
  have below : state.registry.active < limits.maxConnections := by
    have fits := sound.fits connection
    rwa [loaded] at fits
  apply sound.move
  · simp [loaded]
  · simp only [loaded, Phase.unaccepted, Phase.unsettled]
    omega
  · simp [loaded]
  · exact below
  · exact below
  · exact sound.maximum
  · exact le_rfl
  · simp [loaded]
  · simp

private theorem Sound.accept (sound : Sound limits state) {active : Nat}
    (accepting : state.phase connection = .accepting active) :
    Sound limits (state.move connection
      { state.registry with acceptedTotal := state.registry.acceptedTotal + 1 }
      (.recording active)) := by
  have fits := sound.fits connection
  rw [accepting] at fits
  apply sound.move
  · simp [accepting]
  · simp only [accepting, Phase.unaccepted, Phase.unsettled]
  · simp [accepting]
  · exact fits
  · exact sound.bounded
  · exact sound.maximum
  · exact le_rfl
  · simp [accepting]
  · exact .inl le_rfl

/-- The loop either goes on with the value it has to record, or finds one as large recorded. -/
private theorem Sound.afterMax (sound : Sound limits state) {active : Nat}
    (recording : state.phase connection = .recording active ∨
      ∃ current, state.phase connection = .raising active current) :
    Sound limits (state.move connection state.registry
      (.afterMax active state.registry.maxActiveObserved)) := by
  have fits := sound.fits connection
  have bounded : active ≤ limits.maxConnections := by
    rcases recording with recording | ⟨current, recording⟩
    · rwa [recording] at fits
    · rw [recording] at fits
      exact fits.1
  unfold Phase.afterMax
  split
  · rename_i above
    rcases recording with recording | ⟨current, recording⟩ <;>
      apply sound.stay <;> simp [recording, bounded, above]
  · rename_i observed
    have recorded : active ≤ state.registry.maxActiveObserved := Nat.le_of_not_lt observed
    rcases recording with recording | ⟨current, recording⟩ <;>
      apply sound.stay <;> simp [recording, recorded, LongLivedAdmission.new]

private theorem Sound.raised (sound : Sound limits state) {active : Nat}
    (raising : state.phase connection = .raising active state.registry.maxActiveObserved) :
    Sound limits (state.move connection
      { state.registry with maxActiveObserved := active } (.live .new)) := by
  have fits := sound.fits connection
  rw [raising] at fits
  apply sound.move
  · simp [raising]
  · simp [raising]
  · simp [raising, LongLivedAdmission.new]
  · exact fun drained => nomatch drained
  · exact sound.bounded
  · exact fits.1
  · exact fits.2.le
  · simp [raising]
  · exact .inl le_rfl

private theorem Sound.completeDrained (sound : Sound limits state)
    {admission : LongLivedAdmission} (live : state.phase connection = .live admission) :
    Sound limits (state.move connection (admission.completeDrained state.registry).1
      (.live (admission.completeDrained state.registry).2)) := by
  unfold LongLivedAdmission.completeDrained
  split
  · rename_i already
    apply sound.stay <;> simp [live, already]
  · rename_i undrained
    apply sound.move
    · simp [live]
    · simp [live]
    · simp only [live, Phase.marked, undrained]
      simp
      omega
    · simp
    · exact sound.bounded
    · exact sound.maximum
    · exact le_rfl
    · simp [live]
    · exact .inl le_rfl

/-- The subtraction in the drop finds its admission counted. -/
private theorem Sound.drop (sound : Sound limits state) {admission : LongLivedAdmission}
    (live : state.phase connection = .live admission) :
    Sound limits (state.move connection
      { state.registry with active := state.registry.active - 1 } (.dropping admission)) := by
  have counted : 1 ≤ state.registry.active := by
    rw [sound.held]
    refine le_trans ?_ (weight_le_tally Phase.held state.phase connection)
    simp [live]
  have fits := sound.fits connection
  rw [live] at fits
  apply sound.move
  · simp only [live, Phase.held]
    omega
  · simp only [live, Phase.unaccepted, Phase.unsettled]
    omega
  · simp [live]
  · exact fits
  · exact (Nat.sub_le _ _).trans sound.bounded
  · exact sound.maximum
  · exact le_rfl
  · simp [live]
  · exact .inl (Nat.sub_le _ _)

/-- An admission marked drained is marked completed: it is settled in the total that the
drained total is compared with. -/
private theorem Sound.settle (sound : Sound limits state) {admission : LongLivedAdmission}
    (dropping : state.phase connection = .dropping admission) :
    Sound limits (state.move connection (admission.settle state.registry) .outside) := by
  have fits := sound.fits connection
  rw [dropping] at fits
  unfold LongLivedAdmission.settle
  split
  · apply sound.move
    · simp [dropping]
    · simp only [dropping, Phase.unaccepted, Phase.unsettled]
      omega
    · simp only [dropping, Phase.marked]
      split <;> omega
    · trivial
    · exact sound.bounded
    · exact sound.maximum
    · exact le_rfl
    · simp [dropping]
    · exact .inl le_rfl
  · rename_i uncompleted
    have undrained : admission.drained = false :=
      Bool.eq_false_iff.mpr fun drained => uncompleted (fits drained)
    apply sound.move
    · simp [dropping]
    · simp only [dropping, Phase.unaccepted, Phase.unsettled]
      omega
    · simp [dropping, undrained]
    · trivial
    · exact sound.bounded
    · exact sound.maximum
    · exact le_rfl
    · simp [dropping]
    · exact .inl le_rfl

/-- One case for each arm of `advance`, in its order. -/
theorem Sound.step (sound : Sound limits state) {action : Action ι}
    (stepped : step limits state action = some next) : Sound limits next := by
  obtain ⟨connection, operation⟩ := action
  simp only [LongLived.step, Option.map_eq_some_iff] at stepped
  obtain ⟨⟨registry, phase⟩, advanced, rfl⟩ := stepped
  have fits := sound.fits connection
  generalize here : state.phase connection = before at advanced fits
  unfold advance at advanced
  split at advanced
  · cases advanced
    apply sound.stay <;> simp [here]
  · split at advanced
    · cases advanced
      apply sound.stay <;> simp [here]
    · rename_i room
      cases advanced
      apply sound.stay <;> simp [here, Nat.lt_of_not_le room]
  · split at advanced
    · rename_i exchanged
      cases advanced
      obtain ⟨rfl, -⟩ := exchanged
      exact sound.admitted here
    · cases advanced
      apply sound.stay <;> simp [here]
  · cases advanced
    apply sound.stay <;> simp [here]
  · cases advanced
    exact sound.accept here
  · cases advanced
    exact sound.afterMax (.inl here)
  · split at advanced
    · rename_i exchanged
      cases advanced
      obtain ⟨rfl, -⟩ := exchanged
      exact sound.raised here
    · cases advanced
      exact sound.afterMax (.inr ⟨_, here⟩)
  · cases advanced
    exact sound.stay (by simp [here]) (by simp [here]) (by simp [here])
      (by rw [here]; rfl) fits (by simp [here])
  · cases advanced
    exact sound.stay (by simp [here]) (by simp [here]) (by simp [here])
      (by rw [here]; rfl) (fun _ => rfl) (by simp [here])
  · cases advanced
    exact sound.completeDrained here
  · split at advanced <;> cases advanced <;>
      exact sound.stay (by simp [here]) (by simp [here]) (by simp [here]) (by simp [here]) fits
        (by simp [here])
  · cases advanced
    exact sound.drop here
  · cases advanced
    exact sound.settle here
  · cases advanced

end

/-! ## Refused admissions -/

section

variable {limits : LongLivedLimits} {state next : State ι} {connection : ι}

/-- Inside `try_admit`, with nothing counted yet. -/
def Phase.attempting : Phase → Bool
  | .admitting | .loaded _ | .rejecting => true
  | _ => false

/-- The changes that a connection's own steps make to the counters. -/
def changes (limits : LongLivedLimits) (connection : ι) (state : State ι)
    (actions : List (Action ι)) : List (LongLivedRegistry × LongLivedRegistry) :=
  Machine.effects (step limits) (fun action => action.connection = connection)
    State.registry state actions

/-- Only `try_admit` brings a connection there, and until it leaves it counts nothing. -/
private theorem attempting_of_advance {registry registry' : LongLivedRegistry}
    {operation : Operation} {before after : Phase}
    (advanced : advance limits registry operation before = some (registry', after))
    (uncalled : operation ≠ .tryAdmit) (attempting : after.attempting = true) :
    before.attempting = true ∧ registry' = registry := by
  unfold advance at advanced
  split at advanced
  · exact absurd rfl uncalled
  all_goals grind [Phase.attempting, Phase.afterMax]

omit [Fintype ι] in
private theorem attempting_of_step {action : Action ι}
    (stepped : step limits state action = some next)
    (uncalled : action ≠ ⟨connection, .tryAdmit⟩)
    (attempting : (next.phase connection).attempting = true) :
    (state.phase connection).attempting = true ∧
      (action.connection = connection → next.registry = state.registry) := by
  obtain ⟨mover, operation⟩ := action
  simp only [step, Option.map_eq_some_iff] at stepped
  obtain ⟨⟨registry, phase⟩, advanced, rfl⟩ := stepped
  by_cases own : mover = connection
  · subst own
    rw [move_phase_self] at attempting
    have moved := attempting_of_advance advanced (fun same => uncalled (by rw [same])) attempting
    exact ⟨moved.1, fun _ => moved.2⟩
  · rw [move_phase_of_ne (Ne.symm own)] at attempting
    exact ⟨attempting, fun same => absurd same own⟩

omit [Fintype ι] in
private theorem reject_step (stepped : step limits state ⟨connection, .reject⟩ = some next) :
    (state.phase connection).attempting = true ∧
      next.registry =
        { state.registry with rejectedTotal := state.registry.rejectedTotal + 1 } := by
  simp only [step, Option.map_eq_some_iff] at stepped
  obtain ⟨⟨registry, phase⟩, advanced, rfl⟩ := stepped
  generalize state.phase connection = before at advanced
  unfold advance at advanced
  split at advanced <;> grind [Phase.attempting, move_registry]

omit [Fintype ι] in
private theorem tryAdmit_step (stepped : step limits state ⟨connection, .tryAdmit⟩ = some next) :
    next.registry = state.registry := by
  simp only [step, Option.map_eq_some_iff] at stepped
  obtain ⟨⟨registry, phase⟩, advanced, rfl⟩ := stepped
  generalize state.phase connection = before at advanced
  unfold advance at advanced
  split at advanced <;> grind [move_registry]

omit [Fintype ι] in
/-- From the call to the refusal, a connection changes the counters once, whatever others do
meanwhile. -/
theorem changes_of_refused {middle : List (Action ι)} {last : State ι}
    (uncalled : ⟨connection, .tryAdmit⟩ ∉ middle)
    (ran : Machine.exec (step limits) state
      (⟨connection, .tryAdmit⟩ :: (middle ++ [⟨connection, .reject⟩])) = some last) :
    ∃ before : LongLivedRegistry,
      changes limits connection state
          (⟨connection, .tryAdmit⟩ :: (middle ++ [⟨connection, .reject⟩])) =
        [(before, { before with rejectedTotal := before.rejectedTotal + 1 })] := by
  rw [Machine.exec, Option.bind_eq_some_iff] at ran
  obtain ⟨entered, called, ran⟩ := ran
  rw [Machine.exec_append, Option.bind_eq_some_iff] at ran
  obtain ⟨rejecting, searched, ran⟩ := ran
  have rejected : step limits rejecting ⟨connection, .reject⟩ = some last := by
    simpa [Machine.exec] using ran
  obtain ⟨atEnd, counted⟩ := reject_step rejected
  have between : changes limits connection entered middle = [] :=
    (Machine.effects_eq_nil_of_inside
      (fun _ action _ stepped unentered inside =>
        (attempting_of_step stepped unentered inside).imp_right fun same mine =>
          same (of_decide_eq_true mine))
      searched (fun action member same => uncalled (same ▸ member)) atEnd).2
  refine ⟨rejecting.registry, ?_⟩
  have raised : last.registry ≠ rejecting.registry := by
    intro same
    have totals := congrArg LongLivedRegistry.rejectedTotal (counted.symm.trans same)
    exact Nat.succ_ne_self _ totals
  unfold changes at between ⊢
  simp [Machine.effects, called, tryAdmit_step called, Machine.effects_append searched, between,
    rejected, raised]
  exact counted

/-! ## Words -/

/-- An operation counts one event at most. -/
private theorem totals_of_advance {registry registry' : LongLivedRegistry} {operation : Operation}
    {before after : Phase}
    (advanced : advance limits registry operation before = some (registry', after)) :
    registry'.totals.sum ≤ registry.totals.sum + 1 := by
  unfold advance at advanced
  split at advanced
  all_goals grind [LongLivedRegistry.totals, LongLivedAdmission.completeDrained,
    LongLivedAdmission.settle]

omit [Fintype ι] in
/-- Below `2 ^ 64` operations no total wraps, and a `u64` holds what is counted here. -/
theorem totals_within_word {actions : List (Action ι)} {state : State ι}
    (ran : Machine.exec (step limits) (.initial ι) actions = some state)
    (short : actions.length < 2 ^ 64) : ∀ total ∈ state.registry.totals, total < 2 ^ 64 := by
  have counted : state.registry.totals.sum ≤ 0 + actions.length := by
    refine @Machine.le_length_of_exec _ _ _ (fun state => state.registry.totals.sum) ?_ _ _ _ ran
    intro state action next stepped
    simp only [step, Option.map_eq_some_iff] at stepped
    obtain ⟨⟨registry, phase⟩, advanced, rfl⟩ := stepped
    exact totals_of_advance advanced
  intro total member
  have within := List.le_sum_of_mem member
  omega

/-! ## Every run -/

/-- The counters balance: `active` is the number of admissions between their exchange and their
subtraction, and never above the cap, nor is the recorded maximum. Between operations `active`
counts the live admissions, every admission that was accepted is live or in one final total,
no more are counted drained than completed or are marked, and no value of `active` was above
the recorded maximum. A refusal changes the count of refusals alone. -/
theorem long_lived_accounting {actions : List (Action ι)} {state : State ι}
    (ran : Machine.exec (step limits) (.initial ι) actions = some state) :
    (state.registry.active = tally Phase.held state.phase ∧
      state.registry.active ≤ limits.maxConnections ∧
      state.registry.maxActiveObserved ≤ limits.maxConnections) ∧
    (Quiescent state →
      state.registry.active = tally Phase.isLive state.phase ∧
      state.registry.acceptedTotal = state.registry.active + state.registry.completedTotal +
        state.registry.cancelledTotal ∧
      state.registry.drainedTotal ≤
        state.registry.completedTotal + tally Phase.markedLive state.phase ∧
      ∀ value ∈ state.history, value ≤ state.registry.maxActiveObserved) ∧
    ∀ connection middle last, ⟨connection, .tryAdmit⟩ ∉ middle →
      Machine.exec (step limits) state
        (⟨connection, .tryAdmit⟩ :: (middle ++ [⟨connection, .reject⟩])) = some last →
      ∃ before : LongLivedRegistry,
        changes limits connection state
            (⟨connection, .tryAdmit⟩ :: (middle ++ [⟨connection, .reject⟩])) =
          [(before, { before with rejectedTotal := before.rejectedTotal + 1 })] := by
  have sound : Sound limits state :=
    Machine.invariant_of_exec (fun _ _ _ before stepped => before.step stepped)
      (sound_initial limits) ran
  refine ⟨⟨sound.held, sound.bounded, sound.maximum⟩, ?_, fun _ _ _ => changes_of_refused⟩
  intro quiescent
  have held : tally Phase.held state.phase = tally Phase.isLive state.phase := by
    refine tally_congr _ _ fun connection => ?_
    rcases quiescent connection with outside | ⟨admission, live⟩ <;> simp [*]
  have unaccepted : tally Phase.unaccepted state.phase = 0 := by
    refine Finset.sum_eq_zero fun connection _ => ?_
    rcases quiescent connection with outside | ⟨admission, live⟩ <;> simp [*]
  have unsettled : tally Phase.unsettled state.phase = 0 := by
    refine Finset.sum_eq_zero fun connection _ => ?_
    rcases quiescent connection with outside | ⟨admission, live⟩ <;> simp [*]
  have marked : tally Phase.marked state.phase = tally Phase.markedLive state.phase := by
    refine tally_congr _ _ fun connection => ?_
    rcases quiescent connection with outside | ⟨admission, live⟩ <;> simp [*]
  refine ⟨held ▸ sound.held, ?_, marked ▸ sound.drained, ?_⟩
  · have balance := sound.balance
    omega
  · intro value seen
    rcases sound.recorded value seen with observed | ⟨connection, expected⟩
    · exact observed
    · have settled : (state.phase connection).pending = 0 := by
        rcases quiescent connection with outside | ⟨admission, live⟩ <;> simp [*]
      omega

/-- Under a cap of one: connection 0 is admitted after a spurious failure, connection 1 is refused
while it is live, and connection 0 is drained twice, dropped and settled. -/
def oneAfterAnother : List (Action (Fin 2)) :=
  [⟨0, .tryAdmit⟩, ⟨0, .load⟩, ⟨0, .compareExchange true⟩, ⟨0, .load⟩,
    ⟨0, .compareExchange false⟩, ⟨1, .tryAdmit⟩, ⟨1, .load⟩, ⟨0, .accept⟩, ⟨0, .loadMax⟩,
    ⟨1, .reject⟩, ⟨0, .compareExchangeMax false⟩, ⟨0, .recordBytes 7⟩, ⟨0, .completeDrained⟩,
    ⟨0, .completeDrained⟩, ⟨0, .drop⟩, ⟨0, .settle⟩]

theorem long_lived_accounting_one_after_another :
    ∃ state, Machine.exec (step ⟨1, 1024⟩) (.initial (Fin 2)) oneAfterAnother = some state ∧
      state.registry = ⟨0, 1, 1, 1, 0, 1, 0, 7, 1⟩ ∧
      state.registry.acceptedTotal = state.registry.active + state.registry.completedTotal +
        state.registry.cancelledTotal ∧
      ∀ value ∈ state.history, value ≤ state.registry.maxActiveObserved := by
  obtain ⟨state, ran, outside, registry⟩ :
      ∃ state, Machine.exec (step ⟨1, 1024⟩) (.initial (Fin 2)) oneAfterAnother = some state ∧
        (∀ connection, state.phase connection = .outside) ∧
        state.registry = ⟨0, 1, 1, 1, 0, 1, 0, 7, 1⟩ :=
    Machine.exists_exec (by decide +kernel)
  have quiet := (long_lived_accounting ran).2.1 fun connection => .inl (outside connection)
  exact ⟨state, ran, registry, quiet.2.1, quiet.2.2.2⟩

end

end Oxo.Edge.Fairness.LongLived
