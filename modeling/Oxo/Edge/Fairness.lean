import Oxo.Foundation.CountTable
import Oxo.Foundation.Machine
import Mathlib.Tactic

/-!
Contract: the per-identity limiter (`oxo-pingora-edge/src/platform/fairness.rs`,
`IdentityFairnessLimiter`).

Owns: `acquire` and the drop of an `IdentityAdmission` under the table's lock, every
interleaving of them, and what the table says of the live guards in every reachable state.

Does not own: the identity a request is given, and the limiters of all requests and of
long-lived connections. Each critical section is one step.
-/

namespace Oxo.Edge.Fairness

open Oxo.Foundation Oxo.Foundation.CountTable

/-! ## Operations under the lock -/

structure IdentityAdmission where
  identity : String
deriving DecidableEq, Repr

structure IdentityFairnessLimiter where
  maxPerIdentity : Option UInt64
  active : Std.HashMap String UInt64
  admittedTotal : UInt64
  saturationTotal : UInt64

namespace IdentityFairnessLimiter

def new (maxPerIdentity : Option UInt64) : IdentityFairnessLimiter :=
  ⟨maxPerIdentity, ∅, 0, 0⟩

/-- The limiter without a maximum admits everyone and hands out no guard. -/
def acquire (limiter : IdentityFairnessLimiter) (identity : String) :
    IdentityFairnessLimiter × Except Unit (Option IdentityAdmission) :=
  match limiter.maxPerIdentity with
  | none => (limiter, .ok none)
  | some maxPerIdentity =>
      let current := limiter.active.getD identity 0
      if maxPerIdentity ≤ current then
        ({ limiter with saturationTotal := limiter.saturationTotal + 1 }, .error ())
      else
        ({ limiter with
            active := limiter.active.insert identity (current + 1)
            admittedTotal := limiter.admittedTotal + 1 },
          .ok (some ⟨identity⟩))

/-- The drop of a guard. -/
def release (limiter : IdentityFairnessLimiter) (guard : IdentityAdmission) :
    IdentityFairnessLimiter :=
  match limiter.active[guard.identity]? with
  | some count =>
      if 1 < count then
        { limiter with active := limiter.active.insert guard.identity (count - 1) }
      else { limiter with active := limiter.active.erase guard.identity }
  | none => limiter

theorem release_eq (limiter : IdentityFairnessLimiter) (guard : IdentityAdmission) :
    limiter.release guard = { limiter with active := lower limiter.active guard.identity } := by
  unfold release lower
  cases limiter.active[guard.identity]? with
  | none => rfl
  | some count =>
      simp only
      split <;> rfl

end IdentityFairnessLimiter

/-! ## Interleavings -/

/-- The limiter and the guards that are still held. A guard is dropped once, by its owner. -/
structure State where
  limiter : IdentityFairnessLimiter
  guards : List IdentityAdmission

inductive Action where
  | acquire (identity : String)
  | drop (guard : IdentityAdmission)
deriving DecidableEq, Repr

def Action.identity : Action → String
  | .acquire identity => identity
  | .drop guard => guard.identity

def State.initial (maxPerIdentity : UInt64) : State :=
  ⟨.new (some maxPerIdentity), []⟩

def step (state : State) : Action → Option State
  | .acquire identity =>
      match state.limiter.acquire identity with
      | (limiter, .ok (some guard)) => some ⟨limiter, guard :: state.guards⟩
      | (limiter, _) => some { state with limiter := limiter }
  | .drop guard =>
      if guard ∈ state.guards then
        some ⟨state.limiter.release guard, state.guards.erase guard⟩
      else none

/-- How many guards an identity holds. -/
def State.live (state : State) (identity : String) : Nat :=
  state.guards.countP (·.identity == identity)

/-! ## What one step does -/

section

variable {limiter limiter' : IdentityFairnessLimiter} {maximum : UInt64} {identity : String}

private theorem acquire_refused (configured : limiter.maxPerIdentity = some maximum)
    (full : maximum ≤ limiter.active.getD identity 0) :
    limiter.acquire identity =
      ({ limiter with saturationTotal := limiter.saturationTotal + 1 }, .error ()) := by
  unfold IdentityFairnessLimiter.acquire
  rw [configured]
  exact if_pos full

private theorem acquire_admitted (configured : limiter.maxPerIdentity = some maximum)
    (room : ¬ maximum ≤ limiter.active.getD identity 0) :
    limiter.acquire identity =
      ({ limiter with
          active := raise limiter.active identity
          admittedTotal := limiter.admittedTotal + 1 },
        .ok (some ⟨identity⟩)) := by
  unfold IdentityFairnessLimiter.acquire
  rw [configured]
  exact if_neg room

end

/-- Everything that a step of a limited limiter can do. -/
private theorem step_cases {state next : State} {action : Action} {maximum : UInt64}
    (configured : state.limiter.maxPerIdentity = some maximum)
    (stepped : step state action = some next) :
    (∃ identity, action = .acquire identity ∧
      maximum ≤ state.limiter.active.getD identity 0 ∧
      next.limiter.active = state.limiter.active ∧ next.guards = state.guards ∧
      next.limiter.maxPerIdentity = some maximum) ∨
    (∃ identity, action = .acquire identity ∧
      ¬ maximum ≤ state.limiter.active.getD identity 0 ∧
      next.limiter.active = raise state.limiter.active identity ∧
      next.guards = ⟨identity⟩ :: state.guards ∧
      next.limiter.maxPerIdentity = some maximum) ∨
    (∃ guard, action = .drop guard ∧ guard ∈ state.guards ∧
      next.limiter.active = lower state.limiter.active guard.identity ∧
      next.guards = state.guards.erase guard ∧
      next.limiter.maxPerIdentity = some maximum) := by
  cases action with
  | acquire identity =>
      by_cases full : maximum ≤ state.limiter.active.getD identity 0
      · rw [step, acquire_refused configured full] at stepped
        cases stepped
        exact .inl ⟨identity, rfl, full, rfl, rfl, configured⟩
      · rw [step, acquire_admitted configured full] at stepped
        cases stepped
        exact .inr (.inl ⟨identity, rfl, full, rfl, rfl, configured⟩)
  | drop guard =>
      by_cases held : guard ∈ state.guards
      · rw [step, if_pos held, IdentityFairnessLimiter.release_eq] at stepped
        cases stepped
        exact .inr (.inr ⟨guard, rfl, held, rfl, rfl, configured⟩)
      · rw [step, if_neg held] at stepped
        cases stepped

/-! ## The invariant -/

def identities (guards : List IdentityAdmission) : List String :=
  guards.map IdentityAdmission.identity

theorem State.live_eq_count (state : State) (identity : String) :
    state.live identity = (identities state.guards).count identity := by
  unfold State.live identities
  rw [List.count, List.countP_map]
  rfl

private theorem identities_erase (guards : List IdentityAdmission) (guard : IdentityAdmission) :
    identities (guards.erase guard) = (identities guards).erase guard.identity := by
  induction guards with
  | nil => rfl
  | cons head rest inductionHypothesis =>
      by_cases same : head = guard
      · subst same
        simp [identities]
      · have unequal : head.identity ≠ guard.identity := by
          intro equal
          exact same (by cases head; cases guard; simp_all)
        rw [List.erase_cons_tail (by simpa using same)]
        show head.identity :: identities (rest.erase guard) =
          (head.identity :: identities rest).erase guard.identity
        rw [List.erase_cons_tail (by simpa using unequal), inductionHypothesis]

/-- The table counts the live guards, and no identity holds more than the maximum. -/
structure Sound (maximum : UInt64) (state : State) : Prop where
  configured : state.limiter.maxPerIdentity = some maximum
  counted : Counts state.limiter.active (identities state.guards)
  bounded : ∀ identity, state.live identity ≤ maximum.toNat

private theorem Sound.initial (maximum : UInt64) : Sound maximum (.initial maximum) where
  configured := rfl
  counted := counts_empty
  bounded _ := Nat.zero_le _

private theorem Sound.held {maximum : UInt64} {state : State} (sound : Sound maximum state)
    (identity : String) :
    (state.limiter.active.getD identity 0).toNat = state.live identity := by
  rw [sound.counted.getD, state.live_eq_count]

private theorem Sound.step {maximum : UInt64} {state next : State} {action : Action}
    (sound : Sound maximum state) (stepped : step state action = some next) :
    Sound maximum next := by
  rcases step_cases sound.configured stepped with
    ⟨identity, -, -, table, guards, configured⟩ |
    ⟨identity, -, room, table, guards, configured⟩ |
    ⟨guard, -, held, table, guards, configured⟩
  · refine ⟨configured, ?_, ?_⟩
    · rw [table, guards]
      exact sound.counted
    · intro other
      rw [State.live, guards]
      exact sound.bounded other
  · have below : state.live identity < maximum.toNat := by
      have := UInt64.lt_iff_toNat_lt.mp (UInt64.not_le.mp room)
      rwa [sound.held] at this
    refine ⟨configured, ?_, ?_⟩
    · rw [table, guards]
      apply sound.counted.raise
      rw [← state.live_eq_count]
      have := maximum.toNat_lt
      omega
    · intro other
      have before := sound.bounded other
      rw [State.live_eq_count] at before below ⊢
      rw [guards]
      by_cases same : other = identity
      · subst same
        show ((other :: identities state.guards).count other) ≤ _
        rw [List.count_cons_self]
        omega
      · show ((identity :: identities state.guards).count other) ≤ _
        rw [List.count_cons_of_ne (Ne.symm same)]
        exact before
  · refine ⟨configured, ?_, ?_⟩
    · rw [table, guards, identities_erase]
      exact sound.counted.lower (List.mem_map_of_mem held)
    · intro other
      refine Nat.le_trans ?_ (sound.bounded other)
      rw [State.live, guards]
      exact (List.erase_sublist).countP_le

/-- An operation on one identity leaves the entries of all others as they were. -/
theorem step_other {state next : State} {action : Action} {maximum : UInt64}
    (configured : state.limiter.maxPerIdentity = some maximum)
    (stepped : step state action = some next) {other : String}
    (different : other ≠ action.identity) :
    next.limiter.active[other]? = state.limiter.active[other]? := by
  rcases step_cases configured stepped with
    ⟨identity, rfl, -, table, -⟩ | ⟨identity, rfl, -, table, -⟩ | ⟨guard, rfl, -, table, -⟩
  · rw [table]
  · rw [table]
    exact raise_other different
  · rw [table]
    exact lower_other different

/-! ## Every run -/

theorem identity_admission_exact {maximum : UInt64} {actions : List Action} {state : State}
    (ran : Machine.exec step (.initial maximum) actions = some state) :
    (∀ identity, (state.limiter.active.getD identity 0).toNat = state.live identity) ∧
    (∀ (identity : String) (count : UInt64), state.limiter.active[identity]? = some count →
      1 ≤ count ∧ count ≤ maximum) ∧
    state.limiter.active.size ≤ state.guards.length ∧
    (∀ identity, (state.limiter.acquire identity).2 = .ok (some ⟨identity⟩) ↔
      state.live identity < maximum.toNat) ∧
    (∀ identity, ¬ state.live identity < maximum.toNat →
      (state.limiter.acquire identity).2 = .error () ∧
      (state.limiter.acquire identity).1.active = state.limiter.active) ∧
    (∀ action next, step state action = some next → ∀ other : String, other ≠ action.identity →
      next.limiter.active[other]? = state.limiter.active[other]?) := by
  have sound : Sound maximum state :=
    Machine.invariant_of_exec (fun _ _ _ before stepped => before.step stepped)
      (Sound.initial maximum) ran
  have full_iff (identity : String) :
      maximum ≤ state.limiter.active.getD identity 0 ↔
        ¬ state.live identity < maximum.toNat := by
    rw [UInt64.le_iff_toNat_le, sound.held, Nat.not_lt]
  refine ⟨sound.held, ?_, ?_, ?_, ?_, ?_⟩
  · intro identity count found
    obtain ⟨exactly, positive⟩ := sound.counted.stored found
    have most := sound.bounded identity
    rw [state.live_eq_count, ← exactly] at most
    exact ⟨UInt64.le_iff_toNat_le.mpr (exactly ▸ positive), UInt64.le_iff_toNat_le.mpr most⟩
  · have smaller := sound.counted.size_le
    rwa [identities, List.length_map] at smaller
  · intro identity
    by_cases full : maximum ≤ state.limiter.active.getD identity 0
    · rw [acquire_refused sound.configured full]
      exact iff_of_false nofun ((full_iff identity).mp full)
    · rw [acquire_admitted sound.configured full]
      exact iff_of_true rfl (not_not.mp (mt (full_iff identity).mpr full))
  · intro identity full
    rw [acquire_refused sound.configured ((full_iff identity).mpr full)]
    exact ⟨rfl, rfl⟩
  · intro action next stepped other different
    exact step_other sound.configured stepped different

/-- Two guards of one client, a third attempt refused, and a guard of another client. -/
theorem identity_admission_exact_two_clients :
    ∃ state : State,
      Machine.exec step (.initial 2)
        [.acquire "10.0.0.1", .acquire "10.0.0.1", .acquire "10.0.0.1", .acquire "10.0.0.2",
          .drop ⟨"10.0.0.1"⟩] = some state ∧
      state.guards = [⟨"10.0.0.2"⟩, ⟨"10.0.0.1"⟩] ∧
      state.limiter.active.size ≤ state.guards.length := by
  have ran : ∃ state : State,
      Machine.exec step (.initial 2)
        [.acquire "10.0.0.1", .acquire "10.0.0.1", .acquire "10.0.0.1", .acquire "10.0.0.2",
          .drop ⟨"10.0.0.1"⟩] = some state ∧
      state.guards = [⟨"10.0.0.2"⟩, ⟨"10.0.0.1"⟩] := by
    simp [Machine.exec, step, State.initial, IdentityFairnessLimiter.new,
      IdentityFairnessLimiter.acquire, Std.HashMap.getD_insert]
  obtain ⟨state, ran, guards⟩ := ran
  exact ⟨state, ran, guards, (identity_admission_exact ran).2.2.1⟩

end Oxo.Edge.Fairness
