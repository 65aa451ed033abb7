import Oxo.Edge.Acme.Ledger
import Oxo.Edge.Acme.Renewal

/-!
Contract: the backoff of renewals (`oxo-pingora-edge/src/acme/issue.rs`,
`next_attempt_after_failure`).

Owns: the bounds of a computed next attempt, and that no run of renewals contacts the issuer before
the one that its latest failure recorded.

Does not own: the latch, or whether renewal is due.
-/

namespace Oxo.Edge.Acme

open Oxo.Foundation

variable {libraries : Libraries} {config : AcmeIssueConfig} {policy : AcmeRenewalPolicy}

/-! ## The next attempt -/

/-- The exponential part of the backoff after a number of failures. -/
def retryDelay (policy : AcmeRenewalPolicy) (failures : Nat) : Nat :=
  min (policy.retryBaseSeconds.toNat * 2 ^ min (failures - 1) 20) policy.retryMaxSeconds.toNat

/-- A sum of seconds that saturates. -/
def later (time : UInt64) (seconds : Nat) : Nat :=
  min (time.toNat + seconds) (2 ^ 64 - 1)

/-- The failures that the rate limit's floor applies to. -/
def Floored (kind : String) : Prop :=
  kind = "rate_limited" ∨ kind = "invalid-certificate"

section

variable {now count nextAttempt : UInt64} {failures : Nat} {kind : String}

private theorem multiplier_toNat (failures : Nat) :
    ((1 : UInt64) <<< min (U64.saturatingSub (U64.clamp failures) 1) 20).toNat =
      2 ^ min (failures - 1) 20 := by
  have exponent : (min (U64.saturatingSub (U64.clamp failures) 1) 20).toNat =
      min (failures - 1) 20 := by
    rw [UInt64.toNat_min, U64.saturatingSub_toNat, U64.clamp_toNat,
      show (1 : UInt64).toNat = 1 from rfl, show (20 : UInt64).toNat = 20 from rfl]
    omega
  have small : 2 ^ min (failures - 1) 20 < 2 ^ 64 :=
    Nat.pow_lt_pow_right (by decide) (by omega)
  rw [UInt64.toNat_shiftLeft, exponent, show (1 : UInt64).toNat = 1 from rfl,
    Nat.mod_eq_of_lt (show min (failures - 1) 20 < 64 by omega), Nat.one_shiftLeft,
    Nat.mod_eq_of_lt small]

theorem jitter_le {jitter : UInt64}
    (isJitter : deterministicJitter now count policy.retryJitterSeconds = some jitter) :
    jitter.toNat ≤ policy.retryJitterSeconds.toNat := by
  unfold deterministicJitter at isJitter
  split_ifs at isJitter with none overflows
  · rw [← Option.some.inj isJitter, none]
  · have bound := policy.retryJitterSeconds.toNat_lt
    have modulus : (policy.retryJitterSeconds + 1).toNat = policy.retryJitterSeconds.toNat + 1 := by
      rw [UInt64.toNat_add, show (1 : UInt64).toNat = 1 from rfl]
      exact Nat.mod_eq_of_lt (by omega)
    rw [← Option.some.inj isJitter, UInt64.toNat_mod, modulus]
    exact Nat.le_of_lt_succ (Nat.mod_lt _ (Nat.succ_pos _))

/-- Only the modulus of the jitter can overflow. -/
theorem nextAttempt_isSome (bounded : policy.retryJitterSeconds.toNat < 2 ^ 64 - 1)
    (now count : UInt64) (kind : String) (retryAfter : Option UInt64) :
    (nextAttemptAfterFailure now count policy kind retryAfter).isSome = true := by
  have jitter : (deterministicJitter now count policy.retryJitterSeconds).isSome = true := by
    unfold deterministicJitter
    split_ifs with none overflows
    · rfl
    · omega
    · rfl
  obtain ⟨jitter, isJitter⟩ := Option.isSome_iff_exists.mp jitter
  simp only [nextAttemptAfterFailure, isJitter, Option.bind_eq_bind, Option.bind_some]
  rfl

theorem nextAttempt_bounds
    (isNext : nextAttemptAfterFailure now (U64.clamp failures) policy kind none =
      some nextAttempt) :
    later now (retryDelay policy failures) ≤ nextAttempt.toNat ∧
      (Floored kind → later now policy.rateLimitFloorSeconds.toNat ≤ nextAttempt.toNat) ∧
      nextAttempt.toNat ≤ later now (max
        (policy.retryMaxSeconds.toNat + policy.retryJitterSeconds.toNat)
        policy.rateLimitFloorSeconds.toNat) := by
  simp only [nextAttemptAfterFailure, Option.bind_eq_bind, Option.bind_eq_some_iff] at isNext
  obtain ⟨jitter, isJitter, isNext⟩ := isNext
  have jitterBound := jitter_le isJitter
  have base : (min (U64.saturatingMul policy.retryBaseSeconds
      ((1 : UInt64) <<< min (U64.saturatingSub (U64.clamp failures) 1) 20))
        policy.retryMaxSeconds).toNat = retryDelay policy failures := by
    have bound := policy.retryMaxSeconds.toNat_lt
    rw [UInt64.toNat_min, U64.saturatingMul_toNat, multiplier_toNat, retryDelay]
    omega
  have delay : retryDelay policy failures ≤ policy.retryMaxSeconds.toNat := Nat.min_le_right _ _
  unfold later
  by_cases floored : kind = "rate_limited" ∨ kind = "invalid-certificate"
  · rw [if_pos floored] at isNext
    rw [← Option.some.inj isNext, UInt64.toNat_max, U64.saturatingAdd_toNat,
      U64.saturatingAdd_toNat, U64.saturatingAdd_toNat, base]
    omega
  · rw [if_neg floored] at isNext
    rw [← Option.some.inj isNext, U64.saturatingAdd_toNat, U64.saturatingAdd_toNat, base]
    refine ⟨by omega, fun floors => absurd floors floored, by omega⟩

end

/-! ## Runs of renewals -/

theorem upkeep_trivial : Upkeep libraries fun _ => True :=
  ⟨fun _ _ _ _ _ _ _ => trivial, fun _ _ _ _ _ _ _ _ => trivial, fun _ _ _ _ _ => trivial,
    fun _ _ _ _ => trivial⟩

/-- A renewal that contacts the issuer has passed its gates. -/
theorem gate_of_contact {world : World} {now : UInt64} {replies : List Reply} {scene : Scene}
    {result : Except AcmeError AcmeRenewalOutcome}
    (called : world.call (renewOnceWithIssuer libraries config policy now) replies =
      (scene, some result))
    (contacted : scene.contacted = true) :
    ∃ status, Shows libraries policy now world.contents status ∧
      renewalGate status now = none := by
  have ended := renewal_end upkeep_trivial trivial called
  cases ended with
  | failed failure isResult same uncontacted =>
      rw [uncontacted] at contacted
      cases contacted
  | gated status outcome isResult shows_ gate same uncontacted untried =>
      rw [uncontacted] at contacted
      cases contacted
  | busy status isResult shows_ gate same uncontacted tried =>
      rw [uncontacted] at contacted
      cases contacted
  | renewed status shows_ gate => exact ⟨status, shows_, gate⟩
  | recorded status shows_ gate => exact ⟨status, shows_, gate⟩
  | unrecorded status shows_ gate => exact ⟨status, shows_, gate⟩

/-- What a status shows of a record. -/
theorem shows_record {contents : Contents} {now : UInt64} {status : CertificateLifecycleStatus}
    (shown : Shows libraries policy now contents status) {bytes : List UInt8} {value : Json}
    (found : contents.file .failure = some bytes) (decoded : libraries.fromSlice bytes = .ok value) :
    status.backoffUntilEpochSeconds = jsonU64 value "next_attempt_epoch_seconds" ∧
      status.failureCount = (jsonU64 value "failure_count").getD 0 ∧
      status.lastErrorKind = jsonString value "kind" := by
  obtain ⟨failure, decodes, issue, reload, notAfter, -, -, rfl⟩ := shown
  unfold Decodes at decodes
  rw [found] at decodes
  cases failure with
  | none => exact decodes.elim
  | some failure =>
      cases decoded.symm.trans decodes
      exact ⟨rfl, rfl, rfl⟩

theorem backoff_of_gate {status : CertificateLifecycleStatus} {now backoff : UInt64}
    (gate : renewalGate status now = none)
    (isBackoff : status.backoffUntilEpochSeconds = some backoff) : backoff ≤ now :=
  (renewalGate_eq_none.mp gate).2.1 backoff isBackoff

/-- Runs of renewals alone. -/
private theorem policy_of_renewals {world : World} {calls : List (UInt64 × List Reply)}
    {ledger : Ledger}
    (ran : Machine.exec (Ledger.step libraries config policy) (Ledger.initial world)
      (calls.map fun call => .renew call.1 call.2) = some ledger) :
    ∀ failure ∈ ledger.failures, failure.policy = policy := by
  have kept : ∀ (ledger : Ledger) (action : LedgerAction) (next : Ledger),
      (∀ failure ∈ ledger.failures, failure.policy = policy) →
      (∃ call : UInt64 × List Reply, action = .renew call.1 call.2) →
      ledger.step libraries config policy action = some next →
      ∀ failure ∈ next.failures, failure.policy = policy := by
    rintro ledger action next before ⟨⟨now, replies⟩, rfl⟩ stepped
    simp only [Ledger.step] at stepped
    split at stepped
    · next scene result called =>
        cases stepped
        change ∀ failure ∈ Ledger.renewed ledger.failures policy now scene.world.contents result,
          failure.policy = policy
        unfold Ledger.renewed
        split
        · exact fun failure member => absurd member List.not_mem_nil
        · exact before
        · exact before
        · split
          · split
            · exact List.forall_mem_cons.mpr ⟨rfl, before⟩
            · exact fun failure member => absurd member List.not_mem_nil
          · exact before
    · cases stepped
  refine Machine.invariant_of_meets kept (fun _ member => absurd member List.not_mem_nil)
    (Machine.meets_of_forall ?_ _) ran
  intro action member state
  obtain ⟨call, -, rfl⟩ := List.mem_map.mp member
  exact ⟨call, rfl⟩

/-- A renewal that succeeds leaves no record. -/
theorem unrecorded_of_renewed {world : World} {now : UInt64} {replies : List Reply} {scene : Scene}
    {issued : IssuedCertificate} {last : CertificateLifecycleStatus}
    (called : world.call (renewOnceWithIssuer libraries config policy now) replies =
      (scene, some (.ok (.renewed issued last)))) :
    scene.world.contents.file .failure = none := by
  have ended := renewal_end upkeep_trivial trivial called
  cases ended with
  | failed failure isResult => cases isResult
  | gated status outcome isResult shows_ gate =>
      cases isResult
      obtain isDeferred | isNotDue := gate_not_renewed gate
      · cases isDeferred
      · cases isNotDue
  | busy status isResult => cases isResult
  | renewed status shows_ gate tried isResult cleared =>
      obtain ⟨kept, -, removed | ⟨missing, same⟩⟩ := cleared
      · rw [removed, Contents.file_remove]
      · rw [same, missing]
  | recorded status shows_ gate failure isResult => cases isResult
  | unrecorded status shows_ gate failure isResult => cases isResult

/-- In every run of renewals the issuer is not contacted before the backoff of the latest failure,
which the number of failures since the last success determines. -/
theorem backoff_respected (bounded : policy.retryJitterSeconds.toNat < 2 ^ 64 - 1) {world : World}
    (unrecorded : world.contents.file .failure = none) {calls : List (UInt64 × List Reply)}
    {ledger : Ledger}
    (ran : Machine.exec (Ledger.step libraries config policy) (Ledger.initial world)
      (calls.map fun call => .renew call.1 call.2) = some ledger) :
    (∀ now count kind retryAfter,
        (nextAttemptAfterFailure now count policy kind retryAfter).isSome = true) ∧
      (ledger.failures = [] → ledger.world.contents.file .failure = none) ∧
      (∀ now replies scene issued last,
        ledger.world.call (renewOnceWithIssuer libraries config policy now) replies =
          (scene, some (.ok (.renewed issued last))) →
        scene.world.contents.file .failure = none) ∧
      ∀ latest earlier, ledger.failures = latest :: earlier →
        (∃ bytes value nextAttempt,
          ledger.world.contents.file .failure = some bytes ∧
            libraries.fromSlice bytes = .ok value ∧
            jsonU64 value "failure_count" = some (U64.clamp ledger.failures.length) ∧
            jsonU64 value "next_attempt_epoch_seconds" = some nextAttempt ∧
            nextAttempt.toNat ≤ later latest.time (max
              (policy.retryMaxSeconds.toNat + policy.retryJitterSeconds.toNat)
              policy.rateLimitFloorSeconds.toNat)) ∧
        ∀ now replies scene result,
          ledger.world.call (renewOnceWithIssuer libraries config policy now) replies =
            (scene, some result) → scene.contacted = true →
          later latest.time (retryDelay policy ledger.failures.length) ≤ now.toNat ∧
            (Floored latest.kind →
              later latest.time policy.rateLimitFloorSeconds.toNat ≤ now.toNat) := by
  have records := records_exec unrecorded ran
  refine ⟨nextAttempt_isSome bounded, fun none => ?_,
    fun _ _ _ _ _ called => unrecorded_of_renewed called, fun latest earlier isFailures => ?_⟩
  · rwa [none] at records
  rw [isFailures] at records
  obtain ⟨bytes, value, nextAttempt, found, decoded, -, counts, states, isNext⟩ := records
  rw [policy_of_renewals ran latest (by rw [isFailures]; exact List.mem_cons_self)] at isNext
  obtain ⟨delayed, floored, atMost⟩ := nextAttempt_bounds isNext
  rw [isFailures, List.length_cons]
  refine ⟨⟨bytes, value, nextAttempt, found, decoded, counts, states, atMost⟩, ?_⟩
  intro now replies scene result called contacted
  obtain ⟨status, shown, gate⟩ := gate_of_contact called contacted
  have isBackoff := (shows_record shown found decoded).1.trans states
  have reached : nextAttempt.toNat ≤ now.toNat :=
    UInt64.le_iff_toNat_le.mp (backoff_of_gate gate isBackoff)
  exact ⟨delayed.trans reached, fun floors => (floored floors).trans reached⟩

namespace Sample

/-- A call whose operations work, at this time and with an issuer that gives this answer. -/
def answering (now : UInt64) (issued : Except AcmeError IssuedCertificate) : List Reply :=
  List.replicate 128
    { fault := .works
      net
        | .openLock | .listener _ | .accountBuilder => .ok ()
        | .tryLock => .acquired
        | .unlock | .provision _ | .clearStore => ()
        | .now => now
        | .issuer => issued
        | .ca request => firstRenewal.ca request }

def outage : AcmeError :=
  .instantAcme "service busy"

/-- A call during the outage. -/
def refusing : List Reply :=
  answering 1795000000 (.error outage)

def recordingOutage : Libraries :=
  librariesOf [failureObject 1795000000 "transient" outage.text 1 1795000293,
    failureObject 1795000293 "transient" outage.text 2 1795000663] (by decide +kernel)

/-- A renewal in the outage, and one at the time that its record names. -/
def twice : List (UInt64 × List Reply) :=
  [(1795000000, refusing), (1795000293, refusing)]

end Sample

/-- Two failures, and a renewal at the time that the second record names. -/
theorem backoff_respected_outage : ∃ ledger scene result,
    Machine.exec (Ledger.step Sample.recordingOutage Sample.config .standard)
        (Ledger.initial (World.empty 0o700))
        (Sample.twice.map fun call => .renew call.1 call.2) = some ledger ∧
    ledger.world.call (renewOnceWithIssuer Sample.recordingOutage Sample.config .standard
      1795000663) Sample.refusing = (scene, some result) ∧
    scene.contacted = true ∧
    later 1795000293 (retryDelay .standard 2) ≤ UInt64.toNat 1795000663 := by
  obtain ⟨ledger, ran, failures, contacted, returned⟩ : ∃ ledger,
      Machine.exec (Ledger.step Sample.recordingOutage Sample.config .standard)
          (Ledger.initial (World.empty 0o700))
          (Sample.twice.map fun call => .renew call.1 call.2) = some ledger ∧
      ledger.failures =
        [⟨1795000293, "transient", .standard⟩, ⟨1795000000, "transient", .standard⟩] ∧
      (ledger.world.call (renewOnceWithIssuer Sample.recordingOutage Sample.config .standard
        1795000663) Sample.refusing).1.contacted = true ∧
      (ledger.world.call (renewOnceWithIssuer Sample.recordingOutage Sample.config .standard
        1795000663) Sample.refusing).2.isSome = true :=
    Machine.exists_exec (by decide +kernel)
  obtain ⟨result, isResult⟩ := Option.isSome_iff_exists.mp returned
  have called : ledger.world.call (renewOnceWithIssuer Sample.recordingOutage Sample.config
      .standard 1795000663) Sample.refusing = (_, some result) :=
    Prod.ext rfl isResult
  have respected := @backoff_respected _ _ .standard (by decide) _ rfl Sample.twice _ ran
  obtain ⟨-, -, -, respected⟩ := respected
  have bound := (respected _ _ failures).2 _ _ _ _ called contacted
  rw [failures] at bound
  exact ⟨ledger, _, result, ran, called, contacted, bound.1⟩

end Oxo.Edge.Acme
