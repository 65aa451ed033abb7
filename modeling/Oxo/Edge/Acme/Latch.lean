import Oxo.Edge.Acme.Backoff

/-!
Contract: the latch of invalid certificates (`oxo-pingora-edge/src/acme/issue.rs`,
`invalid_certificate_latched`).

Owns: what the latch says of the recorded failures, and the runs in which it is closed exactly
after three invalid certificates in a row.

Does not own: the backoff.
-/

namespace Oxo.Edge.Acme

open Oxo.Foundation

variable {libraries : Libraries} {config : AcmeIssueConfig} {policy : AcmeRenewalPolicy}

/-- The last three failures are invalid certificates. -/
def LastThreeInvalid (failures : List RecordedFailure) : Prop :=
  3 ≤ failures.length ∧ ∀ failure ∈ failures.take 3, failure.kind = "invalid-certificate"

instance (failures : List RecordedFailure) : Decidable (LastThreeInvalid failures) :=
  inferInstanceAs (Decidable (_ ∧ _))

/-- Deferred by the record alone. -/
def Latched (result : Except AcmeError AcmeRenewalOutcome) (scene : Scene) : Prop :=
  (∃ status, result = .ok (.deferred status)) ∧ scene.lockTried = false ∧ scene.contacted = false

/-- The backoff that a failure record states is over. -/
def BackoffOver (libraries : Libraries) (contents : Contents) (now : UInt64) : Prop :=
  ∀ bytes value nextAttempt, contents.file .failure = some bytes →
    libraries.fromSlice bytes = .ok value →
    jsonU64 value "next_attempt_epoch_seconds" = some nextAttempt → nextAttempt ≤ now

/-- A renewal that answers an outcome or contacts the issuer. -/
def Settles (libraries : Libraries) (config : AcmeIssueConfig) (policy : AcmeRenewalPolicy)
    (world : World) (now : UInt64) (replies : List Reply) (scene : Scene)
    (result : Except AcmeError AcmeRenewalOutcome) : Prop :=
  world.call (renewOnceWithIssuer libraries config policy now) replies = (scene, some result) ∧
    ((∃ outcome, result = .ok outcome) ∨ scene.contacted = true)

/-- An invalid certificate on top of two failures or more has two of its kind below it. -/
def Unmixed : List RecordedFailure → Prop
  | [] => True
  | latest :: earlier =>
      latest.kind = "invalid-certificate" → 2 ≤ earlier.length →
        ∀ failure ∈ earlier.take 2, failure.kind = "invalid-certificate"

/-- No step records an invalid certificate on two failures or more of which the last two are
not both of its kind. -/
def Consecutive (libraries : Libraries) (config : AcmeIssueConfig) (policy : AcmeRenewalPolicy)
    (ledger : Ledger) (action : LedgerAction) : Prop :=
  ∀ next ∈ ledger.step libraries config policy action, ∀ failure ∈ next.failures.head?,
    next.failures = failure :: ledger.failures → failure.kind = "invalid-certificate" →
      2 ≤ ledger.failures.length →
        ∀ earlier ∈ ledger.failures.take 2, earlier.kind = "invalid-certificate"

instance (ledger : Ledger) (action : LedgerAction) :
    Decidable (Consecutive libraries config policy ledger action) :=
  inferInstanceAs (Decidable (∀ next ∈ _, ∀ failure ∈ _, _ → _ → _ → _))

/-! ## What the latch reads -/

section

variable {world : World} {now : UInt64} {replies : List Reply} {scene : Scene}
  {result : Except AcmeError AcmeRenewalOutcome} {contents : Contents}
  {failures : List RecordedFailure} {status : CertificateLifecycleStatus}

/-- A status of a directory without a failure record. -/
private theorem shows_missing (missing : contents.file .failure = none)
    (shown : Shows libraries policy now contents status) :
    status.backoffUntilEpochSeconds = none ∧ status.lastErrorKind = none := by
  obtain ⟨failure, decodes, issue, reload, notAfter, -, -, rfl⟩ := shown
  unfold Decodes at decodes
  rw [missing] at decodes
  cases failure with
  | none => exact ⟨rfl, rfl⟩
  | some value => exact decodes.elim

/-- A record that a status was made of is legible. -/
private theorem shows_decodes {bytes : List UInt8} (found : contents.file .failure = some bytes)
    (shown : Shows libraries policy now contents status) :
    ∃ value, libraries.fromSlice bytes = .ok value := by
  obtain ⟨failure, decodes, -⟩ := shown
  unfold Decodes at decodes
  rw [found] at decodes
  cases failure with
  | none => exact decodes.elim
  | some value => exact ⟨value, decodes⟩

/-- The latch is closed by the kind of the latest failure and the number of all. -/
theorem latch_reads (records : Records libraries contents failures)
    (shown : Shows libraries policy now contents status) :
    invalidCertificateLatched status = true ↔
      3 ≤ failures.length ∧ ∀ latest ∈ failures.head?, latest.kind = "invalid-certificate" := by
  cases failures with
  | nil =>
      have isLastKind := (shows_missing records shown).2
      simp [invalidCertificateLatched, isLastKind]
  | cons latest earlier =>
      obtain ⟨bytes, value, nextAttempt, found, decoded, isKind, counts, -, -⟩ := records
      obtain ⟨-, isCount, isLastKind⟩ := shows_record shown found decoded
      have threshold : (3 : UInt64) ≤ U64.clamp (earlier.length + 1) ↔
          3 ≤ (latest :: earlier).length := by
        rw [UInt64.le_iff_toNat_le, U64.clamp_toNat, show (3 : UInt64).toNat = 3 from rfl,
          List.length_cons]
        omega
      simp only [invalidCertificateLatched, isCount, isLastKind, isKind, counts,
        Option.getD_some, Bool.and_eq_true, decide_eq_true_eq, threshold, List.head?_cons,
        Option.mem_some_iff, forall_eq', Option.some.injEq]
      exact and_comm

private theorem gate_of_backoffOver (isOver : BackoffOver libraries contents now)
    (shown : Shows libraries policy now contents status) :
    renewalGate status now =
      if invalidCertificateLatched status then some (.deferred status)
      else if !status.renewalDue then some (.notDue status)
      else none := by
  have passed : (status.backoffUntilEpochSeconds.map fun backoffUntil =>
      decide (now < backoffUntil)).getD false = false := by
    cases found : contents.file .failure with
    | none =>
        rw [(shows_missing found shown).1]
        rfl
    | some bytes =>
        obtain ⟨value, decoded⟩ := shows_decodes found shown
        rw [(shows_record shown found decoded).1]
        cases stated : jsonU64 value "next_attempt_epoch_seconds" with
        | none => rfl
        | some nextAttempt =>
            exact decide_eq_false
              (UInt64.not_lt.mpr (isOver bytes value nextAttempt found decoded stated))
  unfold renewalGate
  rw [passed]
  rfl

/-- With no backoff in force, a renewal is deferred by the record where the latch is closed. -/
theorem latched_iff_latch (isOver : BackoffOver libraries world.contents now)
    (settles : Settles libraries config policy world now replies scene result) :
    ∃ status, Shows libraries policy now world.contents status ∧
      (Latched result scene ↔ invalidCertificateLatched status = true) := by
  obtain ⟨called, settled⟩ := settles
  have opened {status : CertificateLifecycleStatus}
      (gate : renewalGate status now = none) : ¬ invalidCertificateLatched status = true :=
    Bool.eq_false_iff.mp (renewalGate_eq_none.mp gate).2.2
  cases renewal_end upkeep_trivial trivial called with
  | failed failure isResult same uncontacted =>
      rw [isResult, uncontacted] at settled
      obtain ⟨outcome, wrong⟩ | wrong := settled
      · cases wrong
      · cases wrong
  | gated status outcome isResult shown gate same uncontacted untried =>
      refine ⟨status, shown, ?_⟩
      rw [gate_of_backoffOver isOver shown] at gate
      rw [Latched, isResult, untried, uncontacted]
      by_cases latched : invalidCertificateLatched status = true
      · rw [if_pos latched] at gate
        exact iff_of_true ⟨⟨status, congrArg _ (Option.some.inj gate).symm⟩, rfl, rfl⟩ latched
      · rw [if_neg latched] at gate
        refine iff_of_false ?_ latched
        rintro ⟨⟨deferred, isDeferred⟩, -, -⟩
        cases isDeferred
        split at gate
        · cases gate
        · cases gate
  | busy status isResult shown gate same uncontacted tried =>
      refine ⟨status, shown, iff_of_false ?_ (opened gate)⟩
      rintro ⟨-, untried, -⟩
      cases untried.symm.trans tried
  | renewed status shown gate tried isResult cleared =>
      refine ⟨status, shown, iff_of_false ?_ (opened gate)⟩
      rintro ⟨-, untried, -⟩
      cases untried.symm.trans tried
  | recorded status shown gate failure isResult =>
      refine ⟨status, shown, iff_of_false ?_ (opened gate)⟩
      rintro ⟨⟨deferred, isDeferred⟩, -, -⟩
      cases isResult.symm.trans isDeferred
  | unrecorded status shown gate failure isResult =>
      refine ⟨status, shown, iff_of_false ?_ (opened gate)⟩
      rintro ⟨⟨deferred, isDeferred⟩, -, -⟩
      cases isResult.symm.trans isDeferred

end

/-! ## Runs -/

/-- A step forgets the failures, keeps them, or adds one. -/
theorem failures_step {ledger next : Ledger} {action : LedgerAction}
    (stepped : ledger.step libraries config policy action = some next) :
    next.failures = [] ∨ next.failures = ledger.failures ∨
      ∃ failure, next.failures = failure :: ledger.failures := by
  cases action with
  | renew now replies =>
      simp only [Ledger.step] at stepped
      split at stepped
      · next scene result called =>
          cases stepped
          change Ledger.renewed ledger.failures policy now scene.world.contents result = [] ∨ _
          unfold Ledger.renewed
          split
          · exact .inl rfl
          · exact .inr (.inl rfl)
          · exact .inr (.inl rfl)
          · split_ifs
            · exact .inr (.inr ⟨_, rfl⟩)
            · exact .inl rfl
            · exact .inr (.inl rfl)
      · cases stepped
  | issue replies =>
      simp only [Ledger.step] at stepped
      split at stepped
      · cases stepped
        exact .inl rfl
      · cases stepped
        exact .inr (.inl rfl)
      · cases stepped
  | rollback now reason replies =>
      simp only [Ledger.step] at stepped
      split at stepped
      · cases stepped
        exact .inr (.inr ⟨_, rfl⟩)
      · cases stepped
        exact .inr (.inl rfl)
      · cases stepped
  | consumeMarker replies =>
      simp only [Ledger.step] at stepped
      split at stepped
      · cases stepped
        exact .inr (.inl rfl)
      · cases stepped
  | clear =>
      cases stepped
      exact .inl rfl

theorem unmixed_step {ledger next : Ledger} {action : LedgerAction}
    (unmixed : Unmixed ledger.failures)
    (consecutive : Consecutive libraries config policy ledger action)
    (stepped : ledger.step libraries config policy action = some next) :
    Unmixed next.failures := by
  obtain forgotten | kept | ⟨failure, added⟩ := failures_step stepped
  · rw [forgotten]
    trivial
  · rwa [kept]
  · have onTop := consecutive next stepped failure (by rw [added]; rfl) added
    rw [added]
    exact onTop

/-- Three invalid certificates in a row are what the latch reads, unless they are mixed. -/
theorem lastThree_iff_of_unmixed {failures : List RecordedFailure} :
    ((3 ≤ failures.length ∧ ∀ latest ∈ failures.head?, latest.kind = "invalid-certificate") ↔
      LastThreeInvalid failures) ↔ Unmixed failures := by
  cases failures with
  | nil => simp [LastThreeInvalid, Unmixed]
  | cons latest earlier =>
      simp only [LastThreeInvalid, Unmixed, List.head?_cons, Option.mem_some_iff, forall_eq',
        List.length_cons, List.take_succ_cons, List.forall_mem_cons]
      constructor
      · intro same isInvalid long
        exact (same.mp ⟨by omega, isInvalid⟩).2.2
      · intro unmixed
        constructor
        · rintro ⟨long, isInvalid⟩
          exact ⟨long, isInvalid, unmixed isInvalid (by omega)⟩
        · rintro ⟨long, isInvalid, -⟩
          exact ⟨long, isInvalid⟩

/-- In every run in which invalid certificates on top of two failures or more follow two of their
kind, a renewal past the backoff is latched exactly after three of them in a row; and in a state
that mixes them it is not. -/
theorem latched_iff_of_consecutive {world : World}
    (unrecorded : world.contents.file .failure = none) {actions : List LedgerAction}
    {ledger : Ledger}
    (ran : Machine.exec (Ledger.step libraries config policy) (Ledger.initial world) actions =
      some ledger) :
    (Machine.Meets (Ledger.step libraries config policy) (Consecutive libraries config policy)
        (Ledger.initial world) actions →
      ∀ now replies scene result, BackoffOver libraries ledger.world.contents now →
        Settles libraries config policy ledger.world now replies scene result →
        (Latched result scene ↔ LastThreeInvalid ledger.failures)) ∧
      ∀ now replies scene result, BackoffOver libraries ledger.world.contents now →
        Settles libraries config policy ledger.world now replies scene result →
        ((Latched result scene ↔ LastThreeInvalid ledger.failures) ↔
          Unmixed ledger.failures) := by
  have records := records_exec unrecorded ran
  have atState : ∀ now replies scene result, BackoffOver libraries ledger.world.contents now →
      Settles libraries config policy ledger.world now replies scene result →
      ((Latched result scene ↔ LastThreeInvalid ledger.failures) ↔
        Unmixed ledger.failures) := by
    intro now replies scene result isOver settles
    obtain ⟨status, shown, latched⟩ := latched_iff_latch isOver settles
    rw [latched, latch_reads records shown]
    exact lastThree_iff_of_unmixed
  refine ⟨fun meets now replies scene result isOver settles => ?_, atState⟩
  refine (atState now replies scene result isOver settles).mpr ?_
  have initial : Unmixed (Ledger.initial world).failures := trivial
  exact @Machine.invariant_of_meets _ _ _ _ (fun ledger => Unmixed ledger.failures)
    (fun _ _ _ before consecutive stepped => unmixed_step before consecutive stepped) _ _ _
    initial meets ran

namespace Sample

def mismatch : AcmeError :=
  invalidIssued "private key does not correspond to the leaf certificate public key"

/-- A call whose issuer finds that the certificate it was given is not of its key. -/
def mismatching : List Reply :=
  answering 1795000000 (.error mismatch)

/-- The records of two failures of either kind, and of a third that is a mismatch. -/
def recordingThree : Libraries :=
  librariesOf
    [failureObject 1795000000 "transient" outage.text 1 1795000293,
      failureObject 1795100000 "transient" outage.text 2 1795100356,
      failureObject 1795000000 "invalid-certificate" mismatch.text 1 1795003600,
      failureObject 1795100000 "invalid-certificate" mismatch.text 2 1795103600,
      failureObject 1795200000 "invalid-certificate" mismatch.text 3 1795203600]
    (by decide +kernel)

/-- Two outages, then a mismatch. -/
def mixedRenewals : List LedgerAction :=
  [.renew 1795000000 refusing, .renew 1795100000 refusing, .renew 1795200000 mismatching]

def mismatchedRenewals : List LedgerAction :=
  [.renew 1795000000 mismatching, .renew 1795100000 mismatching, .renew 1795200000 mismatching]

/-- A renewal a day later. -/
def nextDay (ledger : Ledger) : Scene × Option (Except AcmeError AcmeRenewalOutcome) :=
  ledger.world.call (renewOnceWithIssuer recordingThree Sample.config .standard 1795286400) refusing

/-- The third record, whose backoff is over by then. -/
def thirdRecord : Json :=
  failureObject 1795200000 "invalid-certificate" mismatch.text 3 1795203600

/-- Deferred on the third record, before the lock. -/
def heldBack (ledger : Ledger) : Bool :=
  decide (ledger.world.contents.file .failure = some (utf8 (pretty thirdRecord))) &&
    !(nextDay ledger).1.lockTried && !(nextDay ledger).1.contacted &&
    match (nextDay ledger).2 with
    | some (.ok (.deferred _)) => true
    | _ => false

private theorem latched_of_heldBack {ledger : Ledger} (held : heldBack ledger = true) :
    BackoffOver recordingThree ledger.world.contents 1795286400 ∧
      ∃ scene result,
        Settles recordingThree Sample.config .standard ledger.world 1795286400 refusing scene result ∧
          Latched result scene := by
  simp only [heldBack, Bool.and_eq_true, decide_eq_true_eq, Bool.not_eq_true'] at held
  obtain ⟨⟨⟨found, untried⟩, uncontacted⟩, deferred⟩ := held
  have decoded : recordingThree.fromSlice (utf8 (pretty thirdRecord)) = .ok thirdRecord := by
    decide +kernel
  refine ⟨?_, ?_⟩
  · intro bytes value nextAttempt isRecord isValue states
    cases found.symm.trans isRecord
    cases decoded.symm.trans isValue
    cases states
    decide
  · split at deferred
    · next status returned =>
        have called : nextDay ledger = (_, some (.ok (.deferred status))) :=
          Prod.ext rfl returned
        exact ⟨_, _, ⟨called, .inl ⟨_, rfl⟩⟩, ⟨status, rfl⟩, untried, uncontacted⟩
    · cases deferred

end Sample

/-- Three mismatches in a row close the latch. -/
theorem latched_after_three_mismatches : ∃ ledger scene result,
    Machine.exec (Ledger.step Sample.recordingThree Sample.config .standard)
        (Ledger.initial (World.empty 0o700)) Sample.mismatchedRenewals = some ledger ∧
      Settles Sample.recordingThree Sample.config .standard ledger.world 1795286400
        Sample.refusing scene result ∧
      (Latched result scene ↔ LastThreeInvalid ledger.failures) ∧
      LastThreeInvalid ledger.failures := by
  obtain ⟨ledger, ran, lastThree, held⟩ : ∃ ledger,
      Machine.exec (Ledger.step Sample.recordingThree Sample.config .standard)
          (Ledger.initial (World.empty 0o700)) Sample.mismatchedRenewals = some ledger ∧
        LastThreeInvalid ledger.failures ∧ Sample.heldBack ledger = true :=
    Machine.exists_exec (by decide +kernel)
  have meets : Machine.Meets (Ledger.step Sample.recordingThree Sample.config .standard)
      (Consecutive Sample.recordingThree Sample.config .standard)
      (Ledger.initial (World.empty 0o700)) Sample.mismatchedRenewals := by
    decide +kernel
  obtain ⟨isOver, scene, result, settles, -⟩ := Sample.latched_of_heldBack held
  exact ⟨ledger, scene, result, ran, settles,
    (latched_iff_of_consecutive rfl ran).1 meets _ _ _ _ isOver settles, lastThree⟩

/-- Two outages and one mismatch close it too. -/
theorem latched_after_one_mismatch : ∃ ledger scene result,
    Machine.exec (Ledger.step Sample.recordingThree Sample.config .standard)
        (Ledger.initial (World.empty 0o700)) Sample.mixedRenewals = some ledger ∧
      ledger.failures.map RecordedFailure.kind =
        ["invalid-certificate", "transient", "transient"] ∧
      BackoffOver Sample.recordingThree ledger.world.contents 1795286400 ∧
      Settles Sample.recordingThree Sample.config .standard ledger.world 1795286400
        Sample.refusing scene result ∧
      Latched result scene ∧ ¬ LastThreeInvalid ledger.failures := by
  obtain ⟨ledger, ran, kinds, mixed, held⟩ : ∃ ledger,
      Machine.exec (Ledger.step Sample.recordingThree Sample.config .standard)
          (Ledger.initial (World.empty 0o700)) Sample.mixedRenewals = some ledger ∧
        ledger.failures.map RecordedFailure.kind =
          ["invalid-certificate", "transient", "transient"] ∧
        ¬ LastThreeInvalid ledger.failures ∧ Sample.heldBack ledger = true :=
    Machine.exists_exec (by decide +kernel)
  obtain ⟨isOver, scene, result, settles, latched⟩ := Sample.latched_of_heldBack held
  exact ⟨ledger, scene, result, ran, kinds, isOver, settles, latched, mixed⟩

end Oxo.Edge.Acme
