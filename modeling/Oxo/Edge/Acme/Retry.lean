import Oxo.Edge.Acme.Backoff
import Oxo.Edge.Acme.Rollback
import Oxo.Edge.Acme.Schedule

/-!
Contract: the renewals that follow a rollback (`oxo-pingora-edge/src/acme/state.rs`,
`rollback_to_retained_pair` and `status`).

Owns: what a status without faults reports, the schedule that a rollback restores, and when the
certificate it restored is due once the backoff it recorded is over.

Does not own: why the reload failed.
-/

namespace Oxo.Edge.Acme

open Oxo.Foundation

variable {libraries : Libraries} {config : AcmeIssueConfig} {policy : AcmeRenewalPolicy}

/-! ## Statuses without faults -/

namespace World

/-- Every operation works. -/
def works (world : World) (op : DiskOp) : Option (op.Answer × World) :=
  some (world.perform op)

/-- What a status reports where every operation works. -/
def reportNow (libraries : Libraries) (policy : AcmeRenewalPolicy) (now : UInt64) (world : World) :
    Option CertificateLifecycleStatus :=
  match Program.run works (status libraries now policy).run world with
  | some (.ok report, _) => some report
  | _ => none

end World

section

variable {world : World}

private theorem run_readJson {name : FileName} {value : Option Json}
    (decodes : Decodes libraries world.contents name value) :
    Program.run World.works (readJsonIfPresent libraries name).run world =
      some (.ok value, world) := by
  unfold Decodes at decodes
  unfold readJsonIfPresent
  cases found : world.contents.file name with
  | none =>
      rw [found] at decodes
      have answered : world.works (.read name) = some (.error noSuchFile, world) := by
        simp only [World.works, World.perform, World.readFile, found]
      refine (Program.run_callExcept answered).trans ?_
      cases value with
      | none => rfl
      | some value => exact decodes.elim
  | some bytes =>
      rw [found] at decodes
      have answered : world.works (.read name) = some (.ok bytes, world) := by
        simp only [World.works, World.perform, World.readFile, found]
      refine (Program.run_callExcept answered).trans ?_
      cases value with
      | none => exact decodes.elim
      | some value =>
          have decoded : libraries.fromSlice bytes = .ok value := decodes
          simp only [decoded]
          rfl

private theorem run_bothPresent :
    Program.run World.works bothPresent.run world =
      some (.ok ((world.contents.file (.certificate .live)).isSome &&
        (world.contents.file (.key .live)).isSome), world) := by
  have answered : world.works (.fileExists (.certificate .live)) =
      some ((world.contents.file (.certificate .live)).isSome, world) := rfl
  refine (Program.run_callExcept answered).trans ?_
  cases (world.contents.file (.certificate .live)).isSome with
  | true => rfl
  | false => rfl

private theorem run_presentExpiry {certificate : List UInt8}
    (found : world.contents.file (.certificate .live) = some certificate) :
    Program.run World.works (presentExpiry libraries true).run world =
      some (.ok (certificateExpiry libraries certificate), world) := by
  have answered : world.works (.read (.certificate .live)) = some (.ok certificate, world) := by
    simp only [World.works, World.perform, World.readFile, found]
  exact (Program.run_callExcept answered).trans rfl

/-- What a status reports of a pair in use. -/
theorem reportNow_pair {now : UInt64} {certificate key : List UInt8}
    {issue failure reload : Option Json}
    (hasCertificate : world.contents.file (.certificate .live) = some certificate)
    (hasKey : world.contents.file (.key .live) = some key)
    (issueDecodes : Decodes libraries world.contents (.issue .live) issue)
    (failureDecodes : Decodes libraries world.contents .failure failure)
    (reloadDecodes : Decodes libraries world.contents .reloadRequired reload) :
    world.reportNow libraries policy now =
      some (statusOf issue failure reload true
        ((issue.bind fun value => jsonU64 value "not_after_epoch_seconds").or
          (certificateExpiry libraries certificate)) now policy) := by
  have ran : Program.run World.works (status libraries now policy).run world =
      some (.ok (statusOf issue failure reload true
        ((issue.bind fun value => jsonU64 value "not_after_epoch_seconds").or
          (certificateExpiry libraries certificate)) now policy), world) := by
    refine (Program.run_bindOk (run_readJson issueDecodes)).trans ?_
    refine (Program.run_bindOk (run_readJson failureDecodes)).trans ?_
    refine (Program.run_bindOk (run_readJson reloadDecodes)).trans ?_
    refine (Program.run_bindOk run_bothPresent).trans ?_
    rw [hasCertificate, hasKey]
    cases issue.bind fun value => jsonU64 value "not_after_epoch_seconds" with
    | some states => rfl
    | none => exact (Program.run_bindOk (run_presentExpiry hasCertificate)).trans rfl
  simp only [World.reportNow, ran]

end

/-! ## Schedules -/

/-- The next renewal that metadata states, or that a certificate implies. -/
def nextRenewal (libraries : Libraries) (policy : AcmeRenewalPolicy) (issue : Option (List UInt8))
    (certificate : List UInt8) : Option UInt64 :=
  (issue.bind (stated libraries "next_renewal_epoch_seconds")).or
    (((issue.bind (stated libraries "not_after_epoch_seconds")).or
      (certificateExpiry libraries certificate)).map
        fun notAfter => U64.saturatingSub notAfter policy.renewBeforeSeconds)

/-- No renewal is scheduled for later than the end of a backoff. -/
def Prompt (libraries : Libraries) (policy : AcmeRenewalPolicy) (issue : Option (List UInt8))
    (certificate : List UInt8) (backoff : UInt64) : Prop :=
  ∀ next ∈ nextRenewal libraries policy issue certificate, next ≤ backoff

instance (issue : Option (List UInt8)) (certificate : List UInt8) (backoff : UInt64) :
    Decidable (Prompt libraries policy issue certificate backoff) :=
  Option.decidableForallMem _

/-- Once the backoff is over, a status without faults reports that renewal is due, and a renewal
that answers, with whatever faults, has renewed or was held off by the lock. -/
def Retried (libraries : Libraries) (config : AcmeIssueConfig) (policy : AcmeRenewalPolicy)
    (world : World) (backoff : UInt64) : Prop :=
  ∀ now, backoff ≤ now →
    (∃ report, world.reportNow libraries policy now = some report ∧ report.renewalDue = true) ∧
      ∀ replies scene outcome,
        world.call (renewOnceWithIssuer libraries config policy now) replies =
            (scene, some (.ok outcome)) →
          (∃ issued status, outcome = .renewed issued status) ∨
            (∃ status, outcome = .deferred status) ∧ scene.lockTried = true

section

variable {world : World} {now backoff : UInt64} {certificate key : List UInt8}
  {issue failure reload : Option Json} {notAfter : Option UInt64}

/-- With the pair present, renewal is due unless the next one is stated for later. -/
private theorem due_iff :
    (statusOf issue failure reload true notAfter now policy).renewalDue = true ↔
      ∀ next ∈ (issue.bind fun value => jsonU64 value "next_renewal_epoch_seconds").or
        (notAfter.map fun notAfter => U64.saturatingSub notAfter policy.renewBeforeSeconds),
        next ≤ now := by
  simp only [statusOf, Bool.not_true, Bool.false_or]
  generalize (issue.bind fun value => jsonU64 value "next_renewal_epoch_seconds").or _ = next
  cases next with
  | none => simp
  | some next => simp

/-- The schedule of metadata that was decoded. -/
private theorem nextRenewal_decoded
    (decodes : Decodes libraries world.contents (.issue .live) issue) :
    nextRenewal libraries policy (world.contents.file (.issue .live)) certificate =
      (issue.bind fun value => jsonU64 value "next_renewal_epoch_seconds").or
        (((issue.bind fun value => jsonU64 value "not_after_epoch_seconds").or
          (certificateExpiry libraries certificate)).map
            fun notAfter => U64.saturatingSub notAfter policy.renewBeforeSeconds) := by
  rw [nextRenewal, decodes_stated _ decodes, decodes_stated _ decodes]

/-- Faults only hide the expiry of the certificate. -/
private theorem due_of_shown
    (hasCertificate : world.contents.file (.certificate .live) = some certificate)
    (hasKey : world.contents.file (.key .live) = some key)
    (prompt : Prompt libraries policy (world.contents.file (.issue .live)) certificate backoff)
    (isOver : backoff ≤ now) {status : CertificateLifecycleStatus}
    (shown : Shows libraries policy now world.contents status) : status.renewalDue = true := by
  obtain ⟨failure, -, issue, reload, notAfter, decodes, expires, rfl⟩ := shown
  rw [Prompt, nextRenewal_decoded decodes] at prompt
  rw [hasCertificate, hasKey]
  refine due_iff.mpr fun next isNext => UInt64.le_trans (prompt next ?_) isOver
  obtain scheduled | ⟨unscheduled, implied⟩ := Option.or_eq_some_iff.mp isNext
  · rw [scheduled]
    rfl
  · obtain ⟨expiry, isExpiry, rfl⟩ := Option.map_eq_some_iff.mp implied
    have own : (issue.bind fun value => jsonU64 value "not_after_epoch_seconds").or
        (certificateExpiry libraries certificate) = some expiry := by
      unfold Expires at expires
      cases states : issue.bind fun value => jsonU64 value "not_after_epoch_seconds" with
      | some value =>
          rw [states] at expires
          exact expires.symm.trans isExpiry
      | none =>
          rw [states, hasCertificate] at expires
          exact expires expiry isExpiry
    rw [unscheduled, own]
    rfl

private theorem exists_decodes (legible : Legible libraries world.contents) {name : FileName}
    (isJson : name.isJson = true) : ∃ value, Decodes libraries world.contents name value := by
  unfold Decodes
  cases found : world.contents.file name with
  | none => exact ⟨none, trivial⟩
  | some bytes =>
      obtain ⟨value, decoded⟩ := legible name isJson bytes found
      exact ⟨some value, decoded⟩

/-- A pair in use beside the record of a rollback is retried where its schedule is prompt. -/
theorem retried_iff_prompt
    (hasCertificate : world.contents.file (.certificate .live) = some certificate)
    (hasKey : world.contents.file (.key .live) = some key)
    (legible : Legible libraries world.contents) {bytes : List UInt8} {value : Json}
    (found : world.contents.file .failure = some bytes)
    (decoded : libraries.fromSlice bytes = .ok value)
    (isKind : jsonString value "kind" = some "reload-rolled-back")
    (states : jsonU64 value "next_attempt_epoch_seconds" = some backoff) :
    Retried libraries config policy world backoff ↔
      Prompt libraries policy (world.contents.file (.issue .live)) certificate backoff := by
  have isDue {time : UInt64} : ∃ report, world.reportNow libraries policy time = some report ∧
      (report.renewalDue = true ↔ ∀ next ∈ nextRenewal libraries policy
        (world.contents.file (.issue .live)) certificate, next ≤ time) := by
    obtain ⟨issue, issueDecodes⟩ := @exists_decodes libraries world legible (.issue .live) rfl
    obtain ⟨failure, failureDecodes⟩ := @exists_decodes libraries world legible .failure rfl
    obtain ⟨reload, reloadDecodes⟩ := @exists_decodes libraries world legible .reloadRequired rfl
    refine ⟨_, reportNow_pair hasCertificate hasKey issueDecodes failureDecodes reloadDecodes, ?_⟩
    rw [nextRenewal_decoded issueDecodes]
    exact due_iff
  constructor
  · intro retried
    obtain ⟨report, reported, due⟩ := (retried backoff (UInt64.le_refl _)).1
    obtain ⟨same, isReport, dueIff⟩ := @isDue backoff
    cases reported.symm.trans isReport
    exact dueIff.mp due
  intro prompt now isOver
  obtain ⟨report, reported, dueIff⟩ := @isDue now
  refine ⟨⟨report, reported,
    dueIff.mpr fun next isNext => UInt64.le_trans (prompt next isNext) isOver⟩, ?_⟩
  intro replies scene outcome called
  cases renewal_end upkeep_trivial trivial called with
  | failed failure isResult => cases isResult
  | gated status outcome isResult shown gate =>
      obtain ⟨isBackoff, -, isLast⟩ := shows_record shown found decoded
      rw [states] at isBackoff
      rw [isKind] at isLast
      have due : status.renewalDue = true :=
        due_of_shown hasCertificate hasKey prompt isOver shown
      have passed : ¬ now < backoff := UInt64.not_lt.mpr isOver
      simp [renewalGate, invalidCertificateLatched, isBackoff, isLast, due, passed] at gate
  | busy status isResult shown gate same uncontacted tried =>
      cases isResult
      exact .inr ⟨⟨status, rfl⟩, tried⟩
  | renewed status shown gate tried isResult => exact .inl (isResult outcome rfl)
  | recorded status shown gate failure isResult => cases isResult
  | unrecorded status shown gate failure isResult => cases isResult

end

/-! ## Rollbacks -/

section

variable {ledger : Ledger} {now : UInt64} {reason : String} {replies : List Reply} {scene : Scene}

/-- What a rollback puts in use. -/
private theorem files_of_rolledBack {before after : Contents}
    (rolledBack : RolledBack libraries now reason before after) :
    ∃ epoch certificate key,
      before.newestRetained = some epoch ∧
      before.file (.certificate (.retained epoch)) = some certificate ∧
      after.file (.certificate .live) = some certificate ∧
      after.file (.key .live) = some key ∧
      (after.file (.issue .live) = before.file (.issue (.retained epoch)) ∨
        before.file (.issue (.retained epoch)) = none ∧
          after.file (.issue .live) = before.file (.issue .live)) := by
  obtain ⟨epoch, certificate, key, restored, note, newest, certificateFound, keyFound, isRestored,
    previous, nextAttempt, text, -, -, -, rfl⟩ := rolledBack
  have last {name : FileName} (failure : name ≠ .failure) (reloadFailure : name ≠ .reloadFailure) :
      ((restored.rename .reloadFailure note).rename .failure (utf8 text)).file name =
        restored.file name :=
    (Contents.file_rename_ne failure).trans (Contents.file_rename_ne reloadFailure)
  have pair {name : FileName} (notCertificate : name ≠ .certificate .live)
      (notKey : name ≠ .key .live) :
      ((before.rename (.certificate .live) certificate).rename (.key .live) key).file name =
        before.file name :=
    (Contents.file_rename_ne notKey).trans (Contents.file_rename_ne notCertificate)
  have certified : ((before.rename (.certificate .live) certificate).rename (.key .live) key).file
      (.certificate .live) = some certificate :=
    (Contents.file_rename_ne FileName.noConfusion).trans Contents.file_rename
  have keyed : ((before.rename (.certificate .live) certificate).rename (.key .live) key).file
      (.key .live) = some key := Contents.file_rename
  unfold IssueRestored at isRestored
  rw [pair FileName.noConfusion FileName.noConfusion] at isRestored
  refine ⟨epoch, certificate, key, newest, certificateFound, ?_⟩
  rw [last FileName.noConfusion FileName.noConfusion,
    last FileName.noConfusion FileName.noConfusion, last FileName.noConfusion FileName.noConfusion]
  cases metadata : before.file (.issue (.retained epoch)) with
  | some bytes =>
      rw [metadata] at isRestored
      rw [isRestored, Contents.file_rename_ne FileName.noConfusion,
        Contents.file_rename_ne FileName.noConfusion]
      exact ⟨certified, keyed, .inl Contents.file_rename⟩
  | none =>
      rw [metadata] at isRestored
      obtain removed | kept := isRestored
      · rw [removed, Contents.file_remove_ne FileName.noConfusion,
          Contents.file_remove_ne FileName.noConfusion]
        exact ⟨certified, keyed, .inl Contents.file_remove⟩
      · rw [kept]
        exact ⟨certified, keyed,
          .inr ⟨rfl, pair FileName.noConfusion FileName.noConfusion⟩⟩

/-- After every run and a rollback that succeeds, the restored certificate is retried at the end of
the backoff exactly where the schedule that came back with it has its next renewal by then. -/
theorem retried_after_rollback {createdMode : Nat} {actions : List LedgerAction}
    (ran : Machine.exec (Ledger.step libraries config policy)
      (Ledger.initial (World.empty createdMode)) actions = some ledger)
    (rolledBack : ledger.world.call
        (onDisk (rollbackToRetainedPair libraries config.stateDir now reason)) replies =
      (scene, some (.ok ()))) :
    ∃ epoch certificate issue backoff,
      ledger.world.contents.newestRetained = some epoch ∧
      ledger.world.contents.file (.certificate (.retained epoch)) = some certificate ∧
      (issue = ledger.world.contents.file (.issue (.retained epoch)) ∨
        ledger.world.contents.file (.issue (.retained epoch)) = none ∧
          issue = ledger.world.contents.file (.issue .live) ∧
          issue = scene.world.contents.file (.issue .live)) ∧
      nextAttemptAfterFailure now (U64.clamp (ledger.failures.length + 1)) .standard
        "reload-rolled-back" none = some backoff ∧
      (Retried libraries config policy scene.world backoff ↔
        Prompt libraries policy issue certificate backoff) := by
  have stepped : ledger.step libraries config policy (.rollback now reason replies) =
      some ⟨scene.world, ⟨now, "reload-rolled-back", .standard⟩ :: ledger.failures⟩ := by
    simp only [Ledger.step, rolledBack]
  have legibleBefore : Legible libraries ledger.world.contents := by
    have none : Legible libraries (World.empty createdMode).contents :=
      fun name isJson bytes found => by cases found
    exact legible_exec none ran
  have legible := legible_step legibleBefore stepped
  have unrecorded : (World.empty createdMode).contents.file .failure = none := rfl
  obtain ⟨bytes, value, backoff, found, decoded, isKind, -, states, isNext⟩ :=
    records_step (records_exec unrecorded ran) stepped
  obtain ⟨restoration, -⟩ := performs_call (rollbackCall_ends upkeep_trivial trivial) rolledBack
  obtain ⟨epoch, certificate, key, newest, retained, hasCertificate, hasKey, metadata⟩ :=
    files_of_rolledBack restoration
  have retried := @retried_iff_prompt libraries config policy scene.world backoff certificate key
    hasCertificate hasKey legible bytes value found decoded isKind states
  refine ⟨epoch, certificate, scene.world.contents.file (.issue .live), backoff, newest, retained,
    ?_, isNext, retried⟩
  exact metadata.imp id fun kept => ⟨kept.1, kept.2, rfl⟩

end

namespace Sample

/-- An issuance, and a renewal when its certificate was due. -/
def scheduled : List LedgerAction :=
  [.issue (answering 1795000000 (.ok firstIssued)),
    .renew 1800200000 (answering 1800200000 (.ok secondIssued))]

/-- The objects of these, and of a rollback a minute later. -/
def recordingScheduled : Libraries :=
  librariesOf
    [reloadMarker 1795000000, reloadMarker 1800200000,
      issueMetadata firstIssued .standard (some 1802779880) 1795000000,
      issueMetadata secondIssued .standard (some 1810555880) 1800200000,
      [("failed_at_epoch_seconds", .u64 1800200060), ("reason", .string bootFailure),
        ("rolled_back", .bool true)],
      failureObject 1800200060 "reload-rolled-back" bootFailure 1 1800200133]
    (by decide +kernel)

def firstMetadata : List UInt8 :=
  utf8 (pretty (issueMetadata firstIssued .standard (some 1802779880) 1795000000))

/-- Two manual issuances within two weeks. -/
def manual : List LedgerAction :=
  [.issue (answering 1795000000 (.ok firstIssued)),
    .issue (answering 1796000000 (.ok secondIssued))]

def undone (libraries : Libraries) (now : UInt64) (ledger : Ledger) :
    Scene × Option (Except AcmeError Unit) :=
  ledger.world.call (onDisk (rollbackToRetainedPair libraries Sample.config.stateDir now
    bootFailure)) (answering now (.ok firstIssued))

end Sample

/-- A renewal of a certificate that was due is undone, and retried. -/
theorem retried_after_scheduled : ∃ ledger scene,
    Machine.exec (Ledger.step Sample.recordingScheduled Sample.config .standard)
        (Ledger.initial (World.empty 0o700)) Sample.scheduled = some ledger ∧
      Sample.undone Sample.recordingScheduled 1800200060 ledger = (scene, some (.ok ())) ∧
      Retried Sample.recordingScheduled Sample.config .standard scene.world 1800200133 := by
  obtain ⟨ledger, ran, succeeded, failures, newest, certificateFound, metadata⟩ : ∃ ledger,
      Machine.exec (Ledger.step Sample.recordingScheduled Sample.config .standard)
          (Ledger.initial (World.empty 0o700)) Sample.scheduled = some ledger ∧
        (Sample.undone Sample.recordingScheduled 1800200060 ledger).2 = some (.ok ()) ∧
        ledger.failures = [] ∧
        ledger.world.contents.newestRetained = some 1800200000 ∧
        ledger.world.contents.file (.certificate (.retained 1800200000)) =
          some (utf8 Sample.firstPem) ∧
        ledger.world.contents.file (.issue (.retained 1800200000)) = some Sample.firstMetadata :=
    Machine.exists_exec (by decide +kernel)
  have rolledBack : Sample.undone Sample.recordingScheduled 1800200060 ledger =
      (_, some (.ok ())) := Prod.ext rfl succeeded
  obtain ⟨epoch, certificate, issue, backoff, isNewest, isCertificate, isIssue, isNext, retried⟩ :=
    retried_after_rollback ran rolledBack
  cases newest.symm.trans isNewest
  cases certificateFound.symm.trans isCertificate
  rw [metadata] at isIssue
  obtain rfl | ⟨missing, -⟩ := isIssue
  · rw [failures] at isNext
    have isBackoff : nextAttemptAfterFailure 1800200060 (U64.clamp 1) .standard
        "reload-rolled-back" none = some 1800200133 := by decide +kernel
    cases isBackoff.symm.trans isNext
    have prompt : Prompt Sample.recordingScheduled .standard (some Sample.firstMetadata)
        (utf8 Sample.firstPem) 1800200133 := by
      decide +kernel
    exact ⟨ledger, _, ran, rolledBack, retried.mpr prompt⟩
  · cases missing

private def isNotDue : Option (Except AcmeError AcmeRenewalOutcome) → Bool
  | some (.ok (.notDue _)) => true
  | _ => false

private theorem exists_of_isNotDue {result : Option (Except AcmeError AcmeRenewalOutcome)}
    (notDue : isNotDue result = true) : ∃ status, result = some (.ok (.notDue status)) := by
  unfold isNotDue at notDue
  split at notDue
  · exact ⟨_, rfl⟩
  · cases notDue

/-- A manual issuance is undone: a renewal after the backoff finds the older certificate not
due. -/
theorem not_due_after_rollback : ∃ ledger scene later status,
    Machine.exec (Ledger.step Sample.retaining Sample.config .standard)
        (Ledger.initial (World.empty 0o700)) Sample.manual = some ledger ∧
      Sample.undone Sample.retaining 1797000060 ledger = (scene, some (.ok ())) ∧
      nextAttemptAfterFailure 1797000060 1 .standard "reload-rolled-back" none =
        some 1797000382 ∧
      scene.world.call (renewOnceWithIssuer Sample.retaining Sample.config .standard 1797000382)
        Sample.refusing = (later, some (.ok (.notDue status))) ∧
      later.contacted = false ∧
      ¬ Retried Sample.retaining Sample.config .standard scene.world 1797000382 := by
  obtain ⟨ledger, ran, succeeded, uncontacted, answered⟩ : ∃ ledger,
      Machine.exec (Ledger.step Sample.retaining Sample.config .standard)
          (Ledger.initial (World.empty 0o700)) Sample.manual = some ledger ∧
        (Sample.undone Sample.retaining 1797000060 ledger).2 = some (.ok ()) ∧
        ((Sample.undone Sample.retaining 1797000060 ledger).1.world.call (renewOnceWithIssuer
          Sample.retaining Sample.config .standard 1797000382) Sample.refusing).1.contacted =
            false ∧
        isNotDue ((Sample.undone Sample.retaining 1797000060 ledger).1.world.call
            (renewOnceWithIssuer Sample.retaining Sample.config .standard 1797000382)
            Sample.refusing).2 = true :=
    Machine.exists_exec (by decide +kernel)
  obtain ⟨status, returned⟩ := exists_of_isNotDue answered
  have called : (Sample.undone Sample.retaining 1797000060 ledger).1.world.call
      (renewOnceWithIssuer Sample.retaining Sample.config .standard 1797000382)
      Sample.refusing = (_, some (.ok (.notDue status))) := Prod.ext rfl returned
  refine ⟨ledger, _, _, status, ran, Prod.ext rfl succeeded, by decide +kernel, called,
    uncontacted, fun retried => ?_⟩
  obtain ⟨issued, last, renewed⟩ | ⟨⟨last, deferred⟩, -⟩ :=
    (retried 1797000382 (UInt64.le_refl _)).2 _ _ _ called
  · cases renewed
  · cases deferred

end Oxo.Edge.Acme
