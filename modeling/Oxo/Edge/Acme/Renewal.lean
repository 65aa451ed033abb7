import Oxo.Edge.Acme.Issue
import Oxo.Edge.Acme.World

/-!
Contract: the two renewal functions compared, on every state directory and for every
behaviour of the certificate authority.

Owns: what answers the operations of an issuance, the refinement of the renewal with an
injected issuer by the one that speaks to the authority, and the states it holds in.

Does not own: time passing in other processes. A file operation of one kind either works or
fails throughout a run; the issuance lock excludes a second holder, also in one process.
-/

namespace Oxo.Edge.Acme

open Oxo.Foundation

/-! ## Settings -/

/-- Who holds the issuance lock: nobody, another process, or this one. -/
inductive LockState where
  | free
  | elsewhere
  | here
deriving DecidableEq

structure Setting where
  world : World
  faults : DiskOp → Fault
  openLock : Except String Unit
  tryLockFails : Option String
  lock : LockState
  clock : Nat → UInt64
  readings : Nat
  listener : ListenerStep → Except String Unit
  accountBuilder : Except String Unit
  issuer : Except AcmeError IssuedCertificate
  ca : (request : CaRequest) → request.Answer

namespace Setting

def answerNet (setting : Setting) : (op : NetOp) → op.Answer × Setting
  | .openLock => (setting.openLock, setting)
  | .tryLock =>
      match setting.tryLockFails, setting.lock with
      | some detail, _ => (.failed detail, setting)
      | none, .free => (.acquired, { setting with lock := .here })
      | none, _ => (.wouldBlock, setting)
  | .unlock => ((), { setting with lock := .free })
  | .now => (setting.clock setting.readings, { setting with readings := setting.readings + 1 })
  | .listener step => (setting.listener step, setting)
  | .provision _ | .clearStore => ((), setting)
  | .accountBuilder => (setting.accountBuilder, setting)
  | .issuer => (setting.issuer, setting)
  | .ca request => (setting.ca request, setting)

/-- The state directory with the faults of its operations. -/
abbrev OnDisk := World × (DiskOp → Fault)

def answerDisk (onDisk : OnDisk) (op : DiskOp) : Option (op.Answer × OnDisk) :=
  let answered := onDisk.1.respond (onDisk.2 op) op
  some (answered.1, answered.2, onDisk.2)

def withDisk (setting : Setting) (onDisk : OnDisk) : Setting :=
  { setting with world := onDisk.1, faults := onDisk.2 }

def answer (setting : Setting) :
    (op : DiskOp ⊕ NetOp) → Option (Sum.elim DiskOp.Answer NetOp.Answer op × Setting)
  | .inl op => (answerDisk (setting.world, setting.faults) op).map fun answered =>
      (answered.1, setting.withDisk answered.2)
  | .inr op => some (setting.answerNet op)

def run {α : Type} (setting : Setting) (program : ExceptT AcmeError Issuing α) :
    Option (Except AcmeError α × Setting) :=
  Program.run answer program.run setting

/-- What a run returns. -/
def result {α : Type} (setting : Setting) (program : ExceptT AcmeError Issuing α) :
    Option (Except AcmeError α) :=
  (setting.run program).map Prod.fst

/-- A request to the authority, or the injected issuer. -/
def isContact : DiskOp ⊕ NetOp → Bool
  | .inr (.ca _) | .inr .issuer => true
  | _ => false

def contacts {α : Type} (setting : Setting) (program : ExceptT AcmeError Issuing α) : Bool :=
  Program.reaches answer isContact program.run setting

/-- The certificate is asked for. -/
def isCollection : DiskOp ⊕ NetOp → Bool
  | .inr (.ca .pollCertificate) => true
  | _ => false

def collects {α : Type} (setting : Setting) (program : ExceptT AcmeError Issuing α) : Bool :=
  Program.reaches answer isCollection program.run setting

end Setting

/-! ## Refinement -/

section

variable (libraries : Libraries) (config : AcmeIssueConfig) (setting : Setting)

/-- The renewal with an injected issuer, at the time the clock shows. -/
abbrev injected : ExceptT AcmeError Issuing AcmeRenewalOutcome :=
  renewOnceWithIssuer libraries config .standard (setting.clock setting.readings)

/-- The injected renewal passes its gates: due, no backoff, not latched, and the lock taken. -/
def WouldContact : Prop :=
  ∃ now next, setting.run (admission libraries config .standard
    (pure (setting.clock setting.readings))) = some (.ok (.inr now), next)

/-- An accepted pair that the authority yields is in place, the failure record gone, and the
outcome `Renewed`. -/
def Installs : Prop :=
  ∀ certificatePem privateKeyPem, setting.collects (renewOnceWithInstantAcme libraries config) →
    setting.ca .finalize = .ok privateKeyPem →
    setting.ca .pollCertificate = .ok certificatePem →
    validateIssuedPair libraries certificatePem privateKeyPem config.fqdn = .ok () →
    (∀ op, setting.faults op = .works) →
    ∃ issued status next,
      setting.run (renewOnceWithInstantAcme libraries config) =
        some (.ok (.renewed issued status), next) ∧
      next.world.contents.file (.certificate .live) = some (utf8 certificatePem) ∧
      next.world.contents.file (.key .live) = some (utf8 privateKeyPem) ∧
      next.world.contents.file .failure = none

/-- The renewal that speaks to the authority does there what the injected one does. -/
def Refines : Prop :=
  (WouldContact libraries config setting →
    setting.contacts (renewOnceWithInstantAcme libraries config) = true ∧
      Installs libraries config setting) ∧
  (¬ WouldContact libraries config setting →
    setting.result (renewOnceWithInstantAcme libraries config) =
        setting.result (injected libraries config setting) ∧
      setting.contacts (renewOnceWithInstantAcme libraries config) = false ∧
      setting.contacts (injected libraries config setting) = false)

end

/-! ## Running -/

namespace Setting

variable {α β : Type} {setting next : Setting}

theorem run_bindOk {program : ExceptT AcmeError Issuing α}
    {continuation : α → ExceptT AcmeError Issuing β} {value : α}
    (ran : setting.run program = some (.ok value, next)) :
    setting.run (program >>= continuation) = next.run (continuation value) :=
  Program.run_bindOk ran

theorem run_bindError {program : ExceptT AcmeError Issuing α}
    {continuation : α → ExceptT AcmeError Issuing β} {failure : AcmeError}
    (ran : setting.run program = some (.error failure, next)) :
    setting.run (program >>= continuation) = some (.error failure, next) :=
  Program.run_bindError ran

/-- A program that does not end ends nothing behind it. -/
theorem run_bindNone {program : ExceptT AcmeError Issuing α}
    {continuation : α → ExceptT AcmeError Issuing β} (ran : setting.run program = none) :
    setting.run (program >>= continuation) = none := by
  refine (Program.run_bind program.run _).trans ?_
  rw [show Program.run answer program.run setting = none from ran]
  rfl

/-- Programs on the state directory run there. -/
theorem run_onDisk (program : ExceptT AcmeError Disk α) (setting : Setting) :
    setting.run (onDisk program) =
      (Program.run answerDisk program.run (setting.world, setting.faults)).map fun ran =>
        (ran.1, setting.withDisk ran.2) := by
  have answers : ∀ (setting : Setting) (op : DiskOp), answer setting (.inl op) =
      (answerDisk (setting.world, setting.faults) op).map fun answered =>
        (answered.1, setting.withDisk answered.2) := fun _ _ => rfl
  exact Program.run_inl answers (fun _ _ => rfl) (fun _ _ _ => rfl) (fun _ => rfl) program.run
    setting

end Setting

/-! ## The lock, seen from one process -/

/-- How often the process believes to hold the issuance lock. -/
inductive LockWatch where
  | free
  | held
  | twice

/-- Holding the lock twice is impossible, so everything is allowed then; before, nobody is
contacted. -/
def unlessLockedTwice :
    Contract (DiskOp ⊕ NetOp) (Sum.elim DiskOp.Answer NetOp.Answer) LockWatch where
  allows watch op := watch = .twice ∨ Setting.isContact op = false
  after watch op answer :=
    match watch, op, answer with
    | .free, .inr .tryLock, .acquired => .held
    | _, .inr .tryLock, .acquired => .twice
    | .held, .inr .unlock, _ => .free
    | watch, _, _ => watch

/-- The lock is never acquired while it is held. -/
def Follows (setting : Setting) : LockWatch → Prop
  | .free => True
  | .held => setting.lock = .here
  | .twice => False

private theorem follows_step {setting next : Setting} {watch : LockWatch}
    {op : DiskOp ⊕ NetOp} {answer : Sum.elim DiskOp.Answer NetOp.Answer op}
    (follows : Follows setting watch) (answered : setting.answer op = some (answer, next)) :
    Follows next (unlessLockedTwice.after watch op answer) := by
  cases op with
  | inl op =>
      cases answered
      cases watch with
      | free => trivial
      | held => exact follows
      | twice => exact follows
  | inr op =>
      cases watch with
      | free =>
          cases op with
          | tryLock =>
              simp only [Setting.answer, Setting.answerNet] at answered
              split at answered
              · cases answered
                trivial
              · cases answered
                rfl
              · cases answered
                trivial
          | _ => trivial
      | held =>
          cases op with
          | tryLock =>
              simp only [Setting.answer, Setting.answerNet] at answered
              split at answered
              · cases answered
                exact follows
              · rename_i free
                rw [show setting.lock = .here from follows] at free
                cases free
              · cases answered
                exact follows
          | unlock => trivial
          | _ =>
              cases answered
              exact follows
      | twice => exact follows.elim

/-- What the watch allows contacts nobody. -/
private theorem contacts_eq_false {α : Type} {program : ExceptT AcmeError Issuing α}
    {watch : LockWatch} {post : Except AcmeError α → LockWatch → Prop} {setting : Setting}
    (meets : unlessLockedTwice.Meets program.run watch post) (follows : Follows setting watch) :
    setting.contacts program = false := by
  have excluded : ∀ (state : Setting) (watch : LockWatch) (op : DiskOp ⊕ NetOp),
      Follows state watch → unlessLockedTwice.allows watch op → Setting.isContact op = false := by
    rintro state watch op follows (rfl | free)
    · exact follows.elim
    · exact free
  exact meets.not_reaches (fun _ _ _ _ _ => follows_step) excluded follows

section

variable {α : Type} {watch : LockWatch}

private theorem meets_onDisk (program : ExceptT AcmeError Disk α) :
    unlessLockedTwice.Meets (onDisk program).run watch fun _ after => after = watch := by
  change unlessLockedTwice.Meets (Program.inl program.run) watch _
  induction program.run with
  | pure value => exact rfl
  | call op next inductionHypothesis =>
      refine ⟨.inr rfl, fun answer => ?_⟩
      have same : unlessLockedTwice.after watch (.inl op) answer = watch := by
        cases watch <;> rfl
      rw [same]
      exact inductionHypothesis answer
  | stop => trivial

/-- Once the impossible has happened, it stays. -/
private theorem meets_twice (program : Issuing α) :
    unlessLockedTwice.Meets program .twice fun _ after => after = .twice := by
  induction program with
  | pure value => exact rfl
  | call op next inductionHypothesis =>
      refine ⟨.inl rfl, fun answer => ?_⟩
      have same : unlessLockedTwice.after .twice op answer = .twice := by
        cases op with
        | inl op => rfl
        | inr op =>
            cases op with
            | tryLock => cases answer <;> rfl
            | _ => rfl
      rw [same]
      exact inductionHypothesis answer
  | stop => trivial

/-- An operation that is no contact and leaves the lock. -/
private theorem meets_net (op : NetOp) (quiet : Setting.isContact (.inr op) = false)
    (lockless : ∀ answer, unlessLockedTwice.after watch (.inr op) answer = watch) :
    unlessLockedTwice.Meets (net op).run watch fun _ after => after = watch :=
  ⟨.inr quiet, lockless⟩

/-- The lock as believed after it was acquired. -/
def LockWatch.acquire : LockWatch → LockWatch
  | .free => .held
  | _ => .twice

private theorem meets_tryIssuanceLock (watch : LockWatch) :
    unlessLockedTwice.Meets tryIssuanceLock.run watch fun result after =>
      after = match result with
        | .ok .held => watch.acquire
        | _ => watch := by
  refine Contract.Meets.callExcept (.inr rfl) fun opened => ?_
  have same : unlessLockedTwice.after watch (.inr .openLock) opened = watch := by
    cases watch <;> rfl
  rw [same]
  cases opened with
  | error detail => exact rfl
  | ok done =>
      refine Contract.Meets.callExcept (.inr rfl) fun answer => ?_
      cases answer with
      | acquired => cases watch <;> exact rfl
      | wouldBlock => cases watch <;> exact rfl
      | failed detail => cases watch <;> exact rfl

/-- The lock is given back, whatever happened. -/
private theorem meets_holding {program : ExceptT AcmeError Issuing α}
    (meets : unlessLockedTwice.Meets program.run watch fun _ _ => True) :
    unlessLockedTwice.Meets (holding program).run watch fun _ _ => True := by
  refine Contract.Meets.lift (meets.mono fun result after _ => ?_)
  exact Contract.Meets.callExcept (.inr rfl) fun _ => trivial

end

section

variable (libraries : Libraries) (config : AcmeIssueConfig) {policy : AcmeRenewalPolicy}

private theorem meets_admission {readNow : ExceptT AcmeError Issuing UInt64}
    (reads : unlessLockedTwice.Meets readNow.run .free fun _ after => after = .free) :
    unlessLockedTwice.Meets (admission libraries config policy readNow).run .free
      fun result after => ∀ now, result = .ok (.inr now) → after = .held := by
  refine Contract.Meets.bindExcept ((meets_onDisk _).mono ?_)
  rintro (failure | done) after rfl
  · rintro now ⟨⟩
  refine Contract.Meets.bindExcept (reads.mono ?_)
  rintro (failure | now) after rfl
  · rintro now ⟨⟩
  refine Contract.Meets.bindExcept ((meets_onDisk _).mono ?_)
  rintro (failure | status) after rfl
  · rintro now ⟨⟩
  dsimp only
  split
  · rintro now ⟨⟩
  · refine Contract.Meets.bindExcept ((meets_tryIssuanceLock .free).mono ?_)
    rintro (failure | lock) after rfl
    · rintro now ⟨⟩
    · cases lock with
      | busy => rintro now ⟨⟩
      | held => exact fun now _ => rfl

/-- Under the lock, the issuance acquires it again before it contacts anybody. -/
private theorem meets_issueOnceWithInstantAcme :
    unlessLockedTwice.Meets (issueOnceWithInstantAcme libraries config).run .held
      fun _ _ => True := by
  refine Contract.Meets.bindExcept ((meets_onDisk _).mono ?_)
  rintro (failure | done) after rfl
  · trivial
  refine Contract.Meets.bindExcept ((meets_tryIssuanceLock .held).mono ?_)
  rintro (failure | lock) after rfl
  · trivial
  cases lock with
  | busy => exact trivial
  | held => exact (meets_twice _).mono fun _ _ _ => trivial

private theorem meets_renewOnceWithInstantAcme :
    unlessLockedTwice.Meets (renewOnceWithInstantAcme libraries config).run .free
      fun _ _ => True := by
  have reads : unlessLockedTwice.Meets (net .now).run .free fun _ after => after = .free :=
    meets_net .now rfl fun _ => rfl
  refine Contract.Meets.bindExcept ((meets_admission libraries config reads).mono ?_)
  rintro (failure | answer) after admitted
  · trivial
  cases answer with
  | inl outcome => exact trivial
  | inr now =>
      cases admitted now rfl
      refine meets_holding (Contract.Meets.lift
        ((meets_issueOnceWithInstantAcme libraries config).mono fun result after _ => ?_))
      cases result with
      | ok issued =>
          refine Contract.Meets.bindExcept ((meets_net .now rfl fun _ => ?_).mono ?_)
          · cases after <;> rfl
          · rintro (failure | later) after rfl
            · trivial
            · exact Contract.Meets.bindExcept ((meets_onDisk _).mono fun result after _ => by
                cases result <;> trivial)
      | error failure =>
          exact Contract.Meets.bindExcept ((meets_onDisk _).mono fun result after _ => by
            cases result <;> trivial)

/-- No renewal contacts the authority. -/
theorem renewOnceWithInstantAcme_contacts_nobody (setting : Setting) :
    setting.contacts (renewOnceWithInstantAcme libraries config) = false :=
  contacts_eq_false (meets_renewOnceWithInstantAcme libraries config) trivial

/-- Behind a closed gate, an injected renewal contacts nobody either. -/
private theorem injected_contacts_nobody {setting : Setting}
    (closed : ¬ WouldContact libraries config setting) :
    setting.contacts (injected libraries config setting) = false := by
  have reads : unlessLockedTwice.Meets
      (pure (setting.clock setting.readings) : ExceptT AcmeError Issuing UInt64).run .free
      fun _ after => after = .free := rfl
  have quiet : setting.contacts (admission libraries config .standard
      (pure (setting.clock setting.readings))) = false :=
    contacts_eq_false (meets_admission libraries config reads) trivial
  refine (Program.reaches_bindExcept _ _).trans ?_
  rw [show Program.reaches Setting.answer Setting.isContact (admission libraries config .standard
    (pure (setting.clock setting.readings))).run setting = false from quiet, Bool.false_or]
  split
  · rename_i answer next ran
    cases answer with
    | inl outcome => rfl
    | inr now => exact absurd ⟨now, next, ran⟩ closed
  · rfl

end

/-! ## Behind a closed gate -/

section

variable {libraries : Libraries} {config : AcmeIssueConfig} {policy : AcmeRenewalPolicy}

/-- A program on the state directory in front of another. -/
private theorem result_onDisk_bind {α β : Type} (program : ExceptT AcmeError Disk α)
    (continuation : α → ExceptT AcmeError Issuing β) (setting : Setting) :
    setting.result (onDisk program >>= continuation) =
      match Program.run Setting.answerDisk program.run (setting.world, setting.faults) with
      | some (.ok value, onDisk) => (setting.withDisk onDisk).result (continuation value)
      | some (.error failure, _) => some (.error failure)
      | none => none := by
  have ran := Setting.run_onDisk program setting
  cases inner : Program.run Setting.answerDisk program.run (setting.world, setting.faults) with
  | none =>
      rw [inner] at ran
      rw [Setting.result, Setting.run_bindNone ran]
      rfl
  | some finished =>
      obtain ⟨result, onDisk⟩ := finished
      rw [inner] at ran
      cases result with
      | ok value =>
          rw [Setting.result, Setting.run_bindOk ran]
          rfl
      | error failure =>
          rw [Setting.result, Setting.run_bindError ran]
          rfl

/-- The end of the admission, once the time is read. -/
private def decideAt (libraries : Libraries) (policy : AcmeRenewalPolicy) (now : UInt64) :
    ExceptT AcmeError Issuing (AcmeRenewalOutcome ⊕ UInt64) := do
  let status ← onDisk (status libraries now policy)
  match renewalGate status now with
  | some outcome => return .inl outcome
  | none =>
      match ← tryIssuanceLock with
      | .busy => return .inl (.deferred status)
      | .held => return .inr now

/-- What is decided does not depend on how often the clock was read. -/
private theorem decideAt_readings (now : UInt64) (setting : Setting) (readings : Nat) :
    { setting with readings }.result (decideAt libraries policy now) =
      setting.result (decideAt libraries policy now) := by
  rw [decideAt, result_onDisk_bind, result_onDisk_bind]
  dsimp only
  split
  · rename_i status onDisk _
    cases renewalGate status now with
    | some outcome => rfl
    | none =>
        obtain ⟨world, faults, openLock, tryLockFails, lock, clock, old, listener, builder, issuer,
          ca⟩ := setting
        cases openLock with
        | error detail => rfl
        | ok done =>
            cases tryLockFails with
            | some detail => rfl
            | none => cases lock <;> rfl
  · rfl
  · rfl

/-- Reading the clock, or being told what it shows. -/
private theorem admission_result (setting : Setting) :
    setting.result (admission libraries config policy (net .now)) =
      setting.result (admission libraries config policy
        (pure (setting.clock setting.readings))) := by
  refine (result_onDisk_bind _ _ setting).trans (Eq.trans ?_ (result_onDisk_bind _ _ setting).symm)
  split
  · exact decideAt_readings (setting.clock setting.readings) _ (setting.readings + 1)
  · rfl
  · rfl

/-- What a renewal answers behind a closed gate is decided by the admission. -/
private theorem renewOnce_result {setting : Setting}
    {readNow : ExceptT AcmeError Issuing UInt64}
    {issue : UInt64 → ExceptT AcmeError Issuing IssuedCertificate}
    {readAfter : UInt64 → ExceptT AcmeError Issuing UInt64}
    (closed : ∀ now, setting.result (admission libraries config policy readNow) ≠
      some (.ok (.inr now))) :
    setting.result (renewOnce libraries config policy readNow issue readAfter) =
      (setting.result (admission libraries config policy readNow)).map fun answer =>
        answer.bind fun answer =>
          match answer with
          | .inl outcome => .ok outcome
          | .inr _ => .error anotherIssuance := by
  unfold renewOnce
  cases ran : setting.run (admission libraries config policy readNow) with
  | none =>
      rw [Setting.result, Setting.run_bindNone ran, Setting.result, ran]
      rfl
  | some finished =>
      obtain ⟨answer, next⟩ := finished
      have answered : setting.result (admission libraries config policy readNow) =
          some answer := by
        rw [Setting.result, ran]
        rfl
      rw [answered]
      cases answer with
      | error failure =>
          rw [Setting.result, Setting.run_bindError ran]
          rfl
      | ok answer =>
          rw [Setting.result, Setting.run_bindOk ran]
          cases answer with
          | inl outcome => rfl
          | inr now => exact absurd answered (closed now)

/-- Where the injected renewal would ask for a certificate, the other one does not. -/
private theorem not_refines_of_wouldContact {setting : Setting}
    (would : WouldContact libraries config setting) : ¬ Refines libraries config setting := by
  intro refines
  have contacts := (refines.1 would).1
  rw [renewOnceWithInstantAcme_contacts_nobody] at contacts
  cases contacts

end

section

variable {libraries : Libraries} {config : AcmeIssueConfig} {setting : Setting}

/-- Behind a closed gate, both renewals return the same. -/
private theorem closed_result (closed : ¬ WouldContact libraries config setting) :
    setting.result (renewOnceWithInstantAcme libraries config) =
        (setting.result (admission libraries config .standard
          (pure (setting.clock setting.readings)))).map (fun answer =>
            answer.bind fun answer =>
              match answer with
              | .inl outcome => .ok outcome
              | .inr _ => .error anotherIssuance) ∧
      setting.result (renewOnceWithInstantAcme libraries config) =
        setting.result (injected libraries config setting) := by
  have toldClosed : ∀ now, setting.result (admission libraries config .standard
      (pure (setting.clock setting.readings))) ≠ some (.ok (.inr now)) := by
    intro now admitted
    obtain ⟨⟨answer, next⟩, ran, isAnswer⟩ := Option.map_eq_some_iff.mp admitted
    cases isAnswer
    exact closed ⟨now, next, ran⟩
  have readClosed : ∀ now, setting.result (admission libraries config .standard (net .now)) ≠
      some (.ok (.inr now)) := by
    intro now
    rw [admission_result]
    exact toldClosed now
  constructor
  · exact (renewOnce_result readClosed).trans (congrArg _ (admission_result setting))
  · exact (renewOnce_result readClosed).trans
      ((congrArg _ (admission_result setting)).trans (renewOnce_result toldClosed).symm)

end

/-- The renewal that speaks to the authority refines the injected one in exactly the states in
which the injected one stops at a gate. -/
theorem renewal_refines_iff (libraries : Libraries) (config : AcmeIssueConfig)
    (setting : Setting) :
    Refines libraries config setting ↔ ¬ WouldContact libraries config setting := by
  refine ⟨fun refines would => not_refines_of_wouldContact would refines, fun closed => ?_⟩
  exact ⟨fun would => absurd would closed, fun _ => ⟨(closed_result closed).2,
    renewOnceWithInstantAcme_contacts_nobody libraries config setting,
    injected_contacts_nobody libraries config closed⟩⟩

/-! ## At the gates -/

/-- The status that a renewal decides on. -/
def seenStatus (libraries : Libraries) (config : AcmeIssueConfig) (setting : Setting) :
    ExceptT AcmeError Issuing CertificateLifecycleStatus := do
  onDisk (prepare config.stateDir)
  onDisk (status libraries (setting.clock setting.readings) .standard)

/-- What the gate and the lock make of a status. -/
def Setting.decides (setting : Setting) (status : CertificateLifecycleStatus) :
    Except AcmeError (AcmeRenewalOutcome ⊕ UInt64) :=
  match renewalGate status (setting.clock setting.readings) with
  | some outcome => .ok (.inl outcome)
  | none =>
      match setting.openLock, setting.tryLockFails, setting.lock with
      | .error detail, _, _ => .error (.io "open ACME issuance lock" detail)
      | .ok (), some detail, _ => .error (.io "acquire ACME issuance lock" detail)
      | .ok (), none, .free => .ok (.inr (setting.clock setting.readings))
      | .ok (), none, _ => .ok (.inl (.deferred status))

section

variable {libraries : Libraries} {config : AcmeIssueConfig} {setting : Setting}

/-- An admission is decided by the status it sees. -/
private theorem admission_of_seen :
    setting.result (admission libraries config .standard (pure (setting.clock setting.readings))) =
      (setting.result (seenStatus libraries config setting)).map fun seen =>
        seen.bind setting.decides := by
  have decided : ∀ onDisk, (setting.withDisk onDisk).result
      (decideAt libraries .standard (setting.clock setting.readings)) =
        ((setting.withDisk onDisk).result (Acme.onDisk
          (status libraries (setting.clock setting.readings) .standard))).map fun seen =>
            seen.bind setting.decides := by
    intro onDisk
    rw [decideAt, result_onDisk_bind, Setting.result, Setting.run_onDisk]
    cases Program.run Setting.answerDisk
        (status libraries (setting.clock setting.readings) .standard).run
        ((setting.withDisk onDisk).world, (setting.withDisk onDisk).faults) with
    | none => rfl
    | some finished =>
        obtain ⟨seen | status, later⟩ := finished
        · rfl
        · simp only [Option.map_some, Except.bind, Setting.decides]
          cases renewalGate status (setting.clock setting.readings) with
          | some outcome => rfl
          | none =>
              obtain ⟨world, faults, openLock, tryLockFails, lock, clock, readings, listener,
                builder, issuer, ca⟩ := setting
              cases openLock with
              | error detail => rfl
              | ok done =>
                  cases tryLockFails with
                  | some detail => rfl
                  | none => cases lock <;> rfl
  refine (result_onDisk_bind _ _ setting).trans (Eq.trans ?_
    (congrArg _ (result_onDisk_bind _ _ setting)).symm)
  cases Program.run Setting.answerDisk (prepare config.stateDir).run
      (setting.world, setting.faults) with
  | none => rfl
  | some finished =>
      obtain ⟨failure | done, onDisk⟩ := finished
      · rfl
      · exact decided onDisk

private theorem decides_inr {status : CertificateLifecycleStatus} {now : UInt64} :
    setting.decides status = .ok (.inr now) ↔
      setting.clock setting.readings = now ∧
        renewalGate status (setting.clock setting.readings) = none ∧
        setting.openLock = .ok () ∧ setting.tryLockFails = none ∧ setting.lock = .free := by
  unfold Setting.decides
  cases renewalGate status (setting.clock setting.readings) with
  | some outcome => simp
  | none =>
      cases setting.openLock with
      | error detail => simp
      | ok done =>
          cases setting.tryLockFails with
          | some detail => simp
          | none => cases setting.lock <;> simp

/-- The gates are passed when the state directory can be read, the renewal is due, no backoff is in
force, nothing is latched, and nobody holds the lock. -/
theorem wouldContact_iff :
    WouldContact libraries config setting ↔
      ∃ status, setting.result (seenStatus libraries config setting) = some (.ok status) ∧
        (status.renewalDue = true ∧
          (∀ backoffUntil, status.backoffUntilEpochSeconds = some backoffUntil →
            backoffUntil ≤ setting.clock setting.readings) ∧
          invalidCertificateLatched status = false) ∧
        setting.openLock = .ok () ∧ setting.tryLockFails = none ∧ setting.lock = .free := by
  have admitted : WouldContact libraries config setting ↔
      ∃ now, setting.result (admission libraries config .standard
        (pure (setting.clock setting.readings))) = some (.ok (.inr now)) := by
    simp only [WouldContact, Setting.result, Option.map_eq_some_iff, Prod.exists]
    exact exists_congr fun now => ⟨fun ⟨next, ran⟩ => ⟨_, next, ran, rfl⟩,
      fun ⟨answer, next, ran, isAnswer⟩ => ⟨next, isAnswer ▸ ran⟩⟩
  rw [admitted, admission_of_seen]
  simp only [← renewalGate_eq_none]
  constructor
  · rintro ⟨now, passed⟩
    obtain ⟨seen, isSeen, decided⟩ := Option.map_eq_some_iff.mp passed
    cases seen with
    | error failure => cases decided
    | ok status => exact ⟨status, isSeen, (decides_inr.mp decided).2⟩
  · rintro ⟨status, isSeen, passes⟩
    refine ⟨setting.clock setting.readings, ?_⟩
    rw [isSeen]
    exact congrArg some (decides_inr.mpr ⟨rfl, passes⟩)

/-- Behind a closed gate, both renewals return what is decided on the status they see: an error if
the state directory cannot be read or the lock fails. -/
theorem stopped_result (closed : ¬ WouldContact libraries config setting)
    {seen : Except AcmeError CertificateLifecycleStatus}
    (isSeen : setting.result (seenStatus libraries config setting) = some seen) :
    ∃ result : Except AcmeError AcmeRenewalOutcome,
      setting.result (renewOnceWithInstantAcme libraries config) = some result ∧
      setting.result (injected libraries config setting) = some result ∧
      seen.bind setting.decides = result.map .inl := by
  obtain ⟨returned, alike⟩ := closed_result closed
  rw [← alike, returned, admission_of_seen, isSeen]
  cases decided : seen.bind setting.decides with
  | error failure =>
      refine ⟨.error failure, ?_, ?_, rfl⟩ <;> simp only [Option.map_some, decided] <;> rfl
  | ok answer =>
      cases answer with
      | inl outcome =>
          refine ⟨.ok outcome, ?_, ?_, rfl⟩ <;> simp only [Option.map_some, decided] <;> rfl
      | inr now =>
          refine absurd (wouldContact_iff.mpr ?_) closed
          cases seen with
          | error failure => cases decided
          | ok status =>
              have passes := (decides_inr.mp decided).2
              rw [renewalGate_eq_none] at passes
              exact ⟨status, isSeen, passes⟩

/-- With a status that can be read and a lock that does not fail, both answer `NotDue` or
`Deferred`. -/
theorem stopped_not_due_or_deferred (closed : ¬ WouldContact libraries config setting)
    {status : CertificateLifecycleStatus}
    (isSeen : setting.result (seenStatus libraries config setting) = some (.ok status))
    (opens : setting.openLock = .ok ()) (tries : setting.tryLockFails = none) :
    ∃ outcome, (outcome = .notDue status ∨ outcome = .deferred status) ∧
      setting.result (renewOnceWithInstantAcme libraries config) = some (.ok outcome) ∧
      setting.result (injected libraries config setting) = some (.ok outcome) := by
  obtain ⟨result, real, told, decided⟩ := stopped_result closed isSeen
  rw [Except.bind, Setting.decides, opens, tries] at decided
  cases gate : renewalGate status (setting.clock setting.readings) with
  | some outcome =>
      rw [gate] at decided
      cases result with
      | error failure => cases decided
      | ok answer =>
          cases decided
          exact ⟨outcome, (gate_not_renewed gate).symm, real, told⟩
  | none =>
      rw [gate] at decided
      cases result with
      | error failure => cases held : setting.lock <;> rw [held] at decided <;> cases decided
      | ok answer =>
          cases held : setting.lock <;> rw [held] at decided <;> cases decided
          · exact ⟨.deferred status, .inr rfl, real, told⟩
          · exact ⟨.deferred status, .inr rfl, real, told⟩

/-- A state directory that cannot be read is an error of both, and not one of these answers. -/
theorem stopped_unreadable {failure : AcmeError}
    (unreadable : setting.result (seenStatus libraries config setting) = some (.error failure)) :
    setting.result (renewOnceWithInstantAcme libraries config) = some (.error failure) ∧
      setting.result (injected libraries config setting) = some (.error failure) := by
  have closed : ¬ WouldContact libraries config setting := by
    rw [wouldContact_iff]
    rintro ⟨status, isSeen, -⟩
    cases unreadable.symm.trans isSeen
  obtain ⟨result, real, told, decided⟩ := stopped_result closed unreadable
  cases result with
  | error other =>
      cases decided
      exact ⟨real, told⟩
  | ok outcome => cases decided

end

namespace Sample

/-- The record that the blocked renewal leaves. -/
def blockedFailure : Json :=
  [("kind", .string "transient"),
    ("message", .string anotherIssuance.text),
    ("failure_count", .u64 1),
    ("failed_at_epoch_seconds", .u64 1795000000),
    ("next_attempt_epoch_seconds", .u64 1795000293),
    ("plaintext_fallback", .bool false)]

def config : AcmeIssueConfig where
  fqdn := "a.io"
  httpBind := "0.0.0.0:80"
  stateDir := "/acme"
  directoryUrl := "https://acme-staging-v02.api.letsencrypt.org/directory"
  contacts := []
  termsOfServiceAgreed := true

/-- An empty state directory, a free lock, and an authority that issues. -/
def firstRenewal : Setting where
  world := World.empty 0o700
  faults _ := .works
  openLock := .ok ()
  tryLockFails := none
  lock := .free
  clock _ := 1795000000
  readings := 0
  listener _ := .ok ()
  accountBuilder := .ok ()
  issuer := .ok ⟨"a.io", firstPem, firstKeyPem, none⟩
  ca
    | .fromCredentials _ | .setReady _ => .ok ()
    | .create _ _ _ => .ok (.ok (utf8 "\x7b\x7d"))
    | .newOrder _ => .ok 1
    | .authorization _ => .ok (some ⟨"token", "token.thumbprint"⟩)
    | .pollReady => .ok .ready
    | .finalize => .ok firstKeyPem
    | .pollCertificate => .ok firstPem

end Sample

/-- Renewing into an empty directory: due, and refused by the lock it holds itself. -/
theorem renewal_refused_by_own_lock :
    ¬ Refines (Sample.librariesOf [Sample.blockedFailure] (by decide +kernel)) Sample.config
        Sample.firstRenewal ∧
      Sample.firstRenewal.result (renewOnceWithInstantAcme
        (Sample.librariesOf [Sample.blockedFailure] (by decide +kernel)) Sample.config) =
        some (.error anotherIssuance) := by
  refine ⟨not_refines_of_wouldContact ?_, ?_⟩
  · have admitted : ((Sample.firstRenewal.run (admission
        (Sample.librariesOf [Sample.blockedFailure] (by decide +kernel)) Sample.config .standard
        (pure 1795000000))).map fun ran => ran.1) = some (.ok (.inr 1795000000)) := by
      decide +kernel
    obtain ⟨⟨answer, next⟩, ran, isAnswer⟩ := Option.map_eq_some_iff.mp admitted
    cases isAnswer
    exact ⟨1795000000, next, ran⟩
  · decide +kernel

end Oxo.Edge.Acme
