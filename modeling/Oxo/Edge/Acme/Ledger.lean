import Oxo.Edge.Acme.Issue
import Oxo.Edge.Acme.Upkeep
import Oxo.Foundation.Machine

/-!
Contract: the failure record of the state directory as a ledger of failures, over runs of
renewals, manual issuances, rollbacks and clears.

Owns: the calls, in which each operation may fail and the issuer may answer anything; the machine
of whole calls beside the list of the failures recorded since the last success or clear; and that
the record on disk is of the latest of them and counts them all.

Does not own: what follows from a record. A call that is killed is not a step.
-/

namespace Oxo.Edge.Acme

open Oxo.Foundation

variable {libraries : Libraries} {config : AcmeIssueConfig} {policy : AcmeRenewalPolicy}
  {now : UInt64}

/-! ## Calls -/

/-- How an operation goes: a fault on the disk, any answer elsewhere. -/
structure Reply where
  fault : Fault
  net : (op : NetOp) → op.Answer

/-- The directory during a call, and how far the call has come. -/
structure Scene where
  world : World
  lockTried : Bool
  contacted : Bool

namespace Scene

def after (scene : Scene) : NetOp → Scene
  | .tryLock => { scene with lockTried := true }
  | .issuer | .ca _ => { scene with contacted := true }
  | _ => scene

def withWorld (scene : Scene) (world : World) : Scene :=
  { scene with world }

def respond (scene : Scene) (reply : Reply) :
    (op : DiskOp ⊕ NetOp) → Sum.elim DiskOp.Answer NetOp.Answer op × Scene
  | .inl op => ((scene.world.respond reply.fault op).1,
      scene.withWorld (scene.world.respond reply.fault op).2)
  | .inr op => (reply.net op, scene.after op)

end Scene

/-- `post` of every result of a call. -/
def Performs {α : Type} (program : ExceptT AcmeError Issuing α) (scene : Scene)
    (post : Except AcmeError α → Scene → Prop) : Prop :=
  ∀ start, start = scene →
    Program.Throughout Scene.respond (fun _ => True) program.run start post

namespace Performs

variable {α β : Type} {scene : Scene} {post : Except AcmeError β → Scene → Prop}

theorem mono {program : ExceptT AcmeError Issuing β} {strong : Except AcmeError β → Scene → Prop}
    (performs : Performs program scene strong)
    (weaker : ∀ result after, strong result after → post result after) :
    Performs program scene post :=
  fun start isStart => (performs start isStart).mono weaker

theorem pure {value : β} (holds : post (.ok value) scene) :
    Performs (Pure.pure value) scene post := by
  rintro start rfl
  exact holds

theorem throw {failure : AcmeError} (holds : post (.error failure) scene) :
    Performs (throw failure) scene post := by
  rintro start rfl
  exact holds

theorem bind {program : ExceptT AcmeError Issuing α}
    {continuation : α → ExceptT AcmeError Issuing β} (middle : α → Scene → Prop)
    (first : Performs program scene fun result after =>
      match result with
      | .ok value => middle value after
      | .error failure => post (.error failure) after)
    (rest : ∀ value after, middle value after → Performs (continuation value) after post) :
    Performs (program >>= continuation) scene post := by
  rintro start rfl
  have continues : ∀ value after, middle value after →
      Program.Throughout Scene.respond (fun _ => True) (continuation value).run after post :=
    fun value after holds => rest value after holds after rfl
  refine Program.Throughout.bindExcept ((first start rfl).mono ?_) continues
  rintro (failure | value) after outcome
  · exact outcome
  · exact outcome

theorem disk {program : ExceptT AcmeError Disk β} {ends : Except AcmeError β → Contents → Prop}
    (keeps : Keeps Anywhere program scene.world.contents ends)
    (weaker : ∀ result world, ends result world.contents → post result (scene.withWorld world)) :
    Performs (Acme.onDisk program) scene post := by
  rintro start rfl
  exact Program.Throughout.inl (fun _ _ _ => rfl) (fun _ _ => rfl) (fun _ _ _ => rfl)
    (fun _ => rfl) ((keeps start.world rfl).mono weaker)

theorem onDisk {program : ExceptT AcmeError Disk α}
    {continuation : α → ExceptT AcmeError Issuing β}
    {ends : Except AcmeError α → Contents → Prop}
    (keeps : Keeps Anywhere program scene.world.contents ends)
    (failed : ∀ failure world, ends (.error failure) world.contents →
      post (.error failure) (scene.withWorld world))
    (continues : ∀ value world, ends (.ok value) world.contents →
      Performs (continuation value) (scene.withWorld world) post) :
    Performs (Acme.onDisk program >>= continuation) scene post := by
  refine Performs.bind (fun value after => ∃ world, ends (.ok value) world.contents ∧
    after = scene.withWorld world) (Performs.disk keeps ?_) ?_
  · rintro (failure | value) world outcome
    · exact failed failure world outcome
    · exact ⟨world, outcome, rfl⟩
  · rintro value after ⟨world, outcome, rfl⟩
    exact continues value world outcome

theorem net {op : NetOp} {continuation : op.Answer → ExceptT AcmeError Issuing β}
    (continues : ∀ answer, Performs (continuation answer) (scene.after op) post) :
    Performs (Acme.net op >>= continuation) scene post := by
  rintro start rfl
  exact ⟨trivial, fun reply => continues (reply.net op) _ rfl⟩

theorem given {result : Except AcmeError α} {continuation : α → ExceptT AcmeError Issuing β}
    (failed : ∀ failure, result = .error failure → post (.error failure) scene)
    (continues : ∀ value, result = .ok value → Performs (continuation value) scene post) :
    Performs (Acme.given result >>= continuation) scene post := by
  cases result with
  | ok value => exact continues value rfl
  | error failure => exact Performs.throw (failed failure rfl)

theorem attempted {program : ExceptT AcmeError Issuing α}
    {continuation : Except AcmeError α → ExceptT AcmeError Issuing β}
    (first : Performs program scene fun result after => Performs (continuation result) after post) :
    Performs (Acme.attempted program >>= continuation) scene post := by
  rintro start rfl
  apply Program.Throughout.bind
  apply Program.Throughout.bind
  exact (first start rfl).mono fun result after continues => continues after rfl

theorem holding {program : ExceptT AcmeError Issuing β} (first : Performs program scene post) :
    Performs (Acme.holding program) scene post := by
  refine Performs.attempted (first.mono fun result after ended => ?_)
  refine Performs.net fun _ => ?_
  cases result with
  | ok value => exact Performs.pure ended
  | error failure => exact Performs.throw ended

end Performs

/-! ## What a call comes to -/

/-- The failure record is gone. -/
def Cleared (holds : Contents → Prop) (contents : Contents) : Prop :=
  ∃ kept, holds kept ∧
    (contents = kept.remove .failure ∨ kept.file .failure = none ∧ contents = kept)

/-- The ends of a renewal: at the gates, at the lock, or after its issuance. -/
inductive RenewalEnd (libraries : Libraries) (policy : AcmeRenewalPolicy) (now : UInt64)
    (holds : Contents → Prop) (before : Contents) (result : Except AcmeError AcmeRenewalOutcome)
    (scene : Scene) : Prop
  | failed (failure : AcmeError) (isResult : result = .error failure)
      (same : scene.world.contents = before) (uncontacted : scene.contacted = false)
  | gated (status : CertificateLifecycleStatus) (outcome : AcmeRenewalOutcome)
      (isResult : result = .ok outcome) (shows_ : Shows libraries policy now before status)
      (gate : renewalGate status now = some outcome) (same : scene.world.contents = before)
      (uncontacted : scene.contacted = false) (untried : scene.lockTried = false)
  | busy (status : CertificateLifecycleStatus) (isResult : result = .ok (.deferred status))
      (shows_ : Shows libraries policy now before status)
      (gate : renewalGate status now = none) (same : scene.world.contents = before)
      (uncontacted : scene.contacted = false) (tried : scene.lockTried = true)
  | renewed (status : CertificateLifecycleStatus) (shows_ : Shows libraries policy now before status)
      (gate : renewalGate status now = none) (tried : scene.lockTried = true)
      (isResult : ∀ outcome, result = .ok outcome → ∃ issued status, outcome = .renewed issued status)
      (cleared : Cleared holds scene.world.contents)
  | recorded (status : CertificateLifecycleStatus)
      (shows_ : Shows libraries policy now before status) (gate : renewalGate status now = none)
      (failure : AcmeError) (isResult : result = .error failure)
      (kept : Contents) (holds_ : holds kept)
      (records : Recorded libraries now policy (classifyAcmeFailure failure.text) failure.text kept
        scene.world.contents)
  | unrecorded (status : CertificateLifecycleStatus)
      (shows_ : Shows libraries policy now before status) (gate : renewalGate status now = none)
      (failure : AcmeError) (isResult : result = .error failure)
      (kept : holds scene.world.contents)

section

variable {holds : Contents → Prop} {scene : Scene}

private theorem startServer_performs :
    Performs (startServer libraries config) scene fun _ after => after = scene := by
  unfold startServer
  generalize validateSingleAsciiFqdn libraries config.fqdn = fqdn
  refine Performs.given (fun _ _ => rfl) fun _ _ => ?_
  refine Performs.net fun bound => ?_
  refine Performs.given (fun _ _ => rfl) fun _ _ => ?_
  refine Performs.net fun nonblocking => ?_
  refine Performs.given (fun _ _ => rfl) fun _ _ => ?_
  refine Performs.net fun address => ?_
  refine Performs.given (fun _ _ => rfl) fun _ _ => ?_
  refine Performs.net fun spawned => ?_
  cases spawned with
  | ok => exact Performs.pure rfl
  | error detail => exact Performs.throw rfl

/-- What an issuance does to the failure record, and to conditions that hold apart from it. -/
theorem issue_performs (upkeep : Upkeep libraries holds) (here : holds scene.world.contents) :
    Performs (issueOnceWithStateAndIssuer libraries config policy now) scene
      fun result after =>
        after.lockTried = scene.lockTried ∧
          match result with
          | .ok _ => Cleared holds after.world.contents
          | .error _ => holds after.world.contents := by
  have serves := @startServer_performs libraries config scene
  unfold issueOnceWithStateAndIssuer
  generalize startServer libraries config = server at serves ⊢
  refine Performs.bind (fun _ after => after = scene) (serves.mono ?_) ?_
  · rintro (failure | done) after isAfter
    · rw [isAfter]
      exact ⟨rfl, here⟩
    · exact isAfter
  rintro done after isAfter
  rw [isAfter]
  refine Performs.net fun issued => ?_
  refine Performs.given (fun _ _ => ⟨rfl, here⟩) fun issued _ => ?_
  have persisting : Performs (do
      onDisk (persist libraries issued policy now)
      onDisk clearFailure
      net .clearStore
      return issued) (scene.after .issuer) fun result after =>
        after.lockTried = scene.lockTried ∧
          match result with
          | .ok _ => Cleared holds after.world.contents
          | .error _ => holds after.world.contents := by
    refine Performs.onDisk (persist_upkeep upkeep here issued)
      (fun failure world kept => ⟨rfl, kept⟩) fun _ world kept => ?_
    refine Performs.onDisk clearFailure_keeps (fun failure next outcome => ⟨rfl, ?_⟩)
      fun _ next outcome => ?_
    · change holds next.contents
      rw [outcome]
      exact kept
    · exact Performs.net fun _ => Performs.pure ⟨rfl, world.contents, kept, outcome⟩
  dsimp only
  split
  · exact Performs.throw ⟨rfl, here⟩
  · exact persisting

private theorem tryIssuanceLock_performs :
    Performs tryIssuanceLock scene fun result after =>
      after.world = scene.world ∧ after.contacted = scene.contacted ∧
        ∀ lock, result = .ok lock → after.lockTried = true := by
  refine Performs.net fun opened => ?_
  refine Performs.given (fun _ _ => ⟨rfl, rfl, fun _ wrong => nomatch wrong⟩) fun _ _ => ?_
  refine Performs.net fun answer => ?_
  cases answer with
  | acquired => exact Performs.pure ⟨rfl, rfl, fun _ _ => rfl⟩
  | wouldBlock => exact Performs.pure ⟨rfl, rfl, fun _ _ => rfl⟩
  | failed detail => exact Performs.throw ⟨rfl, rfl, fun _ wrong => nomatch wrong⟩

/-- The ends of an admission. -/
private def Admitted (libraries : Libraries) (policy : AcmeRenewalPolicy) (now : UInt64)
    (before : Contents) : Except AcmeError (AcmeRenewalOutcome ⊕ UInt64) → Scene → Prop
  | .error _, after => after.world.contents = before ∧ after.contacted = false
  | .ok (.inl outcome), after => after.world.contents = before ∧ after.contacted = false ∧
      ∃ status, Shows libraries policy now before status ∧
        (renewalGate status now = some outcome ∧ after.lockTried = false ∨
          renewalGate status now = none ∧ outcome = .deferred status ∧ after.lockTried = true)
  | .ok (.inr admitted), after => admitted = now ∧ after.world.contents = before ∧
      after.lockTried = true ∧
      ∃ status, Shows libraries policy now before status ∧ renewalGate status now = none

private theorem admission_performs (untried : scene.lockTried = false)
    (uncontacted : scene.contacted = false) :
    Performs (admission libraries config policy (pure now)) scene
      (Admitted libraries policy now scene.world.contents) := by
  unfold admission
  refine Performs.onDisk (prepare_keeps config.stateDir trivial)
    (fun failure world same => ⟨same, uncontacted⟩) fun _ world same => ?_
  refine Performs.bind (fun time after => time = now ∧ after = scene.withWorld world)
    (Performs.pure ⟨rfl, rfl⟩) ?_
  rintro time after ⟨rfl, rfl⟩
  refine Performs.onDisk status_keeps
    (fun failure last outcome => ⟨outcome.1.trans same, uncontacted⟩) fun status last outcome => ?_
  obtain ⟨unchanged, shown⟩ := outcome
  have shown : Shows libraries policy time scene.world.contents status := by
    rw [← same]
    exact shown status rfl
  cases gate : renewalGate status time with
  | some outcome =>
      exact Performs.pure
        ⟨unchanged.trans same, uncontacted, status, shown, .inl ⟨gate, untried⟩⟩
  | none =>
      refine Performs.bind (fun lock after => after.world.contents = scene.world.contents ∧
        after.contacted = false ∧ after.lockTried = true) (tryIssuanceLock_performs.mono ?_) ?_
      · rintro (failure | lock) after ⟨isWorld, isContacted, tried⟩
        · exact ⟨(congrArg World.contents isWorld).trans (unchanged.trans same),
            isContacted.trans uncontacted⟩
        · exact ⟨(congrArg World.contents isWorld).trans (unchanged.trans same),
            isContacted.trans uncontacted, tried lock rfl⟩
      rintro (held | busy) after ⟨isContents, isContacted, tried⟩
      · exact Performs.pure ⟨rfl, isContents, tried, status, shown, gate⟩
      · exact Performs.pure
          ⟨isContents, isContacted, status, shown, .inr ⟨gate, rfl, tried⟩⟩

theorem renewal_ends (upkeep : Upkeep libraries holds) (here : holds scene.world.contents)
    (untried : scene.lockTried = false) (uncontacted : scene.contacted = false) :
    Performs (renewOnceWithIssuer libraries config policy now) scene
      (RenewalEnd libraries policy now holds scene.world.contents) := by
  have issues (time : UInt64) (scene : Scene) (here : holds scene.world.contents) :=
    @issue_performs libraries config policy time holds scene upkeep here
  unfold renewOnceWithIssuer renewOnce
  generalize issueOnceWithStateAndIssuer libraries config policy = issue at issues ⊢
  refine Performs.bind (fun admitted after => Admitted libraries policy now scene.world.contents
    (.ok admitted) after) ((admission_performs untried uncontacted).mono ?_) ?_
  · rintro (failure | admitted) after ended
    · exact .failed failure rfl ended.1 ended.2
    · exact ended
  rintro (outcome | admitted) after ended
  · obtain ⟨same, uncontacted, status, shown, ended⟩ := ended
    rcases ended with ⟨gate, untried⟩ | ⟨gate, rfl, tried⟩
    · exact Performs.pure (.gated status outcome rfl shown gate same uncontacted untried)
    · exact Performs.pure (.busy status rfl shown gate same uncontacted tried)
  · obtain ⟨rfl, same, tried, status, shown, gate⟩ := ended
    refine Performs.holding (Performs.attempted ?_)
    have holdsHere : holds after.world.contents := by
      rw [same]
      exact here
    refine (issues admitted after holdsHere).mono ?_
    rintro (failure | issued) issuedScene ⟨isTried, ended⟩
    · refine Performs.onDisk (recordFailure_keeps _ _) (fun second world unchanged => ?_)
        fun _ world recorded => Performs.throw ?_
      · refine .unrecorded status shown gate second rfl ?_
        change holds world.contents
        rw [unchanged]
        exact ended
      · exact .recorded status shown gate failure rfl _ ended recorded
    · refine Performs.bind (fun _ middle => middle = issuedScene) (Performs.pure rfl) ?_
      rintro time middle rfl
      have cleared {world : World} (unchanged : world.contents = middle.world.contents) :
          Cleared holds world.contents := by
        rw [unchanged]
        exact ended
      refine Performs.onDisk status_keeps (fun second world outcome => ?_)
        fun last world outcome => Performs.pure ?_
      · exact .renewed status shown gate (isTried.trans tried) (fun _ wrong => nomatch wrong)
          (cleared outcome.1)
      · refine .renewed status shown gate (isTried.trans tried) ?_ (cleared outcome.1)
        rintro outcome ⟨⟩
        exact ⟨issued, last, rfl⟩

/-- A manual issuance, under the lock. -/
theorem manualIssue_ends (upkeep : Upkeep libraries holds) (here : holds scene.world.contents) :
    Performs (issueOnceWithIssuer libraries config) scene fun result after =>
      match result with
      | .ok _ => Cleared holds after.world.contents
      | .error _ => holds after.world.contents := by
  have issues (time : UInt64) (scene : Scene) (here : holds scene.world.contents) :=
    @issue_performs libraries config .standard time holds scene upkeep here
  unfold issueOnceWithIssuer
  generalize issueOnceWithStateAndIssuer libraries config .standard = issue at issues ⊢
  have kept {contents : Contents} (same : contents = scene.world.contents) : holds contents := by
    rw [same]
    exact here
  refine Performs.onDisk (prepare_keeps config.stateDir trivial)
    (fun failure world same => kept same) fun _ world same => ?_
  refine Performs.bind (fun _ after => holds after.world.contents)
    (tryIssuanceLock_performs.mono ?_) ?_
  · rintro (failure | lock) after ⟨isWorld, -, -⟩
    · exact kept ((congrArg World.contents isWorld).trans same)
    · exact kept ((congrArg World.contents isWorld).trans same)
  rintro (held | busy) after here
  · refine Performs.holding (Performs.net fun time => (issues time after here).mono ?_)
    rintro (failure | issued) last ⟨-, ended⟩
    · exact ended
    · exact ended
  · exact Performs.throw here

theorem rollbackCall_ends {reason : String} (upkeep : Upkeep libraries holds)
    (here : holds scene.world.contents) :
    Performs (onDisk (rollbackToRetainedPair libraries config.stateDir now reason)) scene
      fun result after =>
        match result with
        | .ok () => RolledBack libraries now reason scene.world.contents after.world.contents ∧
            ∃ noted, holds noted ∧
              Recorded libraries now .standard "reload-rolled-back" reason noted
                after.world.contents
        | .error _ => holds after.world.contents := by
  refine Performs.disk (rollback_upkeep upkeep here reason) ?_
  rintro (failure | done) world ended
  · exact ended
  · exact ended

theorem consumeCall_ends (upkeep : Upkeep libraries holds) (here : holds scene.world.contents) :
    Performs (onDisk (consumeReloadMarker config.stateDir)) scene
      fun _ after => holds after.world.contents :=
  Performs.disk (consumeReloadMarker_upkeep upkeep here) fun _ _ ended => ended

end

/-! ## The machine -/

/-- A recorded failure, with the policy its backoff was computed by. -/
structure RecordedFailure where
  time : UInt64
  kind : String
  policy : AcmeRenewalPolicy
deriving DecidableEq

/-- The directory, and the failures recorded since the last success or clear, the latest first. -/
structure Ledger where
  world : World
  failures : List RecordedFailure

inductive LedgerAction where
  | renew (now : UInt64) (replies : List Reply)
  | issue (replies : List Reply)
  | rollback (now : UInt64) (reason : String) (replies : List Reply)
  | consumeMarker (replies : List Reply)
  /-- The operator deletes the failure record. -/
  | clear

/-- A call from the start to the end of its replies. -/
def World.call {α : Type} (world : World) (program : ExceptT AcmeError Issuing α)
    (replies : List Reply) : Scene × Option (Except AcmeError α) :=
  let ran := Program.replay Scene.respond program.run ⟨world.fresh, false, false⟩ replies
  (ran.1, ran.2.map Prod.fst)

namespace Ledger

def initial (world : World) : Ledger :=
  ⟨world, []⟩

/-- The failures that stand after a renewal. A failure is recorded where the record was written. -/
def renewed (failures : List RecordedFailure) (policy : AcmeRenewalPolicy) (now : UInt64)
    (contents : Contents) : Except AcmeError AcmeRenewalOutcome → List RecordedFailure
  | .ok (.renewed _ _) => []
  | .ok (.notDue _) | .ok (.deferred _) => failures
  | .error failure =>
      if .failure ∈ contents.changed then
        if (contents.file .failure).isSome then
          ⟨now, classifyAcmeFailure failure.text, policy⟩ :: failures
        else []
      else failures

/-- Each call returns; the renewals go by one policy. -/
def step (libraries : Libraries) (config : AcmeIssueConfig) (policy : AcmeRenewalPolicy)
    (ledger : Ledger) : LedgerAction → Option Ledger
  | .renew now replies =>
      match ledger.world.call (renewOnceWithIssuer libraries config policy now) replies with
      | (scene, some result) =>
          some ⟨scene.world, renewed ledger.failures policy now scene.world.contents result⟩
      | (_, none) => none
  | .issue replies =>
      match ledger.world.call (issueOnceWithIssuer libraries config) replies with
      | (scene, some (.ok _)) => some ⟨scene.world, []⟩
      | (scene, some (.error _)) => some ⟨scene.world, ledger.failures⟩
      | (_, none) => none
  | .rollback now reason replies =>
      match ledger.world.call (onDisk (rollbackToRetainedPair libraries config.stateDir now reason))
          replies with
      | (scene, some (.ok ())) =>
          some ⟨scene.world, ⟨now, "reload-rolled-back", .standard⟩ :: ledger.failures⟩
      | (scene, some (.error _)) => some ⟨scene.world, ledger.failures⟩
      | (_, none) => none
  | .consumeMarker replies =>
      match ledger.world.call (onDisk (consumeReloadMarker config.stateDir)) replies with
      | (scene, some _) => some ⟨scene.world, ledger.failures⟩
      | (_, none) => none
  | .clear => some ⟨{ ledger.world with contents := ledger.world.contents.remove .failure }, []⟩

end Ledger

/-! ## The record -/

/-- The failure record is of the latest failure, and counts them all. -/
def Records (libraries : Libraries) (contents : Contents) : List RecordedFailure → Prop
  | [] => contents.file .failure = none
  | latest :: earlier =>
      ∃ bytes value nextAttempt,
        contents.file .failure = some bytes ∧ libraries.fromSlice bytes = .ok value ∧
        jsonString value "kind" = some latest.kind ∧
        jsonU64 value "failure_count" = some (U64.clamp (earlier.length + 1)) ∧
        jsonU64 value "next_attempt_epoch_seconds" = some nextAttempt ∧
        nextAttemptAfterFailure latest.time (U64.clamp (earlier.length + 1)) latest.policy
          latest.kind none = some nextAttempt

section

variable {contents after : Contents} {failures : List RecordedFailure}

private theorem records_same (records : Records libraries contents failures)
    (same : after.file .failure = contents.file .failure) : Records libraries after failures := by
  cases failures with
  | nil => exact same.trans records
  | cons latest earlier =>
      obtain ⟨bytes, value, nextAttempt, found, decoded⟩ := records
      exact ⟨bytes, value, nextAttempt, same.trans found, decoded⟩

private theorem eq_nil_of_missing (records : Records libraries contents failures)
    (missing : contents.file .failure = none) : failures = [] := by
  cases failures with
  | nil => rfl
  | cons latest earlier =>
      obtain ⟨bytes, value, nextAttempt, found, -⟩ := records
      rw [missing] at found
      cases found

/-- What a record states of the number of failures. -/
theorem recordedFailures_of_records (records : Records libraries contents failures)
    {previous : Option Json} (decodes : Decodes libraries contents .failure previous) :
    recordedFailures previous = U64.clamp failures.length := by
  unfold Decodes at decodes
  cases failures with
  | nil =>
      rw [show contents.file .failure = none from records] at decodes
      cases previous with
      | none => rfl
      | some value => exact decodes.elim
  | cons latest earlier =>
      obtain ⟨bytes, value, nextAttempt, found, decoded, -, counts, -⟩ := records
      rw [found] at decodes
      cases previous with
      | none => exact decodes.elim
      | some previous =>
          cases decoded.symm.trans decodes
          simp only [recordedFailures, Option.bind_some, counts, Option.getD_some,
            List.length_cons]

private theorem clamp_succ (count : Nat) :
    U64.saturatingAdd (U64.clamp count) 1 = U64.clamp (count + 1) := by
  apply UInt64.toNat_inj.mp
  rw [U64.saturatingAdd_toNat, U64.clamp_toNat, U64.clamp_toNat,
    show (1 : UInt64).toNat = 1 from rfl]
  omega

/-- One more record. -/
theorem records_recorded (records : Records libraries contents failures) {kept : Contents}
    (same : kept.file .failure = contents.file .failure) {kind message : String}
    (recorded : Recorded libraries now policy kind message kept after) :
    Records libraries after (⟨now, kind, policy⟩ :: failures) ∧
      .failure ∈ after.changed ∧ (after.file .failure).isSome = true := by
  obtain ⟨previous, nextAttempt, text, decodes, isNext, encoded, rfl⟩ := recorded
  rw [recordedFailures_of_records (records_same records same) decodes, clamp_succ] at isNext encoded
  obtain ⟨value, decoded, sameFields⟩ := libraries.reads_back _ text encoded
  refine ⟨⟨utf8 text, value, nextAttempt, Contents.file_rename, decoded, ?_, ?_, ?_, isNext⟩,
    List.mem_cons_self, by rw [Contents.file_rename]; rfl⟩
  · rw [jsonString, sameFields]
    rfl
  · rw [jsonU64, sameFields]
    rfl
  · rw [jsonU64, sameFields]
    rfl

/-! ## One step -/

/-- A call that returns satisfies what its program performs. -/
theorem performs_call {α : Type} {program : ExceptT AcmeError Issuing α} {world : World}
    {replies : List Reply} {scene : Scene} {result : Except AcmeError α}
    {post : Except AcmeError α → Scene → Prop}
    (performs : Performs program ⟨world.fresh, false, false⟩ post)
    (called : world.call program replies = (scene, some result)) : post result scene := by
  simp only [World.call, Prod.mk.injEq, Option.map_eq_some_iff] at called
  obtain ⟨rfl, ⟨value, rest⟩, returned, rfl⟩ := called
  exact ((performs _ rfl).replay replies).1 value rest returned

/-- The end of a renewal that returned. -/
theorem renewal_end {holds : Contents → Prop} (upkeep : Upkeep libraries holds) {world : World}
    (here : holds world.fresh.contents) {replies : List Reply} {scene : Scene}
    {result : Except AcmeError AcmeRenewalOutcome}
    (called : world.call (renewOnceWithIssuer libraries config policy now) replies =
      (scene, some result)) :
    RenewalEnd libraries policy now holds world.fresh.contents result scene := by
  have performs := @renewal_ends libraries config policy now holds ⟨world.fresh, false, false⟩
    upkeep here rfl rfl
  exact performs_call performs called

private theorem records_cleared {world : World} {kept : Contents} (after : Contents)
    (records : Records libraries world.contents failures)
    (same : SameRecord world.fresh.contents kept)
    (cleared : after = kept.remove .failure ∨ kept.file .failure = none ∧ after = kept) :
    after.file .failure = none ∧ (.failure ∈ after.changed ∨ failures = []) := by
  obtain rfl | ⟨missing, rfl⟩ := cleared
  · exact ⟨Contents.file_remove, .inl List.mem_cons_self⟩
  · exact ⟨missing, .inr (eq_nil_of_missing records (same.1.symm.trans missing))⟩

private theorem records_renewed {world : World} {scene : Scene}
    {result : Except AcmeError AcmeRenewalOutcome}
    (records : Records libraries world.contents failures)
    (ended : RenewalEnd libraries policy now (SameRecord world.fresh.contents)
      world.fresh.contents result scene) :
    Records libraries scene.world.contents
      (Ledger.renewed failures policy now scene.world.contents result) := by
  have unchanged {contents : Contents} (same : contents = world.fresh.contents) :
      .failure ∉ contents.changed := by
    rw [same]
    exact List.not_mem_nil
  cases ended with
  | failed failure isResult same uncontacted =>
      simp only [isResult, Ledger.renewed, if_neg (unchanged same)]
      exact records_same records (congrArg (·.file .failure) same)
  | gated status outcome isResult shows_ gate same uncontacted untried =>
      have kept := records_same records (congrArg (·.file .failure) same)
      obtain rfl | rfl := gate_not_renewed gate
      · rw [isResult]
        exact kept
      · rw [isResult]
        exact kept
  | busy status isResult shows_ gate same uncontacted tried =>
      rw [isResult]
      exact records_same records (congrArg (·.file .failure) same)
  | renewed status shows_ gate tried isResult cleared =>
      obtain ⟨kept, same, cleared⟩ := cleared
      obtain ⟨missing, changed⟩ := records_cleared scene.world.contents records same cleared
      cases result with
      | ok outcome =>
          obtain ⟨issued, last, rfl⟩ := isResult outcome rfl
          exact missing
      | error failure =>
          simp only [Ledger.renewed, missing, Option.isSome_none, Bool.false_eq_true, if_false]
          split
          · exact missing
          · next unchanged =>
              rw [changed.resolve_left unchanged]
              exact missing
  | recorded status shows_ gate failure isResult kept same recorded =>
      obtain ⟨next, changed, present⟩ := records_recorded records same.1 recorded
      simp only [isResult, Ledger.renewed, if_pos changed, if_pos present]
      exact next
  | unrecorded status shows_ gate failure isResult same =>
      simp only [isResult, Ledger.renewed, if_neg same.2]
      exact records_same records same.1

theorem records_step {ledger next : Ledger} {action : LedgerAction}
    (records : Records libraries ledger.world.contents ledger.failures)
    (stepped : ledger.step libraries config policy action = some next) :
    Records libraries next.world.contents next.failures := by
  have same : SameRecord ledger.world.fresh.contents ledger.world.fresh.contents :=
    ⟨rfl, List.not_mem_nil⟩
  have upkeep := @upkeep_sameRecord libraries ledger.world.fresh.contents
  cases action with
  | renew now replies =>
      simp only [Ledger.step] at stepped
      split at stepped
      · next scene result called =>
          cases stepped
          exact records_renewed records (renewal_end upkeep same called)
      · cases stepped
  | issue replies =>
      simp only [Ledger.step] at stepped
      split at stepped
      · next scene issued called =>
          cases stepped
          obtain ⟨kept, keptSame, cleared⟩ := performs_call (manualIssue_ends upkeep same) called
          exact (records_cleared scene.world.contents records keptSame cleared).1
      · next scene failure called =>
          cases stepped
          exact records_same records (performs_call (manualIssue_ends upkeep same) called).1
      · cases stepped
  | rollback now reason replies =>
      simp only [Ledger.step] at stepped
      split at stepped
      · next scene called =>
          cases stepped
          obtain ⟨-, noted, notedSame, recorded⟩ :=
            performs_call (rollbackCall_ends upkeep same) called
          exact (records_recorded records notedSame.1 recorded).1
      · next scene failure called =>
          cases stepped
          exact records_same records (performs_call (rollbackCall_ends upkeep same) called).1
      · cases stepped
  | consumeMarker replies =>
      simp only [Ledger.step] at stepped
      split at stepped
      · next scene result called =>
          cases stepped
          exact records_same records (performs_call (consumeCall_ends upkeep same) called).1
      · cases stepped
  | clear =>
      cases stepped
      exact Contents.file_remove

/-- The record after every run from a directory without one. -/
theorem records_exec {world : World} (unrecorded : world.contents.file .failure = none)
    {actions : List LedgerAction} {ledger : Ledger}
    (ran : Machine.exec (Ledger.step libraries config policy) (Ledger.initial world) actions =
      some ledger) :
    Records libraries ledger.world.contents ledger.failures := by
  have kept : ∀ (ledger : Ledger) (action : LedgerAction) (next : Ledger),
      Records libraries ledger.world.contents ledger.failures →
      ledger.step libraries config policy action = some next →
      Records libraries next.world.contents next.failures :=
    fun _ _ _ records stepped => records_step records stepped
  have initial : Records libraries (Ledger.initial world).world.contents
      (Ledger.initial world).failures := unrecorded
  exact @Machine.invariant_of_exec _ _ _
    (fun ledger => Records libraries ledger.world.contents ledger.failures) kept _ _ _ initial ran

/-! ## Legible metadata -/

private theorem legible_ended {after : Contents}
    (ended : Cleared (Legible libraries) after) : Legible libraries after := by
  obtain ⟨kept, legible, rfl | ⟨-, rfl⟩⟩ := ended
  · exact legible_removed legible .failure
  · exact legible

private theorem legible_recorded {kind message : String} {kept : Contents}
    (legible : Legible libraries kept)
    (recorded : Recorded libraries now policy kind message kept after) :
    Legible libraries after := by
  obtain ⟨previous, nextAttempt, text, -, -, encoded, rfl⟩ := recorded
  exact legible_encoded legible .failure encoded

private theorem legible_renewed {world : World} {scene : Scene}
    {result : Except AcmeError AcmeRenewalOutcome}
    (legible : Legible libraries world.fresh.contents)
    (ended : RenewalEnd libraries policy now (Legible libraries) world.fresh.contents result
      scene) : Legible libraries scene.world.contents := by
  cases ended with
  | failed failure isResult same uncontacted => rwa [same]
  | gated status outcome isResult shown gate same uncontacted untried => rwa [same]
  | busy status isResult shown gate same uncontacted tried => rwa [same]
  | renewed status shown gate tried isResult cleared => exact legible_ended cleared
  | recorded status shown gate failure isResult kept legible recorded =>
      exact legible_recorded legible recorded
  | unrecorded status shown gate failure isResult kept => exact kept

theorem legible_step {ledger next : Ledger} {action : LedgerAction}
    (legible : Legible libraries ledger.world.contents)
    (stepped : ledger.step libraries config policy action = some next) :
    Legible libraries next.world.contents := by
  have here : Legible libraries ledger.world.fresh.contents := legible
  have upkeep := @upkeep_legible libraries
  cases action with
  | renew now replies =>
      simp only [Ledger.step] at stepped
      split at stepped
      · next scene result called =>
          cases stepped
          exact legible_renewed here (renewal_end upkeep here called)
      · cases stepped
  | issue replies =>
      simp only [Ledger.step] at stepped
      split at stepped
      · next scene issued called =>
          cases stepped
          exact legible_ended (performs_call (manualIssue_ends upkeep here) called)
      · next scene failure called =>
          cases stepped
          exact performs_call (manualIssue_ends upkeep here) called
      · cases stepped
  | rollback now reason replies =>
      simp only [Ledger.step] at stepped
      split at stepped
      · next scene called =>
          cases stepped
          obtain ⟨-, noted, kept, recorded⟩ :=
            performs_call (rollbackCall_ends upkeep here) called
          exact legible_recorded kept recorded
      · next scene failure called =>
          cases stepped
          exact performs_call (rollbackCall_ends upkeep here) called
      · cases stepped
  | consumeMarker replies =>
      simp only [Ledger.step] at stepped
      split at stepped
      · next scene result called =>
          cases stepped
          exact performs_call (consumeCall_ends upkeep here) called
      · cases stepped
  | clear =>
      cases stepped
      exact legible_removed legible .failure

theorem legible_exec {world : World} (legible : Legible libraries world.contents)
    {actions : List LedgerAction} {ledger : Ledger}
    (ran : Machine.exec (Ledger.step libraries config policy) (Ledger.initial world) actions =
      some ledger) :
    Legible libraries ledger.world.contents := by
  have kept : ∀ (ledger : Ledger) (action : LedgerAction) (next : Ledger),
      Legible libraries ledger.world.contents →
      ledger.step libraries config policy action = some next →
      Legible libraries next.world.contents :=
    fun _ _ _ legible stepped => legible_step legible stepped
  have initial : Legible libraries (Ledger.initial world).world.contents := legible
  exact @Machine.invariant_of_exec _ _ _
    (fun ledger => Legible libraries ledger.world.contents) kept _ _ _ initial ran

end

end Oxo.Edge.Acme
