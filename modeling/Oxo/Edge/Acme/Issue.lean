import Oxo.Edge.Acme.State
import Oxo.Foundation.IpAddr

/-!
Contract: ACME issuance and renewal (`oxo-pingora-edge/src/acme/issue.rs`), with the checks
of the challenge listener and store that it goes through (`acme/challenge.rs`).

Owns: the operations beyond the state directory (the issuance lock, the clock, the
challenge listener and store, the certificate authority), the two issuance functions and
the two renewal functions over them.

Does not own: the authority or the HTTP client. Each of their requests is one operation.
-/

namespace Oxo.Edge.Acme

open Oxo.Foundation

structure AcmeIssueConfig where
  fqdn : String
  httpBind : String
  stateDir : String
  directoryUrl : String
  contacts : List String
  termsOfServiceAgreed : Bool

/-! ## Operations -/

/-- `ChallengeType::Http01` of an authorization. -/
structure Challenge where
  token : String
  keyAuthorization : String

inductive OrderStatus where
  | pending
  | ready
  | processing
  | valid
  | invalid
deriving DecidableEq

/-- `Debug`. -/
def OrderStatus.text : OrderStatus → String
  | .pending => "Pending"
  | .ready => "Ready"
  | .processing => "Processing"
  | .valid => "Valid"
  | .invalid => "Invalid"

/-- What is asked of the authority. A new order answers how many authorizations it has, a new
account what its credentials encode to. -/
inductive CaRequest where
  | fromCredentials (json : List UInt8)
  | create (contacts : List String) (termsOfServiceAgreed : Bool) (directoryUrl : String)
  | newOrder (fqdn : String)
  | authorization (index : Nat)
  | setReady (index : Nat)
  | pollReady
  | finalize
  | pollCertificate
deriving DecidableEq

@[reducible] def CaRequest.Answer : CaRequest → Type
  | .fromCredentials _ | .setReady _ => Except String Unit
  | .create _ _ _ => Except String (Except String (List UInt8))
  | .newOrder _ => Except String Nat
  | .authorization _ => Except String (Option Challenge)
  | .pollReady => Except String OrderStatus
  | .finalize | .pollCertificate => Except String String

inductive LockAnswer where
  | acquired
  | wouldBlock
  | failed (detail : String)

/-- The steps of opening the challenge listener. -/
inductive ListenerStep where
  | bind
  | setNonblocking
  | localAddr
  | spawn

inductive NetOp where
  | openLock
  | tryLock
  | unlock
  | now
  | listener (step : ListenerStep)
  | provision (challenge : Challenge)
  | clearStore
  /-- The HTTP client is built. -/
  | accountBuilder
  /-- The injected issuer is called. -/
  | issuer
  | ca (request : CaRequest)

@[reducible] def NetOp.Answer : NetOp → Type
  | .openLock | .listener _ | .accountBuilder => Except String Unit
  | .tryLock => LockAnswer
  | .unlock | .provision _ | .clearStore => Unit
  | .now => UInt64
  | .issuer => Except AcmeError IssuedCertificate
  | .ca request => request.Answer

abbrev Issuing := Program (DiskOp ⊕ NetOp) (Sum.elim DiskOp.Answer NetOp.Answer)

abbrev onDisk {α : Type} (program : ExceptT AcmeError Disk α) : ExceptT AcmeError Issuing α :=
  ExceptT.mk (Program.inl program.run)

def net (op : NetOp) : ExceptT AcmeError Issuing op.Answer :=
  ExceptT.lift (Program.call (.inr op) Program.pure)

abbrev given {α : Type} (result : Except AcmeError α) : ExceptT AcmeError Issuing α :=
  ExceptT.mk (pure result)

/-- The result of a program that may fail. -/
abbrev attempted {α : Type} (program : ExceptT AcmeError Issuing α) :
    ExceptT AcmeError Issuing (Except AcmeError α) :=
  ExceptT.lift program.run

/-! ## Challenges -/

def validateSingleAsciiFqdn (libraries : Libraries) (value : String) : Except AcmeError String := do
  let fqdn := toAsciiLowercase (trimEndMatches (· == '.') (trim value))
  if fqdn = "" ∨ (utf8 fqdn).length > 253 then
    .error (.invalidConfig "FQDN must be a non-empty ASCII DNS name up to 253 bytes")
  else if fqdn.toList.any (fun char => 128 ≤ char.toNat) || startsWith fqdn "*." ||
      (IpAddr.parse fqdn).isSome then
    .error (.invalidConfig
      "ACME accepts one ASCII DNS FQDN only: no wildcard, IP, or Unicode input")
  else
    let labels := split fqdn '.'
    if labels.length < 2 then
      .error (.invalidConfig "FQDN must contain at least two DNS labels")
    else
      for label in labels do
        if label = "" || 63 < (utf8 label).length || label.toList.head? == some '-' ||
            label.toList.getLast? == some '-' ||
            !(utf8 label).all fun byte => isAsciiAlphanumeric byte || byte == 0x2d then
          .error (.invalidConfig
            ("invalid DNS label " ++ libraries.debugString label ++ " in ACME FQDN"))
      return fqdn

def validateHttp01Token (token : String) : Except AcmeError Unit :=
  if token = "" ∨ 256 < (utf8 token).length ∨
      (utf8 token).all (fun byte => isAsciiAlphanumeric byte || byte == 0x2d || byte == 0x5f) =
        false then
    .error (.invalidChallenge
      "HTTP-01 token must use non-empty base64url token grammar without padding")
  else .ok ()

/-- `Http01ChallengeStore::provision`. -/
def provision (challenge : Challenge) : ExceptT AcmeError Issuing Unit := do
  given (validateHttp01Token challenge.token)
  if challenge.keyAuthorization = "" ||
      (utf8 challenge.keyAuthorization).any fun byte => byte == 0x0d || byte == 0x0a || byte == 0 then
    throw (.invalidChallenge "key authorization must be a single non-empty line")
  net (.provision challenge)

/-- `Http01ChallengeServer::start`. -/
def startServer (libraries : Libraries) (config : AcmeIssueConfig) :
    ExceptT AcmeError Issuing Unit := do
  let _ ← given (validateSingleAsciiFqdn libraries config.fqdn)
  given ((← net (.listener .bind)).mapError (.bindChallenge config.httpBind))
  given ((← net (.listener .setNonblocking)).mapError
    (.io "set ACME challenge listener nonblocking"))
  given ((← net (.listener .localAddr)).mapError
    (.io "read ACME challenge listener address"))
  given ((← net (.listener .spawn)).mapError (.io "spawn ACME challenge listener"))

/-! ## The lock -/

inductive IssuanceLock where
  | held
  | busy
deriving DecidableEq

def tryIssuanceLock : ExceptT AcmeError Issuing IssuanceLock := do
  given ((← net .openLock).mapError (.io "open ACME issuance lock"))
  match ← net .tryLock with
  | .acquired => pure .held
  | .wouldBlock => pure .busy
  | .failed detail => throw (.io "acquire ACME issuance lock" detail)

/-- The rest of a function that holds the lock until it returns. -/
def holding {α : Type} (program : ExceptT AcmeError Issuing α) : ExceptT AcmeError Issuing α := do
  let result ← attempted program
  net .unlock
  given result

def anotherIssuance : AcmeError :=
  .invalidIssuance "another ACME issuance is in progress for this state directory"

/-! ## Issuance -/

def issueOnceWithStateAndIssuer (libraries : Libraries) (config : AcmeIssueConfig)
    (policy : AcmeRenewalPolicy) (now : UInt64) : ExceptT AcmeError Issuing IssuedCertificate := do
  startServer libraries config
  let issued ← given (← net .issuer)
  if issued.fqdn ≠ config.fqdn then
    throw (.invalidIssuance ("issuer returned certificate for " ++
      libraries.debugString issued.fqdn ++ ", expected " ++ libraries.debugString config.fqdn))
  onDisk (persist libraries issued policy now)
  onDisk clearFailure
  net .clearStore
  return issued

/-- `issue_once_with_issuer`. -/
def issueOnceWithIssuer (libraries : Libraries) (config : AcmeIssueConfig) :
    ExceptT AcmeError Issuing IssuedCertificate := do
  onDisk (prepare config.stateDir)
  match ← tryIssuanceLock with
  | .busy => throw anotherIssuance
  | .held => holding do
      issueOnceWithStateAndIssuer libraries config .standard (← net .now)

def ensureAccountDirectoryMatches (libraries : Libraries) (configured : String) :
    ExceptT AcmeError Disk Unit := do
  match ← readJsonIfPresent libraries .account with
  | none => pure ()
  | some value =>
      match jsonString value "directory" with
      | some stored =>
          if trimEndMatches (· == '/') stored ≠ trimEndMatches (· == '/') configured then
            throw (.invalidConfig ("account.json was created against ACME directory " ++
              libraries.debugString stored ++ " but " ++ libraries.debugString configured ++
              " is configured; use a fresh --acme-state-path for the new directory (or delete " ++
              "account.json to create a new account there)"))
      | none =>
          throw (.invalidConfig ("account.json does not record its ACME directory; delete it " ++
            "so a new account is created against the configured directory"))

/-- `map_err(instant_error)`. -/
def orInstant {α : Type} (result : Except String α) : ExceptT AcmeError Issuing α :=
  given (result.mapError .instantAcme)

def ca (request : CaRequest) : ExceptT AcmeError Issuing request.Answer :=
  net (.ca request)

def readAccount : ExceptT AcmeError Disk (List UInt8) := do
  orIo "read ACME account credentials" ((← disk (.read .account)).mapError IoError.detail)

/-- The stored account, or a new one whose credentials are stored. -/
def openAccount (libraries : Libraries) (config : AcmeIssueConfig) :
    ExceptT AcmeError Issuing Unit := do
  if ← onDisk (disk (.fileExists .account)) then
    let bytes ← onDisk readAccount
    given ((libraries.decodeCredentials bytes).mapError (.json "decode ACME account credentials"))
    orInstant (← net .accountBuilder)
    orInstant (← ca (.fromCredentials bytes))
  else
    orInstant (← net .accountBuilder)
    let credentials ← orInstant
      (← ca (.create config.contacts config.termsOfServiceAgreed config.directoryUrl))
    let json ← given (credentials.mapError (.json "encode ACME account credentials"))
    onDisk (writeFilePrivate .account json 0o600)

/-- The authorizations of an order from an index on. -/
def answerAuthorizations : (remaining index : Nat) → ExceptT AcmeError Issuing Unit
  | 0, _ => pure ()
  | remaining + 1, index => do
      match ← orInstant (← ca (.authorization index)) with
      | none => throw (.invalidIssuance "ACME order did not offer http-01")
      | some challenge =>
          provision challenge
          orInstant (← ca (.setReady index))
          answerAuthorizations remaining (index + 1)

/-- The certificate and the private key of a new order. -/
def orderPair (config : AcmeIssueConfig) : ExceptT AcmeError Issuing (String × String) := do
  let authorizations ← orInstant (← ca (.newOrder config.fqdn))
  answerAuthorizations authorizations 0
  let status ← orInstant (← ca .pollReady)
  if status ≠ .ready then
    throw (.invalidIssuance ("ACME order was not ready after http-01: " ++ status.text))
  let privateKeyPem ← orInstant (← ca .finalize)
  let certificatePem ← orInstant (← ca .pollCertificate)
  return (certificatePem, privateKeyPem)

def issueOnceWithInstantAcme (libraries : Libraries) (config : AcmeIssueConfig) :
    ExceptT AcmeError Issuing IssuedCertificate := do
  onDisk (prepare config.stateDir)
  match ← tryIssuanceLock with
  | .busy => throw anotherIssuance
  | .held => holding do
      onDisk (ensureAccountDirectoryMatches libraries config.directoryUrl)
      startServer libraries config
      openAccount libraries config
      let (certificatePem, privateKeyPem) ← orderPair config
      given (validateIssuedPair libraries certificatePem privateKeyPem config.fqdn)
      let notAfter ← given (certificateNotAfterEpochSeconds libraries certificatePem)
      let issued : IssuedCertificate := ⟨config.fqdn, certificatePem, privateKeyPem, notAfter⟩
      onDisk (persist libraries issued .standard (← net .now))
      onDisk clearFailure
      net .clearStore
      return issued

/-! ## Renewal -/

inductive AcmeRenewalOutcome where
  | renewed (issued : IssuedCertificate) (status : CertificateLifecycleStatus)
  | notDue (status : CertificateLifecycleStatus)
  | deferred (status : CertificateLifecycleStatus)
deriving DecidableEq

def invalidCertificateLatched (status : CertificateLifecycleStatus) : Bool :=
  decide (status.lastErrorKind = some "invalid-certificate") && decide (3 ≤ status.failureCount)

def classifyAcmeFailure (message : String) : String :=
  let lower := toAsciiLowercase message
  if containsText lower "invalid issued certificate" then "invalid-certificate"
  else if containsText lower "rate" || containsText lower "429" then "rate_limited"
  else "transient"

/-- What a renewal answers without asking for a certificate. -/
def renewalGate (status : CertificateLifecycleStatus) (now : UInt64) : Option AcmeRenewalOutcome :=
  if (status.backoffUntilEpochSeconds.map fun backoffUntil =>
      decide (now < backoffUntil)).getD false then some (.deferred status)
  else if invalidCertificateLatched status then some (.deferred status)
  else if !status.renewalDue then some (.notDue status)
  else none

theorem gate_not_renewed {status : CertificateLifecycleStatus} {now : UInt64}
    {outcome : AcmeRenewalOutcome} (gate : renewalGate status now = some outcome) :
    outcome = .deferred status ∨ outcome = .notDue status := by
  unfold renewalGate at gate
  split_ifs at gate with backoff latched due
  · exact .inl (Option.some.inj gate).symm
  · exact .inl (Option.some.inj gate).symm
  · exact .inr (Option.some.inj gate).symm

/-- The gate is open when the renewal is due, no backoff is in force and nothing is latched. -/
theorem renewalGate_eq_none {status : CertificateLifecycleStatus} {now : UInt64} :
    renewalGate status now = none ↔
      status.renewalDue = true ∧
        (∀ backoffUntil, status.backoffUntilEpochSeconds = some backoffUntil →
          backoffUntil ≤ now) ∧
        invalidCertificateLatched status = false := by
  unfold renewalGate
  cases status.backoffUntilEpochSeconds with
  | none =>
      cases invalidCertificateLatched status <;> cases status.renewalDue <;> simp
  | some backoffUntil =>
      by_cases inForce : now < backoffUntil
      · simp [inForce]
      · cases invalidCertificateLatched status <;> cases status.renewalDue <;>
          simp [inForce, UInt64.not_lt.mp inForce]

/-- Both renewal functions up to the issuance: an outcome, or the time read, with the lock
held. -/
def admission (libraries : Libraries) (config : AcmeIssueConfig) (policy : AcmeRenewalPolicy)
    (readNow : ExceptT AcmeError Issuing UInt64) :
    ExceptT AcmeError Issuing (AcmeRenewalOutcome ⊕ UInt64) := do
  onDisk (prepare config.stateDir)
  let now ← readNow
  let status ← onDisk (status libraries now policy)
  match renewalGate status now with
  | some outcome => return .inl outcome
  | none =>
      match ← tryIssuanceLock with
      | .busy => return .inl (.deferred status)
      | .held => return .inr now

/-- A renewal, with the way it reads the time before and after, and the way it issues. -/
def renewOnce (libraries : Libraries) (config : AcmeIssueConfig) (policy : AcmeRenewalPolicy)
    (readNow : ExceptT AcmeError Issuing UInt64)
    (issue : UInt64 → ExceptT AcmeError Issuing IssuedCertificate)
    (readAfter : UInt64 → ExceptT AcmeError Issuing UInt64) :
    ExceptT AcmeError Issuing AcmeRenewalOutcome := do
  match ← admission libraries config policy readNow with
  | .inl outcome => return outcome
  | .inr now => holding do
      match ← attempted (issue now) with
      | .ok issued =>
          let after ← readAfter now
          return .renewed issued (← onDisk (status libraries after policy))
      | .error failure =>
          onDisk (recordFailure libraries now policy (classifyAcmeFailure failure.text)
            failure.text none)
          throw failure

def renewOnceWithIssuer (libraries : Libraries) (config : AcmeIssueConfig)
    (policy : AcmeRenewalPolicy) (now : UInt64) : ExceptT AcmeError Issuing AcmeRenewalOutcome :=
  renewOnce libraries config policy (pure now)
    (fun now => issueOnceWithStateAndIssuer libraries config policy now) pure

def renewOnceWithInstantAcme (libraries : Libraries) (config : AcmeIssueConfig) :
    ExceptT AcmeError Issuing AcmeRenewalOutcome :=
  renewOnce libraries config .standard (net .now)
    (fun _ => issueOnceWithInstantAcme libraries config) fun _ => net .now

end Oxo.Edge.Acme
