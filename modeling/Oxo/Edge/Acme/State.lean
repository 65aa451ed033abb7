import Oxo.Foundation.Saturating
import Oxo.Foundation.Scripted
import Oxo.Foundation.Text
import Oxo.Foundation.Utf8Lossy

/-!
Contract: the ACME state directory (`oxo-pingora-edge/src/acme/state.rs`), with the
failure schedule and the certificate checks it uses (`acme/issue.rs`).

Owns: the files of the directory, the errors with their texts, the programs over single
file operations that read, persist, retain and roll back a certificate, and the reload
marker.

Does not own: what a file operation does, or the encodings. `serde_json`, the certificate
parser and the key parser are parameters.
-/

namespace Oxo.Edge.Acme

open Oxo.Foundation

/-! ## Files -/

/-- A place for a certificate, its key and its metadata: the pair in use (`cert.pem`,
`key.pem`, `last-issue.json`) or the one retained under a second. -/
inductive Slot where
  | live
  | retained (epoch : UInt64)
deriving DecidableEq, Repr

inductive FileName where
  /-- `account.json` -/
  | account
  | certificate (slot : Slot)
  | key (slot : Slot)
  | issue (slot : Slot)
  /-- `last-failure.json` -/
  | failure
  /-- `reload-required.json` -/
  | reloadRequired
  /-- `reload-failure.json` -/
  | reloadFailure
deriving DecidableEq, Repr

/-- The name of a file of the retained directory. -/
def FileName.retainedEntry : FileName → Option String
  | .certificate (.retained epoch) => some (numeral 10 epoch.toNat ++ "-cert.pem")
  | .key (.retained epoch) => some (numeral 10 epoch.toNat ++ "-key.pem")
  | .issue (.retained epoch) => some (numeral 10 epoch.toNat ++ "-last-issue.json")
  | _ => none

/-- What a file operation fails with. -/
inductive IoError where
  | notFound (detail : String)
  | other (detail : String)
deriving DecidableEq

def IoError.detail : IoError → String
  | .notFound detail => detail
  | .other detail => detail

structure Metadata where
  symlink : Bool
  directory : Bool
  mode : Nat
deriving DecidableEq

inductive Directory where
  | state
  | retained
deriving DecidableEq

/-- What permissions are set on. -/
inductive ModeTarget where
  | directory (directory : Directory)
  | temp (name : FileName)

/-- The file operations. A temporary file is named by the process that writes it, so
`rename` carries the bytes that were staged. -/
inductive DiskOp where
  | symlinkMetadata
  | createDirAll (directory : Directory)
  | setPermissions (target : ModeTarget) (mode : Nat)
  | fileExists (name : FileName)
  | read (name : FileName)
  | openTemp (name : FileName)
  | writeTemp (name : FileName) (bytes : List UInt8)
  | syncTemp (name : FileName)
  | rename (name : FileName) (bytes : List UInt8)
  | remove (name : FileName)
  | readRetainedDir

@[reducible] def DiskOp.Answer : DiskOp → Type
  | .symlinkMetadata => Except IoError Metadata
  | .fileExists _ => Bool
  | .read _ => Except IoError (List UInt8)
  | .remove _ => Except IoError Unit
  | .readRetainedDir => Except IoError (List (Except String (Option String)))
  | .createDirAll _ | .setPermissions _ _ | .openTemp _ | .writeTemp _ _ | .syncTemp _
  | .rename _ _ => Except String Unit

abbrev Disk := Program DiskOp DiskOp.Answer

/-! ## Errors -/

inductive AcmeError where
  | invalidConfig (message : String)
  | invalidChallenge (message : String)
  | invalidIssuance (message : String)
  | poisonedChallengeStore
  | bindChallenge (bind detail : String)
  | io (action detail : String)
  | json (action detail : String)
  | instantAcme (detail : String)
deriving DecidableEq

/-- `Display`. -/
def AcmeError.text : AcmeError → String
  | .invalidConfig message => "invalid ACME configuration: " ++ message
  | .invalidChallenge message => "invalid ACME challenge: " ++ message
  | .invalidIssuance message => "invalid ACME issuance: " ++ message
  | .poisonedChallengeStore => "ACME challenge store lock was poisoned"
  | .bindChallenge bind detail =>
      "failed to bind ACME challenge listener " ++ bind ++ ": " ++ detail
  | .io action detail => "ACME IO while trying to " ++ action ++ ": " ++ detail
  | .json action detail => "ACME JSON while trying to " ++ action ++ ": " ++ detail
  | .instantAcme detail => "instant-acme: " ++ detail

/-- One file operation. -/
abbrev disk (op : DiskOp) : ExceptT AcmeError Disk op.Answer :=
  monadLift (Program.perform op)

abbrev settle {α : Type} (result : Except AcmeError α) : ExceptT AcmeError Disk α :=
  ExceptT.mk (pure result)

/-- `map_err` to `AcmeError::Io`. -/
abbrev orIo {α : Type} (action : String) (result : Except String α) : ExceptT AcmeError Disk α :=
  settle (result.mapError (.io action))

/-! ## Encodings -/

/-- A field of a JSON object. -/
inductive JsonField where
  | null
  | bool (value : Bool)
  | u64 (value : UInt64)
  | string (value : String)
  /-- Another number, an array or an object: the accessors below answer nothing for it. -/
  | other
deriving DecidableEq

/-- The fields of a JSON value; there are none where it is no object. -/
abbrev Json := List (String × JsonField)

def Json.get (value : Json) (key : String) : Option JsonField :=
  value.lookup key

/-- What the code reads of a certificate. -/
structure Certificate where
  dnsNames : List String
  publicKey : List UInt8
  notAfter : Int
deriving DecidableEq

/-- A PEM block, seen through `parse_x509`. -/
abbrev Pem := Except String Certificate

/-- `serde_json`, `x509_parser` and `rcgen`, and the text of a debugged string. An encoded
object decodes to the same fields; account credentials are known by their bytes. -/
structure Libraries where
  fromSlice : List UInt8 → Except String Json
  toStringPretty : Json → Except String String
  reads_back : ∀ value text, toStringPretty value = .ok text →
    ∃ decoded, fromSlice (utf8 text) = .ok decoded ∧ ∀ key, decoded.get key = value.get key
  parseX509Pem : List UInt8 → Except String Pem
  pemIterFromBuffer : List UInt8 → Except String (List Pem)
  keyPairFromPem : String → Except String (List UInt8)
  decodeCredentials : List UInt8 → Except String Unit
  debugString : String → String

def jsonU64 (value : Json) (key : String) : Option UInt64 :=
  match value.get key with
  | some (.u64 value) => some value
  | _ => none

def jsonString (value : Json) (key : String) : Option String :=
  match value.get key with
  | some (.string value) => some value
  | _ => none

/-- `as_bool` of a field, `false` without one. -/
def jsonFlag (value : Option Json) (key : String) : Bool :=
  match value.bind fun value => value.get key with
  | some (.bool value) => value
  | _ => false

/-! ## The directory -/

def validatePrivateDirMode (path : String) (metadata : Metadata) : Except AcmeError Unit :=
  if metadata.mode % 0o1000 = 0o700 then .ok ()
  else .error (.invalidConfig ("ACME state directory must be 0700, got " ++
    numeral 8 (metadata.mode % 0o1000) ++ ": " ++ path))

def setPathMode (target : ModeTarget) (mode : Nat) : ExceptT AcmeError Disk Unit := do
  orIo "set ACME state permissions" (← disk (.setPermissions target mode))

def prepare (stateDir : String) : ExceptT AcmeError Disk Unit := do
  if !startsWith stateDir "/" then
    throw (.invalidConfig "ACME state path must be absolute")
  match ← disk .symlinkMetadata with
  | .ok metadata =>
      if metadata.symlink then
        throw (.invalidConfig ("ACME state directory must not be a symlink: " ++ stateDir))
      if !metadata.directory then
        throw (.invalidConfig ("ACME state path must be a directory: " ++ stateDir))
      settle (validatePrivateDirMode stateDir metadata)
  | .error (.notFound _) =>
      orIo "create ACME state directory" (← disk (.createDirAll .state))
      setPathMode (.directory .state) 0o700
  | .error (.other detail) => throw (.io "inspect ACME state directory" detail)

def readJsonIfPresent (libraries : Libraries) (name : FileName) :
    ExceptT AcmeError Disk (Option Json) := do
  match ← disk (.read name) with
  | .ok bytes =>
      settle ((libraries.fromSlice bytes).mapError
        (.json "decode ACME state metadata") |>.map some)
  | .error (.notFound _) => pure none
  | .error (.other detail) => throw (.io "read ACME state metadata" detail)

/-- Write, sync and chmod a temporary file beside the target, without renaming it. -/
def stagePrivate (name : FileName) (bytes : List UInt8) (mode : Nat) :
    ExceptT AcmeError Disk Unit := do
  orIo "open ACME state temp file" (← disk (.openTemp name))
  orIo "write ACME state temp file" (← disk (.writeTemp name bytes))
  orIo "sync ACME state temp file" (← disk (.syncTemp name))
  setPathMode (.temp name) mode

def writeFilePrivate (name : FileName) (bytes : List UInt8) (mode : Nat) :
    ExceptT AcmeError Disk Unit := do
  stagePrivate name bytes mode
  orIo "rename ACME state temp file" (← disk (.rename name bytes))

def copyFilePrivate (source target : FileName) (mode : Nat) : ExceptT AcmeError Disk Unit := do
  match ← disk (.read source) with
  | .ok bytes => writeFilePrivate target bytes mode
  | .error failure => throw (.io "read ACME retained source file" failure.detail)

/-- Both files are staged before either is renamed. -/
def writeCertKeyPair (certBytes keyBytes : List UInt8) : ExceptT AcmeError Disk Unit := do
  stagePrivate (.certificate .live) certBytes 0o644
  stagePrivate (.key .live) keyBytes 0o600
  orIo "rename ACME certificate temp file" (← disk (.rename (.certificate .live) certBytes))
  orIo "rename ACME private key temp file" (← disk (.rename (.key .live) keyBytes))

/-- Encode a JSON object and write it. -/
def writeJson (libraries : Libraries) (action : String) (name : FileName) (value : Json) :
    ExceptT AcmeError Disk Unit := do
  let text ← settle ((libraries.toStringPretty value).mapError (.json action))
  writeFilePrivate name (utf8 text) 0o644

/-! ## Certificates -/

def certificateNotAfterEpochSeconds (libraries : Libraries) (pem : String) :
    Except AcmeError (Option UInt64) := do
  let pem ← (libraries.parseX509Pem (utf8 pem)).mapError fun detail =>
    .invalidIssuance ("failed to parse issued certificate PEM: " ++ detail)
  let cert ← pem.mapError fun detail =>
    .invalidIssuance ("failed to parse issued certificate: " ++ detail)
  if cert.notAfter < 0 then
    .error (.invalidIssuance "issued certificate not_after is before the Unix epoch")
  else return some (UInt64.ofNat cert.notAfter.toNat)

def invalidIssued (detail : String) : AcmeError :=
  .invalidIssuance ("invalid issued certificate: " ++ detail)

def validateIssuedPair (libraries : Libraries) (certPem keyPem fqdn : String) :
    Except AcmeError Unit := do
  let pems ← (libraries.pemIterFromBuffer (utf8 certPem)).mapError fun detail =>
    invalidIssued ("certificate PEM did not parse: " ++ detail)
  match pems with
  | [] => .error (invalidIssued "certificate PEM contained no certificates")
  | leafPem :: _ =>
      let leaf ← leafPem.mapError fun detail =>
        invalidIssued ("leaf certificate DER did not parse: " ++ detail)
      if !leaf.dnsNames.any fun dns => eqIgnoreAsciiCase dns fqdn then
        .error (invalidIssued
          ("leaf certificate SAN does not cover " ++ libraries.debugString fqdn))
      else
        let key ← (libraries.keyPairFromPem keyPem).mapError fun detail =>
          invalidIssued ("private key PEM did not parse: " ++ detail)
        if key ≠ leaf.publicKey then
          .error (invalidIssued
            "private key does not correspond to the leaf certificate public key")
        else .ok ()

structure IssuedCertificate where
  fqdn : String
  certificatePem : String
  privateKeyPem : String
  notAfterEpochSeconds : Option UInt64
deriving DecidableEq

structure AcmeRenewalPolicy where
  renewBeforeSeconds : UInt64
  retryBaseSeconds : UInt64
  retryMaxSeconds : UInt64
  retryJitterSeconds : UInt64
  rateLimitFloorSeconds : UInt64
deriving DecidableEq

/-- `AcmeRenewalPolicy::default`. -/
def AcmeRenewalPolicy.standard : AcmeRenewalPolicy where
  renewBeforeSeconds := 30 * 24 * 60 * 60
  retryBaseSeconds := 60
  retryMaxSeconds := 6 * 60 * 60
  retryJitterSeconds := 300
  rateLimitFloorSeconds := 60 * 60

/-! ## Persistence -/

def reloadMarker (now : UInt64) : Json :=
  [("reload_required", .bool true),
    ("strategy", .string "bounded-restart"),
    ("plaintext_fallback", .bool false),
    ("updated_at_epoch_seconds", .u64 now),
    ("reason", .string "certificate material changed")]

def optionalU64 : Option UInt64 → JsonField
  | some value => .u64 value
  | none => .null

def issueMetadata (issued : IssuedCertificate) (policy : AcmeRenewalPolicy)
    (notAfter : Option UInt64) (now : UInt64) : Json :=
  [("fqdn", .string issued.fqdn),
    ("certificate", .string "cert.pem"),
    ("private_key", .string "key.pem"),
    ("not_after_epoch_seconds", optionalU64 notAfter),
    ("renew_before_seconds", .u64 policy.renewBeforeSeconds),
    ("next_renewal_epoch_seconds", optionalU64
      (notAfter.map fun notAfter => U64.saturatingSub notAfter policy.renewBeforeSeconds)),
    ("issued_at_epoch_seconds", .u64 now),
    ("claim", .string
      "managed certificate lifecycle; no production mode or zero-drop reload claim")]

/-- `cert.pem` or `key.pem` exists. -/
def somePresent : ExceptT AcmeError Disk Bool := do
  if ← disk (.fileExists (.certificate .live)) then pure true
  else disk (.fileExists (.key .live))

/-- `cert.pem` and `key.pem` exist. -/
def bothPresent : ExceptT AcmeError Disk Bool := do
  if ← disk (.fileExists (.certificate .live)) then disk (.fileExists (.key .live))
  else pure false

/-- Copy a file that exists into the retained directory. -/
def retainFile (source target : FileName) (mode : Nat) : ExceptT AcmeError Disk Unit := do
  if ← disk (.fileExists source) then copyFilePrivate source target mode

def retainExisting (now : UInt64) : ExceptT AcmeError Disk Unit := do
  if ← somePresent then
    orIo "create ACME retained certificate directory" (← disk (.createDirAll .retained))
    setPathMode (.directory .retained) 0o700
    retainFile (.certificate .live) (.certificate (.retained now)) 0o644
    retainFile (.key .live) (.key (.retained now)) 0o600
    retainFile (.issue .live) (.issue (.retained now)) 0o644

/-- The expiry that `persist` records. -/
def issuedNotAfter (libraries : Libraries) (issued : IssuedCertificate) :
    Except AcmeError (Option UInt64) :=
  match issued.notAfterEpochSeconds with
  | some value => .ok (some value)
  | none => certificateNotAfterEpochSeconds libraries issued.certificatePem

def persist (libraries : Libraries) (issued : IssuedCertificate) (policy : AcmeRenewalPolicy)
    (now : UInt64) : ExceptT AcmeError Disk Unit := do
  let notAfter ← settle (issuedNotAfter libraries issued)
  -- the marker goes first, before the pair
  writeJson libraries "encode ACME reload metadata" .reloadRequired (reloadMarker now)
  retainExisting now
  writeCertKeyPair (utf8 issued.certificatePem) (utf8 issued.privateKeyPem)
  writeJson libraries "encode ACME issue metadata" (.issue .live)
    (issueMetadata issued policy notAfter now)

/-! ## Status -/

structure CertificateLifecycleStatus where
  certPresent : Bool
  notAfterEpochSeconds : Option UInt64
  secondsUntilExpiry : Option UInt64
  renewalDue : Bool
  nextRenewalEpochSeconds : Option UInt64
  reloadRequired : Bool
  reloadStrategy : Option String
  plaintextFallback : Bool
  failureCount : UInt64
  lastErrorKind : Option String
  lastErrorMessage : Option String
  backoffUntilEpochSeconds : Option UInt64
deriving DecidableEq

/-- The expiry parsed out of `cert.pem`; every failure counts as none. -/
def certificateExpiry (libraries : Libraries) (bytes : List UInt8) : Option UInt64 :=
  match fromUtf8 bytes with
  | some pem =>
      match certificateNotAfterEpochSeconds libraries pem with
      | .ok notAfter => notAfter
      | .error _ => none
  | none => none

/-- The expiry of the pair in use, where the metadata states none. -/
def presentExpiry (libraries : Libraries) (certPresent : Bool) :
    ExceptT AcmeError Disk (Option UInt64) := do
  if certPresent then
    match ← disk (.read (.certificate .live)) with
    | .ok bytes => pure (certificateExpiry libraries bytes)
    | .error _ => pure none
  else pure none

def statusOf (issue failure reload : Option Json) (certPresent : Bool)
    (notAfter : Option UInt64) (now : UInt64) (policy : AcmeRenewalPolicy) :
    CertificateLifecycleStatus :=
  let next := (issue.bind fun value => jsonU64 value "next_renewal_epoch_seconds").or
    (notAfter.map fun notAfter => U64.saturatingSub notAfter policy.renewBeforeSeconds)
  { certPresent
    notAfterEpochSeconds := notAfter
    secondsUntilExpiry := notAfter.map fun notAfter => U64.saturatingSub notAfter now
    renewalDue := !certPresent || (next.map fun next => decide (next ≤ now)).getD true
    nextRenewalEpochSeconds := next
    reloadRequired := jsonFlag reload "reload_required"
    reloadStrategy := reload.bind fun value => jsonString value "strategy"
    plaintextFallback := jsonFlag reload "plaintext_fallback"
    failureCount := (failure.bind fun value => jsonU64 value "failure_count").getD 0
    lastErrorKind := failure.bind fun value => jsonString value "kind"
    lastErrorMessage := failure.bind fun value => jsonString value "message"
    backoffUntilEpochSeconds := failure.bind fun value =>
      jsonU64 value "next_attempt_epoch_seconds" }

def status (libraries : Libraries) (now : UInt64) (policy : AcmeRenewalPolicy) :
    ExceptT AcmeError Disk CertificateLifecycleStatus := do
  let issue ← readJsonIfPresent libraries (.issue .live)
  let failure ← readJsonIfPresent libraries .failure
  let reload ← readJsonIfPresent libraries .reloadRequired
  let certPresent ← bothPresent
  match issue.bind fun value => jsonU64 value "not_after_epoch_seconds" with
  | some notAfter =>
      return statusOf issue failure reload certPresent (some notAfter) now policy
  | none =>
      let notAfter ← presentExpiry libraries certPresent
      return statusOf issue failure reload certPresent notAfter now policy

/-! ## Failures -/

/-- No jitter where the modulus overflows: the code panics there. -/
def deterministicJitter (now failureCount jitterSeconds : UInt64) : Option UInt64 :=
  if jitterSeconds = 0 then some 0
  else if jitterSeconds.toNat + 1 = 2 ^ 64 then none
  else
    let mixed := now * 6364136223846793005 + failureCount * 1442695040888963407
    some (mixed % (jitterSeconds + 1))

def nextAttemptAfterFailure (now failureCount : UInt64) (policy : AcmeRenewalPolicy)
    (kind : String) (retryAfter : Option UInt64) : Option UInt64 := do
  let exponent := min (U64.saturatingSub failureCount 1) 20
  let multiplier : UInt64 := 1 <<< exponent
  let base := min (U64.saturatingMul policy.retryBaseSeconds multiplier) policy.retryMaxSeconds
  let jitter ← deterministicJitter now failureCount policy.retryJitterSeconds
  let next := U64.saturatingAdd (U64.saturatingAdd now base) jitter
  let next := if kind = "rate_limited" ∨ kind = "invalid-certificate" then
    max next (U64.saturatingAdd now policy.rateLimitFloorSeconds) else next
  return match retryAfter with
    | some retryAfter => max next retryAfter
    | none => next

def recordFailure (libraries : Libraries) (now : UInt64) (policy : AcmeRenewalPolicy)
    (kind message : String) (retryAfter : Option UInt64) : ExceptT AcmeError Disk Unit := do
  let previous ← readJsonIfPresent libraries .failure
  let failureCount := U64.saturatingAdd
    ((previous.bind fun value => jsonU64 value "failure_count").getD 0) 1
  match nextAttemptAfterFailure now failureCount policy kind retryAfter with
  | none => ExceptT.mk .stop
  | some nextAttempt =>
      writeJson libraries "encode ACME failure metadata" .failure
        [("kind", .string kind),
          ("message", .string message),
          ("failure_count", .u64 failureCount),
          ("failed_at_epoch_seconds", .u64 now),
          ("next_attempt_epoch_seconds", .u64 nextAttempt),
          ("plaintext_fallback", .bool false)]

/-- Remove a file that may be missing. -/
def removeIfPresent (action : String) (name : FileName) : ExceptT AcmeError Disk Unit := do
  match ← disk (.remove name) with
  | .ok () | .error (.notFound _) => pure ()
  | .error (.other detail) => throw (.io action detail)

def clearFailure : ExceptT AcmeError Disk Unit :=
  removeIfPresent "clear ACME failure metadata" .failure

/-! ## The supervisor's side -/

/-- A marker without a readable time counts as owed since 0. -/
def reloadMarkerUpdatedAt (libraries : Libraries) (stateDir : String) :
    ExceptT AcmeError Disk (Option UInt64) := do
  prepare stateDir
  match ← readJsonIfPresent libraries .reloadRequired with
  | none => pure none
  | some value => pure (some ((jsonU64 value "updated_at_epoch_seconds").getD 0))

def consumeReloadMarker (stateDir : String) : ExceptT AcmeError Disk Unit := do
  prepare stateDir
  removeIfPresent "remove ACME reload marker" .reloadRequired

/-- The epoch in the name of a retained certificate. -/
def retainedCertEpoch (name : Option String) : Option UInt64 := do
  let name ← name
  let suffix := "-cert.pem".toList
  if suffix.isSuffixOf name.toList then
    let digits := name.toList.take (name.toList.length - suffix.length)
    (parseUnsigned (2 ^ 64) (String.ofList digits)).map UInt64.ofNat
  else none

/-- Only an epoch with both files counts. -/
def newestOf : List (Except String (Option String)) → Option UInt64 →
    ExceptT AcmeError Disk (Option UInt64)
  | [], newest => pure newest
  | entry :: rest, newest => do
      let name ← orIo "read ACME retained directory entry" entry
      match retainedCertEpoch name with
      | none => newestOf rest newest
      | some epoch =>
          if (← disk (.fileExists (.key (.retained epoch)))) &&
              (newest.map fun current => decide (current < epoch)).getD true then
            newestOf rest (some epoch)
          else newestOf rest newest

def newestRetainedEpoch : ExceptT AcmeError Disk (Option UInt64) := do
  match ← disk .readRetainedDir with
  | .ok entries => newestOf entries none
  | .error (.notFound _) => pure none
  | .error (.other detail) => throw (.io "list ACME retained directory" detail)

/-- Put the metadata of a retained pair back, or none. -/
def restoreIssue (epoch : UInt64) : ExceptT AcmeError Disk Unit := do
  match ← disk (.read (.issue (.retained epoch))) with
  | .ok bytes => writeFilePrivate (.issue .live) bytes 0o644
  | .error (.notFound _) =>
      -- the result of this removal is ignored
      let _ ← disk (.remove (.issue .live))
      pure ()
  | .error (.other detail) => throw (.io "read retained issue metadata for rollback" detail)

def rollbackToRetainedPair (libraries : Libraries) (stateDir : String) (now : UInt64)
    (reason : String) : ExceptT AcmeError Disk Unit := do
  prepare stateDir
  match ← newestRetainedEpoch with
  | none =>
      throw (.invalidConfig "no retained certificate pair is available to roll back to")
  | some epoch =>
      let cert ← orIo "read retained certificate for rollback"
        ((← disk (.read (.certificate (.retained epoch)))).mapError IoError.detail)
      let key ← orIo "read retained private key for rollback"
        ((← disk (.read (.key (.retained epoch)))).mapError IoError.detail)
      let issue ← readJsonIfPresent libraries (.issue .live)
      let fqdn := (issue.bind fun value => jsonString value "fqdn").getD ""
      settle (validateIssuedPair libraries (fromUtf8Lossy cert) (fromUtf8Lossy key) fqdn)
      writeCertKeyPair cert key
      restoreIssue epoch
      writeJson libraries "encode ACME reload failure record" .reloadFailure
        [("failed_at_epoch_seconds", .u64 now),
          ("reason", .string reason),
          ("rolled_back", .bool true)]
      recordFailure libraries now .standard "reload-rolled-back" reason none

end Oxo.Edge.Acme
