import Oxo.Edge.Service.Environment
import Oxo.Foundation.Text

/-!
Contract: what the service gives its edge (`collect_edge_env` and `collect_edge_args` in
`oxo-pingora-edge/src/service.rs`).

Owns: the environment and the argument vector of the edge, and which variables of the service are
read for them.

Does not own: the bind address and the drain grace, which come from elsewhere.
-/

namespace Oxo.Edge.Service

open Oxo.Foundation Oxo.Edge.Cli

/-- Variables of a child, in the order they are set. -/
abbrev Envs := List (String × OsString)

/-- The optional features of a build that read a variable. -/
structure Features where
  edgeBench : Bool
  hopTiming : Bool
deriving DecidableEq

inductive WorkerLaunch where
  | classic
  | async (bundleBin rubyBin script appRoot : OsString)
deriving DecidableEq

def WorkerLaunch.isAsync : WorkerLaunch → Bool
  | .classic => false
  | .async _ _ _ _ => true

/-! ## The environment of the edge -/

/-- `if let Ok(value) = env::var(name)`. -/
def forwardVar (vars : Envs) (name : String) : Reading Envs := do
  match ← var name with
  | .ok value => return vars ++ [(name, utf8 value)]
  | .error _ => return vars

def forwardVars (vars : Envs) : List String → Reading Envs
  | [] => return vars
  | name :: rest => do
      let vars ← forwardVar vars name
      forwardVars vars rest

def collectEdgeEnv (features : Features) (workerLaunch : WorkerLaunch) : Reading Envs := do
  let vars ← forwardVars [] (if features.edgeBench then
    ["OXO_EDGE_NATIVE_BENCH", "OXO_EDGE_INJECT_SPIN_US"] else [])
  let vars ← forwardVars vars (if features.hopTiming then
    ["OXO_HOP_TIMING", "OXO_HOP_STAMP"] else [])
  let vars ← forwardVar vars "OXO_WORKER_DISPATCH"
  let vars ← forwardVar vars "OXO_EDGE_WORKER_CAP"
  let vars ← forwardVar vars "OXO_HOP_REAPER"
  let vars ← forwardVar vars "OXO_EDGE_FRAME_POOL_IDLE"
  return if workerLaunch.isAsync then vars ++ [("OXO_WORKER_KIND", utf8 "async")] else vars

/-! ## The arguments of the edge -/

section Arguments

variable {SocketAddr : Type} (library : Library SocketAddr)

/-- `given.or_else(|| read)`. -/
def orElseRead {α : Type} (given : Option α) (read : Reading (Option α)) :
    Reading (Option α) :=
  match given with
  | some value => return some value
  | none => read

/-- `given || read.unwrap_or(false)`. -/
def orReadSet (given : Bool) (read : Fallible (Option Bool)) : Fallible Bool :=
  if given then return true
  else do
    let set ← read
    return set.getD false

/-- The pieces of a list in a variable. -/
def pieces (separator : Char) (value : String) : List String :=
  ((split value separator).map trim).filter fun part => part ≠ ""

/-- The given list, else the list in the variable. -/
def orReadList (given : List String) (separator : Char) (name : String) :
    Fallible (List String) :=
  if given ≠ [] then return given
  else do
    let value ← optionalStringEnv library name
    return (value.map (pieces separator)).getD []

def edgeUsesTls (cli : EdgeCliConfig SocketAddr) : Fallible Bool :=
  if cli.httpsBind.isSome || cli.tlsCert.isSome || cli.tlsKey.isSome then return true
  else if cli.httpBind.isSome then return false
  else envBool library "OXO_EDGE_TLS" false

/-- The certificate, the key and the protocol are read only for a listener with TLS. -/
def resolveTls (usesTls : Bool) (cli : EdgeCliConfig SocketAddr) :
    Fallible (Option OsString × Option OsString × Option Bool) :=
  if usesTls then do
    let tlsCert ← orElseRead cli.tlsCert (optionalPath "OXO_EDGE_TLS_CERT")
    let tlsKey ← orElseRead cli.tlsKey (optionalPath "OXO_EDGE_TLS_KEY")
    let tlsH2 := cli.tlsH2.or (← optionalBoolEnv library "OXO_EDGE_TLS_H2")
    return (tlsCert, tlsKey, tlsH2)
  else return (none, none, none)

/-- Trusted-proxy CIDRs that the identity policy would ignore are refused. -/
def refuseIgnoredCidrs (edgeCli : EdgeCliConfig SocketAddr) : Fallible (EdgeCliConfig SocketAddr) :=
  if edgeCli.publicMode.isSome && !edgeCli.trustedProxyCidrs.isEmpty &&
      edgeCli.publicIdentity != some "trusted-proxy" then
    throw (.invalidEnv "OXO_EDGE_TRUSTED_PROXY_CIDRS"
      ("trusted-proxy CIDRs are configured but --public-identity is not " ++
        "trusted-proxy; the CIDRs would be silently ignored by the edge"))
  else return edgeCli

/-- The configuration that the edge is started with. -/
def resolveEdgeCli (workerSockets : List OsString) (edgeBind : SocketAddr)
    (cli : EdgeCliConfig SocketAddr) (edgeDrainGraceMs : UInt64) :
    Fallible (EdgeCliConfig SocketAddr) := do
  let usesTls ← edgeUsesTls library cli
  let maxBodyBytes := cli.maxBodyBytes.or (← optionalU64Env library "OXO_EDGE_MAX_BODY")
  let fqdn := cli.fqdn.or (← optionalStringEnv library "OXO_EDGE_SERVER_NAME")
  let publicOriginPort := cli.publicOriginPort.or
    (← optionalU16Env library "OXO_EDGE_PUBLIC_ORIGIN_PORT")
  let (tlsCert, tlsKey, tlsH2) ← resolveTls library usesTls cli
  let acmeStatePath ← orElseRead cli.acmeStatePath (optionalPath "OXO_EDGE_ACME_STATE_PATH")
  let acmeIssueOnce ← orReadSet cli.acmeIssueOnce
    (optionalBoolEnv library "OXO_EDGE_ACME_ISSUE_ONCE")
  let acmeRenewOnce ← orReadSet cli.acmeRenewOnce
    (optionalBoolEnv library "OXO_EDGE_ACME_RENEW_ONCE")
  let acmeDirectoryUrl := cli.acmeDirectoryUrl.or
    (← optionalStringEnv library "OXO_EDGE_ACME_DIRECTORY_URL")
  let acmeContacts ← orReadList library cli.acmeContacts ',' "OXO_EDGE_ACME_CONTACTS"
  let acmeAcceptTerms ← orReadSet cli.acmeAcceptTerms
    (optionalBoolEnv library "OXO_EDGE_ACME_ACCEPT_TERMS")
  let publicMode := cli.publicMode.or (← optionalStringEnv library "OXO_EDGE_PUBLIC_MODE")
  let publicIdentity := cli.publicIdentity.or
    (← optionalStringEnv library "OXO_EDGE_PUBLIC_IDENTITY")
  let adminBind := cli.adminBind.or (← optionalSocketAddrEnv library "OXO_EDGE_ADMIN_BIND")
  let actionCableBind := (cli.actionCableBind.or
      (← optionalSocketAddrEnv library "OXO_EDGE_ACTION_CABLE_BIND")).or
    (← optionalSocketAddrEnv library "OXO_CABLE_BIND")
  let grpcBind := (cli.grpcBind.or (← optionalSocketAddrEnv library "OXO_EDGE_GRPC_BIND")).or
    (← optionalSocketAddrEnv library "OXO_GRPC_BIND")
  let sseEnabled := cli.sseEnabled.or (← optionalBoolEnv library "OXO_EDGE_SSE")
  let keepaliveEnabled := cli.keepaliveEnabled.or
    (← optionalBoolEnv library "OXO_EDGE_KEEPALIVE")
  let maxRequestsPerConnection := cli.maxRequestsPerConnection.or
    (← optionalU64Env library "OXO_EDGE_MAX_REQUESTS_PER_CONNECTION")
  let h2MaxConcurrentStreams := cli.h2MaxConcurrentStreams.or
    (← optionalU64Env library "OXO_EDGE_H2_MAX_CONCURRENT_STREAMS")
  let h2MaxResetStreams := cli.h2MaxResetStreams.or
    (← optionalU64Env library "OXO_EDGE_H2_MAX_RESET_STREAMS")
  let edgeThreads := cli.edgeThreads.or (← optionalU64Env library "OXO_EDGE_THREADS")
  let listenerTasks := cli.listenerTasks.or (← optionalU64Env library "OXO_EDGE_LISTENER_TASKS")
  let requestLog := cli.requestLog.or (← optionalStringEnv library "OXO_EDGE_REQUEST_LOG")
  let workerHop := cli.workerHop.or (← optionalStringEnv library "OXO_EDGE_WORKER_HOP")
  let staticMounts ← orReadList library cli.staticMounts ';' "OXO_EDGE_STATIC_MOUNTS"
  let staticRailsPreset := cli.staticRailsPreset.or
    ((← optionalStringEnv library "OXO_EDGE_STATIC_RAILS_PRESET").map utf8)
  let serveRails := cli.serveRails.or
    ((← optionalStringEnv library "OXO_EDGE_SERVE_RAILS").map utf8)
  let prodEnabled := cli.prodEnabled.or (← optionalBoolEnv library "OXO_EDGE_PROD")
  let trustedProxyCidrs ← orReadList library cli.trustedProxyCidrs ','
    "OXO_EDGE_TRUSTED_PROXY_CIDRS"
  let maxInFlightPerIdentity := cli.maxInFlightPerIdentity.or
    (← optionalU64Env library "OXO_EDGE_MAX_IN_FLIGHT_PER_IDENTITY")
  let maxInFlightRequests := cli.maxInFlightRequests.or
    (← optionalU64Env library "OXO_EDGE_MAX_IN_FLIGHT_REQUESTS")
  let headerReadTimeoutMs := cli.headerReadTimeoutMs.or
    (← optionalU64Env library "OXO_EDGE_HEADER_READ_TIMEOUT_MS")
  let keepaliveIdleTimeoutMs := cli.keepaliveIdleTimeoutMs.or
    (← optionalU64Env library "OXO_EDGE_KEEPALIVE_IDLE_TIMEOUT_MS")
  let maxConnectionSecs := cli.maxConnectionSecs.or
    (← optionalU64Env library "OXO_EDGE_MAX_CONNECTION_SECS")
  let longLivedMaxConnections := cli.longLivedMaxConnections.or
    (← optionalU64Env library "OXO_EDGE_LONG_LIVED_MAX_CONNECTIONS")
  let longLivedMaxBufferedBytes := cli.longLivedMaxBufferedBytes.or
    (← optionalU64Env library "OXO_EDGE_LONG_LIVED_MAX_BUFFERED_BYTES")
  let longLivedDownstreamWriteTimeoutMs := cli.longLivedDownstreamWriteTimeoutMs.or
    (← optionalU64Env library "OXO_EDGE_LONG_LIVED_DOWNSTREAM_WRITE_TIMEOUT_MS")
  refuseIgnoredCidrs
    { EdgeCliConfig.default SocketAddr with
      workerSockets
      drainGraceMs := some edgeDrainGraceMs
      httpsBind := if usesTls then some edgeBind else none
      httpBind := if usesTls then none else some edgeBind
      maxBodyBytes, fqdn, publicOriginPort, tlsCert, tlsKey, tlsH2, acmeStatePath, acmeIssueOnce,
      acmeRenewOnce, acmeDirectoryUrl, acmeContacts, acmeAcceptTerms, publicMode, publicIdentity,
      adminBind, actionCableBind, grpcBind, sseEnabled, keepaliveEnabled,
      maxRequestsPerConnection, h2MaxConcurrentStreams, h2MaxResetStreams, edgeThreads,
      listenerTasks, requestLog, workerHop, staticMounts, staticRailsPreset, serveRails,
      prodEnabled, trustedProxyCidrs, maxInFlightPerIdentity, maxInFlightRequests,
      headerReadTimeoutMs, keepaliveIdleTimeoutMs, maxConnectionSecs, longLivedMaxConnections,
      longLivedMaxBufferedBytes, longLivedDownstreamWriteTimeoutMs }

def collectEdgeArgs (workerSockets : List OsString) (edgeBind : SocketAddr)
    (cli : EdgeCliConfig SocketAddr) (edgeDrainGraceMs : UInt64) : Fallible (List OsString) := do
  let edgeCli ← resolveEdgeCli library workerSockets edgeBind cli edgeDrainGraceMs
  return toEdgeArgs library edgeCli

end Arguments

/-! ## What is read -/

/-- The variables read for the arguments. -/
def edgeArgsNames : List String :=
  ["OXO_EDGE_TLS", "OXO_EDGE_MAX_BODY", "OXO_EDGE_SERVER_NAME", "OXO_EDGE_PUBLIC_ORIGIN_PORT",
    "OXO_EDGE_TLS_CERT", "OXO_EDGE_TLS_KEY", "OXO_EDGE_TLS_H2", "OXO_EDGE_ACME_STATE_PATH",
    "OXO_EDGE_ACME_ISSUE_ONCE", "OXO_EDGE_ACME_RENEW_ONCE", "OXO_EDGE_ACME_DIRECTORY_URL",
    "OXO_EDGE_ACME_CONTACTS", "OXO_EDGE_ACME_ACCEPT_TERMS", "OXO_EDGE_PUBLIC_MODE",
    "OXO_EDGE_PUBLIC_IDENTITY", "OXO_EDGE_ADMIN_BIND", "OXO_EDGE_ACTION_CABLE_BIND",
    "OXO_CABLE_BIND", "OXO_EDGE_GRPC_BIND", "OXO_GRPC_BIND", "OXO_EDGE_SSE",
    "OXO_EDGE_KEEPALIVE", "OXO_EDGE_MAX_REQUESTS_PER_CONNECTION",
    "OXO_EDGE_H2_MAX_CONCURRENT_STREAMS", "OXO_EDGE_H2_MAX_RESET_STREAMS", "OXO_EDGE_THREADS",
    "OXO_EDGE_LISTENER_TASKS", "OXO_EDGE_REQUEST_LOG", "OXO_EDGE_WORKER_HOP",
    "OXO_EDGE_STATIC_MOUNTS", "OXO_EDGE_STATIC_RAILS_PRESET", "OXO_EDGE_SERVE_RAILS",
    "OXO_EDGE_PROD", "OXO_EDGE_TRUSTED_PROXY_CIDRS", "OXO_EDGE_MAX_IN_FLIGHT_PER_IDENTITY",
    "OXO_EDGE_MAX_IN_FLIGHT_REQUESTS", "OXO_EDGE_HEADER_READ_TIMEOUT_MS",
    "OXO_EDGE_KEEPALIVE_IDLE_TIMEOUT_MS", "OXO_EDGE_MAX_CONNECTION_SECS",
    "OXO_EDGE_LONG_LIVED_MAX_CONNECTIONS", "OXO_EDGE_LONG_LIVED_MAX_BUFFERED_BYTES",
    "OXO_EDGE_LONG_LIVED_DOWNSTREAM_WRITE_TIMEOUT_MS"]

/-- The variables read for the environment. -/
def edgeEnvNames (features : Features) : List String :=
  (if features.edgeBench then ["OXO_EDGE_NATIVE_BENCH", "OXO_EDGE_INJECT_SPIN_US"] else []) ++
    (if features.hopTiming then ["OXO_HOP_TIMING", "OXO_HOP_STAMP"] else []) ++
    ["OXO_WORKER_DISPATCH", "OXO_EDGE_WORKER_CAP", "OXO_HOP_REAPER", "OXO_EDGE_FRAME_POOL_IDLE"]

section

variable {SocketAddr : Type} {library : Library SocketAddr} {names : List String}
  {name : String} {features : Features}

private theorem ReadsOnly.orElseRead {α : Type} (given : Option α) {read : Reading (Option α)}
    (only : ReadsOnly names read) : ReadsOnly names (Service.orElseRead given read) := by
  cases given with
  | none => exact only
  | some value => exact .pure _

private theorem ReadsOnly.orReadSet (given : Bool) {read : Fallible (Option Bool)}
    (only : ReadsOnly names read.run) : ReadsOnly names (Service.orReadSet given read).run := by
  cases given with
  | true => exact .pure _
  | false => exact .bindExcept only fun _ => .pure _

private theorem ReadsOnly.orReadList (given : List String) (separator : Char)
    (member : name ∈ names) :
    ReadsOnly names (Service.orReadList library given separator name).run := by
  unfold Service.orReadList
  split
  · exact .pure _
  · exact .bindExcept (.optionalEnv member _) fun _ => .pure _

private theorem readsOnly_edgeUsesTls (cli : EdgeCliConfig SocketAddr) :
    ReadsOnly edgeArgsNames (edgeUsesTls library cli).run := by
  unfold edgeUsesTls
  split
  · exact .pure _
  · split
    · exact .pure _
    · exact .envBool (by decide) _

private theorem readsOnly_resolveTls (usesTls : Bool) (cli : EdgeCliConfig SocketAddr) :
    ReadsOnly edgeArgsNames (resolveTls library usesTls cli).run := by
  cases usesTls with
  | false => exact .pure _
  | true =>
      refine .bindExcept (.lift (.orElseRead _ (.optionalPath (by decide)))) fun _ => ?_
      refine .bindExcept (.lift (.orElseRead _ (.optionalPath (by decide)))) fun _ => ?_
      exact .bindExcept (.optionalEnv (by decide) _) fun _ => .pure _

private theorem readsOnly_refuseIgnoredCidrs (edgeCli : EdgeCliConfig SocketAddr) :
    ReadsOnly names (refuseIgnoredCidrs edgeCli).run := by
  unfold refuseIgnoredCidrs
  split
  · exact .pure _
  · exact .pure _

private theorem readsOnly_resolveEdgeCli (workerSockets : List OsString) (edgeBind : SocketAddr)
    (cli : EdgeCliConfig SocketAddr) (edgeDrainGraceMs : UInt64) :
    ReadsOnly edgeArgsNames
      (resolveEdgeCli library workerSockets edgeBind cli edgeDrainGraceMs).run := by
  unfold resolveEdgeCli
  refine .bindExcept (readsOnly_edgeUsesTls cli) fun _ => ?_
  -- one reader for each setting, in the order of the source
  repeat
    first
    | refine .bindExcept (.optionalEnv (by decide) _) fun _ => ?_
    | refine .bindExcept (.orReadSet _ (.optionalEnv (by decide) _)) fun _ => ?_
    | refine .bindExcept (.orReadList _ _ (by decide)) fun _ => ?_
    | refine .bindExcept (.lift (.orElseRead _ (.optionalPath (by decide)))) fun _ => ?_
    | refine .bindExcept (readsOnly_resolveTls _ _) fun _ => ?_
  exact readsOnly_refuseIgnoredCidrs _

theorem readsOnly_collectEdgeArgs (workerSockets : List OsString) (edgeBind : SocketAddr)
    (cli : EdgeCliConfig SocketAddr) (edgeDrainGraceMs : UInt64) :
    ReadsOnly edgeArgsNames
      (collectEdgeArgs library workerSockets edgeBind cli edgeDrainGraceMs).run :=
  .bindExcept (readsOnly_resolveEdgeCli ..) fun _ => .pure _

private theorem ReadsOnly.forwardVar (vars : Envs) (member : name ∈ names) :
    ReadsOnly names (Service.forwardVar vars name) := by
  refine .bind (.var member) fun found => ?_
  cases found with
  | ok value => exact .pure _
  | error failure => exact .pure _

private theorem ReadsOnly.forwardVars (vars : Envs) {forwarded : List String}
    (members : ∀ name ∈ forwarded, name ∈ names) :
    ReadsOnly names (Service.forwardVars vars forwarded) := by
  induction forwarded generalizing vars with
  | nil => exact .pure _
  | cons name rest inductionHypothesis =>
      obtain ⟨member, restMembers⟩ := List.forall_mem_cons.mp members
      exact .bind (.forwardVar vars member) fun vars => inductionHypothesis vars restMembers

theorem readsOnly_collectEdgeEnv (workerLaunch : WorkerLaunch) :
    ReadsOnly (edgeEnvNames features) (collectEdgeEnv features workerLaunch) := by
  have listed : ∀ name ∈ ["OXO_WORKER_DISPATCH", "OXO_EDGE_WORKER_CAP", "OXO_HOP_REAPER",
      "OXO_EDGE_FRAME_POOL_IDLE"], name ∈ edgeEnvNames features :=
    fun name member => List.mem_append_right _ member
  refine .bind (.forwardVars _ ?_) fun vars => .bind (.forwardVars _ ?_) fun vars => ?_
  · exact fun name member => List.mem_append_left _ (List.mem_append_left _ member)
  · exact fun name member => List.mem_append_left _ (List.mem_append_right _ member)
  refine .bind (.forwardVar _ (listed _ (by decide))) fun vars => ?_
  refine .bind (.forwardVar _ (listed _ (by decide))) fun vars => ?_
  refine .bind (.forwardVar _ (listed _ (by decide))) fun vars => ?_
  exact .bind (.forwardVar _ (listed _ (by decide))) fun vars => .pure _

/-! ### Every variable is read in some run -/

/-- Nothing is set. -/
private def emptyParent : Parent where
  vars _ := none
  isFile _ := false

/-- The certificate is read behind an HTTPS bind, the choice of TLS without one. -/
private theorem reads_collectEdgeArgs (library : Library SocketAddr) (edgeBind : SocketAddr) (member : name ∈ edgeArgsNames) :
    ∃ cli, ReadsVar (collectEdgeArgs library [] edgeBind cli 0).run name := by
  have plain : (Program.performed emptyParent.reply (collectEdgeArgs library [] edgeBind
      (EdgeCliConfig.default SocketAddr) 0).run).head? = some (.var "OXO_EDGE_TLS") := rfl
  have secure : (Program.performed emptyParent.reply (collectEdgeArgs library [] edgeBind
      { EdgeCliConfig.default SocketAddr with httpsBind := some edgeBind } 0).run).map
        EnvOp.reads = edgeArgsNames.tail.map some := rfl
  rcases List.mem_cons.mp member with rfl | listed
  · exact ⟨_, emptyParent, _, List.mem_of_head? plain, rfl⟩
  · have performed := List.mem_map_of_mem (f := some) listed
    change some name ∈ edgeArgsNames.tail.map some at performed
    rw [← secure] at performed
    obtain ⟨op, isPerformed, reads⟩ := List.mem_map.mp performed
    exact ⟨_, emptyParent, op, isPerformed, reads⟩

private theorem reads_collectEdgeEnv (member : name ∈ edgeEnvNames features) :
    ReadsVar (collectEdgeEnv features .classic) name := by
  have all : (Program.performed emptyParent.reply (collectEdgeEnv features .classic)).map
      EnvOp.reads = (edgeEnvNames features).map some := by
    obtain ⟨edgeBench, hopTiming⟩ := features
    cases edgeBench <;> cases hopTiming <;> rfl
  have performed := List.mem_map_of_mem (f := some) member
  rw [← all] at performed
  obtain ⟨op, isPerformed, reads⟩ := List.mem_map.mp performed
  exact ⟨emptyParent, op, isPerformed, reads⟩

end

/-! ## Edge settings -/

/-- A variable of the edge's own prefix that is read for its arguments or its environment. -/
def EdgeSetting {SocketAddr : Type} (library : Library SocketAddr) (features : Features)
    (name : String) : Prop :=
  startsWith name "OXO_EDGE_" = true ∧
    ((∃ workerSockets edgeBind cli edgeDrainGraceMs,
        ReadsVar (collectEdgeArgs library workerSockets edgeBind cli edgeDrainGraceMs).run name) ∨
      ∃ workerLaunch, ReadsVar (collectEdgeEnv features workerLaunch) name)

/-- The edge settings by name. -/
def edgeSettings (features : Features) : List String :=
  (edgeArgsNames ++ edgeEnvNames features).filter fun name => startsWith name "OXO_EDGE_"

theorem edgeSetting_iff {SocketAddr : Type} [Inhabited SocketAddr]
    {library : Library SocketAddr} {features : Features} {name : String} :
    EdgeSetting library features name ↔ name ∈ edgeSettings features := by
  rw [edgeSettings, List.mem_filter, List.mem_append]
  constructor
  · rintro ⟨isPrefixed, ⟨workerSockets, edgeBind, cli, grace, reads⟩ | ⟨workerLaunch, reads⟩⟩
    · exact ⟨.inl ((readsOnly_collectEdgeArgs workerSockets edgeBind cli grace).mem reads),
        isPrefixed⟩
    · exact ⟨.inr ((readsOnly_collectEdgeEnv workerLaunch).mem reads), isPrefixed⟩
  · rintro ⟨inArgs | inEnv, isPrefixed⟩
    · obtain ⟨cli, reads⟩ := reads_collectEdgeArgs library default inArgs
      exact ⟨isPrefixed, .inl ⟨[], default, cli, 0, reads⟩⟩
    · exact ⟨isPrefixed, .inr ⟨.classic, reads_collectEdgeEnv inEnv⟩⟩

end Oxo.Edge.Service
