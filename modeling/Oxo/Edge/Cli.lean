import Oxo.Foundation.Outcome
import Oxo.Foundation.Text

/-!
Contract: the command line of the edge (`oxo-pingora-edge/src/lib.rs`, `EdgeCliConfig`).

Owns: the configuration record, the flags with their texts, the parser with its error
messages, and the argument vector a configuration is forwarded as.

Does not own: what a setting does, or the configuration that the environment gives. The
library's reading and printing of socket addresses and its own error texts are parameters.
-/

namespace Oxo.Edge.Cli

open Oxo.Foundation

/-- The bytes of an operating-system string. A path is one. -/
abbrev OsString := List UInt8

/-- `EdgeError::ConfigEnv`. -/
structure ConfigError where
  name : String
  message : String
deriving DecidableEq

/-- What the standard library does with socket addresses, and the texts it reports with.
A printed address reads back, and blank text is no address. -/
structure Library (SocketAddr : Type) where
  parseSocketAddr : String → Option SocketAddr
  socketAddrText : SocketAddr → String
  reads_back : ∀ addr, parseSocketAddr (socketAddrText addr) = some addr
  blank_refused : ∀ text, trim text = "" → parseSocketAddr text = none
  debugOsString : OsString → String
  socketAddrError : String → String
  intError : String → String

structure EdgeCliConfig (SocketAddr : Type) where
  workerSockets : List OsString
  maxBodyBytes : Option UInt64
  httpBind : Option SocketAddr
  httpsBind : Option SocketAddr
  fqdn : Option String
  publicOriginPort : Option UInt16
  tlsCert : Option OsString
  tlsKey : Option OsString
  tlsH2 : Option Bool
  acmeStatePath : Option OsString
  acmeIssueOnce : Bool
  acmeRenewOnce : Bool
  acmeDirectoryUrl : Option String
  acmeContacts : List String
  acmeAcceptTerms : Bool
  acmeAllowProductionDirectory : Bool
  publicMode : Option String
  publicIdentity : Option String
  trustedProxyCidrs : List String
  maxInFlightPerIdentity : Option UInt64
  maxInFlightRequests : Option UInt64
  headerReadTimeoutMs : Option UInt64
  keepaliveIdleTimeoutMs : Option UInt64
  maxConnectionSecs : Option UInt64
  longLivedMaxConnections : Option UInt64
  longLivedMaxBufferedBytes : Option UInt64
  longLivedDownstreamWriteTimeoutMs : Option UInt64
  drainGraceMs : Option UInt64
  adminBind : Option SocketAddr
  actionCableBind : Option SocketAddr
  grpcBind : Option SocketAddr
  sseEnabled : Option Bool
  keepaliveEnabled : Option Bool
  maxRequestsPerConnection : Option UInt64
  h2MaxConcurrentStreams : Option UInt64
  h2MaxResetStreams : Option UInt64
  requestLog : Option String
  workerHop : Option String
  workerDispatch : Option String
  workerCap : Option UInt64
  edgeThreads : Option UInt64
  listenerTasks : Option UInt64
  staticMounts : List String
  staticRailsPreset : Option OsString
  serveRails : Option OsString
  prodEnabled : Option Bool
  checkConfig : Bool
deriving DecidableEq

/-- Nothing configured. -/
def EdgeCliConfig.default (SocketAddr : Type) : EdgeCliConfig SocketAddr where
  workerSockets := []
  maxBodyBytes := none
  httpBind := none
  httpsBind := none
  fqdn := none
  publicOriginPort := none
  tlsCert := none
  tlsKey := none
  tlsH2 := none
  acmeStatePath := none
  acmeIssueOnce := false
  acmeRenewOnce := false
  acmeDirectoryUrl := none
  acmeContacts := []
  acmeAcceptTerms := false
  acmeAllowProductionDirectory := false
  publicMode := none
  publicIdentity := none
  trustedProxyCidrs := []
  maxInFlightPerIdentity := none
  maxInFlightRequests := none
  headerReadTimeoutMs := none
  keepaliveIdleTimeoutMs := none
  maxConnectionSecs := none
  longLivedMaxConnections := none
  longLivedMaxBufferedBytes := none
  longLivedDownstreamWriteTimeoutMs := none
  drainGraceMs := none
  adminBind := none
  actionCableBind := none
  grpcBind := none
  sseEnabled := none
  keepaliveEnabled := none
  maxRequestsPerConnection := none
  h2MaxConcurrentStreams := none
  h2MaxResetStreams := none
  requestLog := none
  workerHop := none
  workerDispatch := none
  workerCap := none
  edgeThreads := none
  listenerTasks := none
  staticMounts := []
  staticRailsPreset := none
  serveRails := none
  prodEnabled := none
  checkConfig := false

/-! ## Flags -/

inductive Flag where
  | checkConfig
  | sse
  | noSse
  | serveRails
  | keepalive
  | noKeepalive
  | prod
  | noProd
  | maxRequestsPerConnection
  | h2MaxConcurrentStreams
  | h2MaxResetStreams
  | edgeThreads
  | listenerTasks
  | requestLog
  | workerHop
  | workerDispatch
  | workerCap
  | tlsH2
  | noTlsH2
  | workerSocket
  | staticMount
  | staticRailsPreset
  | maxBody
  | httpBind
  | httpsBind
  | fqdn
  | publicOriginPort
  | tlsCert
  | tlsKey
  | acmeStatePath
  | acmeIssueOnce
  | acmeRenewOnce
  | acmeDirectoryUrl
  | acmeContact
  | acmeAcceptTerms
  | acmeAllowProductionDirectory
  | publicMode
  | publicIdentity
  | trustedProxyCidr
  | maxInFlightPerIdentity
  | maxInFlightRequests
  | headerReadTimeoutMs
  | keepaliveIdleTimeoutMs
  | maxConnectionSecs
  | longLivedMaxConnections
  | longLivedMaxBufferedBytes
  | longLivedDownstreamWriteTimeoutMs
  | drainGraceMs
  | adminBind
  | actionCableBind
  | grpcBind
deriving DecidableEq

def Flag.text : Flag → String
  | .checkConfig => "--check-config"
  | .sse => "--sse"
  | .noSse => "--no-sse"
  | .serveRails => "--serve-rails"
  | .keepalive => "--keepalive"
  | .noKeepalive => "--no-keepalive"
  | .prod => "--prod"
  | .noProd => "--no-prod"
  | .maxRequestsPerConnection => "--max-requests-per-connection"
  | .h2MaxConcurrentStreams => "--h2-max-concurrent-streams"
  | .h2MaxResetStreams => "--h2-max-reset-streams"
  | .edgeThreads => "--edge-threads"
  | .listenerTasks => "--listener-tasks"
  | .requestLog => "--request-log"
  | .workerHop => "--worker-hop"
  | .workerDispatch => "--worker-dispatch"
  | .workerCap => "--worker-cap"
  | .tlsH2 => "--tls-h2"
  | .noTlsH2 => "--no-tls-h2"
  | .workerSocket => "--worker-socket"
  | .staticMount => "--static-mount"
  | .staticRailsPreset => "--static-rails-preset"
  | .maxBody => "--max-body"
  | .httpBind => "--http-bind"
  | .httpsBind => "--https-bind"
  | .fqdn => "--fqdn"
  | .publicOriginPort => "--public-origin-port"
  | .tlsCert => "--tls-cert"
  | .tlsKey => "--tls-key"
  | .acmeStatePath => "--acme-state-path"
  | .acmeIssueOnce => "--acme-issue-once"
  | .acmeRenewOnce => "--acme-renew-once"
  | .acmeDirectoryUrl => "--acme-directory-url"
  | .acmeContact => "--acme-contact"
  | .acmeAcceptTerms => "--acme-accept-terms"
  | .acmeAllowProductionDirectory => "--acme-allow-production-directory"
  | .publicMode => "--public-mode"
  | .publicIdentity => "--public-identity"
  | .trustedProxyCidr => "--trusted-proxy-cidr"
  | .maxInFlightPerIdentity => "--max-in-flight-per-identity"
  | .maxInFlightRequests => "--max-in-flight-requests"
  | .headerReadTimeoutMs => "--header-read-timeout-ms"
  | .keepaliveIdleTimeoutMs => "--keepalive-idle-timeout-ms"
  | .maxConnectionSecs => "--max-connection-secs"
  | .longLivedMaxConnections => "--long-lived-max-connections"
  | .longLivedMaxBufferedBytes => "--long-lived-max-buffered-bytes"
  | .longLivedDownstreamWriteTimeoutMs => "--long-lived-downstream-write-timeout-ms"
  | .drainGraceMs => "--drain-grace-ms"
  | .adminBind => "--admin-bind"
  | .actionCableBind => "--action-cable-bind"
  | .grpcBind => "--grpc-bind"

def Flag.all : List Flag :=
  [.checkConfig, .sse, .noSse, .serveRails, .keepalive, .noKeepalive, .prod, .noProd,
    .maxRequestsPerConnection, .h2MaxConcurrentStreams, .h2MaxResetStreams, .edgeThreads,
    .listenerTasks, .requestLog, .workerHop, .workerDispatch, .workerCap, .tlsH2, .noTlsH2,
    .workerSocket, .staticMount, .staticRailsPreset, .maxBody, .httpBind, .httpsBind, .fqdn,
    .publicOriginPort, .tlsCert, .tlsKey, .acmeStatePath, .acmeIssueOnce, .acmeRenewOnce,
    .acmeDirectoryUrl, .acmeContact, .acmeAcceptTerms, .acmeAllowProductionDirectory, .publicMode,
    .publicIdentity, .trustedProxyCidr, .maxInFlightPerIdentity, .maxInFlightRequests,
    .headerReadTimeoutMs, .keepaliveIdleTimeoutMs, .maxConnectionSecs, .longLivedMaxConnections,
    .longLivedMaxBufferedBytes, .longLivedDownstreamWriteTimeoutMs, .drainGraceMs, .adminBind,
    .actionCableBind, .grpcBind]

def Flag.ofText (text : String) : Option Flag :=
  Flag.all.find? (·.text == text)

/-! ## Values -/

def argvError (message : String) : ConfigError :=
  ⟨"argv", message⟩

/-- The arguments left after a step. -/
abbrev Rest (args : List OsString) := { rest : List OsString // rest.length ≤ args.length }

def rejectInlineValue (flag : String) (inline : Option OsString) : Except ConfigError Unit :=
  if inline.isSome then .error (argvError (flag ++ " does not take a value")) else .ok ()

/-- The value behind the equals sign, else the next argument. -/
def takeCliValue (flag : String) (inline : Option OsString) (args : List OsString) :
    Except ConfigError (OsString × Rest args) :=
  match inline, args with
  | some value, args => .ok (value, ⟨args, Nat.le_refl _⟩)
  | none, value :: rest => .ok (value, ⟨rest, Nat.le_succ _⟩)
  | none, [] => .error (argvError (flag ++ " requires a value"))

section Values

variable {SocketAddr : Type} (library : Library SocketAddr)

def cliUtf8 (role : String) (value : OsString) : Except ConfigError String :=
  match fromUtf8 value with
  | some text => .ok text
  | none => .error (argvError (role ++ " must be valid UTF-8: " ++ library.debugOsString value))

def cliStringValue (flag : String) (value : OsString) : Except ConfigError String := do
  let value ← cliUtf8 library flag value
  if trim value = "" then .error (argvError (flag ++ " must not be empty")) else .ok value

def parseSocketArg (flag : String) (value : OsString) : Except ConfigError SocketAddr := do
  let raw ← cliStringValue library flag value
  match library.parseSocketAddr raw with
  | some addr => .ok addr
  | none =>
      .error (argvError (flag ++ " expected socket address: " ++ library.socketAddrError raw))

def parseU16Arg (flag : String) (value : OsString) : Except ConfigError UInt16 := do
  let raw ← cliStringValue library flag value
  match parseUnsigned (2 ^ 16) raw with
  | some number => .ok (UInt16.ofNat number)
  | none => .error (argvError (flag ++ " expected integer port: " ++ library.intError raw))

def parseU64Arg (flag : String) (value : OsString) : Except ConfigError UInt64 := do
  let raw ← cliStringValue library flag value
  match parseUnsigned (2 ^ 64) raw with
  | some number => .ok (UInt64.ofNat number)
  | none => .error (argvError (flag ++ " expected integer byte count: " ++ library.intError raw))

/-- A path is taken as it is. -/
def pathValue (_flag : String) (value : OsString) : Except ConfigError OsString :=
  .ok value

/-! ## Parser -/

/-- The parser behind one flag: the configuration and the arguments left. -/
abbrev Parsed (SocketAddr : Type) (args : List OsString) :=
  Except ConfigError (EdgeCliConfig SocketAddr × Rest args)

/-- An arm without a value. -/
def switch (flag : String) (inline : Option OsString) (args : List OsString)
    (next : EdgeCliConfig SocketAddr) : Parsed SocketAddr args := do
  rejectInlineValue flag inline
  return (next, ⟨args, Nat.le_refl _⟩)

/-- An arm that takes a value, reads it and stores it. -/
def valued {α : Type} (read : String → OsString → Except ConfigError α) (flag : String)
    (inline : Option OsString) (args : List OsString) (store : α → EdgeCliConfig SocketAddr) :
    Parsed SocketAddr args := do
  let (value, rest) ← takeCliValue flag inline args
  let value ← read flag value
  return (store value, rest)

/-- The arms of the match on the flag; `text` is the flag as it was given. -/
def applyFlag (flag : Flag) (text : String) (inline : Option OsString) (args : List OsString)
    (config : EdgeCliConfig SocketAddr) : Parsed SocketAddr args :=
  match flag with
  | .checkConfig => switch text inline args { config with checkConfig := true }
  | .sse => switch text inline args { config with sseEnabled := some true }
  | .noSse => switch text inline args { config with sseEnabled := some false }
  | .serveRails => valued pathValue text inline args fun value =>
      { config with serveRails := some value }
  | .keepalive => switch text inline args { config with keepaliveEnabled := some true }
  | .noKeepalive => switch text inline args { config with keepaliveEnabled := some false }
  | .prod => switch text inline args { config with prodEnabled := some true }
  | .noProd => switch text inline args { config with prodEnabled := some false }
  | .maxRequestsPerConnection => valued (parseU64Arg library) text inline args fun value =>
      { config with maxRequestsPerConnection := some value }
  | .h2MaxConcurrentStreams => valued (parseU64Arg library) text inline args fun value =>
      { config with h2MaxConcurrentStreams := some value }
  | .h2MaxResetStreams => valued (parseU64Arg library) text inline args fun value =>
      { config with h2MaxResetStreams := some value }
  | .edgeThreads => valued (parseU64Arg library) text inline args fun value =>
      { config with edgeThreads := some value }
  | .listenerTasks => valued (parseU64Arg library) text inline args fun value =>
      { config with listenerTasks := some value }
  | .requestLog => valued (cliStringValue library) text inline args fun value =>
      { config with requestLog := some value }
  | .workerHop => valued (cliStringValue library) text inline args fun value =>
      { config with workerHop := some value }
  | .workerDispatch => valued (cliStringValue library) text inline args fun value =>
      { config with workerDispatch := some value }
  | .workerCap => valued (parseU64Arg library) text inline args fun value =>
      { config with workerCap := some value }
  | .tlsH2 => switch text inline args { config with tlsH2 := some true }
  | .noTlsH2 => switch text inline args { config with tlsH2 := some false }
  | .workerSocket => valued pathValue text inline args fun value =>
      { config with workerSockets := config.workerSockets ++ [value] }
  | .staticMount => valued (cliStringValue library) text inline args fun value =>
      { config with staticMounts := config.staticMounts ++ [value] }
  | .staticRailsPreset => valued pathValue text inline args fun value =>
      { config with staticRailsPreset := some value }
  | .maxBody => valued (parseU64Arg library) text inline args fun value =>
      { config with maxBodyBytes := some value }
  | .httpBind => valued (parseSocketArg library) text inline args fun value =>
      { config with httpBind := some value }
  | .httpsBind => valued (parseSocketArg library) text inline args fun value =>
      { config with httpsBind := some value }
  | .fqdn => valued (cliStringValue library) text inline args fun value =>
      { config with fqdn := some value }
  | .publicOriginPort => valued (parseU16Arg library) text inline args fun value =>
      { config with publicOriginPort := some value }
  | .tlsCert => valued pathValue text inline args fun value =>
      { config with tlsCert := some value }
  | .tlsKey => valued pathValue text inline args fun value =>
      { config with tlsKey := some value }
  | .acmeStatePath => valued pathValue text inline args fun value =>
      { config with acmeStatePath := some value }
  | .acmeIssueOnce => switch text inline args { config with acmeIssueOnce := true }
  | .acmeRenewOnce => switch text inline args { config with acmeRenewOnce := true }
  | .acmeDirectoryUrl => valued (cliStringValue library) text inline args fun value =>
      { config with acmeDirectoryUrl := some value }
  | .acmeContact => valued (cliStringValue library) text inline args fun value =>
      { config with acmeContacts := config.acmeContacts ++ [value] }
  | .acmeAcceptTerms => switch text inline args { config with acmeAcceptTerms := true }
  | .acmeAllowProductionDirectory =>
      switch text inline args { config with acmeAllowProductionDirectory := true }
  | .publicMode => valued (cliStringValue library) text inline args fun value =>
      { config with publicMode := some value }
  | .publicIdentity => valued (cliStringValue library) text inline args fun value =>
      { config with publicIdentity := some value }
  | .trustedProxyCidr => valued (cliStringValue library) text inline args fun value =>
      { config with trustedProxyCidrs := config.trustedProxyCidrs ++ [value] }
  | .maxInFlightPerIdentity => valued (parseU64Arg library) text inline args fun value =>
      { config with maxInFlightPerIdentity := some value }
  | .maxInFlightRequests => valued (parseU64Arg library) text inline args fun value =>
      { config with maxInFlightRequests := some value }
  | .headerReadTimeoutMs => valued (parseU64Arg library) text inline args fun value =>
      { config with headerReadTimeoutMs := some value }
  | .keepaliveIdleTimeoutMs => valued (parseU64Arg library) text inline args fun value =>
      { config with keepaliveIdleTimeoutMs := some value }
  | .maxConnectionSecs => valued (parseU64Arg library) text inline args fun value =>
      { config with maxConnectionSecs := some value }
  | .longLivedMaxConnections => valued (parseU64Arg library) text inline args fun value =>
      { config with longLivedMaxConnections := some value }
  | .longLivedMaxBufferedBytes => valued (parseU64Arg library) text inline args fun value =>
      { config with longLivedMaxBufferedBytes := some value }
  | .longLivedDownstreamWriteTimeoutMs => valued (parseU64Arg library) text inline args fun value =>
      { config with longLivedDownstreamWriteTimeoutMs := some value }
  | .drainGraceMs => valued (parseU64Arg library) text inline args fun value =>
      { config with drainGraceMs := some value }
  | .adminBind => valued (parseSocketArg library) text inline args fun value =>
      { config with adminBind := some value }
  | .actionCableBind => valued (parseSocketArg library) text inline args fun value =>
      { config with actionCableBind := some value }
  | .grpcBind => valued (parseSocketArg library) text inline args fun value =>
      { config with grpcBind := some value }

/-- The flag and the value behind its first equals sign. -/
def splitInline (raw : String) : String × Option OsString :=
  match splitOnce raw '=' with
  | some (flag, value) => (flag, some (utf8 value))
  | none => (raw, none)

/-- The argument loop. -/
def parseLoop : List OsString → EdgeCliConfig SocketAddr →
    Except ConfigError (EdgeCliConfig SocketAddr)
  | [], config => .ok config
  | arg :: args, config => do
      let raw ← cliUtf8 library "flag" arg
      let (text, inline) := splitInline raw
      match Flag.ofText text with
      | none => .error (argvError ("unknown argument " ++ text))
      | some flag =>
          let (config, ⟨rest, _⟩) ← applyFlag library flag text inline args config
          parseLoop rest config
termination_by args => args.length

def parseFlags (flags : List OsString) : Except ConfigError (EdgeCliConfig SocketAddr) :=
  parseLoop library flags (EdgeCliConfig.default SocketAddr)

/-! ## Forwarded arguments -/

def pushArg (args : List OsString) (flag : Flag) (value : OsString) : List OsString :=
  args ++ [utf8 flag.text] ++ [value]

/-- `for value in &self.field`. -/
def pushEach (args : List OsString) (flag : Flag) (values : List OsString) : List OsString :=
  values.foldl (fun args value => pushArg args flag value) args

/-- `if let Some(value) = &self.field`. -/
def pushSome (args : List OsString) (flag : Flag) : Option OsString → List OsString
  | some value => pushArg args flag value
  | none => args

/-- `if self.field`. -/
def pushSet (args : List OsString) (flag : Flag) (set : Bool) : List OsString :=
  if set then args ++ [utf8 flag.text] else args

/-- The tri-state match. -/
def pushChoice (args : List OsString) (on off : Flag) : Option Bool → List OsString
  | some true => args ++ [utf8 on.text]
  | some false => args ++ [utf8 off.text]
  | none => args

def u64Text (value : UInt64) : OsString :=
  utf8 (numeral 10 value.toNat)

def u16Text (value : UInt16) : OsString :=
  utf8 (numeral 10 value.toNat)

def socketText (addr : SocketAddr) : OsString :=
  utf8 (library.socketAddrText addr)

def toEdgeArgs (config : EdgeCliConfig SocketAddr) : List OsString :=
  let args := []
  let args := pushEach args .workerSocket config.workerSockets
  let args := pushSome args .maxBody (config.maxBodyBytes.map u64Text)
  let args := pushSome args .httpBind (config.httpBind.map (socketText library))
  let args := pushSome args .httpsBind (config.httpsBind.map (socketText library))
  let args := pushSome args .fqdn (config.fqdn.map utf8)
  let args := pushSome args .publicOriginPort (config.publicOriginPort.map u16Text)
  let args := pushSome args .tlsCert config.tlsCert
  let args := pushSome args .tlsKey config.tlsKey
  let args := pushChoice args .tlsH2 .noTlsH2 config.tlsH2
  let args := pushSome args .acmeStatePath config.acmeStatePath
  let args := pushSet args .acmeIssueOnce config.acmeIssueOnce
  let args := pushSet args .acmeRenewOnce config.acmeRenewOnce
  let args := pushSome args .acmeDirectoryUrl (config.acmeDirectoryUrl.map utf8)
  let args := pushEach args .acmeContact (config.acmeContacts.map utf8)
  let args := pushSet args .acmeAcceptTerms config.acmeAcceptTerms
  let args := pushSet args .acmeAllowProductionDirectory config.acmeAllowProductionDirectory
  let args := pushSome args .publicMode (config.publicMode.map utf8)
  let args := pushSome args .publicIdentity (config.publicIdentity.map utf8)
  let args := pushEach args .trustedProxyCidr (config.trustedProxyCidrs.map utf8)
  let args := pushSome args .maxInFlightPerIdentity (config.maxInFlightPerIdentity.map u64Text)
  let args := pushSome args .maxInFlightRequests (config.maxInFlightRequests.map u64Text)
  let args := pushSome args .headerReadTimeoutMs (config.headerReadTimeoutMs.map u64Text)
  let args := pushSome args .keepaliveIdleTimeoutMs (config.keepaliveIdleTimeoutMs.map u64Text)
  let args := pushSome args .maxConnectionSecs (config.maxConnectionSecs.map u64Text)
  let args := pushSome args .longLivedMaxConnections (config.longLivedMaxConnections.map u64Text)
  let args := pushSome args .longLivedMaxBufferedBytes
    (config.longLivedMaxBufferedBytes.map u64Text)
  let args := pushSome args .longLivedDownstreamWriteTimeoutMs
    (config.longLivedDownstreamWriteTimeoutMs.map u64Text)
  let args := pushSome args .drainGraceMs (config.drainGraceMs.map u64Text)
  let args := pushSome args .adminBind (config.adminBind.map (socketText library))
  let args := pushSome args .actionCableBind (config.actionCableBind.map (socketText library))
  let args := pushSome args .grpcBind (config.grpcBind.map (socketText library))
  let args := pushChoice args .sse .noSse config.sseEnabled
  let args := pushChoice args .keepalive .noKeepalive config.keepaliveEnabled
  let args := pushChoice args .prod .noProd config.prodEnabled
  let args := pushSome args .maxRequestsPerConnection
    (config.maxRequestsPerConnection.map u64Text)
  let args := pushSome args .h2MaxConcurrentStreams (config.h2MaxConcurrentStreams.map u64Text)
  let args := pushSome args .h2MaxResetStreams (config.h2MaxResetStreams.map u64Text)
  let args := pushSome args .edgeThreads (config.edgeThreads.map u64Text)
  let args := pushSome args .listenerTasks (config.listenerTasks.map u64Text)
  let args := pushSome args .requestLog (config.requestLog.map utf8)
  let args := pushSome args .workerHop (config.workerHop.map utf8)
  let args := pushSome args .workerDispatch (config.workerDispatch.map utf8)
  let args := pushSome args .workerCap (config.workerCap.map u64Text)
  let args := pushEach args .staticMount (config.staticMounts.map utf8)
  let args := pushSome args .staticRailsPreset config.staticRailsPreset
  let args := pushSome args .serveRails config.serveRails
  let args := pushSet args .checkConfig config.checkConfig
  args

end Values

end Oxo.Edge.Cli
