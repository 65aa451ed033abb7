import Oxo.Edge.HttpHop
import Oxo.Edge.Sidecar
import Oxo.Edge.Spoofing
import Oxo.Edge.Telemetry

/-!
Contract: the request callbacks of the edge proxy
(`oxo-pingora-edge/src/platform/proxy.rs`).

Owns: `admit` (`admitRequest` here), `request_filter`, `response_filter` and `fail_to_proxy` as programs over the
telemetry and the rest of the edge, how the proxy library calls them for a request, and that
each request is recorded once.

Does not own: what the limiters, the static server, the workers and the sidecars answer, or the
guards and the keepalive of the connection, which no counter reads.
-/

namespace Oxo.Edge

open Oxo.Foundation Oxo.Core

/-! ## The environment -/

inductive ErrorSource where
  | upstream
  | downstream
  | internal
  | unset
deriving DecidableEq

/-- An error of the proxy library: the code of an `HTTPStatus` error, and where it came from. -/
structure PingoraError where
  httpStatus : Option UInt16
  esource : ErrorSource
deriving DecidableEq

/-- A callback of the proxy loop for a sidecar route. -/
inductive Callback where
  | responseFilter (status : UInt16)
  | failToProxy (error : PingoraError)
deriving DecidableEq

def Callback.fails : Callback → Bool
  | .responseFilter _ => false
  | .failToProxy _ => true

/-- The callbacks of one proxied request: at least one, and at most one failure. -/
structure ProxyLoop where
  callbacks : List Callback
  fires : callbacks ≠ []
  failsOnce : callbacks.countP Callback.fails ≤ 1

/-- What a request asks of the rest of the edge. -/
inductive RequestOp where
  | telemetry (op : TelemetryOp)
  | checkoutScratch
  | nextRequestId
  | respondError (status : UInt16)
  | isDraining
  | acquireGlobal
  | acquireIdentity (remoteAddr : String)
  | tryAdmitLongLived
  | writeNativeBenchResponse
  | serveStatic
  | readCompleteBody (contentLength : Option Nat)
  | sendWorkerFrame (request : List UInt8)
  | sendWorkerRequest (request : List UInt8)
  | proxy (route : EdgeRoute)

/-- A static server answers with the status it wrote, if the path is static; a worker hop with
the status that was written, or the one to refuse with. -/
def RequestAnswer : RequestOp → Type
  | .telemetry _ => Unit
  | .checkoutScratch => List UInt8
  | .nextRequestId => String × UInt64
  | .respondError _ => Except PingoraError Unit
  | .isDraining => Bool
  | .acquireGlobal => Bool
  | .acquireIdentity _ => Bool
  | .tryAdmitLongLived => Bool
  | .writeNativeBenchResponse => Except UInt16 Unit
  | .serveStatic => Option UInt16
  | .readCompleteBody _ => Except UInt16 (List UInt8)
  | .sendWorkerFrame _ => Except UInt16 UInt16
  | .sendWorkerRequest _ => Except UInt16 UInt16
  | .proxy _ => ProxyLoop

abbrev Handler := Program RequestOp RequestAnswer

def ask (op : RequestOp) : Handler (RequestAnswer op) :=
  Program.perform op

def record : List TelemetryOp → Handler Unit
  | [] => pure ()
  | op :: rest => do
      ask (.telemetry op)
      record rest

/-! ## The proxy -/

inductive WorkerHop where
  | frame
  | http
deriving DecidableEq

structure EdgeProxy where
  config : EdgeConfig
  actionCableBind : Option SocketAddr
  grpcBind : Option SocketAddr
  nativeBenchEnabled : Bool
  staticServer : Bool
  prodPin : Option (List String)
  workerHop : WorkerHop
  requestLog : RequestLogMode

def EdgeProxy.settings (edge : EdgeProxy) : ProxySettings where
  actionCableBind := edge.actionCableBind
  grpcBind := edge.grpcBind
  publicServerName := edge.config.publicServerName
  urlScheme := edge.config.urlScheme
  serverName := edge.config.serverName
  serverPort := edge.config.serverPort
  maxBodyBytes := edge.config.maxBodyBytes

/-- A request as the proxy library presents it. -/
structure ClientSession where
  session : Session
  clientAddr : Option ClientAddr

structure EdgeRequestContext where
  route : EdgeRoute
  requestId : Option String
  outcomeRecorded : Bool
deriving DecidableEq

/-- `EdgeRequestContext::default`. -/
def EdgeRequestContext.new : EdgeRequestContext where
  route := .worker
  requestId := none
  outcomeRecorded := false

structure Admission where
  remoteAddr : String

def firstPathSegment (path : String) : String :=
  let trimmed := match path.toList with
    | '/' :: rest => rest
    | chars => chars
  String.ofList (trimmed.takeWhile (· != '/'))

def isStaticCandidate (prodPin : Option (List String)) (path : String) : Bool :=
  match prodPin with
  | none => true
  | some pin =>
      let seg := firstPathSegment path
      seg.toList.contains '%' || pin.contains seg

section

variable (edge : EdgeProxy) (client : ClientSession) (requestId : String)

/-- Record a rejection, then write it. -/
def reject (status : UInt16) : Handler (Except PingoraError Bool) := do
  record (recordRejection edge.requestLog requestId status)
  let written : Except PingoraError Unit ← ask (.respondError status)
  return written.map fun _ => true

/-- An admission that is refused, and already recorded. -/
def refuseAdmission (status : UInt16) : Handler (Except PingoraError (Option Admission)) := do
  let written : Except PingoraError Unit ← ask (.respondError status)
  return written.map fun _ => none

def admitRequest (rawHeaders : List LoweredHeader) (wantLongLived : Bool) :
    Handler (Except PingoraError (Option Admission)) := do
  let global : Bool ← ask .acquireGlobal
  if global then
    match admittedRemoteAddr edge.config.publicIdentity client.clientAddr rawHeaders with
    | .error rejection => do
        record (recordRejection edge.requestLog requestId rejection.status)
        refuseAdmission rejection.status
    | .ok remoteAddr => do
        let identity : Bool ← ask (.acquireIdentity remoteAddr)
        if identity then
          if wantLongLived then do
            let longLived : Bool ← ask .tryAdmitLongLived
            if longLived then
              return .ok (some ⟨remoteAddr⟩)
            else do
              record (recordRejection edge.requestLog requestId 503)
              refuseAdmission 503
          else
            return .ok (some ⟨remoteAddr⟩)
        else do
          record (recordRateLimited edge.requestLog requestId)
          refuseAdmission 503
  else do
    record (recordOverloaded edge.requestLog requestId)
    refuseAdmission 503

inductive HopPrep where
  | frame (plan : FrameHeaderPlan)
  | http (headers : List (String × String))

def hopPrep (rawHeaders : List LoweredHeader) (remoteAddr : String) :
    Except RequestRejection HopPrep :=
  match edge.workerHop with
  | .frame => (sanitizeFrameHeaders rawHeaders edge.config.protocols).map .frame
  | .http =>
      let metadata := { edge.config.metadata remoteAddr with requestId := some requestId }
      (sanitizeLoweredWorkerRequestHeaders rawHeaders metadata edge.config.protocols).map
        fun sanitized => .http sanitized.headers

/-- The bytes of the request on its hop, or the status to refuse with; then the hop. -/
def sendToWorker (frameBuf : List UInt8) (rawHeaders : List LoweredHeader) (remoteAddr : String)
    (prep : HopPrep) (body : List UInt8) : Handler (Except UInt16 UInt16) :=
  match prep with
  | .frame plan =>
      match buildRequestFrameBytesInto frameBuf client.session rawHeaders plan body
          (edge.config.metadata remoteAddr) with
      | .error status => return .error status
      | .ok request => ask (.sendWorkerFrame request)
  | .http headers =>
      match buildWorkerRequest client.session headers body with
      | .error status => return .error status
      | .ok request => ask (.sendWorkerRequest request)

/-- From the sanitizer to the worker's answer. -/
def proxyToWorker (frameBuf : List UInt8) (rawHeaders : List LoweredHeader)
    (contentLength : Option Nat) (remoteAddr : String) : Handler (Except PingoraError Bool) :=
  match hopPrep edge requestId rawHeaders remoteAddr with
  | .error rejection => reject edge requestId rejection.status
  | .ok prep => do
      let read : Except UInt16 (List UInt8) ← ask (.readCompleteBody contentLength)
      match read with
      | .error status => reject edge requestId status
      | .ok body => do
          match ← sendToWorker edge client frameBuf rawHeaders remoteAddr prep body with
          | .error status => reject edge requestId status
          | .ok status => do
              record (recordResponse edge.requestLog requestId status)
              return .ok true

/-- Static files go first, then the worker. -/
def serveWorkerRoute (frameBuf : List UInt8) (rawHeaders : List LoweredHeader)
    (contentLength : Option Nat) (remoteAddr : String) : Handler (Except PingoraError Bool) := do
  let method := client.session.method
  if edge.staticServer && ((method == "GET" || method == "HEAD") &&
      isStaticCandidate edge.prodPin client.session.path) then
    let served : Option UInt16 ← ask .serveStatic
    match served with
    | some status => do
        record (recordResponse edge.requestLog requestId status)
        return .ok true
    | none => proxyToWorker edge client requestId frameBuf rawHeaders contentLength remoteAddr
  else proxyToWorker edge client requestId frameBuf rawHeaders contentLength remoteAddr

def workerRoute (frameBuf : List UInt8) (rawHeaders : List LoweredHeader) :
    Handler (Except PingoraError Bool) :=
  match validateClientRequest client.session rawHeaders edge.config.maxBodyBytes
      edge.config.publicServerName with
  | .error status => reject edge requestId status
  | .ok contentLength => do
      match ← admitRequest edge client requestId rawHeaders false with
      | .error error => return .error error
      | .ok none => return .ok true
      | .ok (some admission) => do
          if edge.nativeBenchEnabled && client.session.path == "/edge-bench" then
            let written : Except UInt16 Unit ← ask .writeNativeBenchResponse
            match written with
            | .ok () => do
                record (recordResponse edge.requestLog requestId 200)
                return .ok true
            | .error status => reject edge requestId status
          else
            serveWorkerRoute edge client requestId frameBuf rawHeaders contentLength
              admission.remoteAddr

/-- A sidecar route leaves the request to the proxy loop, with the route in its context. -/
def sidecarRoute (rawHeaders : List LoweredHeader) (route : EdgeRoute) :
    Handler (Except PingoraError Bool × EdgeRequestContext) := do
  match ← admitRequest edge client requestId rawHeaders true with
  | .error error => return (.error error, .new)
  | .ok none => return (.ok true, .new)
  | .ok (some _) =>
      return (.ok false, { EdgeRequestContext.new with route := route, requestId := some requestId })

/-- `request_filter`, while its observation lives. -/
def filterRequest (frameBuf : List UInt8) :
    Handler (Except PingoraError Bool × EdgeRequestContext) :=
  match collectRequestHeaders visibleText client.session with
  | .error status => return (← reject edge requestId status, .new)
  | .ok rawHeaders => do
      let draining : Bool ← ask .isDraining
      if draining then
        return (← reject edge requestId 503, .new)
      else
        match requestRoute edge.settings client.session rawHeaders with
        | .error status => return (← reject edge requestId status, .new)
        | .ok route =>
            if route.isSidecar then sidecarRoute edge client requestId rawHeaders route
            else return (← workerRoute edge client requestId frameBuf rawHeaders, .new)

end

/-- The observation is dropped on every way out. -/
def requestFilter (edge : EdgeProxy) (client : ClientSession) :
    Handler (Except PingoraError Bool × EdgeRequestContext) := do
  let frameBuf : List UInt8 ← ask .checkoutScratch
  let (requestId, requestSequence) : String × UInt64 ← ask .nextRequestId
  record (startRequest requestSequence)
  let result ← filterRequest edge client requestId frameBuf
  record dropObservation
  return result

/-! ## The proxy loop -/

/-- Only the first outcome of a request is recorded, and only under its id. -/
def recordOnce (ctx : EdgeRequestContext) (outcome : String → List TelemetryOp) :
    Handler EdgeRequestContext := do
  if ctx.outcomeRecorded then return ctx
  else do
    match ctx.requestId with
    | some requestId => record (outcome requestId)
    | none => pure ()
    return { ctx with outcomeRecorded := true }

def responseFilter (edge : EdgeProxy) (ctx : EdgeRequestContext) (status : UInt16) :
    Handler EdgeRequestContext :=
  if ctx.route.isSidecar then
    recordOnce ctx fun requestId => recordResponse edge.requestLog requestId status
  else return ctx

def failCode (error : PingoraError) : UInt16 :=
  match error.httpStatus with
  | some code => code
  | none =>
      match error.esource with
      | .upstream => 502
      | .downstream => 400
      | .internal | .unset => 500

def failToProxy (edge : EdgeProxy) (ctx : EdgeRequestContext) (error : PingoraError) :
    Handler EdgeRequestContext := do
  let code := failCode error
  let ctx ← recordOnce ctx fun requestId => recordRejection edge.requestLog requestId code
  let _ ← ask (.respondError code)
  return ctx

def callback (edge : EdgeProxy) (ctx : EdgeRequestContext) : Callback → Handler EdgeRequestContext
  | .responseFilter status => responseFilter edge ctx status
  | .failToProxy error => failToProxy edge ctx error

def callbacks (edge : EdgeProxy) : EdgeRequestContext → List Callback → Handler Unit
  | _, [] => pure ()
  | ctx, first :: rest => do
      let ctx ← callback edge ctx first
      callbacks edge ctx rest

/-- A request as the proxy library runs it. -/
def serveRequest (edge : EdgeProxy) (client : ClientSession) : Handler Unit := do
  let (result, ctx) ← requestFilter edge client
  match result with
  | .error error => do
      let _ ← failToProxy edge ctx error
  | .ok true => pure ()
  | .ok false => do
      let loop : ProxyLoop ← ask (.proxy ctx.route)
      callbacks edge ctx loop.callbacks

end Oxo.Edge
