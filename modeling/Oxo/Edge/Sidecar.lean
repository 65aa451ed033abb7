import Oxo.Edge.ClientRequest

/-!
Contract: the proxied sidecar routes of the edge
(`oxo-pingora-edge/src/platform/worker_wire.rs`, `proxy.rs`).

Owns: the Action Cable and gRPC route tests and validators, the route a request takes
before admission, the header edits made on the upstream request, and the exact header
lists from which those edits remove every client-chosen identity.

Does not own: admission, the proxy loop, or the sidecars. The header map of the HTTP
library is a multimap; the order between different names carries no meaning here.
-/

namespace Oxo.Edge

open Oxo.Foundation Oxo.Core

/-! ## Route tests -/

def Session.path (session : Session) : String :=
  (session.pathAndQuery.map PathAndQuery.path).getD ""

def isActionCableUpgradeAttempt (session : Session) (headers : List LoweredHeader) : Bool :=
  session.path == "/cable" && headers.any fun header =>
    header.lower == "upgrade" && eqIgnoreAsciiCase (trim header.value) "websocket"

def isNativeGrpcRequestAttempt (headers : List LoweredHeader) : Bool :=
  headers.any fun header =>
    header.lower == "content-type" && isNativeGrpcContentType header.value

/-! ## gRPC validation -/

def isAsciiDigit (byte : UInt8) : Bool :=
  0x30 ≤ byte && byte ≤ 0x39

def grpcTimeoutUnits : List UInt8 :=
  [0x48, 0x4d, 0x53, 0x6d, 0x75, 0x6e]

def isValidGrpcTimeout (value : String) : Bool :=
  let bytes := utf8 (trim value)
  if !(decide (2 ≤ bytes.length) && decide (bytes.length ≤ 9)) then false
  else
    let digits := bytes.dropLast
    !digits.isEmpty && decide (digits.length ≤ 8) && digits.all isAsciiDigit &&
      grpcTimeoutUnits.contains (bytes.getLastD 0)

structure GrpcScan where
  headerBytes : Nat := 0
  hostCount : Nat := 0
  hostValue : Option String := none
  contentTypeCount : Nat := 0
  sawNativeGrpc : Bool := false
  sawTeTrailers : Bool := false
  grpcTimeoutCount : Nat := 0

def grpcRefusedNames : List String :=
  ["connection", "upgrade", "transfer-encoding", "expect", "trailer", "http2-settings",
    "keep-alive", "proxy-connection"]

def GrpcScan.note (scan : GrpcScan) (header : LoweredHeader) : Except UInt16 GrpcScan :=
  let value := header.value
  if header.lower == "host" then
    .ok { scan with hostCount := scan.hostCount + 1, hostValue := some value }
  else if header.lower == "content-type" then
    if isGrpcWebContentType value then .error 415
    else .ok { scan with
      contentTypeCount := scan.contentTypeCount + 1
      sawNativeGrpc := isNativeGrpcContentType value }
  else if header.lower == "te" then
    if eqIgnoreAsciiCase (trim value) "trailers" then .ok { scan with sawTeTrailers := true }
    else .error 400
  else if header.lower == "grpc-timeout" then
    if decide (scan.grpcTimeoutCount + 1 > 1) || !isValidGrpcTimeout value then .error 400
    else .ok { scan with grpcTimeoutCount := scan.grpcTimeoutCount + 1 }
  else if grpcRefusedNames.contains header.lower then .error 400
  else .ok scan

def scanGrpcHeaders : List LoweredHeader → GrpcScan → Except UInt16 GrpcScan
  | [], scan => .ok scan
  | header :: rest, scan => do
      let headerBytes ← accumulateHeaderBytes scan.headerBytes header.name header.value
      let scan ← GrpcScan.note { scan with headerBytes } header
      scanGrpcHeaders rest scan

def validateGrpcUnaryRequest (session : Session) (headers : List LoweredHeader)
    (maxBodyBytes : Nat) (publicServerName : Option String) : Except UInt16 Unit := do
  refuseIf (!session.isHttp2 || session.method != "POST") 400
  match session.pathAndQuery with
  | none => .error 400
  | some pathAndQuery =>
      refuseIf (!startsWith pathAndQuery.asStr "/") 400
      refuseIf (session.uriScheme.any fun scheme => !eqIgnoreAsciiCase scheme "https") 400
      match session.uriAuthority with
      | none => .error 400
      | some authority =>
          refuseIf (decide (headers.length > maxRequestHeaders)) 431
          let scan ← scanGrpcHeaders headers {}
          refuseIf (decide (scan.hostCount > 1) || scan.contentTypeCount != 1 ||
            !scan.sawNativeGrpc || !scan.sawTeTrailers) 400
          refuseIf (scan.hostValue.any fun host => !eqIgnoreAsciiCase host authority) 400
          match publicServerName with
          | some expected => checkPublicHost expected authority scan.hostValue
          | none => .ok ()
          let length ← contentLength headers none
          refuseIf (length.any fun length => decide (length > maxBodyBytes)) 413

/-! ## Action Cable validation -/

def isValidWebsocketKey (value : String) : Bool :=
  let trimmed := utf8 (trim value)
  trimmed.length == 24 && trimmed.all fun byte =>
    isAsciiAlphanumeric byte || byte == 0x2b || byte == 0x2f || byte == 0x3d

def originMatchesEdge (origin urlScheme serverName : String) (serverPort : UInt16) : Bool :=
  match splitOnceText (trim origin) "://" with
  | none => false
  | some (scheme, rest) =>
      if !eqIgnoreAsciiCase scheme urlScheme || rest.toList.contains '/' then false
      else if !hostMatchesServerName rest serverName then false
      else
        let defaultPort := (urlScheme == "http" && serverPort == 80) ||
          (urlScheme == "https" && serverPort == 443)
        match rsplitOnce rest ':' with
        | some (host, port) =>
            if host.toList.getLast? != some ']' then
              parseUnsigned (2 ^ 16) port == some serverPort.toNat
            else defaultPort
        | none => defaultPort

structure CableScan where
  headerBytes : Nat := 0
  hostCount : Nat := 0
  hostValue : Option String := none
  connectionUpgrade : Bool := false
  upgradeWebsocket : Bool := false
  websocketKey : Bool := false
  websocketVersion13 : Bool := false
  actionCableSubprotocol : Bool := false
  originValue : Option String := none

def cableRefusedNames : List String :=
  ["content-length", "transfer-encoding", "expect", "trailer", "http2-settings", "keep-alive",
    "proxy-connection"]

def CableScan.note (scan : CableScan) (header : LoweredHeader) : Except UInt16 CableScan :=
  let value := header.value
  if header.lower == "host" then
    .ok { scan with hostCount := scan.hostCount + 1, hostValue := some value }
  else if header.lower == "connection" then
    .ok { scan with connectionUpgrade := scan.connectionUpgrade ||
      (split value ',').any fun token => eqIgnoreAsciiCase (trim token) "upgrade" }
  else if header.lower == "upgrade" then
    .ok { scan with upgradeWebsocket := eqIgnoreAsciiCase (trim value) "websocket" }
  else if header.lower == "sec-websocket-key" then
    .ok { scan with websocketKey := isValidWebsocketKey value }
  else if header.lower == "sec-websocket-version" then
    .ok { scan with websocketVersion13 := trim value == "13" }
  else if header.lower == "sec-websocket-protocol" then
    .ok { scan with actionCableSubprotocol :=
      (split value ',').any fun part => eqIgnoreAsciiCase (trim part) "actioncable-v1-json" }
  else if header.lower == "origin" then .ok { scan with originValue := some value }
  else if cableRefusedNames.contains header.lower then .error 400
  else .ok scan

def scanCableHeaders : List LoweredHeader → CableScan → Except UInt16 CableScan
  | [], scan => .ok scan
  | header :: rest, scan => do
      let headerBytes ← accumulateHeaderBytes scan.headerBytes header.name header.value
      let scan ← CableScan.note { scan with headerBytes } header
      scanCableHeaders rest scan

def validateActionCableRequest (session : Session) (headers : List LoweredHeader)
    (publicServerName : Option String) (urlScheme serverName : String) (serverPort : UInt16) :
    Except UInt16 Unit := do
  refuseIf session.isHttp2 400
  refuseIf (session.method != "GET" || session.path != "/cable") 400
  refuseIf (session.uriScheme.isSome || session.uriAuthority.isSome) 400
  refuseIf (decide (headers.length > maxRequestHeaders)) 431
  let scan ← scanCableHeaders headers {}
  refuseIf (scan.hostCount != 1) 400
  match scan.hostValue with
  | none => .error 400
  | some host =>
      refuseIf (publicServerName.any fun expected => !hostMatchesServerName host expected) 421
      refuseIf (!hostMatchesServerName host serverName) 421
      refuseIf (!scan.connectionUpgrade || !scan.upgradeWebsocket || !scan.websocketKey ||
        !scan.websocketVersion13 || !scan.actionCableSubprotocol) 400
      match scan.originValue with
      | none => .error 403
      | some origin =>
          refuseIf (!originMatchesEdge origin urlScheme serverName serverPort) 403

/-! ## Routing -/

/-- A socket address. -/
structure SocketAddr where
  ip : List UInt8
  port : UInt16
deriving DecidableEq

inductive EdgeRoute where
  | worker
  | actionCable (bind : SocketAddr)
  | grpc (bind : SocketAddr)
deriving DecidableEq

def EdgeRoute.isSidecar : EdgeRoute → Bool
  | .worker => false
  | .actionCable _ => true
  | .grpc _ => true

/-- The settings of the proxy that the sidecar routes read. -/
structure ProxySettings where
  actionCableBind : Option SocketAddr
  grpcBind : Option SocketAddr
  publicServerName : Option String
  urlScheme : String
  serverName : String
  serverPort : UInt16
  maxBodyBytes : Nat

def grpcRoute (settings : ProxySettings) (session : Session) (headers : List LoweredHeader) :
    Except UInt16 EdgeRoute :=
  match settings.grpcBind with
  | none => .ok .worker
  | some bind =>
      if isNativeGrpcRequestAttempt headers then do
        validateGrpcUnaryRequest session headers settings.maxBodyBytes settings.publicServerName
        return .grpc bind
      else .ok .worker

/-- The route `request_filter` picks, or the status it refuses with. Admission follows and
changes neither the route nor the headers. -/
def requestRoute (settings : ProxySettings) (session : Session) (headers : List LoweredHeader) :
    Except UInt16 EdgeRoute :=
  match settings.actionCableBind with
  | none => grpcRoute settings session headers
  | some bind =>
      if isActionCableUpgradeAttempt session headers then do
        validateActionCableRequest session headers settings.publicServerName settings.urlScheme
          settings.serverName settings.serverPort
        return .actionCable bind
      else grpcRoute settings session headers

/-! ## The upstream request -/

inductive HeaderOrigin where
  | client
  | edge
deriving DecidableEq

/-- A header of the upstream request and who set its value. -/
structure UpstreamHeader where
  name : String
  value : List UInt8
  origin : HeaderOrigin
deriving DecidableEq

def UpstreamHeader.lower (header : UpstreamHeader) : String :=
  toAsciiLowercase header.name

/-- Removes every value of a name, whatever its case. -/
def removeHeader (headers : List UpstreamHeader) (name : String) : List UpstreamHeader :=
  headers.filter fun header => header.lower != name

/-- Replaces every value of a name by one. -/
def insertHeader (headers : List UpstreamHeader) (name value : String) : List UpstreamHeader :=
  removeHeader headers name ++ [⟨name, utf8 value, .edge⟩]

def ProxySettings.publicUpstreamHost (settings : ProxySettings) : String :=
  if (settings.urlScheme == "http" && settings.serverPort == 80) ||
      (settings.urlScheme == "https" && settings.serverPort == 443) then settings.serverName
  else settings.serverName ++ ":" ++ toString settings.serverPort

/-- The names the filter removes. -/
def strippedUpstreamNames : List String :=
  ["forwarded", "x-forwarded-for", "x-forwarded-host", "x-forwarded-port", "x-forwarded-proto",
    "x-real-ip", "x-request-id", "x-oxo-remote-addr", "x-oxo-url-scheme", "x-oxo-server-name",
    "x-oxo-server-port", "x-oxo-request-id"]

/-- The headers the filter sets. -/
def insertedUpstreamHeaders (settings : ProxySettings) (requestId : Option String) :
    List (String × String) :=
  [("host", settings.publicUpstreamHost), ("x-oxo-url-scheme", settings.urlScheme),
    ("x-oxo-server-name", settings.serverName),
    ("x-oxo-server-port", toString settings.serverPort)] ++
    (requestId.map fun value => ("x-oxo-request-id", value)).toList

def upstreamRequestFilter (settings : ProxySettings) (route : EdgeRoute)
    (requestId : Option String) (upstreamRequest : List UpstreamHeader) : List UpstreamHeader :=
  if route.isSidecar then
    (insertedUpstreamHeaders settings requestId).foldl
      (fun headers inserted => insertHeader headers inserted.1 inserted.2)
      (strippedUpstreamNames.foldl removeHeader upstreamRequest)
  else upstreamRequest

/-- The upstream request starts as a copy of the client's. -/
def Session.upstreamRequest (session : Session) : List UpstreamHeader :=
  session.headers.map fun header => ⟨header.1, header.2, .client⟩

/-! ## Client-chosen identity -/

/-- Every identity header of the request was set by the edge. -/
def CarriesNoClientIdentity (headers : List UpstreamHeader) : Prop :=
  ∀ header ∈ headers, isReservedName header.lower = true → header.origin = .edge

theorem mem_foldl_removeHeader (names : List String) (headers : List UpstreamHeader)
    (header : UpstreamHeader) :
    header ∈ names.foldl removeHeader headers ↔ header ∈ headers ∧ header.lower ∉ names := by
  induction names generalizing headers with
  | nil => simp
  | cons name rest inductionHypothesis =>
      rw [List.foldl_cons, inductionHypothesis]
      simp only [removeHeader, List.mem_filter, bne_iff_ne, List.mem_cons, not_or, and_assoc]

/-- A client's header outlives the insertions exactly when none of them names it. -/
theorem client_mem_foldl_insertHeader (inserted : List (String × String))
    (headers : List UpstreamHeader) {header : UpstreamHeader} (client : header.origin = .client) :
    header ∈ inserted.foldl (fun headers entry => insertHeader headers entry.1 entry.2) headers ↔
      header ∈ headers ∧ header.lower ∉ inserted.map Prod.fst := by
  induction inserted generalizing headers with
  | nil => simp
  | cons entry rest inductionHypothesis =>
      have notInserted : header ∉ [⟨entry.1, utf8 entry.2, .edge⟩] := by
        intro inserted
        rw [List.mem_singleton.mp inserted] at client
        cases client
      rw [List.foldl_cons, inductionHypothesis, insertHeader, List.mem_append,
        or_iff_left notInserted]
      simp only [removeHeader, List.mem_filter, bne_iff_ne, List.map_cons, List.mem_cons, not_or,
        and_assoc]

/-- Every header the filter sets is either the host or was removed before. -/
theorem inserted_names_stripped (settings : ProxySettings) (requestId : Option String) :
    ∀ name ∈ (insertedUpstreamHeaders settings requestId).map Prod.fst,
      isReservedName name = true → name ∈ strippedUpstreamNames := by
  have listed : ∀ name ∈ ["host", "x-oxo-url-scheme", "x-oxo-server-name", "x-oxo-server-port",
      "x-oxo-request-id"], isReservedName name = true → name ∈ strippedUpstreamNames := by
    decide +kernel
  intro name member
  apply listed
  cases requestId with
  | none =>
      simp only [insertedUpstreamHeaders, Option.map_none, Option.toList_none, List.append_nil,
        List.map_cons, List.map_nil] at member
      exact List.mem_append_left ["x-oxo-request-id"] member
  | some value => exact member

/-- A proxied request carries no client-chosen identity exactly when every identity header the
client sent is on the filter's own list. -/
theorem sidecar_identity_stripped_iff (settings : ProxySettings) {route : EdgeRoute}
    (proxied : route.isSidecar = true) (requestId : Option String) (session : Session) :
    CarriesNoClientIdentity
        (upstreamRequestFilter settings route requestId session.upstreamRequest) ↔
      ∀ header ∈ session.headers, isReservedName (toAsciiLowercase header.1) = true →
        toAsciiLowercase header.1 ∈ strippedUpstreamNames := by
  unfold upstreamRequestFilter
  rw [if_pos proxied]
  constructor
  · intro noIdentity header member identity
    by_contra unlisted
    have kept : (⟨header.1, header.2, .client⟩ : UpstreamHeader) ∈
        (insertedUpstreamHeaders settings requestId).foldl
          (fun headers inserted => insertHeader headers inserted.1 inserted.2)
          (strippedUpstreamNames.foldl removeHeader session.upstreamRequest) := by
      rw [client_mem_foldl_insertHeader _ _ rfl, mem_foldl_removeHeader]
      refine ⟨⟨List.mem_map.mpr ⟨header, member, rfl⟩, unlisted⟩, ?_⟩
      intro inserted
      exact unlisted (inserted_names_stripped settings requestId _ inserted identity)
    cases noIdentity _ kept identity
  · intro listed header member identity
    cases origin : header.origin with
    | edge => rfl
    | client =>
        rw [client_mem_foldl_insertHeader _ _ origin, mem_foldl_removeHeader] at member
        obtain ⟨sent, inSession, rfl⟩ := List.mem_map.mp member.1.1
        exact absurd (listed sent inSession identity) member.1.2

/-! ## Sample requests -/

def cableTarget : PathAndQuery where
  asStr := "/cable"
  path := "/cable"
  query := none
  joined := fun _ => rfl
  plainPath := by decide
  visible := by
    have : ∀ char ∈ "/cable".toList, ' '.toNat < char.toNat := by decide
    exact fun char member => Char.lt_def.mpr (UInt32.lt_iff_toNat_lt.mpr (this char member))

/-- An Action Cable upgrade with the given further headers. -/
def cableSession (extra : List (String × String)) : Session where
  method := "GET"
  methodToken := getToken
  isHttp2 := false
  uriScheme := none
  uriAuthority := none
  pathAndQuery := some cableTarget
  headers := ([("host", "app"), ("connection", "Upgrade"), ("upgrade", "websocket"),
    ("sec-websocket-key", "dGhlIHNhbXBsZSBub25jZQ=="), ("sec-websocket-version", "13"),
    ("sec-websocket-protocol", "actioncable-v1-json"), ("origin", "https://app")] ++ extra).map
      fun header => (header.1, utf8 header.2)

def cableSettings : ProxySettings :=
  { actionCableBind := some ⟨[127, 0, 0, 1], 3001⟩
    grpcBind := none
    publicServerName := none
    urlScheme := "https"
    serverName := "app"
    serverPort := 443
    maxBodyBytes := 1048576 }

theorem sidecar_identity_stripped_forwarded :
    CarriesNoClientIdentity (upstreamRequestFilter cableSettings (.actionCable ⟨[127, 0, 0, 1], 3001⟩)
      (some "oxo-7-1") (cableSession [("X-Forwarded-For", "10.0.0.1")]).upstreamRequest) :=
  (sidecar_identity_stripped_iff cableSettings rfl _ _).mpr (by decide +kernel)

/-- The edge routes the upgrade to Action Cable and the client's own `Client-IP` goes with it. -/
theorem client_ip_reaches_action_cable :
    let session := cableSession [("client-ip", "10.0.0.1")]
    (collectRequestHeaders visibleText session).bind (requestRoute cableSettings session) =
        .ok (.actionCable ⟨[127, 0, 0, 1], 3001⟩) ∧
      ¬ CarriesNoClientIdentity (upstreamRequestFilter cableSettings
        (.actionCable ⟨[127, 0, 0, 1], 3001⟩) (some "oxo-7-1") session.upstreamRequest) := by
  intro session
  refine ⟨by decide +kernel, ?_⟩
  intro noIdentity
  have kept : (⟨"client-ip", utf8 "10.0.0.1", .client⟩ : UpstreamHeader) ∈
      upstreamRequestFilter cableSettings (.actionCable ⟨[127, 0, 0, 1], 3001⟩) (some "oxo-7-1")
        session.upstreamRequest := by
    decide +kernel
  cases noIdentity _ kept (by decide +kernel)

end Oxo.Edge
