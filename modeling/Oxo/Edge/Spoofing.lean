import Oxo.Edge.Decodability
import Oxo.Edge.Identity
import Oxo.Worker.AsyncEnv

/-!
Contract: client headers that could forge identity do not reach the application
(`oxo-pingora-edge/src/platform/proxy.rs`, `request_filter` on the frame hop, and both workers).

Owns: the edge's pipeline from a session to the frame it sends, the classes of spoofable
header names, and the comparison of the environments that two requests give rise to.

Does not own: the stages themselves, or the request's body, which is compared as read.
-/

namespace Oxo.Edge

open Oxo.Foundation Oxo.Core Oxo.Core.HopFrame Oxo.Worker

/-! ## From the session to the frame -/

/-- The client's socket address as the proxy library presents it. Addresses that are not
internet addresses are known by their display form. -/
inductive ClientAddr where
  | inet (ip : IpAddr) (port : UInt16)
  | other (display : String)

inductive PublicIdentityPolicy where
  | directPublic
  | trustedProxy (policy : TrustedProxyPolicy)

def IdentityRejection.status : IdentityRejection → UInt16
  | .untrustedImmediatePeer => 403
  | _ => 400

def RequestRejection.status : RequestRejection → UInt16
  | .grpcUnsupported => 415
  | .upgradeUnsupported | .streamingUnsupported => 400

def directPublicRemoteAddr : Option ClientAddr → String
  | none => "127.0.0.1"
  | some (.inet ip _) => ip.toString
  | some (.other display) => display

def peerIp : Option ClientAddr → Option IpAddr
  | none => some (.v4 (BitVec.ofNat 32 0x7f000001))
  | some (.inet ip _) => some ip
  | some (.other _) => none

/-- The identity step of `admit`. -/
def admittedRemoteAddr (policy : PublicIdentityPolicy) (peer : Option ClientAddr)
    (headers : List LoweredHeader) : Except IdentityRejection String :=
  match policy with
  | .directPublic => .ok (directPublicRemoteAddr peer)
  | .trustedProxy policy =>
      match peerIp peer with
      | none => .error .malformedImmediatePeer
      | some ip => policy.resolveRemoteAddrLowered ip headers

structure EdgeConfig where
  publicIdentity : PublicIdentityPolicy
  publicServerName : Option String
  maxBodyBytes : Nat
  protocols : ProtocolSupport
  urlScheme : String
  serverName : String
  serverPort : UInt16

/-- The data of the edge's own that the frame carries. -/
def EdgeConfig.metadata (config : EdgeConfig) (remoteAddr : String) : TrustedHopMetadata :=
  ⟨remoteAddr, config.urlScheme, config.serverName, config.serverPort, none⟩

/-- What `request_filter` does on the frame hop, up to the bytes it sends: the status of a
refusal, or the frame. `body` is the body as read, and `out` the reused buffer. -/
def requestFrameBytes (toStr : List UInt8 → Option String) (config : EdgeConfig)
    (peer : Option ClientAddr) (out : List UInt8) (session : Session) (body : List UInt8) :
    Except UInt16 (List UInt8) := do
  let rawHeaders ← collectRequestHeaders toStr session
  let _ ← validateClientRequest session rawHeaders config.maxBodyBytes config.publicServerName
  let remoteAddr ← (admittedRemoteAddr config.publicIdentity peer rawHeaders).mapError
    IdentityRejection.status
  let plan ← (sanitizeFrameHeaders rawHeaders config.protocols).mapError RequestRejection.status
  buildRequestFrameBytesInto out session rawHeaders plan body
    (config.metadata remoteAddr)

/-! ## Spoofable names -/

/-- The classes of header names, in any letter case, that a client could use to speak for the
edge, and the names that CGI conversion would confuse with others. -/
def isSpoofable (name : String) : Bool :=
  let lower := toAsciiLowercase name
  isClientForwardingHeader lower || startsWith lower "x-oxo-" || lower == "x-request-id" ||
    name.toList.contains '_'

/-- Two requests that differ in spoofable headers alone: any number of them, anywhere. -/
structure DifferInSpoofable (first second : Session) : Prop where
  method : second.method = first.method
  isHttp2 : second.isHttp2 = first.isHttp2
  uriScheme : second.uriScheme = first.uriScheme
  uriAuthority : second.uriAuthority = first.uriAuthority
  pathAndQuery : second.pathAndQuery = first.pathAndQuery
  headers : (second.headers.filter fun header => !isSpoofable header.1) =
    first.headers.filter fun header => !isSpoofable header.1

/-- What is left of a header list without the spoofable ones. -/
def ordinary (headers : List LoweredHeader) : List LoweredHeader :=
  headers.filter fun header => !isSpoofable header.name

private theorem isSpoofable_lower (header : LoweredHeader) :
    isSpoofable header.name = isSpoofable header.lower := by
  have underscore : (toAsciiLowercase header.name).toList.contains '_' =
      header.name.toList.contains '_' := by
    rw [Bool.eq_iff_iff, List.contains_iff_mem, List.contains_iff_mem]
    exact underscore_mem_toAsciiLowercase header.name
  unfold isSpoofable
  simp only [header.lower_eq, toAsciiLowercase_idem, underscore]

private theorem filter_ordinary {headers : List LoweredHeader} {name : String}
    (plain : isSpoofable name = false) :
    (ordinary headers).filter (fun header => header.lower == name) =
      headers.filter fun header => header.lower == name := by
  unfold ordinary
  rw [List.filter_filter]
  apply List.filter_congr
  intro header _
  cases named : header.lower == name with
  | false => rfl
  | true =>
      rw [isSpoofable_lower, beq_iff_eq.mp named, plain]
      rfl

/-! ## What the edge keeps -/

private theorem connectionNamesMatch_ordinary (headers : List LoweredHeader) :
    connectionNamesMatch (ordinary headers) = connectionNamesMatch headers := by
  funext candidate
  unfold connectionNamesMatch
  rw [filter_ordinary (by decide +kernel)]

private theorem survivors_ordinary (headers : List LoweredHeader) :
    survivors (ordinary headers) = ordinary (survivors headers) := by
  have sameStrip : isStripped (ordinary headers) = isStripped headers := by
    funext header
    rw [isStripped, isStripped, connectionNamesMatch_ordinary]
  unfold survivors
  rw [sameStrip]
  unfold ordinary
  rw [List.filter_filter, List.filter_filter]
  apply List.filter_congr
  intro header _
  rw [Bool.and_comm]

private theorem synthesizedHost_ordinary (authority : Option String)
    (headers : List LoweredHeader) :
    synthesizedHost authority (ordinary headers) = synthesizedHost authority headers := by
  have sameHost : ((ordinary (survivors headers)).any fun header => header.lower == "host") =
      (survivors headers).any fun header => header.lower == "host" := by
    unfold ordinary
    rw [List.any_filter]
    congr 1
    funext header
    cases named : header.lower == "host" with
    | false => rw [Bool.and_false]
    | true =>
        rw [isSpoofable_lower, beq_iff_eq.mp named]
        decide +kernel
  unfold synthesizedHost
  rw [survivors_ordinary, sameHost]

/-! ## What the workers keep -/

/-- The edge strips three of the classes, and the workers drop the fourth. -/
private theorem appHeader_of_spoofable {headers : List LoweredHeader} {header : LoweredHeader}
    (survives : header ∈ survivors headers) (spoofable : isSpoofable header.name = true) :
    appHeader (header.name, header.value) = none := by
  have kept := (List.mem_filter.mp survives).2
  simp only [isStripped, shouldStripHeaderScan, header.lower_eq, Bool.not_eq_true',
    Bool.or_eq_false_iff] at kept
  obtain ⟨⟨⟨notHopByHop, notForwarding⟩, notOxo⟩, -⟩ := kept
  have notRequestId : (toAsciiLowercase header.name == "x-request-id") = false := by
    rw [beq_eq_false_iff_ne]
    intro isRequestId
    rw [isRequestId] at notHopByHop
    exact absurd notHopByHop (by decide)
  have underscore : '_' ∈ header.name.toList := by
    simpa [isSpoofable, notForwarding, notOxo, notRequestId] using spoofable
  cases passes : appHeader (header.name, header.value) with
  | none => rfl
  | some kept => exact absurd underscore (appHeader_eq_some passes).2.1

private theorem appHeaders_ordinary (authority : Option String) (headers : List LoweredHeader) :
    (writtenHeaders authority (ordinary headers)).filterMap appHeader =
      (writtenHeaders authority headers).filterMap appHeader := by
  unfold writtenHeaders
  rw [synthesizedHost_ordinary, survivors_ordinary, List.filterMap_append, List.filterMap_append,
    List.filterMap_map, List.filterMap_map, ordinary, List.filterMap_filter]
  congr 1
  apply List.filterMap_congr
  intro header survives
  cases spoofable : isSpoofable header.name with
  | false => rfl
  | true => exact (appHeader_of_spoofable survives spoofable).symm

/-! ## The frame sent -/

private theorem spoofable_of_converted {toStr : List UInt8 → Option String}
    (input : String × List UInt8) (result : LoweredHeader)
    (converted : (match toStr input.2 with
      | some value => Except.ok (LoweredHeader.new input.1 value)
      | none => .error (400 : UInt16)) = .ok result) :
    (!isSpoofable result.name) = !isSpoofable input.1 := by
  cases text : toStr input.2 with
  | none =>
      rw [text] at converted
      cases converted
  | some value =>
      rw [text] at converted
      cases converted
      rfl

private theorem collect_ordinary {toStr : List UInt8 → Option String} {first second : Session}
    (differ : DifferInSpoofable first second) {firstHeaders secondHeaders : List LoweredHeader}
    (firstCollected : collectRequestHeaders toStr first = .ok firstHeaders)
    (secondCollected : collectRequestHeaders toStr second = .ok secondHeaders) :
    ordinary secondHeaders = ordinary firstHeaders := by
  have firstPlain := mapM_filter_of_ok spoofable_of_converted firstCollected
  have secondPlain := mapM_filter_of_ok spoofable_of_converted secondCollected
  rw [differ.headers, firstPlain] at secondPlain
  exact (Except.ok.inj secondPlain).symm

/-- What a frame that was sent carries: few headers, with ASCII names. -/
structure Sent (config : EdgeConfig) (peer : Option ClientAddr) (body : List UInt8)
    (target : RequestTarget) (headers : List LoweredHeader) (frame : List UInt8) : Prop where
  encoded : encodeRequest (writtenFrame target headers body (config.metadata (directPublicRemoteAddr peer))) = .ok frame
  ascii : ∀ header ∈ writtenHeaders target.authority headers, ∀ char ∈ header.1.toList,
    char.toNat < 128
  few : (writtenHeaders target.authority headers).length ≤ AsyncWorker.maxHeaders

private theorem writtenHeaders_ascii {session : Session} {headers : List LoweredHeader}
    (validated : Validated session headers) (authority : Option String) :
    ∀ header ∈ writtenHeaders authority headers, ∀ char ∈ header.1.toList, char.toNat < 128 := by
  intro header member
  rcases List.mem_append.mp member with synthesized | survives
  · rw [Option.mem_toList, Option.map_eq_some_iff] at synthesized
    obtain ⟨host, -, rfl⟩ := synthesized
    exact (by decide : ∀ char ∈ "host".toList, char.toNat < 128)
  · obtain ⟨survivor, inSurvivors, rfl⟩ := List.mem_map.mp survives
    have valid := (validated.admitted survivor (List.mem_of_mem_filter inSurvivors)).name
    rw [isValidHeaderName, Bool.and_eq_true] at valid
    intro char inName
    exact (token_char valid.2 inName).1

private theorem writtenHeaders_few {session : Session} {headers : List LoweredHeader}
    (validated : Validated session headers) (authority : Option String) :
    (writtenHeaders authority headers).length ≤ AsyncWorker.maxHeaders := by
  have survivorsFew : (survivors headers).length ≤ headers.length := List.length_filter_le ..
  have few : headers.length ≤ 100 := validated.few
  have cap : AsyncWorker.maxHeaders = 128 := rfl
  have oneHost : ((synthesizedHost authority headers).map fun host => ("host", host)).toList.length
      ≤ 1 := by
    cases synthesizedHost authority headers <;> simp
  rw [writtenHeaders, List.length_append, List.length_map]
  omega

private theorem requestFrameBytes_eq_ok {toStr : List UInt8 → Option String} {config : EdgeConfig}
    {peer : Option ClientAddr} {out : List UInt8} {session : Session} {body frame : List UInt8}
    (direct : config.publicIdentity = .directPublic)
    (sent : requestFrameBytes toStr config peer out session body = .ok frame) :
    ∃ headers target, collectRequestHeaders toStr session = .ok headers ∧
      session.target = .ok target ∧ Sent config peer body target headers frame := by
  unfold requestFrameBytes at sent
  rw [bind_eq_ok] at sent
  obtain ⟨headers, collected, sent⟩ := sent
  rw [bind_eq_ok] at sent
  obtain ⟨length, validated, sent⟩ := sent
  have facts := validateClientRequest_eq_ok validated
  have identified : (admittedRemoteAddr config.publicIdentity peer headers).mapError
      IdentityRejection.status = .ok (directPublicRemoteAddr peer) := by
    rw [direct]
    rfl
  rw [identified, ok_bind] at sent
  cases sanitized : sanitizeFrameHeaders headers config.protocols with
  | error rejection =>
      rw [sanitized] at sent
      cases sent
  | ok plan =>
      rw [sanitized] at sent
      change buildRequestFrameBytesInto out session headers plan body _ = .ok frame at sent
      cases hasTarget : session.target with
      | error status =>
          rw [buildRequestFrameBytesInto, hasTarget] at sent
          cases sent
      | ok target =>
          rw [buildRequestFrameBytesInto_eq facts.few sanitized hasTarget] at sent
          refine ⟨headers, target, collected, rfl, ?_, writtenHeaders_ascii facts _,
            writtenHeaders_few facts _⟩
          cases encoded : encodeRequest (writtenFrame target headers body _) with
          | error failure =>
              rw [encoded] at sent
              cases sent
          | ok bytes =>
              rw [encoded] at sent
              cases sent
              rfl

/-! ## Two requests -/

section

variable {config : EdgeConfig} {peer : Option ClientAddr} {body frame : List UInt8}
  {target : RequestTarget} {headers : List LoweredHeader}

private theorem Sent.fits (sent : Sent config peer body target headers frame) :
    (writtenFrame target headers body (config.metadata (directPublicRemoteAddr peer))).FitsWire := by
  by_contra fails
  have encoded := sent.encoded
  rw [encodeRequest_of_not_fits fails] at encoded
  cases encoded

/-- What the native worker decodes is what was written. -/
private theorem Sent.native {maxBody : Nat} {found : RequestFrame}
    (sent : Sent config peer body target headers frame)
    (decoded : FrameDecodesTo maxBody frame found) :
    found = writtenFrame target headers body (config.metadata (directPublicRemoteAddr peer)) :=
  ((frameDecodesTo_iff sent.encoded).mp decoded).1

/-- What the async worker decodes is the view of what was written. -/
private theorem Sent.async {maxBodyBytes : Int} {hash : AsyncWorker.RequestHash}
    (sent : Sent config peer body target headers frame)
    (decoded : AsyncWorker.decodeRequestEnvelope maxBodyBytes (frame.drop framePrefixLen) =
      .ok hash) :
    hash = rubyView (writtenFrame target headers body (config.metadata (directPublicRemoteAddr peer))) := by
  have encoded := sent.encoded
  rw [encodeRequest_of_fits sent.fits] at encoded
  cases encoded
  rw [← prefixImage_length (writtenFrame target headers body (config.metadata (directPublicRemoteAddr peer))).envelope.length,
    List.drop_left] at decoded
  exact decodeRequestEnvelope_view sent.fits sent.few decoded

end

/-- Both workers see the same request in two frames whose ordinary headers are the same. -/
private theorem workerRequest_ordinary {first second : List LoweredHeader}
    (same : ordinary second = ordinary first) (target : RequestTarget) (body : List UInt8)
    (metadata : TrustedHopMetadata) :
    requestFrameToWorkerRequest (writtenFrame target second body metadata) =
      requestFrameToWorkerRequest (writtenFrame target first body metadata) := by
  have kept : (writtenHeaders target.authority second).filterMap appHeader =
      (writtenHeaders target.authority first).filterMap appHeader := by
    rw [← appHeaders_ordinary target.authority second, same, appHeaders_ordinary]
  unfold requestFrameToWorkerRequest writtenFrame
  simp only [kept]

private theorem asyncEnv_ordinary (folding : FullDowncase) (mapping : FullUpcase)
    (multiprocess : Bool) {first second : List LoweredHeader}
    (same : ordinary second = ordinary first) (target : RequestTarget) (body : List UInt8)
    (metadata : TrustedHopMetadata)
    (firstAscii : ∀ header ∈ writtenHeaders target.authority first, ∀ char ∈ header.1.toList,
      char.toNat < 128)
    (secondAscii : ∀ header ∈ writtenHeaders target.authority second, ∀ char ∈ header.1.toList,
      char.toNat < 128) :
    ∃ env,
      AsyncWorker.requestEnv folding mapping multiprocess
        (rubyView (writtenFrame target first body metadata)) = .ok env ∧
      AsyncWorker.requestEnv folding mapping multiprocess
        (rubyView (writtenFrame target second body metadata)) = .ok env := by
  refine ⟨_, AsyncWorker.requestEnv_ascii folding mapping multiprocess firstAscii, ?_⟩
  rw [AsyncWorker.requestEnv_ascii folding mapping multiprocess secondAscii,
    workerRequest_ordinary same]
  rfl

/-- Kept headers with one key have one name. -/
private theorem name_eq_of_key_eq (mapping : FullUpcase) {first second : String × String}
    (firstAscii : ∀ char ∈ first.1.toList, char.toNat < 128)
    (secondAscii : ∀ char ∈ second.1.toList, char.toNat < 128)
    {firstKept secondKept : String × String} (firstPasses : appHeader first = some firstKept)
    (secondPasses : appHeader second = some secondKept)
    (same : envKey mapping firstKept.1 = envKey mapping secondKept.1) :
    toAsciiLowercase first.1 = toAsciiLowercase second.1 := by
  have plain : ∀ header : String × String, (∀ char ∈ header.1.toList, char.toNat < 128) →
      ∀ kept, appHeader header = some kept →
        ∀ char ∈ (toAsciiLowercase header.1).toList, char.toNat < 128 ∧ IsFolded char := by
    intro header ascii kept passes char member
    refine ⟨?_, lowercase_folded (appHeader_eq_some passes).2.1 char member⟩
    simp only [toAsciiLowercase, String.toList_ofList, List.mem_map] at member
    obtain ⟨source, inName, rfl⟩ := member
    have small := ascii source inName
    rw [toLower_toNat]
    split_ifs <;> omega
  rw [(appHeader_eq_some firstPasses).1, (appHeader_eq_some secondPasses).1] at same
  exact envKey_injective mapping (plain first firstAscii firstKept firstPasses)
    (plain second secondAscii secondKept secondPasses) same

/-- Two requests from one peer that differ in spoofable headers alone look the same to the
application in either worker, and no worker files two differently named headers under one
key. -/
theorem spoofable_headers_invisible (toStr : List UInt8 → Option String)
    (folding : FullDowncase) (mapping : FullUpcase) {config : EdgeConfig}
    {peer : Option ClientAddr} {body firstOut secondOut firstFrame secondFrame : List UInt8}
    {first second : Session}
    (direct : config.publicIdentity = .directPublic)
    (differ : DifferInSpoofable first second)
    (firstSent : requestFrameBytes toStr config peer firstOut first body = .ok firstFrame)
    (secondSent : requestFrameBytes toStr config peer secondOut second body = .ok secondFrame) :
    (∀ maxBody options firstFound secondFound,
      FrameDecodesTo maxBody firstFrame firstFound →
      FrameDecodesTo maxBody secondFrame secondFound →
      buildEnv mapping options (requestFrameToWorkerRequest secondFound) =
        buildEnv mapping options (requestFrameToWorkerRequest firstFound)) ∧
    (∀ maxBodyBytes multiprocess firstHash secondHash,
      AsyncWorker.decodeRequestEnvelope maxBodyBytes (firstFrame.drop framePrefixLen) =
        .ok firstHash →
      AsyncWorker.decodeRequestEnvelope maxBodyBytes (secondFrame.drop framePrefixLen) =
        .ok secondHash →
      ∃ env, AsyncWorker.requestEnv folding mapping multiprocess firstHash = .ok env ∧
        AsyncWorker.requestEnv folding mapping multiprocess secondHash = .ok env) ∧
    (∀ maxBody found, FrameDecodesTo maxBody firstFrame found →
      ∀ left ∈ found.headers, ∀ right ∈ found.headers, ∀ leftKept rightKept,
        appHeader left = some leftKept → appHeader right = some rightKept →
        toAsciiLowercase left.1 ≠ toAsciiLowercase right.1 →
        envKey mapping leftKept.1 ≠ envKey mapping rightKept.1) ∧
    ∀ maxBodyBytes hash,
      AsyncWorker.decodeRequestEnvelope maxBodyBytes (firstFrame.drop framePrefixLen) = .ok hash →
      ∀ left ∈ hash.headers, ∀ right ∈ hash.headers, ∀ leftKept rightKept,
        AsyncWorker.filterHeader folding left = .ok (some leftKept) →
        AsyncWorker.filterHeader folding right = .ok (some rightKept) →
        left.1.map byteToAsciiLowercase ≠ right.1.map byteToAsciiLowercase →
        envKey mapping leftKept.1 ≠ envKey mapping rightKept.1 := by
  obtain ⟨firstHeaders, target, firstCollected, hasTarget, firstWritten⟩ :=
    requestFrameBytes_eq_ok direct firstSent
  obtain ⟨secondHeaders, secondTarget, secondCollected, hasSecondTarget, secondWritten⟩ :=
    requestFrameBytes_eq_ok direct secondSent
  have sameTarget : secondTarget = target := by
    rw [Session.target, differ.method, differ.pathAndQuery, differ.uriAuthority] at hasSecondTarget
    exact Except.ok.inj (hasSecondTarget.symm.trans hasTarget)
  subst sameTarget
  have same := collect_ordinary differ firstCollected secondCollected
  refine ⟨?_, ?_, ?_, ?_⟩
  · intro maxBody options firstFound secondFound firstDecoded secondDecoded
    rw [firstWritten.native firstDecoded, secondWritten.native secondDecoded,
      workerRequest_ordinary same]
  · intro maxBodyBytes multiprocess firstHash secondHash firstDecoded secondDecoded
    rw [firstWritten.async firstDecoded, secondWritten.async secondDecoded]
    exact asyncEnv_ordinary folding mapping multiprocess same _ _ _ firstWritten.ascii
      secondWritten.ascii
  · intro maxBody found decoded left leftIn right rightIn leftKept rightKept leftPasses rightPasses
      different sameKey
    rw [firstWritten.native decoded] at leftIn rightIn
    exact different (name_eq_of_key_eq mapping (firstWritten.ascii left leftIn)
      (firstWritten.ascii right rightIn) leftPasses rightPasses sameKey)
  · intro maxBodyBytes hash decoded left leftIn right rightIn leftKept rightKept leftPasses
      rightPasses different sameKey
    rw [firstWritten.async decoded] at leftIn rightIn
    obtain ⟨leftText, leftWritten, rfl⟩ := List.mem_map.mp leftIn
    obtain ⟨rightText, rightWritten, rfl⟩ := List.mem_map.mp rightIn
    rw [AsyncWorker.filterHeader_ascii folding (firstWritten.ascii leftText leftWritten),
      Except.ok.injEq, Option.map_eq_some_iff] at leftPasses
    rw [AsyncWorker.filterHeader_ascii folding (firstWritten.ascii rightText rightWritten),
      Except.ok.injEq, Option.map_eq_some_iff] at rightPasses
    obtain ⟨leftPair, leftPasses, rfl⟩ := leftPasses
    obtain ⟨rightPair, rightPasses, rfl⟩ := rightPasses
    apply different
    have sameName := name_eq_of_key_eq mapping (firstWritten.ascii leftText leftWritten)
      (firstWritten.ascii rightText rightWritten) leftPasses rightPasses sameKey
    rw [← utf8_toAsciiLowercase, ← utf8_toAsciiLowercase, sameName]

def publicConfig : EdgeConfig where
  publicIdentity := .directPublic
  publicServerName := none
  maxBodyBytes := 1048576
  protocols := ⟨false⟩
  urlScheme := "https"
  serverName := "app"
  serverPort := 443

def honestSession : Session :=
  ⟨"GET", getToken, false, none, none, some rootTarget, [("host", [97]), ("Accept", [98])]⟩

/-- The same request with a header of every spoofable class around the others. -/
def spoofedSession : Session :=
  ⟨"GET", getToken, false, none, none, some rootTarget,
    [("X-Forwarded-For", [49]), ("host", [97]), ("X_Real_IP", [50]), ("Accept", [98]),
      ("X-OXO-Remote-Addr", [51]), ("x-request-id", [52])]⟩

/-- The frame of either, with the headers the edge lets through. -/
def receivedFrame (headers : List (String × String)) : RequestFrame where
  method := "GET"
  path := "/"
  query := ""
  serverName := "app"
  serverPort := 443
  scheme := .https
  remoteAddr := "127.0.0.1"
  headers := headers
  body := []

theorem spoofable_headers_invisible_sample :
    ∃ firstFrame secondFrame,
      requestFrameBytes visibleText publicConfig none [] honestSession [] = .ok firstFrame ∧
      requestFrameBytes visibleText publicConfig none [] spoofedSession [] = .ok secondFrame ∧
      FrameDecodesTo 1048576 firstFrame (receivedFrame [("host", "a"), ("Accept", "b")]) ∧
      FrameDecodesTo 1048576 secondFrame
        (receivedFrame [("host", "a"), ("X_Real_IP", "2"), ("Accept", "b")]) ∧
      buildEnv unicodeUpcase ⟨false, false⟩ (requestFrameToWorkerRequest
          (receivedFrame [("host", "a"), ("X_Real_IP", "2"), ("Accept", "b")])) =
        buildEnv unicodeUpcase ⟨false, false⟩ (requestFrameToWorkerRequest
          (receivedFrame [("host", "a"), ("Accept", "b")])) := by
  let honest := receivedFrame [("host", "a"), ("Accept", "b")]
  let spoofed := receivedFrame [("host", "a"), ("X_Real_IP", "2"), ("Accept", "b")]
  have honestFits : honest.FitsWire :=
    ⟨by decide, by decide, by decide, by decide, by decide, by decide, by decide, by decide⟩
  have spoofedFits : spoofed.FitsWire :=
    ⟨by decide, by decide, by decide, by decide, by decide, by decide, by decide, by decide⟩
  have honestSent : requestFrameBytes visibleText publicConfig none [] honestSession [] =
      .ok (prefixImage honest.envelope.length ++ honest.envelope) := by
    decide +kernel
  have spoofedSent : requestFrameBytes visibleText publicConfig none [] spoofedSession [] =
      .ok (prefixImage spoofed.envelope.length ++ spoofed.envelope) := by
    decide +kernel
  have honestDecodes : FrameDecodesTo 1048576
      (prefixImage honest.envelope.length ++ honest.envelope) honest :=
    (frameDecodesTo_iff (encodeRequest_of_fits honestFits)).mpr ⟨rfl, by decide,
      .of_fits honestFits ⟨by decide, by decide, by decide⟩
        (show ∀ header ∈ honest.headers, ControlFree header.1 ∧ ControlFree header.2 by decide)⟩
  have spoofedDecodes : FrameDecodesTo 1048576
      (prefixImage spoofed.envelope.length ++ spoofed.envelope) spoofed :=
    (frameDecodesTo_iff (encodeRequest_of_fits spoofedFits)).mpr ⟨rfl, by decide,
      .of_fits spoofedFits ⟨by decide, by decide, by decide⟩
        (show ∀ header ∈ spoofed.headers, ControlFree header.1 ∧ ControlFree header.2 by decide)⟩
  have differ : DifferInSpoofable honestSession spoofedSession :=
    ⟨rfl, rfl, rfl, rfl, rfl, by decide +kernel⟩
  exact ⟨_, _, honestSent, spoofedSent, honestDecodes, spoofedDecodes,
    (spoofable_headers_invisible visibleText asciiDowncase unicodeUpcase rfl differ honestSent
      spoofedSent).1 1048576 ⟨false, false⟩ _ _ honestDecodes spoofedDecodes⟩

end Oxo.Edge
