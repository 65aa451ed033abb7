import Oxo.Core.Headers

/-!
Contract: the edge's header sanitizers (`oxo-pingora-edge/src/lib.rs`).

Owns: the lowered header, the rejection ladder, the strip predicates, the keep
bitmap of the frame path, the owned sanitizer of the HTTP hop, and the facts
that both keep the same headers and reject the same lists.

Does not own: what is built from the surviving headers.
-/

namespace Oxo.Edge

open Oxo.Foundation Oxo.Core

/-- A request header whose ASCII-lowercased name travels with the original. -/
structure LoweredHeader where
  name : String
  value : String
  /-- `none` when the name is already lowercase. -/
  lowerTwin : Option String
  agrees : lowerTwin.getD name = toAsciiLowercase name
deriving DecidableEq

namespace LoweredHeader

def lower (header : LoweredHeader) : String :=
  header.lowerTwin.getD header.name

/-- The only constructor of the source; the arena variant has the same predicate. -/
def new (name value : String) : LoweredHeader where
  name := name
  value := value
  lowerTwin :=
    if (utf8 name).any isAsciiUppercase then some (toAsciiLowercase name) else none
  agrees := by
    by_cases upper : (utf8 name).any isAsciiUppercase = true
    · rw [if_pos upper]
      rfl
    · rw [if_neg upper]
      rw [Bool.not_eq_true] at upper
      exact (toAsciiLowercase_of_no_uppercase upper).symm

theorem lower_eq (header : LoweredHeader) :
    header.lower = toAsciiLowercase header.name :=
  header.agrees

@[simp] theorem new_name (name value : String) : (new name value).name = name := rfl

@[simp] theorem new_value (name value : String) : (new name value).value = value := rfl

end LoweredHeader

structure ProtocolSupport where
  sse : Bool
deriving DecidableEq, Repr

inductive RequestRejection where
  | upgradeUnsupported
  | grpcUnsupported
  | streamingUnsupported
deriving DecidableEq, Repr

/-! ## Header predicates -/

/-- The media type of a content type, without parameters. -/
def mediaType (value : String) : String :=
  toAsciiLowercase (trim ((split value ';').headD ""))

def isNativeGrpcContentType (value : String) : Bool :=
  mediaType value == "application/grpc" || startsWith (mediaType value) "application/grpc+"

def isGrpcWebContentType (value : String) : Bool :=
  mediaType value == "application/grpc-web" ||
    startsWith (mediaType value) "application/grpc-web+"

def isGrpcContentType (value : String) : Bool :=
  isNativeGrpcContentType value || isGrpcWebContentType value

def acceptsEventStream (value : String) : Bool :=
  (split (toAsciiLowercase value) ',').any fun part =>
    trim ((split part ';').headD "") == "text/event-stream"

/-- Hop-by-hop headers and the client's own `x-request-id`. -/
def hopByHopNames : List String :=
  ["connection", "keep-alive", "proxy-authenticate", "proxy-authorization",
    "proxy-connection", "te", "trailer", "transfer-encoding", "upgrade", "x-request-id"]

def shouldStripHeader (lowerName : String) (connectionTokens : List String) : Bool :=
  hopByHopNames.contains lowerName || isClientForwardingHeader lowerName ||
    startsWith lowerName "x-oxo-" || connectionTokens.contains lowerName

/-- The strip predicate with the token set replaced by a scan. -/
def shouldStripHeaderScan (lowerName : String) (connectionNamesMatch : String → Bool) : Bool :=
  hopByHopNames.contains lowerName || isClientForwardingHeader lowerName ||
    startsWith lowerName "x-oxo-" || connectionNamesMatch lowerName

/-- The per-header rejections, repeated word for word by both sanitizers. -/
def headerRejection (protocols : ProtocolSupport) (header : LoweredHeader) :
    Option RequestRejection :=
  if header.lower == "upgrade" || startsWith header.lower "sec-websocket-" then
    some .upgradeUnsupported
  else if header.lower == "content-type" && isGrpcContentType header.value then
    some .grpcUnsupported
  else if !protocols.sse &&
      ((header.lower == "accept" && acceptsEventStream header.value) ||
        header.lower == "last-event-id") then
    some .streamingUnsupported
  else
    none

/-! ## The owned sanitizer -/

structure SanitizedWorkerRequest where
  headers : List (String × String)
  strippedHeaders : List String
deriving DecidableEq, Repr

/-- The tokens of one `Connection` value, added to the set. -/
def insertConnectionTokens : List String → List String → Except RequestRejection (List String)
  | [], tokens => .ok tokens
  | token :: rest, tokens =>
      let token := toAsciiLowercase (trim token)
      if token = "" then
        insertConnectionTokens rest tokens
      else if token == "upgrade" then
        .error .upgradeUnsupported
      else
        insertConnectionTokens rest (tokens.insert token)

def collectConnectionTokens :
    List LoweredHeader → List String → Except RequestRejection (List String)
  | [], tokens => .ok tokens
  | header :: rest, tokens =>
      if header.lower == "connection" then do
        let tokens ← insertConnectionTokens (split header.value ',') tokens
        collectConnectionTokens rest tokens
      else
        collectConnectionTokens rest tokens

def sanitizeHeaders (protocols : ProtocolSupport) (connectionTokens : List String) :
    List LoweredHeader → Except RequestRejection SanitizedWorkerRequest
  | [] => .ok ⟨[], []⟩
  | header :: rest =>
      match headerRejection protocols header with
      | some rejection => .error rejection
      | none => do
          let later ← sanitizeHeaders protocols connectionTokens rest
          if shouldStripHeader header.lower connectionTokens then
            return { later with strippedHeaders := header.name :: later.strippedHeaders }
          else
            return { later with headers := (header.name, header.value) :: later.headers }

/-- Strip and validate only, with no hop-specific header attached. -/
def sanitizeLoweredWorkerRequestHeadersBare (headers : List LoweredHeader)
    (protocols : ProtocolSupport) : Except RequestRejection SanitizedWorkerRequest := do
  let connectionTokens ← collectConnectionTokens headers []
  sanitizeHeaders protocols connectionTokens headers

/-! ## The frame path's plan -/

/-- A keep bitmap over the input header indices. -/
structure FrameHeaderPlan where
  keep : Fin 2 → BitVec 64
  survivorCount : Nat
  hasHost : Bool

namespace FrameHeaderPlan

def keeps (plan : FrameHeaderPlan) (index : Nat) : Bool :=
  if small : index < 128 then
    (plan.keep ⟨index / 64, by omega⟩ >>> (index % 64)) &&& 1 == 1
  else
    false

/-- `keep[i / 64] |= 1 << (i % 64)`. -/
def setKeep (keep : Fin 2 → BitVec 64) (index : Nat) : Fin 2 → BitVec 64 :=
  fun word => if word.val = index / 64 then keep word ||| ((1 : BitVec 64) <<< (index % 64)) else keep word

end FrameHeaderPlan

def isUpgradeToken (token : String) : Bool :=
  trim token != "" && eqIgnoreAsciiCase (trim token) "upgrade"

/-- The pre-pass over the `Connection` values: an upgrade token is terminal. -/
def rejectUpgradeToken : List LoweredHeader → Except RequestRejection Unit
  | [] => .ok ()
  | header :: rest =>
      if header.lower == "connection" && (split header.value ',').any isUpgradeToken then
        .error .upgradeUnsupported
      else
        rejectUpgradeToken rest

/-- Rescan the `Connection` values for a token that names the candidate. -/
def connectionNamesMatch (headers : List LoweredHeader) (candidate : String) : Bool :=
  (headers.filter fun header => header.lower == "connection").any fun header =>
    ((split header.value ',').map trim).any fun token =>
      token != "" && eqIgnoreAsciiCase token candidate

def planHeaders (protocols : ProtocolSupport) (namesMatch : String → Bool) :
    Nat → List LoweredHeader → FrameHeaderPlan → Except RequestRejection FrameHeaderPlan
  | _, [], plan => .ok plan
  | index, header :: rest, plan =>
      match headerRejection protocols header with
      | some rejection => .error rejection
      | none =>
          if shouldStripHeaderScan header.lower namesMatch then
            planHeaders protocols namesMatch (index + 1) rest plan
          else
            planHeaders protocols namesMatch (index + 1) rest
              { keep := FrameHeaderPlan.setKeep plan.keep index
                survivorCount := plan.survivorCount + 1
                hasHost := plan.hasHost || header.lower == "host" }

def sanitizeFrameHeaders (headers : List LoweredHeader) (protocols : ProtocolSupport) :
    Except RequestRejection FrameHeaderPlan :=
  if headers.length > 128 then
    .error .upgradeUnsupported
  else do
    rejectUpgradeToken headers
    planHeaders protocols (connectionNamesMatch headers) 0 headers ⟨fun _ => 0, 0, false⟩

end Oxo.Edge
