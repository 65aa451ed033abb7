import Oxo.Edge.ClientRequest

/-!
Contract: the edge's HTTP/1.1 worker hop
(`oxo-pingora-edge/src/platform/worker_wire.rs`).

Owns: the metadata headers, the sanitizer that attaches them, and the bytes of the
one-shot request.

Does not own: the socket or the response.
-/

namespace Oxo.Edge

open Oxo.Foundation Oxo.Core

def TrustedHopMetadata.headers (metadata : TrustedHopMetadata) : List (String × String) :=
  [("x-oxo-remote-addr", metadata.remoteAddr), ("x-oxo-url-scheme", metadata.urlScheme),
    ("x-oxo-server-name", metadata.serverName),
    ("x-oxo-server-port", numeral 10 metadata.serverPort.toNat)] ++
    (metadata.requestId.map fun requestId => ("x-oxo-request-id", requestId)).toList

/-- The bare sanitizer, then the metadata and an explicit close. -/
def sanitizeLoweredWorkerRequestHeaders (headers : List LoweredHeader)
    (metadata : TrustedHopMetadata) (protocols : ProtocolSupport) :
    Except RequestRejection SanitizedWorkerRequest := do
  let sanitized ← sanitizeLoweredWorkerRequestHeadersBare headers protocols
  return { sanitized with
    headers := sanitized.headers ++ metadata.headers ++ [("connection", "close")] }

def hasInvalidHeaderValueBytes (bytes : List UInt8) : Bool :=
  bytes.any fun byte => byte ≤ 8 || (10 ≤ byte && byte ≤ 31) || byte == 127

def appendHeaderLine (request : List UInt8) (name value : String) :
    Except UInt16 (List UInt8) :=
  if !isValidHeaderName (utf8 name) || hasInvalidHeaderValueBytes (utf8 value) then .error 400
  else .ok (request ++ utf8 name ++ utf8 ": " ++ utf8 value ++ [13, 10])

/-- The loop over the sanitized headers. -/
def appendHeaderLines : List (String × String) → List UInt8 → Except UInt16 (List UInt8)
  | [], request => .ok request
  | (name, value) :: rest, request =>
      if eqIgnoreAsciiCase name "connection" || eqIgnoreAsciiCase name "content-length" then
        appendHeaderLines rest request
      else do
        let request ← appendHeaderLine request name value
        appendHeaderLines rest request

def buildWorkerRequest (session : Session) (headers : List (String × String))
    (body : List UInt8) : Except UInt16 (List UInt8) :=
  match session.pathAndQuery with
  | none => .error 400
  | some pathAndQuery => do
      let hasHost := headers.any fun header => eqIgnoreAsciiCase header.1 "host"
      let request := utf8 session.method ++ utf8 " " ++ utf8 pathAndQuery.asStr ++
        utf8 " HTTP/1.1" ++ [13, 10]
      let request ← match if hasHost then none else session.uriAuthority with
        | some authority => appendHeaderLine request "Host" authority
        | none => .ok request
      let request ← appendHeaderLines headers request
      let request ← appendHeaderLine request "Content-Length" (numeral 10 body.length)
      let request ← appendHeaderLine request "Connection" "close"
      return request ++ [13, 10] ++ body

end Oxo.Edge
