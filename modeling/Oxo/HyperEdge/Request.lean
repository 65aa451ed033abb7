import Oxo.Core.Headers
import Oxo.Edge.ClientRequest

/-!
Contract: what goes between the Hyper edge and its worker (`oxo-core/src/lib.rs`,
`oxo-edge/src/lib.rs`, `oxo-edge/src/supervised.rs`).

Owns: the request and response vocabulary, the normalization of an incoming request, and the
request that is sent to a worker.

Does not own: the HTTP library. What it parses an incoming request into, and whether it can
build a request, is what it answers.
-/

namespace Oxo.HyperEdge

open Oxo.Foundation Oxo.Core

structure RackRequest where
  method : String
  path : String
  queryString : String
  serverName : String
  serverPort : UInt16
  urlScheme : String
  headers : List (String × String)
  body : List UInt8
deriving DecidableEq

structure RackResponse where
  status : UInt16
  headers : List (String × String)
  body : List UInt8
deriving DecidableEq

/-- `RackResponse::text`. -/
def RackResponse.text (status : UInt16) (body : String) : RackResponse where
  status := status
  headers := [("content-type", "text/plain; charset=utf-8"),
    ("content-length", numeral 10 (utf8 body).length)]
  body := utf8 body

def RackResponse.payloadTooLarge : RackResponse :=
  .text 413 "Payload Too Large"

inductive HandlerError where
  | bodyTooLarge
  | rubyError (detail : String)
  | worker (detail : String)
  | io (detail : String)
  | workerUnavailable
  | workerUnreachable (detail : String)
deriving DecidableEq

/-! ## The incoming request -/

/-- A request as the HTTP library parses it: tokens for the method and the lowercase names, a
path without blanks and question marks, values as bytes without blanks around them, and the body
if it can be read. -/
structure Incoming where
  method : String
  path : String
  query : Option String
  headers : List (String × List UInt8)
  body : Option (List UInt8)
  methodToken : method ≠ "" ∧ (utf8 method).all isTokenByte = true
  plainPath : ∀ char ∈ path.toList, ' ' < char ∧ char ≠ '?'
  plainQuery : ∀ text, query = some text → ∀ char ∈ text.toList, ' ' < char
  nameTokens : ∀ header ∈ headers, header.1 ≠ "" ∧ (utf8 header.1).all isTokenByte = true ∧
    toAsciiLowercase header.1 = header.1
  trimmed : ∀ header ∈ headers, ∀ blank ∈ ([9, 32] : List UInt8),
    header.2.head? ≠ some blank ∧ header.2.getLast? ≠ some blank

/-- The address the listener is bound to. -/
structure Local where
  ip : String
  port : UInt16

/-- The headers that are kept, in order. -/
def rackHeaders (headers : List (String × List UInt8)) : List (String × String) :=
  headers.filterMap fun header =>
    (normalizeHeaderName header.1).bind fun name =>
      (Edge.visibleText header.2).map fun value => (name, value)

/-- The name and the port of the last `Host` header, else the listener's. -/
def serverOf (headers : List (String × String)) (listener : Local) : String × UInt16 :=
  match (headers.filter fun header => header.1 == "host").getLast? with
  | none => (listener.ip, listener.port)
  | some host =>
      match rsplitOnce host.2 ':' with
      | some (name, port) =>
          (name, ((parseUnsigned (2 ^ 16) port).map UInt16.ofNat).getD listener.port)
      | none => (host.2, listener.port)

def toRackRequest (req : Incoming) (maxBody : Nat) (listener : Local) :
    Except RackResponse RackRequest :=
  let headers := rackHeaders req.headers
  match req.body.filter fun bytes => decide (bytes.length ≤ maxBody) with
  | none => .error .payloadTooLarge
  | some body =>
      let server := serverOf headers listener
      .ok
        { method := req.method
          path := req.path
          queryString := req.query.getD ""
          serverName := server.1
          serverPort := server.2
          urlScheme := "http"
          headers := headers
          body := body }

/-! ## The request to a worker -/

def secretHeader : String :=
  "x-oxo-secret"

/-- Headers of the client that the edge sets itself or leaves to the HTTP library. -/
def hopHeaders : List String :=
  ["host", "content-length", "transfer-encoding", "connection", secretHeader]

/-- A request for the HTTP library to send. -/
structure WorkerRequest where
  method : String
  target : String
  headers : List (String × String)
  body : List UInt8
deriving DecidableEq

def targetOf (req : RackRequest) : String :=
  if req.queryString = "" then req.path else req.path ++ "?" ++ req.queryString

/-- The headers that reach the worker as the client sent them. -/
def forwardedHeaders (req : RackRequest) : List (String × String) :=
  req.headers.filter fun header => !hopHeaders.contains header.1

def workerRequest (req : RackRequest) (port : UInt16) (secret : String) : WorkerRequest where
  method := req.method
  target := targetOf req
  headers := ("host", "127.0.0.1:" ++ numeral 10 port.toNat) :: (secretHeader, secret) ::
    forwardedHeaders req
  body := req.body

end Oxo.HyperEdge
