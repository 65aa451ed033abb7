import Oxo.Foundation.Outcome
import Oxo.Worker.Frame

/-!
Contract: the native worker's HTTP/1.1 request parser
(`oxo-worker/src/native/parser.rs`).

Owns: reading the head byte by byte, the request line, the header lines with
their refusals, the body and the metadata headers.

Does not own: the socket. The stream is the list of bytes the peer sends before it
closes. The header map is an association list in arrival order; the source's map
has no order, so results are compared up to the order of headers.
-/

namespace Oxo.Worker

open Oxo.Foundation Oxo.Core

structure ParseError where
  status : UInt16
  message : String
deriving DecidableEq, Repr

namespace ParseError

def bad (message : String) : ParseError := ⟨400, message⟩

def large (message : String) : ParseError := ⟨413, message⟩

def headers (message : String) : ParseError := ⟨431, message⟩

end ParseError

/-! ## Head -/

def headEnd : List UInt8 := [13, 10, 13, 10]

/-- The read loop, with the bytes read so far and the last of them. -/
def readHeadFrom : List UInt8 → (head : List UInt8) → (prev : UInt8) →
    Except ParseError (List UInt8 × List UInt8)
  | [], _, _ => .error (.bad "unterminated headers")
  | byte :: rest, head, prev =>
      if byte == 10 && prev != 13 then
        .error (.bad "bare LF in request head")
      else
        let head := head ++ [byte]
        if head.length > maxHeaderBytes then .error (.headers "headers too large")
        else if headEnd.isSuffixOf head then .ok (head, rest)
        else readHeadFrom rest head byte

/-- The head up to its blank line, and the bytes behind it. -/
def readHead (stream : List UInt8) : Except ParseError (List UInt8 × List UInt8) :=
  readHeadFrom stream [] 0

def validToken (text : String) : Bool :=
  text != "" && (utf8 text).all isTokenByte

/-- Names a request may not carry. -/
def forbiddenNames : List String :=
  ["transfer-encoding", "expect", "upgrade", "trailer", "te", "keep-alive", "proxy-connection",
    "proxy-authenticate", "proxy-authorization"]

def isBlank (char : Char) : Bool :=
  char == ' ' || char == '\t'

/-- One header line: its lowercased name and its trimmed value. -/
def parseHeaderLine (headers : List (String × String)) (line : String) :
    Except ParseError (String × String) := do
  refuseIf (startsWith line " " || startsWith line "\t") (.bad "obsolete line folding")
  match splitOnce line ':' with
  | none => .error (.bad "malformed header")
  | some (name, rawValue) => do
      refuseIf (name == "" || String.ofList (name.toList.rdropWhile isWhitespace) != name ||
        !validToken name) (.bad "malformed header name")
      let name := toAsciiLowercase name
      refuseIf (headers.any fun header => header.1 == name) (.bad "duplicate header")
      let value := trimMatches isBlank rawValue
      refuseIf ((utf8 value).any fun byte => byte < 0x20 || byte == 0x7f)
        (.bad "malformed header value")
      refuseIf (forbiddenNames.contains name) (.bad (name ++ " not allowed"))
      refuseIf (name == "connection" &&
        (split value ',').any fun token => !eqIgnoreAsciiCase (trim token) "close")
        (.bad "connection tokens are not allowed")
      return (name, value)

/-- The header lines up to the first empty one. -/
def parseHeaderLines : List String → (count : Nat) → (headers : List (String × String)) →
    Except ParseError (List (String × String))
  | [], _, headers => .ok headers
  | line :: rest, count, headers =>
      if line = "" then .ok headers
      else do
        refuseIf (decide (count + 1 > maxHeaders)) (.headers "too many headers")
        let header ← parseHeaderLine headers line
        parseHeaderLines rest (count + 1) (headers ++ [header])

structure RequestHead where
  method : String
  target : String
  version : String
  headers : List (String × String)

def parseHead (head : List UInt8) : Except ParseError RequestHead :=
  match fromUtf8 head with
  | none => .error (.bad "non-utf8 request head")
  | some text =>
      match (splitLines text.toList).map String.ofList with
      | [] => .error (.bad "missing request line")
      | requestLine :: lines =>
          match split requestLine ' ' with
          | [method, target, version] => do
              refuseIf (method == "" || target == "" || version == "")
                (.bad "malformed request line")
              refuseIf (!validToken method) (.bad "malformed method")
              let headers ← parseHeaderLines lines 0 []
              return ⟨method, target, version, headers⟩
          | _ => .error (.bad "malformed request line")

/-! ## Request -/

def parseContentLength (value : String) : Except ParseError Nat := do
  refuseIf (value == "" || !value.toList.all Char.isDigit) (.bad "bad content-length")
  match parseUnsigned (2 ^ 64) value with
  | some length => .ok length
  | none => .error (.bad "bad content-length")

def splitTarget (target : String) : String × String :=
  (splitOnce target '?').getD (target, "")

def parseHostName (host : String) : String :=
  ((rsplitOnce host ':').map Prod.fst).getD host

def parseHostPort (host : String) : Option UInt16 :=
  (rsplitOnce host ':').bind fun parts =>
    (parseUnsigned (2 ^ 16) parts.2).map UInt16.ofNat

/-- The fields the header walk fills in. -/
structure RequestParts where
  serverName : String
  serverPort : UInt16
  urlScheme : String
  remoteAddr : String
  appHeaders : List (String × String)

/-- One header of the walk. The four trusted fields are consumed, spoofable and
reserved names are dropped, the rest reaches the application. -/
def RequestParts.apply (parts : RequestParts) (header : String × String) : RequestParts :=
  let name := header.1
  let value := header.2
  if name = "x-oxo-remote-addr" then { parts with remoteAddr := value }
  else if name = "x-oxo-url-scheme" then
    if value = "http" ∨ value = "https" then { parts with urlScheme := value } else parts
  else if name = "x-oxo-server-name" then { parts with serverName := value }
  else if name = "x-oxo-server-port" then
    match parseUnsigned (2 ^ 16) value with
    | some port => { parts with serverPort := UInt16.ofNat port }
    | none => parts
  else if name = "host" then { parts with appHeaders := parts.appHeaders ++ [("host", value)] }
  else if name = "connection" then parts
  else if isClientForwardingHeader name then parts
  else if startsWith name "x-oxo-" then parts
  else match normalizeHeaderName name with
    | some normalized => { parts with appHeaders := parts.appHeaders ++ [(normalized, value)] }
    | none => parts

def headerValue (headers : List (String × String)) (name : String) : Option String :=
  (headers.find? fun header => header.1 == name).map Prod.snd

def isOriginForm (target : String) : Bool :=
  startsWith target "/" && !startsWith target "//" && !containsText target "://"

def parseRequest (stream : List UInt8) (maxBody : Nat) : Except ParseError WorkerRequest := do
  let (head, rest) ← readHead stream
  let parsed ← parseHead head
  refuseIf (parsed.version != "HTTP/1.1") (.bad "only HTTP/1.1 is supported")
  refuseIf (!isOriginForm parsed.target) (.bad "only origin-form targets are supported")
  match headerValue parsed.headers "host" with
  | none => .error (.bad "host header is required")
  | some host => do
      let length ← match headerValue parsed.headers "content-length" with
        | some value => parseContentLength value
        | none => .ok 0
      refuseIf ((headerValue parsed.headers "content-type").any fun value =>
        startsWith (toAsciiLowercase value) "application/grpc")
        (.bad "gRPC is not supported by the Rack worker")
      refuseIf (decide (length > maxBody)) (.large "payload too large")
      refuseIf (decide (rest.length < length)) (.bad "short body")
      let parts := parsed.headers.foldl RequestParts.apply
        { serverName := parseHostName host
          serverPort := (parseHostPort host).getD 80
          urlScheme := "http"
          remoteAddr := "127.0.0.1"
          appHeaders := [] }
      return {
        method := parsed.method
        path := (splitTarget parsed.target).1
        query := (splitTarget parsed.target).2
        serverName := parts.serverName
        serverPort := parts.serverPort
        urlScheme := parts.urlScheme
        remoteAddr := parts.remoteAddr
        headers := parts.appHeaders
        body := rest.take length }

end Oxo.Worker
