import Mathlib.Data.List.AList
import Oxo.Foundation.Delimited

/-!
Contract: the TCP Rack worker of the Hyper edge (`oxo-edge/ruby/oxo_worker.rb`).

Owns: the string operations it reads a request with, over the bytes of a binary string; the
connection handler up to the call of the application; and the environment of that call.

Does not own: the application, or how its response is written.
-/

namespace Oxo.HyperEdge.Shim

open Oxo.Foundation

abbrev Bytes := List UInt8

def maxHeaderBytes : Nat := 64 * 1024

def maxHeaders : Nat := 100

/-! ## Binary strings -/

def crlf : Bytes := [13, 10]

/-- `gets("\r\n")` of what is still to come before the end of the connection. -/
def gets (input : Bytes) : Option (Bytes × Bytes) :=
  if input = [] then none
  else match windowPosition crlf input with
    | some position => some (input.take (position + 2), input.drop (position + 2))
    | none => some (input, [])

def chomp (line : Bytes) : Bytes :=
  match line.reverse with
  | 10 :: 13 :: front => front.reverse
  | 10 :: front => front.reverse
  | 13 :: front => front.reverse
  | _ => line

/-- `ISSPACE`. -/
def isSpace (byte : UInt8) : Bool :=
  byte == 32 || (9 ≤ byte && byte ≤ 13)

/-- `strip` takes null characters for white space. -/
def isStripped (byte : UInt8) : Bool :=
  byte == 0 || isSpace byte

def strip (text : Bytes) : Bytes :=
  (text.dropWhile isStripped).rdropWhile isStripped

/-- The fields between blanks; the last of at most `left + 1` fields keeps its blanks. -/
def fieldsFrom : (left : Nat) → Bytes → List Bytes
  | 0, text => [text.dropWhile isSpace]
  | left + 1, text =>
      let text := text.dropWhile isSpace
      match text.dropWhile (!isSpace ·) with
      | [] => [text]
      | _ :: rest => text.takeWhile (!isSpace ·) :: fieldsFrom left rest

/-- `split(" ", limit)`. -/
def splitBlank (text : Bytes) (limit : Nat) : List Bytes :=
  if text = [] then [] else fieldsFrom (limit - 1) text

/-- The bytes before and after the first separator. -/
def splitFirst (separator : UInt8) (text : Bytes) : Option (Bytes × Bytes) :=
  match text.dropWhile (· != separator) with
  | [] => none
  | _ :: rest => some (text.takeWhile (· != separator), rest)

/-- `split(separator)` drops empty fields at the end. -/
def splitAll (separator : UInt8) (text : Bytes) : List Bytes :=
  (text.splitOn separator).rdropWhile List.isEmpty

def downcase (text : Bytes) : Bytes :=
  text.map byteToAsciiLowercase

def byteToAsciiUppercase (byte : UInt8) : UInt8 :=
  if 0x61 ≤ byte && byte ≤ 0x7a then byte - 0x20 else byte

def upcase (text : Bytes) : Bytes :=
  text.map byteToAsciiUppercase

/-- `tr('-', '_')`. -/
def dashToUnderscore (text : Bytes) : Bytes :=
  text.map fun byte => if byte == 45 then 95 else byte

/-- Digits with single underscores between them. -/
def digitsValue : Bytes → Option Nat → Option Nat
  | [], total => total
  | 95 :: byte :: rest, some total =>
      if 48 ≤ byte && byte ≤ 57 then
        digitsValue rest (some (total * 10 + (byte.toNat - 48)))
      else none
  | byte :: rest, total =>
      if 48 ≤ byte && byte ≤ 57 then
        digitsValue rest (some (total.getD 0 * 10 + (byte.toNat - 48)))
      else none

/-- `Integer(text, 10)`, if it raises no error. -/
def parseInteger (text : Bytes) : Option Int :=
  let text := (text.dropWhile isSpace).rdropWhile isSpace
  let (negative, text) : Bool × Bytes := match text with
    | 45 :: rest => (true, rest)
    | 43 :: rest => (false, rest)
    | _ => (false, text)
  let text := match text with
    | 48 :: 100 :: rest => rest
    | 48 :: 68 :: rest => rest
    | _ => text
  (digitsValue text none).map fun value => if negative then -(value : Int) else value

/-! ## The environment -/

/-- A value of the environment. -/
inductive EnvValue where
  | text (bytes : Bytes)
  | absent
  | input (bytes : Bytes)
  | standardError
  | flag (value : Bool)
deriving DecidableEq

abbrev Env := AList fun _ : Bytes => EnvValue

/-- Headers in the order of their lines. -/
abbrev Headers := List (Bytes × Bytes)

def Headers.value (headers : Headers) (name : String) : Option Bytes :=
  headers.lookup (utf8 name)

/-- Names that have no key of their own prefix. -/
def unprefixedNames : List Bytes :=
  (["content-length", "content-type", "host", "connection", "x-oxo-secret"] : List String).map utf8

def headerKey (name : Bytes) : Bytes :=
  utf8 "HTTP_" ++ dashToUnderscore (upcase name)

def setHeader (env : Env) (header : Bytes × Bytes) : Env :=
  if unprefixedNames.contains header.1 then env
  else env.insert (headerKey header.1) (.text header.2)

def setOptional (env : Env) (key : String) (value : Option Bytes) : Env :=
  match value with
  | some bytes => env.insert (utf8 key) (.text bytes)
  | none => env

/-- The part of the environment that is there for every request. -/
def baseEnv (method target : Bytes) (version : Option Bytes) (headers : Headers) (body : Bytes) :
    Env :=
  let (path, query) := (splitFirst 63 target).getD (target, [])
  let host := (headers.value "host").getD []
  let serverPort : EnvValue :=
    if host.contains 58 then ((splitAll 58 host).getLast?).elim .absent .text else .text []
  ([("REQUEST_METHOD", .text method), ("SCRIPT_NAME", .text []), ("PATH_INFO", .text path),
    ("QUERY_STRING", .text query), ("SERVER_NAME", .text ((splitAll 58 host).head?.getD [])),
    ("SERVER_PORT", serverPort), ("SERVER_PROTOCOL", .text (version.getD (utf8 "HTTP/1.1"))),
    ("rack.url_scheme", .text (utf8 "http")), ("rack.input", .input body),
    ("rack.errors", .standardError), ("rack.multithread", .flag false),
    ("rack.multiprocess", .flag true), ("rack.run_once", .flag false)] :
      List (String × EnvValue)).foldl (fun env entry => env.insert (utf8 entry.1) entry.2) ∅

def buildEnv (method target : Bytes) (version : Option Bytes) (headers : Headers) (body : Bytes) :
    Env :=
  let env := baseEnv method target version headers body
  let env := setOptional env "CONTENT_LENGTH" (headers.value "content-length")
  let env := setOptional env "CONTENT_TYPE" (headers.value "content-type")
  headers.foldl setHeader env

/-! ## The connection -/

/-- A response of the worker itself. -/
structure Refusal where
  status : Nat
  text : String
deriving DecidableEq

/-- One header line. -/
def noteHeader (headers : Headers) (line : Bytes) : Except Refusal Headers :=
  if line.head? = some 32 ∨ line.head? = some 9 then .error ⟨400, "obsolete line folding"⟩
  else match splitFirst 58 (chomp line) with
    | none => .error ⟨400, "malformed header"⟩
    | some (rawName, rawValue) =>
        let name := downcase (strip rawName)
        if name = utf8 "transfer-encoding" then .error ⟨400, "transfer-encoding not allowed"⟩
        else if (headers.lookup name).isSome then .error ⟨400, "duplicate header"⟩
        else .ok (headers ++ [(name, strip rawValue)])

/-- The header loop, with `left` lines until there are too many. -/
def readHeaders : (left total : Nat) → Headers → Bytes → Except Refusal (Headers × Bytes)
  | left, total, headers, input =>
      match gets input with
      | none => .error ⟨400, "unterminated headers"⟩
      | some (line, rest) =>
          if line = crlf then .ok (headers, rest)
          else if maxHeaderBytes < total + line.length then .error ⟨431, "headers too large"⟩
          else match left with
            | 0 => .error ⟨431, "too many headers"⟩
            | left + 1 => do
                let headers ← noteHeader headers line
                readHeaders left (total + line.length) headers rest

/-- The body that the content length announces. -/
def readBody (maxBody : Nat) (headers : Headers) (input : Bytes) : Except Refusal Bytes :=
  match headers.value "content-length" with
  | none => .ok []
  | some text =>
      match parseInteger text with
      | none => .error ⟨400, "bad content-length"⟩
      | some len =>
          if (maxBody : Int) < len then .error ⟨413, "payload too large"⟩
          else if 0 < len then
            if (input.take len.toNat).length < len.toNat then .error ⟨400, "short body"⟩
            else .ok (input.take len.toNat)
          else .ok []

/-- The environment the application is called with, or the refusal. The connection is given by
all the bytes that arrive on it. -/
def handleConnection (secret : Bytes) (maxBody : Nat) (input : Bytes) : Except Refusal Env :=
  match gets input with
  | none => .error ⟨400, "empty request"⟩
  | some (requestLine, rest) =>
      match splitBlank (chomp requestLine) 3 with
      | method :: target :: version => do
          let (headers, rest) ← readHeaders maxHeaders 0 [] rest
          if headers.value "x-oxo-secret" ≠ some secret then .error ⟨403, "forbidden"⟩
          else do
            let body ← readBody maxBody headers rest
            .ok (buildEnv method target version.head? headers body)
      | _ => .error ⟨400, "malformed request line"⟩

end Oxo.HyperEdge.Shim
