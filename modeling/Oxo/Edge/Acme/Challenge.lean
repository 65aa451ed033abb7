import Mathlib.Data.List.AList
import Oxo.Edge.Acme.Issue
import Oxo.Foundation.BufReader
import Oxo.Foundation.TextLines

/-!
Contract: the HTTP-01 responder (`oxo-pingora-edge/src/acme/challenge.rs`).

Owns: the store of provisioned challenges, the reading of a request, the comparison of its host with
the served name, and the reply to a connection.

Does not own: the listener and its thread. The store's lock is never poisoned: nothing that holds it
panics. A write of a reply that fails is not noticed.
-/

namespace Oxo.Edge.Acme

open Oxo.Foundation

/-- `HTTP01_PREFIX`. -/
def http01Prefix : String := "/.well-known/acme-challenge/"

/-! ## The store -/

/-- The key authorizations of the provisioned tokens. -/
structure Http01ChallengeStore where
  inner : AList fun _ : String => String
  tokens : ∀ token ∈ inner.keys, validateHttp01Token token = .ok ()

namespace Http01ChallengeStore

def empty : Http01ChallengeStore where
  inner := ∅
  tokens _ member := absurd member List.not_mem_nil

def provision (store : Http01ChallengeStore) (token keyAuthorization : String) :
    Except AcmeError Http01ChallengeStore :=
  match valid : validateHttp01Token token with
  | .error failure => .error failure
  | .ok () =>
      if keyAuthorization = "" ||
          (utf8 keyAuthorization).any fun byte => byte == 0x0d || byte == 0x0a || byte == 0 then
        .error (.invalidChallenge "key authorization must be a single non-empty line")
      else
        .ok
          { inner := store.inner.insert token keyAuthorization
            tokens := by
              intro other member
              obtain rfl | known := AList.mem_insert store.inner |>.mp (AList.mem_keys.mpr member)
              · exact valid
              · exact store.tokens other (AList.mem_keys.mp known) }

def answer (store : Http01ChallengeStore) (token : String) : Except AcmeError (Option String) := do
  validateHttp01Token token
  return store.inner.lookup token

end Http01ChallengeStore

/-! ## Requests -/

inductive Http01RequestError where
  | method
  | host
  | path
  | malformed
deriving DecidableEq

/-- The name without dots at its end, or that name and a port. -/
def hostMatchesFqdn (host fqdn : String) : Bool :=
  let host := toAsciiLowercase (trimEndMatches (· == '.') host)
  let fqdn := toAsciiLowercase (trimEndMatches (· == '.') fqdn)
  host == fqdn ||
    (stripPrefix host (fqdn ++ ":")).any fun port =>
      port != "" && (utf8 port).all fun byte => 0x30 ≤ byte && byte ≤ 0x39

/-- The value of the first line that is a field named host. -/
def hostOf (lines : List String) : Option String :=
  ((lines.filterMap fun line => splitOnce line ':').find? fun field =>
    eqIgnoreAsciiCase field.1 "host").map fun field => trim field.2

def parseHttp01Request (request fqdn : String) : Except Http01RequestError String :=
  match lines request with
  | [] => .error .malformed
  | requestLine :: rest =>
      match splitWhitespace requestLine with
      | method :: target :: version :: more =>
          if more ≠ [] ∨ version ≠ "HTTP/1.1" then .error .malformed
          else if method ≠ "GET" then .error .method
          else
            match hostOf rest with
            | none => .error .host
            | some host =>
                if hostMatchesFqdn host fqdn then
                  match stripPrefix target http01Prefix with
                  | none => .error .path
                  | some token =>
                      if token.toList.contains '?' || token.toList.contains '/' ||
                          validateHttp01Token token != .ok () then
                        .error .path
                      else .ok token
                else .error .host
      | _ => .error .malformed

/-! ## Replies -/

structure Http01Reply where
  status : String
  body : String
deriving DecidableEq

def Http01Reply.response (reply : Http01Reply) : List UInt8 :=
  utf8 ("HTTP/1.1 " ++ reply.status ++ "\r\nContent-Type: text/plain\r\nContent-Length: " ++
    numeral 10 (utf8 reply.body).length ++ "\r\nConnection: close\r\n\r\n" ++ reply.body)

def http01Reply (request fqdn : String) (store : Http01ChallengeStore) : Http01Reply :=
  match parseHttp01Request request fqdn with
  | .ok token =>
      match store.answer token with
      | .ok (some answer) => ⟨"200 OK", answer⟩
      | .ok none => ⟨"404 Not Found", "not found\n"⟩
      | .error _ => ⟨"400 Bad Request", "bad request\n"⟩
  | .error .method => ⟨"405 Method Not Allowed", "method not allowed\n"⟩
  | .error .host => ⟨"403 Forbidden", "forbidden\n"⟩
  | .error .path => ⟨"404 Not Found", "not found\n"⟩
  | .error .malformed => ⟨"400 Bad Request", "bad request\n"⟩

/-- What is written to a connection: nothing at its end or after a failure, and otherwise the reply
to its first read. -/
def handleHttp01Connection (stream : Segments UInt8) (fqdn : String)
    (store : Http01ChallengeStore) : Option (List UInt8) :=
  match stream.read 4096 with
  | none | some ([], _) => none
  | some (read, _) => some (http01Reply (fromUtf8Lossy read) fqdn store).response

end Oxo.Edge.Acme
