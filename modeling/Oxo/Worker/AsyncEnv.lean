import Oxo.Foundation.Outcome
import Oxo.Worker.DecoderParity
import Oxo.Worker.RackEnv

/-!
Contract: the Rack environment the async Ruby worker builds from a request
(`ruby/oxo_async_worker.rb`).

Owns: the header filter, the environment it fills, and what both are for names of the header
alphabet.

Does not own: the decoder. Texts are byte strings labelled UTF-8, as it leaves them; only the
lower-casing of a name looks at the bytes, and raises if they are not UTF-8.
-/

namespace Oxo.Worker.AsyncWorker

open Oxo.Foundation Oxo.Core Oxo.Core.HopFrame

/-! ## Header filter -/

def forwardingDenylist : List String :=
  ["forwarded", "x-real-ip", "client-ip", "true-client-ip", "cf-connecting-ip", "cf-pseudo-ipv4",
    "x-client-ip", "fastly-client-ip", "fly-client-ip", "x-cluster-client-ip",
    "x-original-forwarded-for", "x-original-for", "x-appengine-user-ip", "x-azure-clientip",
    "x-azure-socketip", "x-proxyuser-ip", "x-forwarded"]

/-- `forwarding_header?`. -/
def isForwardingHeader (name : String) : Bool :=
  forwardingDenylist.contains name || startsWith name "x-forwarded-"

/-- The list repeats the one of the edge and the native worker. -/
theorem isForwardingHeader_eq (name : String) :
    isForwardingHeader name = isClientForwardingHeader name :=
  rfl

inductive EnvError where
  | inputStringInvalid
deriving DecidableEq, Repr

def downcase (mapping : FullDowncase) (name : List UInt8) : Except EnvError String :=
  match fromUtf8 name with
  | some text => .ok (mapping.downcase text)
  | none => .error .inputStringInvalid

/-- One turn of the loop: the pair appended to the flat array, if any. -/
def filterHeader (mapping : FullDowncase) (header : List UInt8 × List UInt8) :
    Except EnvError (Option (String × List UInt8)) := do
  let lower ← downcase mapping header.1
  if lower = "host" then return some ("host", header.2)
  else if lower = "connection" || isForwardingHeader lower || startsWith lower "x-oxo-" then
    return none
  else if !lower.toList.contains '_' then return some (lower, header.2)
  else return none

/-- The flat array, pair by pair. -/
def filteredFlatHeaders (mapping : FullDowncase) (headers : List (List UInt8 × List UInt8)) :
    Except EnvError (List (String × List UInt8)) := do
  let kept ← headers.mapM (filterHeader mapping)
  return kept.filterMap id

/-! ## Environment -/

inductive EnvValue where
  | text (value : List UInt8)
  | flag (value : Bool)
  | input (body : List UInt8)
  | errors
deriving DecidableEq, Repr

abbrev Env := List (String × EnvValue)

def Env.store (env : Env) (key : String) (value : EnvValue) : Env :=
  match env with
  | [] => [(key, value)]
  | entry :: rest =>
      if entry.1 = key then (key, value) :: rest else entry :: Env.store rest key value

/-- `build_env`; its key table and key spelling are those of the native worker's Ruby code. -/
def buildEnv (mapping : FullUpcase) (multithread multiprocess : Bool) (req : RequestHash)
    (flat : List (String × List UInt8)) : Env :=
  let env : Env :=
    [("REQUEST_METHOD", .text req.method),
      ("SCRIPT_NAME", .text []),
      ("PATH_INFO", .text req.path),
      ("QUERY_STRING", .text req.query),
      ("SERVER_NAME", .text req.serverName),
      ("SERVER_PORT", .text (utf8 (numeral 10 req.serverPort))),
      ("SERVER_PROTOCOL", .text (utf8 "HTTP/1.1")),
      ("REMOTE_ADDR", .text req.remoteAddr),
      ("rack.url_scheme", .text (utf8 req.scheme)),
      ("rack.input", .input req.body),
      ("rack.errors", .errors),
      ("rack.multithread", .flag multithread),
      ("rack.multiprocess", .flag multiprocess),
      ("rack.run_once", .flag false)]
  flat.foldl (fun env header => env.store (envKey mapping header.1) (.text header.2)) env

/-- The environment `respond_to_request` calls the application with. -/
def requestEnv (folding : FullDowncase) (mapping : FullUpcase) (multiprocess : Bool)
    (req : RequestHash) : Except EnvError Env := do
  let flat ← filteredFlatHeaders folding req.headers
  return buildEnv mapping false multiprocess req flat

/-! ## Names of the header alphabet -/

/-- What a text header becomes: for ASCII names, what it becomes in the native worker. -/
theorem filterHeader_ascii (mapping : FullDowncase) {header : String × String}
    (ascii : ∀ char ∈ header.1.toList, char.toNat < 128) :
    filterHeader mapping (utf8 header.1, utf8 header.2) =
      .ok ((appHeader header).map fun kept => (kept.1, utf8 kept.2)) := by
  have lowered : downcase mapping (utf8 header.1) = .ok (toAsciiLowercase header.1) := by
    unfold downcase
    rw [fromUtf8_utf8]
    exact congrArg Except.ok (mapping.downcase_of_ascii ascii)
  unfold filterHeader appHeader
  simp only [lowered, ok_bind, isForwardingHeader_eq]
  by_cases isHost : toAsciiLowercase header.1 = "host"
  · rw [if_pos isHost, if_pos isHost]
    rfl
  · rw [if_neg isHost, if_neg isHost]
    by_cases isConnection : toAsciiLowercase header.1 = "connection"
    · rw [if_pos isConnection]
      simp [isConnection]
      rfl
    · rw [if_neg isConnection]
      by_cases isForwarding : isClientForwardingHeader (toAsciiLowercase header.1) = true
      · rw [if_pos isForwarding]
        simp [isForwarding]
        rfl
      · rw [if_neg isForwarding]
        by_cases isOxo : startsWith (toAsciiLowercase header.1) "x-oxo-" = true
        · rw [if_pos isOxo]
          simp [isOxo]
          rfl
        · rw [if_neg isOxo]
          by_cases underscore : '_' ∈ (toAsciiLowercase header.1).toList
          · simp [isConnection, isForwarding, isOxo, underscore, normalizeHeaderName]
            rfl
          · simp [isConnection, isForwarding, isOxo, underscore, normalizeHeaderName]
            rfl

theorem filteredFlatHeaders_ascii (mapping : FullDowncase) {headers : List (String × String)}
    (ascii : ∀ header ∈ headers, ∀ char ∈ header.1.toList, char.toNat < 128) :
    filteredFlatHeaders mapping (headers.map fun header => (utf8 header.1, utf8 header.2)) =
      .ok ((headers.filterMap appHeader).map fun kept => (kept.1, utf8 kept.2)) := by
  have filtered : (headers.map fun header => (utf8 header.1, utf8 header.2)).mapM
      (filterHeader mapping) =
      .ok (headers.map fun header => (appHeader header).map fun kept => (kept.1, utf8 kept.2)) := by
    induction headers with
    | nil => rfl
    | cons header rest inductionHypothesis =>
        obtain ⟨headerAscii, restAscii⟩ := List.forall_mem_cons.mp ascii
        rw [List.map_cons, List.mapM_cons, filterHeader_ascii mapping headerAscii, ok_bind,
          inductionHypothesis restAscii, ok_bind]
        rfl
  unfold filteredFlatHeaders
  rw [filtered, ok_bind, List.filterMap_map]
  show Except.ok _ = Except.ok _
  congr 1
  rw [List.map_filterMap]
  rfl

/-- The environment of a frame whose header names are ASCII: the headers in it are those the
native worker keeps. -/
theorem requestEnv_ascii (folding : FullDowncase) (mapping : FullUpcase) (multiprocess : Bool)
    {req : RequestFrame} (ascii : ∀ header ∈ req.headers, ∀ char ∈ header.1.toList,
      char.toNat < 128) :
    requestEnv folding mapping multiprocess (rubyView req) =
      .ok (buildEnv mapping false multiprocess (rubyView req)
        ((requestFrameToWorkerRequest req).headers.map fun kept => (kept.1, utf8 kept.2))) := by
  unfold requestEnv
  have filtered := filteredFlatHeaders_ascii folding ascii
  rw [show (rubyView req).headers =
    req.headers.map fun header => (utf8 header.1, utf8 header.2) from rfl, filtered, ok_bind]
  rfl

end Oxo.Worker.AsyncWorker
