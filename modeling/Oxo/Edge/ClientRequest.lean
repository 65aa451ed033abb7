import Oxo.Edge.RequestFrame
import Oxo.Foundation.Outcome

/-!
Contract: admission of client requests
(`oxo-pingora-edge/src/platform/worker_wire.rs`).

Owns: the session data the edge reads, header collection, the validation ladder
with its statuses, and what a validated header list satisfies.

Does not own: HTTP parsing. The request head is what the HTTP library hands over;
its header-value text conversion is a parameter, and a path is kept with the parts
the library splits it into.
-/

namespace Oxo.Edge

open Oxo.Foundation Oxo.Core

def maxRequestHeaderBytes : Nat := 64 * 1024

/-- A request target as the HTTP library presents it: the whole text, the path
and the query. For an origin-form target the parts join at the first `?`. The
library refuses blanks and control characters in a target. -/
structure PathAndQuery where
  asStr : String
  path : String
  query : Option String
  joined : startsWith asStr "/" = true → asStr = path ++ (query.map ("?" ++ ·)).getD ""
  plainPath : '?' ∉ path.toList
  visible : ∀ char ∈ asStr.toList, ' ' < char

theorem root_plain : '?' ∉ "/".toList := by decide

theorem root_visible : ∀ char ∈ "/".toList, ' ' < char := by
  intro char member
  rw [List.mem_singleton.mp member]
  exact Char.lt_def.mpr (by decide)

/-- The request head of a session. The library's method type holds a token. -/
structure Session where
  method : String
  methodToken : method ≠ "" ∧ (utf8 method).all isTokenByte = true
  isHttp2 : Bool
  uriScheme : Option String
  uriAuthority : Option String
  pathAndQuery : Option PathAndQuery
  headers : List (String × List UInt8)

/-! ## Header collection -/

/-- `toStr` is the library's conversion of a header value to text. -/
def collectRequestHeaders (toStr : List UInt8 → Option String) (session : Session) :
    Except UInt16 (List LoweredHeader) :=
  session.headers.mapM fun header =>
    match toStr header.2 with
    | some value => .ok (LoweredHeader.new header.1 value)
    | none => .error 400

/-- Header value text as the HTTP library yields it: visible ASCII and tabs. -/
def visibleText (bytes : List UInt8) : Option String :=
  if bytes.all fun byte => (32 ≤ byte && byte < 127) || byte == 9 then
    some (String.ofList (bytes.map fun byte => Char.ofNat byte.toNat))
  else none

/-! ## Validation -/

def isValidHeaderName (bytes : List UInt8) : Bool :=
  !bytes.isEmpty && bytes.all isTokenByte

/-- `usize::saturating_add`. -/
def saturatingAdd (left right : Nat) : Nat :=
  min (left + right) (2 ^ 64 - 1)

def accumulateHeaderBytes (headerBytes : Nat) (name value : String) : Except UInt16 Nat :=
  if !isValidHeaderName (utf8 name) then .error 400
  else
    let headerBytes := saturatingAdd (saturatingAdd (saturatingAdd headerBytes
      name.utf8ByteSize) value.utf8ByteSize) 4
    if headerBytes > maxRequestHeaderBytes then .error 431 else .ok headerBytes

/-- Names the client validator refuses outright. -/
def refusedNames : List String :=
  ["expect", "trailer", "transfer-encoding", "http2-settings", "keep-alive", "proxy-connection"]

/-- A `Connection` token other than `close`. -/
def isForeignConnectionToken (token : String) : Bool :=
  trim token != "" && !eqIgnoreAsciiCase (trim token) "close"

structure HostScan where
  hostCount : Nat
  hostValue : Option String
  headerBytes : Nat

/-- The running total and the host seen so far. -/
def HostScan.note (scan : HostScan) (headerBytes : Nat) (header : LoweredHeader) : HostScan :=
  if header.lower == "host" then ⟨scan.hostCount + 1, some header.value, headerBytes⟩
  else { scan with headerBytes }

/-- The name and token rules for one header. `te` skips the rules after it. -/
def checkClientHeader (isHttp2 : Bool) (header : LoweredHeader) : Except UInt16 Unit :=
  if header.lower == "te" then
    refuseIf (!(isHttp2 && eqIgnoreAsciiCase (trim header.value) "trailers")) 400
  else do
    refuseIf (refusedNames.contains header.lower) 400
    refuseIf (header.lower == "connection" &&
      (split header.value ',').any isForeignConnectionToken) 400

def scanClientHeaders (isHttp2 : Bool) :
    List LoweredHeader → HostScan → Except UInt16 HostScan
  | [], scan => .ok scan
  | header :: rest, scan => do
      let headerBytes ← accumulateHeaderBytes scan.headerBytes header.name header.value
      checkClientHeader isHttp2 header
      scanClientHeaders isHttp2 rest (scan.note headerBytes header)

def hostMatchesServerName (presented expected : String) : Bool :=
  let host := trim presented
  let bracketed := match host.toList with
    | '[' :: rest => splitOnce (String.ofList rest) ']'
    | _ => none
  match bracketed with
  | some (inside, _) => eqIgnoreAsciiCase inside expected
  | none =>
      let hostWithoutPort := ((splitOnce host ':').map Prod.fst).getD host
      eqIgnoreAsciiCase hostWithoutPort expected

def checkPublicHost (expected presented : String) (hostValue : Option String) :
    Except UInt16 Unit := do
  refuseIf (!hostMatchesServerName presented expected) 421
  match hostValue with
  | some host => refuseIf (!hostMatchesServerName host expected) 421
  | none => .ok ()

/-- At most one `Content-Length`, an unsigned 64-bit number. -/
def contentLength : List LoweredHeader → Option Nat → Except UInt16 (Option Nat)
  | [], seen => .ok seen
  | header :: rest, seen =>
      if header.lower == "content-length" then
        if seen.isSome then .error 400
        else match parseUnsigned (2 ^ 64) (trim header.value) with
          | some parsed => contentLength rest (some parsed)
          | none => .error 400
      else contentLength rest seen

/-- Scheme and authority rules of the two protocol versions. -/
def checkUriForm (session : Session) : Except UInt16 Unit :=
  if session.isHttp2 then do
    refuseIf (session.uriScheme.any fun scheme => !eqIgnoreAsciiCase scheme "https") 400
    refuseIf session.uriAuthority.isNone 400
  else
    refuseIf (session.uriScheme.isSome || session.uriAuthority.isSome) 400

/-- Host presence and its agreement with the authority. -/
def checkHost (session : Session) (scan : HostScan) : Except UInt16 Unit := do
  refuseIf (decide (scan.hostCount > 1)) 400
  if session.isHttp2 then
    match scan.hostValue, session.uriAuthority with
    | some host, some authority => refuseIf (!eqIgnoreAsciiCase host authority) 400
    | _, _ => .ok ()
  else
    refuseIf (scan.hostCount != 1) 400

def checkPublicName (session : Session) (scan : HostScan) (publicServerName : Option String) :
    Except UInt16 Unit :=
  match publicServerName with
  | none => .ok ()
  | some expected =>
      match if session.isHttp2 then session.uriAuthority else scan.hostValue with
      | none => .error 400
      | some presented => checkPublicHost expected presented scan.hostValue

def validateClientRequest (session : Session) (headers : List LoweredHeader)
    (maxBodyBytes : Nat) (publicServerName : Option String) : Except UInt16 (Option Nat) :=
  match session.pathAndQuery with
  | none => .error 400
  | some pathAndQuery => do
      refuseIf (!startsWith pathAndQuery.asStr "/") 400
      checkUriForm session
      refuseIf (eqIgnoreAsciiCase session.method "CONNECT") 400
      refuseIf (decide (headers.length > maxRequestHeaders)) 431
      let scan ← scanClientHeaders session.isHttp2 headers ⟨0, none, 0⟩
      checkHost session scan
      checkPublicName session scan publicServerName
      let length ← contentLength headers none
      refuseIf (length.any fun length => decide (length > maxBodyBytes)) 413
      return length

/-! ## The frame of a session -/

/-- The target fields of a session; 400 without a path. -/
def Session.target (session : Session) : Except UInt16 RequestTarget :=
  match session.pathAndQuery with
  | none => .error 400
  | some pathAndQuery => .ok
      { method := session.method
        path := pathAndQuery.path
        query := pathAndQuery.query.getD ""
        authority := session.uriAuthority }

def buildRequestFrameBytesInto (out : List UInt8) (session : Session)
    (rawHeaders : List LoweredHeader) (plan : FrameHeaderPlan) (body : List UInt8)
    (metadata : TrustedHopMetadata) : Except UInt16 (List UInt8) := do
  let target ← session.target
  assembleRequestFrameBytesInto out target rawHeaders plan body metadata.urlScheme
    metadata.serverName metadata.serverPort metadata.remoteAddr

/-! ## What validation guarantees -/

/-- The bytes a header adds to the running total. -/
def headerCost (header : LoweredHeader) : Nat :=
  header.name.utf8ByteSize + header.value.utf8ByteSize + 4

/-- What the validator lets through, header by header. -/
structure HeaderAdmitted (isHttp2 : Bool) (header : LoweredHeader) : Prop where
  name : isValidHeaderName (utf8 header.name) = true
  te : header.lower = "te" →
    isHttp2 = true ∧ eqIgnoreAsciiCase (trim header.value) "trailers" = true
  notRefused : header.lower ∉ refusedNames
  connection : header.lower = "connection" →
    ∀ token ∈ split header.value ',', isForeignConnectionToken token = false

private theorem accumulateHeaderBytes_eq_ok {headerBytes result : Nat} {name value : String}
    (accepted : accumulateHeaderBytes headerBytes name value = .ok result) :
    isValidHeaderName (utf8 name) = true ∧
      result = headerBytes + (name.utf8ByteSize + value.utf8ByteSize + 4) ∧
      result ≤ maxRequestHeaderBytes := by
  unfold accumulateHeaderBytes at accepted
  split at accepted
  · cases accepted
  · rename_i validName
    simp only at accepted
    split at accepted
    · cases accepted
    · rename_i within
      cases accepted
      have bound : maxRequestHeaderBytes = 65536 := rfl
      refine ⟨by simpa using validName, ?_, by omega⟩
      simp only [saturatingAdd] at within ⊢
      omega

private theorem checkClientHeader_eq_ok {isHttp2 : Bool} {header : LoweredHeader} {done : Unit}
    (accepted : checkClientHeader isHttp2 header = .ok done)
    (validName : isValidHeaderName (utf8 header.name) = true) : HeaderAdmitted isHttp2 header := by
  unfold checkClientHeader at accepted
  split at accepted
  · rename_i isTe
    rw [beq_iff_eq] at isTe
    rw [refuseIf_eq_ok, Bool.not_eq_false', Bool.and_eq_true] at accepted
    refine ⟨validName, fun _ => accepted, ?_, ?_⟩
    · rw [isTe]
      decide
    · intro isConnection
      rw [isTe] at isConnection
      exact absurd isConnection (by decide)
  · rename_i notTe
    rw [beq_iff_eq] at notTe
    rw [refuseIf_bind_eq_ok, refuseIf_eq_ok, List.contains_eq_mem, decide_eq_false_iff_not]
      at accepted
    obtain ⟨notRefused, tokens⟩ := accepted
    refine ⟨validName, fun isTe => absurd isTe notTe, notRefused, ?_⟩
    intro isConnection
    rw [isConnection, beq_self_eq_true, Bool.true_and] at tokens
    simpa using tokens

/-- The scan's final state. -/
structure ScanFacts (headers : List LoweredHeader) (before after : HostScan) : Prop where
  hostCount : after.hostCount =
    before.hostCount + (headers.filter fun header => header.lower == "host").length
  hostValue : after.hostValue =
    ((headers.filter fun header => header.lower == "host").getLast?.map
      LoweredHeader.value).or before.hostValue
  headerBytes : after.headerBytes = before.headerBytes + (headers.map headerCost).sum
  within : before.headerBytes ≤ maxRequestHeaderBytes →
    after.headerBytes ≤ maxRequestHeaderBytes

theorem scanClientHeaders_eq_ok {isHttp2 : Bool} {headers : List LoweredHeader}
    {before after : HostScan} (scanned : scanClientHeaders isHttp2 headers before = .ok after) :
    ScanFacts headers before after ∧ ∀ header ∈ headers, HeaderAdmitted isHttp2 header := by
  induction headers generalizing before with
  | nil =>
      cases scanned
      exact ⟨⟨by simp, by simp, by simp, id⟩, by simp⟩
  | cons header rest inductionHypothesis =>
      unfold scanClientHeaders at scanned
      rw [bind_eq_ok] at scanned
      obtain ⟨headerBytes, accumulated, scanned⟩ := scanned
      rw [bind_eq_ok] at scanned
      obtain ⟨_, checked, scanned⟩ := scanned
      obtain ⟨validName, totalEq, within⟩ := accumulateHeaderBytes_eq_ok accumulated
      obtain ⟨facts, restAdmitted⟩ := inductionHypothesis scanned
      constructor
      · have noteBytes : (before.note headerBytes header).headerBytes = headerBytes := by
          unfold HostScan.note
          split <;> rfl
        have bytes := facts.headerBytes
        rw [noteBytes] at bytes
        have costEq : ((header :: rest).map headerCost).sum =
            header.name.utf8ByteSize + header.value.utf8ByteSize + 4 +
              (rest.map headerCost).sum := rfl
        have laterWithin := facts.within
        rw [noteBytes] at laterWithin
        cases isHost : header.lower == "host" with
        | true =>
            have count := facts.hostCount
            have value := facts.hostValue
            simp only [HostScan.note, isHost, ↓reduceIte] at count value
            refine ⟨?_, ?_, by omega, fun _ => laterWithin within⟩
            · rw [List.filter_cons, isHost, if_pos rfl, List.length_cons]
              omega
            · rw [value, List.filter_cons, isHost, if_pos rfl, List.getLast?_cons]
              cases (rest.filter fun header => header.lower == "host").getLast? <;> rfl
        | false =>
            have count := facts.hostCount
            have value := facts.hostValue
            simp only [HostScan.note, isHost, Bool.false_eq_true, ↓reduceIte] at count value
            refine ⟨?_, ?_, by omega, fun _ => laterWithin within⟩
            · rw [List.filter_cons, isHost, if_neg Bool.false_ne_true]
              exact count
            · rw [List.filter_cons, isHost, if_neg Bool.false_ne_true]
              exact value
      · intro other member
        rcases List.mem_cons.mp member with same | later
        · rw [same]
          exact checkClientHeader_eq_ok checked validName
        · exact restAdmitted other later

/-- A second `Content-Length` is refused. -/
private theorem contentLength_eq_ok {headers : List LoweredHeader} {seen length : Option Nat}
    (accepted : contentLength headers seen = .ok length) :
    (headers.filter fun header => header.lower == "content-length").length ≤
      if seen.isSome then 0 else 1 := by
  induction headers generalizing seen with
  | nil => exact Nat.zero_le _
  | cons header rest inductionHypothesis =>
      unfold contentLength at accepted
      rw [List.filter_cons]
      by_cases isLength : (header.lower == "content-length") = true
      · rw [if_pos isLength] at accepted
        rw [if_pos isLength, List.length_cons]
        by_cases before : seen.isSome = true
        · rw [if_pos before] at accepted
          cases accepted
        · rw [if_neg before] at accepted
          rw [if_neg before]
          split at accepted
          · have later := inductionHypothesis accepted
            simp only [Option.isSome_some, ↓reduceIte] at later
            omega
          · cases accepted
      · rw [if_neg isLength] at accepted
        rw [if_neg isLength]
        exact inductionHypothesis accepted

/-- What a validated request satisfies. -/
structure Validated (session : Session) (headers : List LoweredHeader) : Prop where
  path : ∃ pathAndQuery, session.pathAndQuery = some pathAndQuery ∧
    startsWith pathAndQuery.asStr "/" = true
  uriForm : checkUriForm session = .ok ()
  few : headers.length ≤ maxRequestHeaders
  headerBytes : (headers.map headerCost).sum ≤ maxRequestHeaderBytes
  admitted : ∀ header ∈ headers, HeaderAdmitted session.isHttp2 header
  oneHost : (headers.filter fun header => header.lower == "host").length ≤ 1
  hostOrAuthority : session.isHttp2 = false →
    (headers.filter fun header => header.lower == "host").length = 1
  oneLength : (headers.filter fun header => header.lower == "content-length").length ≤ 1

theorem validateClientRequest_eq_ok {session : Session} {headers : List LoweredHeader}
    {maxBodyBytes : Nat} {publicServerName : Option String} {length : Option Nat}
    (accepted : validateClientRequest session headers maxBodyBytes publicServerName =
      .ok length) : Validated session headers := by
  unfold validateClientRequest at accepted
  cases found : session.pathAndQuery with
  | none =>
      rw [found] at accepted
      cases accepted
  | some pathAndQuery =>
      rw [found] at accepted
      simp only [bind_eq_ok, refuseIf_eq_ok] at accepted
      obtain ⟨_, slash, _, uriForm, _, _, _, few, scan, scanned, _, hostOk, _, _, _, counted,
        _⟩ := accepted
      have oneLength := contentLength_eq_ok counted
      rw [if_neg (by simp)] at oneLength
      obtain ⟨facts, admitted⟩ := scanClientHeaders_eq_ok scanned
      have hostCount := facts.hostCount
      rw [Nat.zero_add] at hostCount
      unfold checkHost at hostOk
      rw [refuseIf_bind_eq_ok] at hostOk
      refine ⟨⟨pathAndQuery, found, by simpa using slash⟩, uriForm, by simpa using few, ?_, admitted,
        ?_, ?_, oneLength⟩
      · have bytes := facts.headerBytes
        have within := facts.within (Nat.zero_le _)
        omega
      · have notMany := hostOk.1
        rw [decide_eq_false_iff_not] at notMany
        omega
      · intro isHttp1
        have one := hostOk.2
        rw [isHttp1] at one
        simp only [Bool.false_eq_true, ↓reduceIte, refuseIf_eq_ok, bne_eq_false_iff_eq] at one
        omega

end Oxo.Edge
