import Oxo.Core.HopFrame.Request
import Oxo.Edge.HeaderPlan

/-!
Contract: the two builders of the worker-hop request frame
(`oxo-pingora-edge/src/platform/frame_hop.rs`).

Owns: the borrowed builder that streams the kept headers into a reused buffer,
the owned builder that serves as its oracle, and their byte-for-byte agreement.

Does not own: which requests are admitted. The scheduler-delay stamp of the
`hop-timing` diagnostic is off, as in every build without that feature.
-/

namespace Oxo.Edge

open Oxo.Foundation Oxo.Core Oxo.Core.HopFrame

def maxRequestHeaders : Nat := 100

/-- Trusted per-request data the edge attaches. -/
structure TrustedHopMetadata where
  remoteAddr : String
  urlScheme : String
  serverName : String
  serverPort : UInt16
  requestId : Option String
deriving DecidableEq

/-- The session fields both builders read. -/
structure RequestTarget where
  method : String
  path : String
  query : String
  authority : Option String
deriving DecidableEq

def schemeOf (urlScheme : String) : Scheme :=
  if urlScheme = "https" then .https else .http

/-- Reserved namespace test on the bytes of the name. -/
def hasXOxoPrefix (name : String) : Bool :=
  let bytes := utf8 name
  let reserved := utf8 "x-oxo-"
  decide (bytes.length ≥ reserved.length) &&
    bytesEqIgnoreAsciiCase (bytes.take reserved.length) reserved

/-- The pairs the borrowed builder streams: a synthesized host, then the kept
headers after the reserved-namespace defence pass. -/
def borrowedHeaders (authority : Option String) (rawHeaders : List LoweredHeader)
    (plan : FrameHeaderPlan) : List (String × String) :=
  let synthHost := if plan.hasHost then none else authority
  let survivors := (rawHeaders.zipIdx.filter fun entry =>
    plan.keeps entry.2 && !hasXOxoPrefix entry.1.name).map fun entry =>
      (entry.1.name, entry.1.value)
  (synthHost.map fun host => ("host", host)).toList ++ survivors

def assembleRequestFrameBytesInto (out : List UInt8) (target : RequestTarget)
    (rawHeaders : List LoweredHeader) (plan : FrameHeaderPlan) (body : List UInt8)
    (urlScheme serverName : String) (serverPort : UInt16) (remoteAddr : String) :
    Except UInt16 (List UInt8) :=
  let synthHost := if plan.hasHost then none else target.authority
  let headerCount := plan.survivorCount + (if synthHost.isSome then 1 else 0)
  let frameRef : RequestFrameRef :=
    { method := target.method
      path := target.path
      query := target.query
      serverName := serverName
      serverPort := serverPort
      scheme := schemeOf urlScheme
      remoteAddr := remoteAddr
      body := body }
  (encodeRequestRefInto out frameRef headerCount
    (borrowedHeaders target.authority rawHeaders plan)).mapError fun _ => 400

def assembleRequestFrameOwned (target : RequestTarget)
    (sanitizedHeaders : List (String × String)) (body : List UInt8)
    (metadata : TrustedHopMetadata) : RequestFrame :=
  let hasHost := sanitizedHeaders.any fun header => eqIgnoreAsciiCase header.1 "host"
  let headers := sanitizedHeaders.filter fun header => !hasXOxoPrefix header.1
  let headers :=
    if hasHost then headers
    else match target.authority with
      | some authority => ("host", authority) :: headers
      | none => headers
  { method := target.method
    path := target.path
    query := target.query
    serverName := metadata.serverName
    serverPort := metadata.serverPort
    scheme := schemeOf metadata.urlScheme
    remoteAddr := metadata.remoteAddr
    headers := headers
    body := body }

/-! ## Pipelines -/

/-- How a request is refused on the way to its frame. -/
inductive FrameRejection where
  | sanitize (rejection : RequestRejection)
  | status (code : UInt16)
deriving DecidableEq, Repr

/-- Sanitize to a plan, then stream into the reused buffer. -/
def borrowedFrame (out : List UInt8) (target : RequestTarget) (headers : List LoweredHeader)
    (protocols : ProtocolSupport) (body : List UInt8) (metadata : TrustedHopMetadata) :
    Except FrameRejection (List UInt8) := do
  let plan ← (sanitizeFrameHeaders headers protocols).mapError .sanitize
  (assembleRequestFrameBytesInto out target headers plan body metadata.urlScheme
    metadata.serverName metadata.serverPort metadata.remoteAddr).mapError .status

/-- Sanitize to owned headers, build the frame, encode it. A codec failure is
reported as the borrowed builder reports it. -/
def ownedFrame (target : RequestTarget) (headers : List LoweredHeader)
    (protocols : ProtocolSupport) (body : List UInt8) (metadata : TrustedHopMetadata) :
    Except FrameRejection (List UInt8) := do
  let sanitized ← (sanitizeLoweredWorkerRequestHeadersBare headers protocols).mapError .sanitize
  (encodeRequest (assembleRequestFrameOwned target sanitized.headers body metadata)).mapError
    fun _ => .status 400

/-! ## Agreement -/

/-- The byte-level test is the prefix test of the strip predicate. -/
theorem hasXOxoPrefix_eq (name : String) :
    hasXOxoPrefix name = startsWith (toAsciiLowercase name) "x-oxo-" := by
  have reservedLower : (utf8 "x-oxo-").map byteToAsciiLowercase = utf8 "x-oxo-" := by decide
  rw [← utf8_isPrefixOf, Bool.eq_iff_iff, List.isPrefixOf_iff_prefix, List.prefix_iff_eq_take,
    utf8_toAsciiLowercase, ← List.map_take]
  simp only [hasXOxoPrefix, bytesEqIgnoreAsciiCase, reservedLower, Bool.and_eq_true,
    decide_eq_true_eq, beq_iff_eq]
  constructor
  · intro holds
    exact holds.2.symm
  · intro same
    have lengths := congrArg List.length same
    simp only [List.length_map, List.length_take] at lengths
    exact ⟨by omega, same.symm⟩

private theorem survivor_not_reserved {headers : List LoweredHeader} {header : LoweredHeader}
    (member : header ∈ survivors headers) : hasXOxoPrefix header.name = false := by
  have kept := (List.mem_filter.mp member).2
  rw [hasXOxoPrefix_eq, ← header.lower_eq]
  unfold isStripped shouldStripHeaderScan at kept
  simp only [Bool.not_eq_true', Bool.or_eq_false_iff] at kept
  exact kept.1.2

/-- The host written from the authority: only when no surviving header is one. -/
def synthesizedHost (authority : Option String) (headers : List LoweredHeader) : Option String :=
  if (survivors headers).any fun header => header.lower == "host" then none else authority

/-- The headers of the frame: a synthesized host, then the survivors. -/
def writtenHeaders (authority : Option String) (headers : List LoweredHeader) :
    List (String × String) :=
  ((synthesizedHost authority headers).map fun host => ("host", host)).toList ++
    (survivors headers).map fun header => (header.name, header.value)

/-- The frame both builders stand for. -/
def writtenFrame (target : RequestTarget) (headers : List LoweredHeader) (body : List UInt8)
    (metadata : TrustedHopMetadata) : RequestFrame where
  method := target.method
  path := target.path
  query := target.query
  serverName := metadata.serverName
  serverPort := metadata.serverPort
  scheme := schemeOf metadata.urlScheme
  remoteAddr := metadata.remoteAddr
  headers := writtenHeaders target.authority headers
  body := body

/-- The kept entries pass the defence pass, so what is streamed is what the frame
holds. -/
private theorem borrowedHeaders_eq (authority : Option String) (headers : List LoweredHeader)
    {plan : FrameHeaderPlan} (represents : plan.Represents headers) :
    borrowedHeaders authority headers plan = writtenHeaders authority headers := by
  have passes : (headers.zipIdx.filter fun entry =>
      plan.keeps entry.2 && !hasXOxoPrefix entry.1.name) = plan.kept headers := by
    apply List.filter_congr
    intro entry member
    cases keeps : plan.keeps entry.2 with
    | false => rfl
    | true =>
        have kept : entry ∈ plan.kept headers := List.mem_filter.mpr ⟨member, keeps⟩
        have survives : entry.1 ∈ survivors headers := by
          rw [← represents.kept]
          exact List.mem_map_of_mem kept
        rw [survivor_not_reserved survives]
        rfl
  unfold borrowedHeaders writtenHeaders synthesizedHost
  rw [passes, ← represents.hasHost, ← represents.kept, List.map_map]
  rfl

private theorem borrowedHeaders_length (authority : Option String)
    (headers : List LoweredHeader) {plan : FrameHeaderPlan}
    (represents : plan.Represents headers) :
    (borrowedHeaders authority headers plan).length = plan.survivorCount +
      (if (if plan.hasHost then none else authority).isSome then 1 else 0) := by
  rw [borrowedHeaders_eq authority headers represents, represents.survivorCount, writtenHeaders,
    synthesizedHost, ← represents.hasHost, List.length_append, List.length_map]
  cases (if plan.hasHost then none else authority) with
  | none => simp
  | some host => simp [Nat.add_comm]

/-- The owned builder, over the survivors, builds the written frame. -/
theorem assembleRequestFrameOwned_eq (target : RequestTarget) (headers : List LoweredHeader)
    (body : List UInt8) (metadata : TrustedHopMetadata) :
    assembleRequestFrameOwned target
      ((survivors headers).map fun header => (header.name, header.value)) body metadata =
      writtenFrame target headers body metadata := by
  have retained : (((survivors headers).map fun header => (header.name, header.value)).filter
      fun header => !hasXOxoPrefix header.1) =
      (survivors headers).map fun header => (header.name, header.value) := by
    rw [List.filter_eq_self]
    intro header member
    obtain ⟨survivor, survives, rfl⟩ := List.mem_map.mp member
    rw [survivor_not_reserved survives]
    rfl
  have sameHost : (((survivors headers).map fun header => (header.name, header.value)).any
      fun header => eqIgnoreAsciiCase header.1 "host") =
      (survivors headers).any fun header => header.lower == "host" := by
    rw [List.any_map]
    congr 1
    funext header
    rw [header.lower_eq]
    rfl
  simp only [assembleRequestFrameOwned, writtenFrame, writtenHeaders, synthesizedHost, retained,
    sameHost]
  cases (survivors headers).any fun header => header.lower == "host" with
  | true => rfl
  | false => cases target.authority <;> rfl

/-- The borrowed builder encodes the written frame, and reports any codec failure
as 400. -/
theorem assembleRequestFrameBytesInto_eq (out : List UInt8) (target : RequestTarget)
    (headers : List LoweredHeader) (body : List UInt8) (metadata : TrustedHopMetadata)
    {plan : FrameHeaderPlan} (represents : plan.Represents headers) :
    assembleRequestFrameBytesInto out target headers plan body metadata.urlScheme
        metadata.serverName metadata.serverPort metadata.remoteAddr =
      (encodeRequest (writtenFrame target headers body metadata)).mapError fun _ => 400 := by
  simp only [assembleRequestFrameBytesInto]
  rw [← borrowedHeaders_length target.authority headers represents, encodeRequestRefInto_eq,
    RequestFrameRef.withHeaders, borrowedHeaders_eq target.authority headers represents]
  rfl

/-- The borrowed fast path and the owned path give the same bytes or the same
refusal, for every reused buffer. -/
theorem borrowedFrame_eq_ownedFrame (out : List UInt8) (target : RequestTarget)
    (headers : List LoweredHeader) (protocols : ProtocolSupport) (body : List UInt8)
    (metadata : TrustedHopMetadata) (few : headers.length ≤ maxRequestHeaders) :
    borrowedFrame out target headers protocols body metadata =
      ownedFrame target headers protocols body metadata := by
  have fits : headers.length ≤ 128 := le_trans few (by decide)
  have planned := sanitizeFrameHeaders_spec headers protocols fits
  unfold borrowedFrame ownedFrame
  rw [sanitizeLoweredWorkerRequestHeadersBare_eq]
  cases rejected : listRejection protocols headers with
  | some rejection =>
      rw [rejected] at planned
      rw [planned]
      rfl
  | none =>
      rw [rejected] at planned
      obtain ⟨plan, planEq, represents⟩ := planned
      rw [planEq]
      change Except.mapError _ _ = Except.mapError _ _
      rw [assembleRequestFrameBytesInto_eq out target headers body metadata represents,
        assembleRequestFrameOwned_eq]
      cases encodeRequest _ <;> rfl

/-- The agreement on a list with a nominated header, a forwarding header and a
reserved one, over a dirty buffer. -/
theorem borrowedFrame_eq_ownedFrame_sample :
    borrowedFrame [0xde, 0xad] ⟨"GET", "/t", "", some "h2.example"⟩
        [.new "Connection" " close , , X-Droppable ", .new "X-Droppable" "gone",
          .new "X-Forwarded-For" "1.2.3.4", .new "X-Oxo-Remote-Addr" "6.6.6.6",
          .new "X-Kept" "stays"]
        ⟨false⟩ [] ⟨"203.0.113.7", "https", "app", 8443, none⟩ =
      (encodeRequest ⟨"GET", "/t", "", "app", 8443, .https, "203.0.113.7",
        [("host", "h2.example"), ("X-Kept", "stays")], []⟩).mapError fun _ => .status 400 := by
  rw [borrowedFrame_eq_ownedFrame _ _ _ _ _ _ (by decide)]
  decide

end Oxo.Edge
