import Oxo.Edge.ClientRequest
import Oxo.Worker.Frame

/-!
Contract: which admitted requests the native worker can decode.

Owns: the budget a written frame must keep to be accepted under the worker's
caps, and the equivalence between the budget and acceptance for every request
that passes the edge.

Does not own: the edge's checks or the worker's decoder.
-/

namespace Oxo.Edge

open Oxo.Foundation Oxo.Core.HopFrame Oxo.Worker

/-- The worker accepts the prefix and the envelope of a frame. -/
def FrameDecodes (maxBody : Nat) (frame : List UInt8) : Prop :=
  (∃ parsed, FramePrefix.parse (prefixBytes frame) (frameCaps maxBody) = .ok parsed) ∧
    ∃ req, decodeRequest (frame.drop framePrefixLen) (frameCaps maxBody) = .ok req

/-- What the edge's checks leave open. Kept header values must have no control
byte; a synthesized host must leave the header count and bytes within the worker's
caps; and the whole envelope must fit the prefix check. -/
structure FrameWithinBudget (maxBody : Nat) (target : RequestTarget)
    (headers : List LoweredHeader) (body : List UInt8) (metadata : TrustedHopMetadata) :
    Prop where
  values : ∀ header ∈ survivors headers, ControlFree header.value
  host : ∀ authority, synthesizedHost target.authority headers = some authority →
    ControlFree authority ∧ (survivors headers).length < maxHeaders ∧
      "host".utf8ByteSize + authority.utf8ByteSize +
        headerBytes ((survivors headers).map fun header => (header.name, header.value)) ≤
          maxHeaderBytes
  envelope : (writtenFrame target headers body metadata).envelopeLength ≤
    frameFixedSlack + maxHeaderBytes + min maxBody (2 ^ 32 - 1)

/-! ## Encoded frames -/

/-- The worker accepts the prefix of a frame and decodes its envelope to `found`. -/
def FrameDecodesTo (maxBody : Nat) (frame : List UInt8) (found : RequestFrame) : Prop :=
  (∃ parsed, FramePrefix.parse (prefixBytes frame) (frameCaps maxBody) = .ok parsed) ∧
    decodeRequest (frame.drop framePrefixLen) (frameCaps maxBody) = .ok found

/-- A frame that encodes decodes, if at all, to what was encoded: exactly when it
meets the demands of the decoder and of the prefix check. -/
theorem frameDecodesTo_iff {maxBody : Nat} {req found : RequestFrame} {frame : List UInt8}
    (encoded : encodeRequest req = .ok frame) :
    FrameDecodesTo maxBody frame found ↔
      found = req ∧ req.envelopeLength ≤ (frameCaps maxBody).maxRemainingLength ∧
        req.Accepted (frameCaps maxBody) := by
  have fits : req.FitsWire := by
    by_contra fails
    rw [encodeRequest_of_not_fits fails] at encoded
    cases encoded
  rw [encodeRequest_of_fits fits] at encoded
  cases encoded
  have lengthEq := req.envelope_length
  have small : req.envelope.length < 2 ^ 32 := by
    rw [lengthEq]
    exact fits.envelope
  have envelopeEq : (prefixImage req.envelope.length ++ req.envelope).drop framePrefixLen =
      req.envelope := by
    rw [← prefixImage_length req.envelope.length, List.drop_left]
  have prefixIff : (∃ parsed, FramePrefix.parse (prefixBytes
      (prefixImage req.envelope.length ++ req.envelope)) (frameCaps maxBody) = .ok parsed) ↔
      req.envelopeLength ≤ (frameCaps maxBody).maxRemainingLength := by
    rw [parse_prefixImage (frameCaps maxBody) small, lengthEq]
    split
    · rename_i tooLarge
      simp [Nat.not_le.mpr tooLarge]
    · rename_i within
      simp [Nat.not_lt.mp within]
  unfold FrameDecodesTo
  rw [envelopeEq, prefixIff, decodeRequest_eq_ok]
  constructor
  · intro decoded
    have same := decoded.2.2
    have foundFits := decoded.2.1.fitsWire (by rw [← same]; exact small)
    have foundEq := RequestFrame.envelope_injective fits foundFits same
    exact ⟨foundEq.symm, decoded.1, foundEq ▸ decoded.2.1⟩
  · intro accepted
    rw [accepted.1]
    exact ⟨accepted.2.1, accepted.2.2, rfl⟩

theorem frameDecodes_iff {maxBody : Nat} {req : RequestFrame} {frame : List UInt8}
    (encoded : encodeRequest req = .ok frame) :
    FrameDecodes maxBody frame ↔
      req.envelopeLength ≤ (frameCaps maxBody).maxRemainingLength ∧
        req.Accepted (frameCaps maxBody) := by
  have toSome : FrameDecodes maxBody frame ↔ ∃ found, FrameDecodesTo maxBody frame found := by
    unfold FrameDecodes FrameDecodesTo
    simp only [exists_and_left]
  rw [toSome]
  simp only [frameDecodesTo_iff encoded, exists_eq_left]

/-! ## Admitted requests -/

private theorem isTokenByte_not_control {byte : UInt8} (token : isTokenByte byte = true) :
    isControlByte byte = false := by
  have all : ∀ byte : UInt8, isTokenByte byte = true → isControlByte byte = false := by
    decide +kernel
  exact all byte token

theorem controlFree_of_validName {name : String}
    (valid : isValidHeaderName (utf8 name) = true) : ControlFree name := by
  unfold isValidHeaderName at valid
  rw [Bool.and_eq_true, List.all_eq_true] at valid
  unfold ControlFree
  rw [List.any_eq_false]
  intro byte member
  simp [isTokenByte_not_control (valid.2 byte member)]

/-- The survivors' bytes are within the edge's own budget, which charges each
header four bytes more. -/
private theorem survivors_bytes {session : Session} {headers : List LoweredHeader}
    (validated : Validated session headers) :
    headerBytes ((survivors headers).map fun header => (header.name, header.value)) ≤
      maxHeaderBytes := by
  have perHeader : headerBytes ((survivors headers).map fun header =>
      (header.name, header.value)) ≤ ((survivors headers).map headerCost).sum := by
    unfold headerBytes
    rw [List.map_map]
    apply List.sum_le_sum
    intro header _
    simp only [Function.comp_apply, headerCost]
    omega
  have sublist : ((survivors headers).map headerCost).sum ≤ (headers.map headerCost).sum :=
    ((List.filter_sublist ..).map headerCost).sum_le_sum (fun _ _ => Nat.zero_le _)
  have budget : (headers.map headerCost).sum ≤ maxHeaderBytes := validated.headerBytes
  omega

private theorem survivors_length {session : Session} {headers : List LoweredHeader}
    (validated : Validated session headers) : (survivors headers).length ≤ maxHeaders :=
  le_trans (List.length_filter_le ..) validated.few

/-- The decoder's demands on the written headers are the budget's: the edge has
settled names, and counts and bytes as far as the survivors go. -/
private theorem writtenHeaders_accepted_iff {session : Session} {headers : List LoweredHeader}
    (validated : Validated session headers) (authority : Option String) :
    ((∀ header ∈ writtenHeaders authority headers, ControlFree header.1 ∧ ControlFree header.2) ∧
      (writtenHeaders authority headers).length ≤ maxHeaders ∧
      headerBytes (writtenHeaders authority headers) ≤ maxHeaderBytes) ↔
    (∀ header ∈ survivors headers, ControlFree header.value) ∧
      ∀ host, synthesizedHost authority headers = some host →
        ControlFree host ∧ (survivors headers).length < maxHeaders ∧
          "host".utf8ByteSize + host.utf8ByteSize +
            headerBytes ((survivors headers).map fun header => (header.name, header.value)) ≤
              maxHeaderBytes := by
  have names : ∀ header ∈ survivors headers, ControlFree header.name := by
    intro header member
    exact controlFree_of_validName
      (validated.admitted header (List.mem_of_mem_filter member)).name
  have survivorValues : (∀ header ∈ (survivors headers).map fun header =>
      (header.name, header.value), ControlFree header.1 ∧ ControlFree header.2) ↔
      ∀ header ∈ survivors headers, ControlFree header.value := by
    constructor
    · intro free header member
      exact (free _ (List.mem_map_of_mem member)).2
    · intro free header member
      obtain ⟨survivor, survives, rfl⟩ := List.mem_map.mp member
      exact ⟨names survivor survives, free survivor survives⟩
  have bytes := survivors_bytes validated
  have count := survivors_length validated
  unfold writtenHeaders
  cases synthesizedHost authority headers with
  | none =>
      simp only [Option.map_none, Option.toList_none, List.nil_append, List.length_map,
        survivorValues, reduceCtorEq, IsEmpty.forall_iff, implies_true, and_true, count, bytes]
  | some host =>
      have hostName : ControlFree "host" := by decide
      simp only [Option.map_some, Option.toList_some, List.singleton_append, List.forall_mem_cons,
        survivorValues, List.length_cons, List.length_map, headerBytes_cons, Option.some.injEq,
        forall_eq', hostName, true_and, Nat.add_one_le_iff]
      tauto

theorem writtenFrame_accepted_iff {session : Session} {headers : List LoweredHeader}
    (validated : Validated session headers) {maxBody : Nat} {target : RequestTarget}
    {body : List UInt8} {metadata : TrustedHopMetadata}
    (fits : (writtenFrame target headers body metadata).FitsWire)
    (bodyFits : body.length ≤ maxBody) :
    (writtenFrame target headers body metadata).envelopeLength ≤
        (frameCaps maxBody).maxRemainingLength ∧
      (writtenFrame target headers body metadata).Accepted (frameCaps maxBody) ↔
    FrameWithinBudget maxBody target headers body metadata := by
  have remaining : (frameCaps maxBody).maxRemainingLength =
      frameFixedSlack + maxHeaderBytes + min maxBody (2 ^ 32 - 1) := by
    rw [FrameCaps.maxRemainingLength, frameCaps_maxBodyBytes]
    rfl
  have headersIff := writtenHeaders_accepted_iff validated target.authority
  rw [remaining]
  constructor
  · intro accepted
    obtain ⟨envelope, accepted⟩ := accepted
    have headersOk := headersIff.mp
      ⟨accepted.headers.controlFree, accepted.headers.count, accepted.headers.bytes⟩
    exact ⟨headersOk.1, headersOk.2, envelope⟩
  · intro budget
    obtain ⟨controlFree, count, bytes⟩ := headersIff.mpr ⟨budget.values, budget.host⟩
    refine ⟨budget.envelope, fits.method, fits.path, fits.query, fits.serverName,
      fits.remoteAddr, ⟨fits.headers.2, controlFree, count, bytes⟩, ?_⟩
    rw [frameCaps_maxBodyBytes]
    have small : body.length < 2 ^ 32 := fits.body
    change body.length ≤ _
    omega

/-- A sanitized list has its plan, and the plan's frame is the written one. -/
theorem buildRequestFrameBytesInto_eq {headers : List LoweredHeader}
    {protocols : ProtocolSupport} {plan : FrameHeaderPlan}
    (few : headers.length ≤ maxRequestHeaders)
    (sanitized : sanitizeFrameHeaders headers protocols = .ok plan) {session : Session}
    {target : RequestTarget} (hasTarget : session.target = .ok target) (out body : List UInt8)
    (metadata : TrustedHopMetadata) :
    buildRequestFrameBytesInto out session headers plan body metadata =
      (encodeRequest (writtenFrame target headers body metadata)).mapError fun _ => 400 := by
  have planned := sanitizeFrameHeaders_spec headers protocols (le_trans few (by decide))
  rw [sanitized] at planned
  cases rejected : listRejection protocols headers with
  | some rejection =>
      rw [rejected] at planned
      cases planned
  | none =>
      rw [rejected] at planned
      obtain ⟨found, foundEq, represents⟩ := planned
      cases foundEq
      unfold buildRequestFrameBytesInto
      rw [hasTarget]
      exact assembleRequestFrameBytesInto_eq out target headers body metadata represents

/-- For every request the edge admits, the worker accepts the written frame
exactly when the frame is within the budget. -/
theorem admitted_frame_decodes_iff (toStr : List UInt8 → Option String) (session : Session)
    (headers : List LoweredHeader) (maxBody : Nat) (publicServerName : Option String)
    (length : Option Nat) (protocols : ProtocolSupport) (plan : FrameHeaderPlan)
    (out body : List UInt8) (metadata : TrustedHopMetadata) (target : RequestTarget)
    (frame : List UInt8)
    (_collected : collectRequestHeaders toStr session = .ok headers)
    (validated : validateClientRequest session headers maxBody publicServerName = .ok length)
    (sanitized : sanitizeFrameHeaders headers protocols = .ok plan)
    (bodyFits : body.length ≤ maxBody)
    (hasTarget : session.target = .ok target)
    (built : buildRequestFrameBytesInto out session headers plan body metadata = .ok frame) :
    FrameDecodes maxBody frame ↔ FrameWithinBudget maxBody target headers body metadata := by
  have facts := validateClientRequest_eq_ok validated
  rw [buildRequestFrameBytesInto_eq facts.few sanitized hasTarget] at built
  cases encoded : encodeRequest (writtenFrame target headers body metadata) with
  | error failure =>
      rw [encoded] at built
      cases built
  | ok bytes =>
      rw [encoded] at built
      cases built
      have fits : (writtenFrame target headers body metadata).FitsWire := by
        by_contra fails
        rw [encodeRequest_of_not_fits fails] at encoded
        cases encoded
      rw [frameDecodes_iff encoded]
      exact writtenFrame_accepted_iff facts fits bodyFits

/-! ## Concrete requests -/

def rootTarget : PathAndQuery where
  asStr := "/"
  path := "/"
  query := none
  joined := fun _ => by decide
  plainPath := root_plain
  visible := root_visible

def sampleMetadata : TrustedHopMetadata := ⟨"203.0.113.7", "https", "app", 443, none⟩

/-- A plain HTTP/1 request. -/
def plainSession : Session :=
  ⟨"GET", getToken, false, none, none, some rootTarget, [("host", [97])]⟩

def plainHeaders : List LoweredHeader := [.new "host" "a"]

/-- An HTTP/2 request without a host and with as many headers as the edge admits. -/
def crowdedSession : Session :=
  ⟨"GET", getToken, true, none, some "a", some rootTarget, List.replicate 100 ("x", [98])⟩

def crowdedHeaders : List LoweredHeader := List.replicate 100 (.new "x" "b")

/-- A clean list whose frame fits the wire is built. -/
private theorem built_of_fits (session : Session) {headers : List LoweredHeader}
    (protocols : ProtocolSupport) (few : headers.length ≤ maxRequestHeaders)
    (clean : listRejection protocols headers = none) {target : RequestTarget}
    (hasTarget : session.target = .ok target)
    (out body : List UInt8) (metadata : TrustedHopMetadata)
    (fits : (writtenFrame target headers body metadata).FitsWire) :
    ∃ plan frame, sanitizeFrameHeaders headers protocols = .ok plan ∧
      buildRequestFrameBytesInto out session headers plan body metadata = .ok frame ∧
      encodeRequest (writtenFrame target headers body metadata) = .ok frame := by
  have planned := sanitizeFrameHeaders_spec headers protocols (le_trans few (by decide))
  rw [clean] at planned
  obtain ⟨plan, planEq, _⟩ := planned
  have encoded := encodeRequest_of_fits fits
  refine ⟨plan, _, planEq, ?_, encoded⟩
  rw [buildRequestFrameBytesInto_eq few planEq hasTarget, encoded]
  rfl

/-- The synthesized host is header one hundred and one, which the worker refuses. -/
theorem crowded_frame_not_decoded :
    ∃ plan frame, collectRequestHeaders visibleText crowdedSession = .ok crowdedHeaders ∧
      validateClientRequest crowdedSession crowdedHeaders 1048576 none = .ok none ∧
      sanitizeFrameHeaders crowdedHeaders ⟨false⟩ = .ok plan ∧
      buildRequestFrameBytesInto [] crowdedSession crowdedHeaders plan [] sampleMetadata =
        .ok frame ∧
      ¬ FrameDecodes 1048576 frame := by
  have fits : (writtenFrame ⟨"GET", "/", "", some "a"⟩ crowdedHeaders [] sampleMetadata).FitsWire :=
    ⟨by decide, by decide, by decide, by decide, by decide, by decide +kernel, by decide,
      by decide +kernel⟩
  obtain ⟨plan, frame, sanitized, built, encoded⟩ :=
    built_of_fits crowdedSession ⟨false⟩ (by decide) (by decide +kernel) rfl [] [] sampleMetadata
      fits
  refine ⟨plan, frame, by decide +kernel, by decide +kernel, sanitized, built, ?_⟩
  rw [frameDecodes_iff encoded]
  intro accepted
  exact absurd accepted.2.headers.count (by decide +kernel)

/-- The equivalence at a plain request, whose frame is within the budget. -/
theorem admitted_frame_decodes_plain :
    ∃ plan frame, sanitizeFrameHeaders plainHeaders ⟨false⟩ = .ok plan ∧
      buildRequestFrameBytesInto [] plainSession plainHeaders plan [] sampleMetadata = .ok frame ∧
      FrameDecodes 1048576 frame := by
  have fits : (writtenFrame ⟨"GET", "/", "", none⟩ plainHeaders [] sampleMetadata).FitsWire :=
    ⟨by decide, by decide, by decide, by decide, by decide, by decide +kernel, by decide,
      by decide +kernel⟩
  obtain ⟨plan, frame, sanitized, built, _⟩ :=
    built_of_fits plainSession ⟨false⟩ (by decide) (by decide +kernel) rfl [] [] sampleMetadata fits
  refine ⟨plan, frame, sanitized, built, ?_⟩
  rw [admitted_frame_decodes_iff visibleText plainSession plainHeaders 1048576 none none ⟨false⟩
    plan [] [] sampleMetadata ⟨"GET", "/", "", none⟩ frame rfl (by decide +kernel) sanitized
    (by decide) rfl built]
  refine ⟨by decide +kernel, ?_, by decide +kernel⟩
  intro authority synthesized
  have noHost : synthesizedHost none plainHeaders = none := by decide +kernel
  rw [noHost] at synthesized
  cases synthesized

end Oxo.Edge
