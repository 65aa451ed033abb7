import Oxo.Core.HopFrame.Fields

/-!
Contract: the request frame codec is a two-way bijection on its image.

Owns: the envelope of a request frame, the wire-width conditions under which it
encodes, the conditions under which a decoder with given caps accepts it, and
the equivalences that tie `encodeRequest`, `FramePrefix.parse` and
`decodeRequest` to them.

Does not own: which requests the edge builds or which caps a worker uses.
-/

namespace Oxo.Core.HopFrame

open Oxo.Foundation

namespace RequestFrame

/-- The envelope of a request frame: its sections in wire order. -/
def envelope (req : RequestFrame) : List UInt8 :=
  shortImage req.method ++ (longImage req.path ++ (longImage req.query ++
    (shortImage req.serverName ++ (u16Image req.serverPort ++ ([req.scheme.toByte] ++
      (shortImage req.remoteAddr ++ (headersImage req.headers ++ bytesImage req.body)))))))

/-- Envelope length, counted section by section. -/
def envelopeLength (req : RequestFrame) : Nat :=
  (2 + req.method.utf8ByteSize) + (4 + req.path.utf8ByteSize) + (4 + req.query.utf8ByteSize) +
    (2 + req.serverName.utf8ByteSize) + 2 + 1 + (2 + req.remoteAddr.utf8ByteSize) +
    (2 + (6 * req.headers.length + headerBytes req.headers)) + (4 + req.body.length)

/-- Every length fits its wire width, the envelope included. -/
structure FitsWire (req : RequestFrame) : Prop where
  method : req.method.utf8ByteSize < 2 ^ 16
  path : req.path.utf8ByteSize < 2 ^ 32
  query : req.query.utf8ByteSize < 2 ^ 32
  serverName : req.serverName.utf8ByteSize < 2 ^ 16
  remoteAddr : req.remoteAddr.utf8ByteSize < 2 ^ 16
  headers : HeadersFit req.headers
  body : req.body.length < 2 ^ 32
  envelope : req.envelopeLength < 2 ^ 32

/-- Header count, summed header bytes and body are within the caps. -/
structure WithinCaps (caps : FrameCaps) (req : RequestFrame) : Prop where
  headerCount : req.headers.length ≤ caps.maxHeaders.toNat
  headerBytes : headerBytes req.headers ≤ caps.maxHeaderBytes.toNat
  body : req.body.length ≤ caps.maxBodyBytes.toNat

/-- No header name or value holds a byte the decoder rejects. -/
def HeadersControlFree (req : RequestFrame) : Prop :=
  ∀ header ∈ req.headers, ControlFree header.1 ∧ ControlFree header.2

/-- What `decodeRequest` demands of a frame under its caps. -/
structure Accepted (caps : FrameCaps) (req : RequestFrame) : Prop where
  method : req.method.utf8ByteSize < 2 ^ 16
  path : req.path.utf8ByteSize < 2 ^ 32
  query : req.query.utf8ByteSize < 2 ^ 32
  serverName : req.serverName.utf8ByteSize < 2 ^ 16
  remoteAddr : req.remoteAddr.utf8ByteSize < 2 ^ 16
  headers : HeadersAccepted caps.maxHeaders caps.maxHeaderBytes req.headers
  body : req.body.length ≤ caps.maxBodyBytes.toNat

theorem Accepted.of_fits {caps : FrameCaps} {req : RequestFrame} (fits : req.FitsWire)
    (within : req.WithinCaps caps) (controlFree : req.HeadersControlFree) :
    req.Accepted caps :=
  ⟨fits.method, fits.path, fits.query, fits.serverName, fits.remoteAddr,
    ⟨fits.headers.2, controlFree, within.headerCount, within.headerBytes⟩, within.body⟩

theorem headerPairsImage_length (headers : List (String × String)) :
    (headerPairsImage headers).length = 6 * headers.length + headerBytes headers := by
  induction headers with
  | nil => rfl
  | cons header rest inductionHypothesis =>
      have split : headerPairsImage (header :: rest) =
          headerImage header ++ headerPairsImage rest := by
        simp [headerPairsImage]
      rw [split, List.length_append, inductionHypothesis, headerBytes_cons]
      simp only [headerImage, shortImage, longImage, List.length_append, toLeBytes_length,
        utf8_length, List.length_cons]
      omega

theorem envelope_length (req : RequestFrame) : req.envelope.length = req.envelopeLength := by
  simp only [envelope, envelopeLength, shortImage, longImage, u16Image, headersImage, bytesImage,
    List.length_append, toLeBytes_length, utf8_length, List.length_cons, List.length_nil,
    headerPairsImage_length]
  omega

end RequestFrame

/-! ## Encoding -/

/-- The field encoders of a request, in wire order. -/
private def encodeRequestFields (req : RequestFrame) (out : List UInt8) :
    Except FrameError (List UInt8) := do
  let out ← encodeShort req.method out
  let out ← encodeLongStr req.path out
  let out ← encodeLongStr req.query out
  let out ← encodeShort req.serverName out
  let out := out ++ toLeBytes 2 req.serverPort.toNat
  let out := out ++ [req.scheme.toByte]
  let out ← encodeShort req.remoteAddr out
  let out ← encodeHeaders req.headers out
  encodeLongBytes req.body out

private theorem encodeRequest_eq_framed (req : RequestFrame) :
    encodeRequest req = (encodeRequestFields req startFrame >>= finishFrame) := by
  simp only [encodeRequest, encodeRequestFields, bind_assoc]

private theorem encodeRequestFields_appends (req : RequestFrame) :
    Appends (encodeRequestFields req) req.envelope
      (req.method.utf8ByteSize < 2 ^ 16 ∧ req.path.utf8ByteSize < 2 ^ 32 ∧
        req.query.utf8ByteSize < 2 ^ 32 ∧ req.serverName.utf8ByteSize < 2 ^ 16 ∧ True ∧ True ∧
        req.remoteAddr.utf8ByteSize < 2 ^ 16 ∧ HeadersFit req.headers ∧ req.body.length < 2 ^ 32)
      FrameError.lengthOverflow :=
  (encodeShort_appends req.method).andThen <|
    (encodeLongStr_appends req.path).andThen <|
    (encodeLongStr_appends req.query).andThen <|
    (encodeShort_appends req.serverName).andThen <|
    (Appends.always (u16Image req.serverPort)).andThen <|
    (Appends.always [req.scheme.toByte]).andThen <|
    (encodeShort_appends req.remoteAddr).andThen <|
    (encodeHeaders_appends req.headers).andThen <|
    encodeLongBytes_appends req.body

theorem encodeRequest_of_fits {req : RequestFrame} (fits : req.FitsWire) :
    encodeRequest req = .ok (prefixImage req.envelope.length ++ req.envelope) := by
  rw [encodeRequest_eq_framed]
  apply framed_of_fits (encodeRequestFields_appends req)
  · exact ⟨fits.method, fits.path, fits.query, fits.serverName, trivial, trivial,
      fits.remoteAddr, fits.headers, fits.body⟩
  · rw [req.envelope_length]
    exact fits.envelope

theorem encodeRequest_of_not_fits {req : RequestFrame} (fails : ¬ req.FitsWire) :
    encodeRequest req = .error .lengthOverflow := by
  rw [encodeRequest_eq_framed]
  apply framed_of_not_fits (encodeRequestFields_appends req)
  intro fits
  apply fails
  obtain ⟨⟨method, path, query, serverName, _, _, remoteAddr, headers, body⟩, small⟩ := fits
  rw [req.envelope_length] at small
  exact ⟨method, path, query, serverName, remoteAddr, headers, body, small⟩

/-- The frame that borrowed fields and headers stand for. -/
def RequestFrameRef.withHeaders (req : RequestFrameRef) (headers : List (String × String)) :
    RequestFrame :=
  { method := req.method
    path := req.path
    query := req.query
    serverName := req.serverName
    serverPort := req.serverPort
    scheme := req.scheme
    remoteAddr := req.remoteAddr
    headers := headers
    body := req.body }

/-- With the true header count, the borrowed encoder is `encodeRequest`, whatever
the buffer held. -/
theorem encodeRequestRefInto_eq (out : List UInt8) (req : RequestFrameRef)
    (headers : List (String × String)) :
    encodeRequestRefInto out req headers.length headers =
      encodeRequest (req.withHeaders headers) := by
  simp only [encodeRequestRefInto, encodeRequest, encodeHeaders, RequestFrameRef.withHeaders,
    startFrame, List.nil_append, List.cons_append]
  cases u16TryFrom headers.length with
  | none => rfl
  | some count =>
      simp only [ne_eq, not_true_eq_false, ↓reduceIte]

/-! ## Decoding -/

theorem scheme_fromByte_eq_ok {byte : UInt8} {scheme : Scheme} :
    Scheme.fromByte byte = .ok scheme ↔ byte = scheme.toByte := by
  unfold Scheme.fromByte
  cases scheme with
  | http =>
      by_cases isZero : byte = 0
      · simp [isZero, Scheme.toByte]
      · by_cases isOne : byte = 1 <;> simp [isZero, isOne, Scheme.toByte]
  | https =>
      by_cases isZero : byte = 0
      · simp [isZero, Scheme.toByte]
      · by_cases isOne : byte = 1 <;> simp [isZero, isOne, Scheme.toByte]

/-- Field by field from the last section to the first: each step names the field
that the reader in front of it must have produced. -/
theorem requestSections_exact (caps : FrameCaps) :
    Exact ByteCursor.rest (requestSections caps) RequestFrame.envelope
      (RequestFrame.Accepted caps) := by
  have body method path query serverName serverPort scheme remoteAddr headers :=
    (readBody_exact caps.maxBodyBytes).bind RequestFrame.body
      (fun body => Exact.pure (⟨method, path, query, serverName, serverPort, scheme, remoteAddr,
        headers, body⟩ : RequestFrame))
      (fun _ _ _ built => congrArg RequestFrame.body built)
  have headers method path query serverName serverPort scheme remoteAddr :=
    (decodeHeaders_exact caps.maxHeaders caps.maxHeaderBytes).bind RequestFrame.headers
      (body method path query serverName serverPort scheme remoteAddr)
      (fun _ _ _ built => congrArg RequestFrame.headers built.2)
  have remoteAddr method path query serverName serverPort scheme :=
    shortStr_exact.bind RequestFrame.remoteAddr
      (headers method path query serverName serverPort scheme)
      (fun _ _ _ built => congrArg RequestFrame.remoteAddr built.2.2)
  have scheme method path query serverName serverPort schemeByte :=
    (Exact.lift (Scheme.fromByte schemeByte)).bind RequestFrame.scheme
      (remoteAddr method path query serverName serverPort)
      (fun _ _ _ built => congrArg RequestFrame.scheme built.2.2.2)
  have schemeByte method path query serverName serverPort :=
    readU8_exact.bind (fun req : RequestFrame => req.scheme.toByte)
      (scheme method path query serverName serverPort)
      (fun _ _ _ built => (scheme_fromByte_eq_ok.mp built.1).symm)
  have serverPort method path query serverName :=
    readU16_exact.bind RequestFrame.serverPort
      (schemeByte method path query serverName)
      (fun _ _ _ built => congrArg RequestFrame.serverPort built.2.2.2.2.2)
  have serverName method path query :=
    shortStr_exact.bind RequestFrame.serverName (serverPort method path query)
      (fun _ _ _ built => congrArg RequestFrame.serverName built.2.2.2.2.2.2)
  have query method path :=
    longStr_exact.bind RequestFrame.query (serverName method path)
      (fun _ _ _ built => congrArg RequestFrame.query built.2.2.2.2.2.2.2)
  have path method :=
    longStr_exact.bind RequestFrame.path (query method)
      (fun _ _ _ built => congrArg RequestFrame.path built.2.2.2.2.2.2.2.2)
  have method :=
    shortStr_exact.bind RequestFrame.method path
      (fun _ _ _ built => congrArg RequestFrame.method built.2.2.2.2.2.2.2.2.2)
  refine method.restate ?_ ?_
  · intro req
    constructor
    · intro accepted
      exact ⟨accepted.method, accepted.path, accepted.query, accepted.serverName, trivial,
        trivial, scheme_fromByte_eq_ok.mpr rfl, accepted.remoteAddr, accepted.headers,
        accepted.body, rfl⟩
    · intro accepted
      obtain ⟨method, path, query, serverName, _, _, _, remoteAddr, headers, body, _⟩ := accepted
      exact ⟨method, path, query, serverName, remoteAddr, headers, body⟩
  · intro req _
    simp only [RequestFrame.envelope, List.nil_append, List.append_nil]

/-- A request envelope decodes to a frame exactly when it is that frame's
envelope and the frame is within the decoder's demands. -/
theorem decodeRequest_eq_ok (envelope : List UInt8) (caps : FrameCaps) (req : RequestFrame) :
    decodeRequest envelope caps = .ok req ↔ req.Accepted caps ∧ envelope = req.envelope :=
  decodeTiled_eq_ok (requestSections_exact caps) envelope req

/-- An accepted frame whose envelope fits `u32` encodes. -/
theorem RequestFrame.Accepted.fitsWire {caps : FrameCaps} {req : RequestFrame}
    (accepted : req.Accepted caps) (small : req.envelope.length < 2 ^ 32) : req.FitsWire := by
  have count := lt_of_le_of_lt accepted.headers.count caps.maxHeaders.toNat_lt
  have body := lt_of_le_of_lt accepted.body caps.maxBodyBytes.toNat_lt
  rw [req.envelope_length] at small
  exact ⟨accepted.method, accepted.path, accepted.query, accepted.serverName,
    accepted.remoteAddr, ⟨count, accepted.headers.fit⟩, body, small⟩

/-! ## One envelope, one frame -/

/-- Two frames that fit the wire and share an envelope are equal. -/
theorem RequestFrame.envelope_injective {left right : RequestFrame} (leftFits : left.FitsWire)
    (rightFits : right.FitsWire) (same : left.envelope = right.envelope) : left = right := by
  unfold RequestFrame.envelope at same
  obtain ⟨method, same⟩ :=
    ByteCursor.split_unique shortStr_exact leftFits.method rightFits.method same
  obtain ⟨path, same⟩ := ByteCursor.split_unique longStr_exact leftFits.path rightFits.path same
  obtain ⟨query, same⟩ := ByteCursor.split_unique longStr_exact leftFits.query rightFits.query same
  obtain ⟨serverName, same⟩ :=
    ByteCursor.split_unique shortStr_exact leftFits.serverName rightFits.serverName same
  obtain ⟨serverPort, same⟩ := ByteCursor.split_unique readU16_exact trivial trivial same
  obtain ⟨schemeByte, same⟩ := ByteCursor.split_unique readU8_exact trivial trivial same
  obtain ⟨remoteAddr, same⟩ :=
    ByteCursor.split_unique shortStr_exact leftFits.remoteAddr rightFits.remoteAddr same
  obtain ⟨headers, same⟩ := headersImage_split leftFits.headers rightFits.headers same
  have body := bytesImage_injective leftFits.body rightFits.body same
  have scheme : left.scheme = right.scheme := by
    have fromByte := scheme_fromByte_eq_ok.mpr schemeByte
    rw [scheme_fromByte_eq_ok.mpr rfl] at fromByte
    exact Except.ok.inj fromByte
  cases left
  cases right
  simp only at method path query serverName serverPort scheme remoteAddr headers body
  simp only [method, path, query, serverName, serverPort, scheme, remoteAddr, headers, body]

/-! ## The two-way bijection -/

/-- The request codec is a two-way bijection on its image, under every caps:
a frame that fits encodes, its prefix parses to the true remaining length and
its envelope decodes to itself; an accepted envelope is reproduced by the
encoder; and encoding fails exactly when some length does not fit. -/
theorem request_codec_bijection (caps : FrameCaps) :
    (∀ req : RequestFrame, req.FitsWire → req.WithinCaps caps → req.HeadersControlFree →
      ∃ frame, encodeRequest req = .ok frame ∧
        ((frame.drop framePrefixLen).length ≤ caps.maxRemainingLength →
          ∃ parsed, FramePrefix.parse (prefixBytes frame) caps = .ok parsed ∧
            parsed.remainingLength.toNat = (frame.drop framePrefixLen).length) ∧
        decodeRequest (frame.drop framePrefixLen) caps = .ok req) ∧
    (∀ (envelope : List UInt8) (req : RequestFrame), envelope.length < 2 ^ 32 →
      decodeRequest envelope caps = .ok req →
      encodeRequest req = .ok (prefixImage envelope.length ++ envelope)) ∧
    (∀ req : RequestFrame, (∃ failure, encodeRequest req = .error failure) ↔ ¬ req.FitsWire) := by
  refine ⟨?_, ?_, ?_⟩
  · intro req fits within controlFree
    have small : req.envelope.length < 2 ^ 32 := by
      rw [req.envelope_length]
      exact fits.envelope
    have envelopeEq : (prefixImage req.envelope.length ++ req.envelope).drop framePrefixLen =
        req.envelope := by
      rw [← prefixImage_length req.envelope.length, List.drop_left]
    refine ⟨_, encodeRequest_of_fits fits, ?_, ?_⟩
    · intro underCap
      rw [envelopeEq] at underCap
      refine ⟨⟨UInt32.ofNat req.envelope.length⟩, ?_, ?_⟩
      · rw [parse_prefixImage caps small, if_neg (Nat.not_lt.mpr underCap)]
      · rw [envelopeEq]
        exact u32_toNat_ofNat small
    · rw [envelopeEq, decodeRequest_eq_ok]
      exact ⟨.of_fits fits within controlFree, rfl⟩
  · intro envelope req small decoded
    obtain ⟨accepted, rfl⟩ := (decodeRequest_eq_ok envelope caps req).mp decoded
    exact encodeRequest_of_fits (accepted.fitsWire small)
  · intro req
    constructor
    · intro failed fits
      obtain ⟨failure, failed⟩ := failed
      rw [encodeRequest_of_fits fits] at failed
      cases failed
    · intro fails
      exact ⟨_, encodeRequest_of_not_fits fails⟩

/-- A request with one header and a body, for the closed instances below. -/
def sampleRequest : RequestFrame :=
  { method := "POST"
    path := "/submit"
    query := "a=1"
    serverName := "app.example"
    serverPort := 443
    scheme := .https
    remoteAddr := "203.0.113.9"
    headers := [("host", "app.example")]
    body := [0x7b, 0x7d] }

theorem sampleRequest_fits : sampleRequest.FitsWire :=
  ⟨by decide, by decide, by decide, by decide, by decide, by decide, by decide, by decide⟩

def sampleCaps : FrameCaps := ⟨65536, 128, 1048576⟩

/-- The codec laws at one request: it decodes to itself, and it fits. -/
theorem request_codec_bijection_sample :
    (∃ frame, encodeRequest sampleRequest = .ok frame ∧
      decodeRequest (frame.drop framePrefixLen) sampleCaps = .ok sampleRequest) ∧
    ¬ ∃ failure, encodeRequest sampleRequest = .error failure := by
  have fits := sampleRequest_fits
  have within : sampleRequest.WithinCaps sampleCaps := ⟨by decide, by decide, by decide⟩
  have controlFree : sampleRequest.HeadersControlFree := by
    unfold RequestFrame.HeadersControlFree
    decide
  obtain ⟨frame, encoded, _, decoded⟩ :=
    (request_codec_bijection sampleCaps).1 sampleRequest fits within controlFree
  refine ⟨⟨frame, encoded, decoded⟩, ?_⟩
  intro failed
  exact ((request_codec_bijection sampleCaps).2.2 sampleRequest).mp failed fits

end Oxo.Core.HopFrame
