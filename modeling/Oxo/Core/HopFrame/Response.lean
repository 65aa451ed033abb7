import Oxo.Core.HopFrame.Fields

/-!
Contract: the response frame codec is a two-way bijection on its image, for the
full response and the three streaming variants.

Owns: the envelope of a response frame, its wire-width conditions, the demands
of a decoder with given caps, and the equivalences between `encodeResponse`,
`decodeResponse` and these.

Does not own: which frames a worker sends in which order.
-/

namespace Oxo.Core.HopFrame

open Oxo.Foundation

namespace ResponseFrame

/-- The type byte that opens the envelope. -/
def typeByte : ResponseFrame → UInt8
  | .full .. => respFull
  | .head .. => respHead
  | .chunk .. => respChunk
  | .endOfStream => respEnd

/-- The envelope after its type byte. -/
def payload : ResponseFrame → List UInt8
  | .full status headers body => u16Image status ++ (headersImage headers ++ bytesImage body)
  | .head status headers => u16Image status ++ headersImage headers
  | .chunk data => bytesImage data
  | .endOfStream => []

def envelope (resp : ResponseFrame) : List UInt8 :=
  [resp.typeByte] ++ resp.payload

/-- The variant's own fields fit their length prefixes. -/
def FieldsFit : ResponseFrame → Prop
  | .full _ headers body => HeadersFit headers ∧ body.length < 2 ^ 32
  | .head _ headers => HeadersFit headers
  | .chunk data => data.length < 2 ^ 32
  | .endOfStream => True

/-- Every length fits its wire width, the envelope included. -/
def FitsWire (resp : ResponseFrame) : Prop :=
  resp.FieldsFit ∧ resp.envelope.length < 2 ^ 32

def headers : ResponseFrame → List (String × String)
  | .full _ headers _ => headers
  | .head _ headers => headers
  | .chunk _ => []
  | .endOfStream => []

/-- The body or chunk bytes a frame carries. -/
def bytes : ResponseFrame → List UInt8
  | .full _ _ body => body
  | .head _ _ => []
  | .chunk data => data
  | .endOfStream => []

/-- The status of a frame that has one. -/
def status? : ResponseFrame → Option UInt16
  | .full status _ _ => some status
  | .head status _ => some status
  | .chunk _ => none
  | .endOfStream => none

/-- Status range, header caps, body cap and header bytes, for the parts the
variant has. -/
structure WithinCaps (caps : FrameCaps) (resp : ResponseFrame) : Prop where
  status : ∀ status, resp.status? = some status → 100 ≤ status ∧ status ≤ 599
  headerCount : resp.headers.length ≤ caps.maxHeaders.toNat
  headerBytes : headerBytes resp.headers ≤ caps.maxHeaderBytes.toNat
  controlFree : ∀ header ∈ resp.headers, ControlFree header.1 ∧ ControlFree header.2
  bytes : resp.bytes.length ≤ caps.maxBodyBytes.toNat

/-- What `decodeResponse` demands of a frame under its caps. -/
def Accepted (caps : FrameCaps) (resp : ResponseFrame) : Prop :=
  resp.WithinCaps caps ∧ ∀ header ∈ resp.headers, HeaderFits header

end ResponseFrame

/-! ## Encoding -/

/-- The field encoders of a response, in wire order. -/
private def encodeResponseFields (resp : ResponseFrame) (out : List UInt8) :
    Except FrameError (List UInt8) :=
  match resp with
  | .full status headers body => do
      let out := out ++ [respFull]
      let out := out ++ toLeBytes 2 status.toNat
      let out ← encodeHeaders headers out
      encodeLongBytes body out
  | .head status headers => do
      let out := out ++ [respHead]
      let out := out ++ toLeBytes 2 status.toNat
      encodeHeaders headers out
  | .chunk data => do
      let out := out ++ [respChunk]
      encodeLongBytes data out
  | .endOfStream => .ok (out ++ [respEnd])

private theorem encodeResponse_eq_framed (resp : ResponseFrame) :
    encodeResponse resp = (encodeResponseFields resp startFrame >>= finishFrame) := by
  cases resp <;> simp only [encodeResponse, encodeResponseFields, bind_assoc]

private theorem encodeResponseFields_appends (resp : ResponseFrame) :
    Appends (encodeResponseFields resp) resp.envelope resp.FieldsFit
      FrameError.lengthOverflow := by
  cases resp with
  | full status headers body =>
      have appends := (Appends.always [respFull]).andThen <|
        (Appends.always (u16Image status)).andThen <|
        (encodeHeaders_appends headers).andThen (encodeLongBytes_appends body)
      simp only [true_and] at appends
      exact appends
  | head status headers =>
      have appends := (Appends.always [respHead]).andThen <|
        (Appends.always (u16Image status)).andThen (encodeHeaders_appends headers)
      simp only [true_and] at appends
      exact appends
  | chunk data =>
      have appends := (Appends.always [respChunk]).andThen (encodeLongBytes_appends data)
      simp only [true_and] at appends
      exact appends
  | endOfStream =>
      exact Appends.always [respEnd]

theorem encodeResponse_of_fits {resp : ResponseFrame} (fits : resp.FitsWire) :
    encodeResponse resp = .ok (prefixImage resp.envelope.length ++ resp.envelope) := by
  rw [encodeResponse_eq_framed]
  exact framed_of_fits (encodeResponseFields_appends resp) fits.1 fits.2

theorem encodeResponse_of_not_fits {resp : ResponseFrame} (fails : ¬ resp.FitsWire) :
    encodeResponse resp = .error .lengthOverflow := by
  rw [encodeResponse_eq_framed]
  exact framed_of_not_fits (encodeResponseFields_appends resp) fails

/-! ## Decoding -/

theorem validateStatus_eq_ok {raw status : UInt16} :
    validateStatus raw = .ok status ↔ (100 ≤ raw ∧ raw ≤ 599) ∧ raw = status := by
  unfold validateStatus
  split
  · rename_i inRange
    simp [inRange]
  · rename_i outOfRange
    simp [outOfRange]

private def statusOf (resp : ResponseFrame) : UInt16 := resp.status?.getD 0

/-- Status and headers, the opening of a full response and of a stream. -/
private theorem head_exact (caps : FrameCaps) {α : Type} {status : α → UInt16}
    {headers : α → List (String × String)}
    {next : UInt16 → List (String × String) → Decode α}
    {write : α → List UInt8} {Valid : UInt16 → List (String × String) → α → Prop}
    (nextExact : ∀ readStatus readHeaders,
      Exact ByteCursor.rest (next readStatus readHeaders) write (Valid readStatus readHeaders))
    (keepsStatus : ∀ {readStatus readHeaders value}, Valid readStatus readHeaders value →
      status value = readStatus)
    (keepsHeaders : ∀ {readStatus readHeaders value}, Valid readStatus readHeaders value →
      headers value = readHeaders) :
    Exact ByteCursor.rest
      (do
        let rawStatus ← readU16
        let readStatus ← StateT.lift (validateStatus rawStatus)
        let readHeaders ← decodeHeaders caps.maxHeaders caps.maxHeaderBytes
        next readStatus readHeaders)
      (fun value => u16Image (status value) ++ (headersImage (headers value) ++ write value))
      (fun value => (100 ≤ status value ∧ status value ≤ 599) ∧
        HeadersAccepted caps.maxHeaders caps.maxHeaderBytes (headers value) ∧
        Valid (status value) (headers value) value) := by
  have afterStatus readStatus :=
    (decodeHeaders_exact caps.maxHeaders caps.maxHeaderBytes).bind headers
      (nextExact readStatus) (fun _ _ _ valid => keepsHeaders valid)
  have afterRaw rawStatus :=
    (Exact.lift (validateStatus rawStatus)).bind status afterStatus
      (fun _ _ _ valid => keepsStatus valid.2)
  refine (readU16_exact.bind status afterRaw
    (fun _ _ _ valid => (validateStatus_eq_ok.mp valid.1).2.symm)).restate ?_ ?_
  · intro value
    rw [validateStatus_eq_ok]
    simp only [true_and, and_true]
  · intro value _
    rw [List.nil_append]

section Variants

variable (caps : FrameCaps)

private theorem accepted_full (status : UInt16) (headers : List (String × String))
    (body : List UInt8) :
    (ResponseFrame.full status headers body).Accepted caps ↔
      (100 ≤ status ∧ status ≤ 599) ∧
        HeadersAccepted caps.maxHeaders caps.maxHeaderBytes headers ∧
        body.length ≤ caps.maxBodyBytes.toNat := by
  constructor
  · intro accepted
    obtain ⟨within, fit⟩ := accepted
    exact ⟨within.status status rfl,
      ⟨fit, within.controlFree, within.headerCount, within.headerBytes⟩, within.bytes⟩
  · intro accepted
    obtain ⟨inRange, headersOk, bodyOk⟩ := accepted
    refine ⟨⟨?_, headersOk.count, headersOk.bytes, headersOk.controlFree, bodyOk⟩, headersOk.fit⟩
    intro other same
    cases same
    exact inRange

private theorem accepted_head (status : UInt16) (headers : List (String × String)) :
    (ResponseFrame.head status headers).Accepted caps ↔
      (100 ≤ status ∧ status ≤ 599) ∧
        HeadersAccepted caps.maxHeaders caps.maxHeaderBytes headers := by
  constructor
  · intro accepted
    obtain ⟨within, fit⟩ := accepted
    exact ⟨within.status status rfl,
      ⟨fit, within.controlFree, within.headerCount, within.headerBytes⟩⟩
  · intro accepted
    obtain ⟨inRange, headersOk⟩ := accepted
    refine ⟨⟨?_, headersOk.count, headersOk.bytes, headersOk.controlFree, Nat.zero_le _⟩,
      headersOk.fit⟩
    intro other same
    cases same
    exact inRange

private theorem accepted_chunk (data : List UInt8) :
    (ResponseFrame.chunk data).Accepted caps ↔ data.length ≤ caps.maxBodyBytes.toNat := by
  constructor
  · intro accepted
    exact accepted.1.bytes
  · intro dataOk
    refine ⟨⟨?_, Nat.zero_le _, Nat.zero_le _, ?_, dataOk⟩, ?_⟩
    · intro status same
      cases same
    · intro header member
      cases member
    · intro header member
      cases member

private theorem accepted_end : ResponseFrame.endOfStream.Accepted caps := by
  refine ⟨⟨?_, Nat.zero_le _, Nat.zero_le _, ?_, Nat.zero_le _⟩, ?_⟩
  · intro status same
    cases same
  · intro header member
    cases member
  · intro header member
    cases member

private theorem fullVariant_exact :
    Exact ByteCursor.rest
      (do
        let rawStatus ← readU16
        let status ← StateT.lift (validateStatus rawStatus)
        let headers ← decodeHeaders caps.maxHeaders caps.maxHeaderBytes
        let body ← readBody caps.maxBodyBytes
        return ResponseFrame.full status headers body)
      ResponseFrame.payload
      (fun resp => resp.typeByte = respFull ∧ resp.Accepted caps) := by
  have body status headers :=
    (readBody_exact caps.maxBodyBytes).bind ResponseFrame.bytes
      (fun body => Exact.pure (ResponseFrame.full status headers body))
      (fun _ _ _ built => congrArg ResponseFrame.bytes built)
  refine (head_exact caps body (fun built => congrArg statusOf built.2)
    (fun built => congrArg ResponseFrame.headers built.2)).restate ?_ ?_
  · intro resp
    constructor
    · intro accepted
      cases resp with
      | full status headers body =>
          obtain ⟨inRange, headersOk, bodyOk⟩ := (accepted_full caps _ _ _).mp accepted.2
          exact ⟨inRange, headersOk, bodyOk, rfl⟩
      | head | chunk | endOfStream =>
          simp [ResponseFrame.typeByte, respFull, respHead, respChunk, respEnd] at accepted
    · intro accepted
      obtain ⟨inRange, headersOk, bodyOk, built⟩ := accepted
      rw [built]
      exact ⟨rfl, (accepted_full caps _ _ _).mpr ⟨inRange, headersOk, bodyOk⟩⟩
  · intro resp accepted
    rw [accepted.2.2.2]
    simp [ResponseFrame.payload, statusOf, ResponseFrame.status?, ResponseFrame.headers,
      ResponseFrame.bytes]

private theorem headVariant_exact :
    Exact ByteCursor.rest
      (do
        let rawStatus ← readU16
        let status ← StateT.lift (validateStatus rawStatus)
        let headers ← decodeHeaders caps.maxHeaders caps.maxHeaderBytes
        return ResponseFrame.head status headers)
      ResponseFrame.payload
      (fun resp => resp.typeByte = respHead ∧ resp.Accepted caps) := by
  refine (head_exact caps (fun status headers => Exact.pure (ResponseFrame.head status headers))
    (fun built => congrArg statusOf built)
    (fun built => congrArg ResponseFrame.headers built)).restate ?_ ?_
  · intro resp
    constructor
    · intro accepted
      cases resp with
      | head status headers =>
          obtain ⟨inRange, headersOk⟩ := (accepted_head caps _ _).mp accepted.2
          exact ⟨inRange, headersOk, rfl⟩
      | full | chunk | endOfStream =>
          simp [ResponseFrame.typeByte, respFull, respHead, respChunk, respEnd] at accepted
    · intro accepted
      obtain ⟨inRange, headersOk, built⟩ := accepted
      rw [built]
      exact ⟨rfl, (accepted_head caps _ _).mpr ⟨inRange, headersOk⟩⟩
  · intro resp accepted
    rw [accepted.2.2]
    simp [ResponseFrame.payload, statusOf, ResponseFrame.status?, ResponseFrame.headers]

private theorem chunkVariant_exact :
    Exact ByteCursor.rest
      (do
        let data ← readBody caps.maxBodyBytes
        return ResponseFrame.chunk data)
      ResponseFrame.payload
      (fun resp => resp.typeByte = respChunk ∧ resp.Accepted caps) := by
  refine ((readBody_exact caps.maxBodyBytes).bind ResponseFrame.bytes
    (fun data => Exact.pure (ResponseFrame.chunk data))
    (fun _ _ _ built => congrArg ResponseFrame.bytes built)).restate ?_ ?_
  · intro resp
    constructor
    · intro accepted
      cases resp with
      | chunk data => exact ⟨(accepted_chunk caps _).mp accepted.2, rfl⟩
      | full | head | endOfStream =>
          simp [ResponseFrame.typeByte, respFull, respHead, respChunk, respEnd] at accepted
    · intro accepted
      obtain ⟨dataOk, built⟩ := accepted
      rw [built]
      exact ⟨rfl, (accepted_chunk caps _).mpr dataOk⟩
  · intro resp accepted
    rw [accepted.2]
    simp [ResponseFrame.payload, ResponseFrame.bytes]

private theorem endVariant_exact :
    Exact ByteCursor.rest (return ResponseFrame.endOfStream : Decode ResponseFrame)
      ResponseFrame.payload
      (fun resp => resp.typeByte = respEnd ∧ resp.Accepted caps) := by
  refine (Exact.pure ResponseFrame.endOfStream).restate ?_ ?_
  · intro resp
    constructor
    · intro accepted
      cases resp with
      | endOfStream => rfl
      | full | head | chunk =>
          simp [ResponseFrame.typeByte, respFull, respHead, respChunk, respEnd] at accepted
    · intro built
      rw [built]
      exact ⟨rfl, accepted_end caps⟩
  · intro resp built
    rw [built]
    rfl

end Variants

theorem responseSections_exact (caps : FrameCaps) :
    Exact ByteCursor.rest (responseSections caps) ResponseFrame.envelope
      (ResponseFrame.Accepted caps) := by
  have variants (ty : UInt8) : Exact ByteCursor.rest
      (if ty = respFull then do
        let rawStatus ← readU16
        let status ← StateT.lift (validateStatus rawStatus)
        let headers ← decodeHeaders caps.maxHeaders caps.maxHeaderBytes
        let body ← readBody caps.maxBodyBytes
        return ResponseFrame.full status headers body
      else if ty = respHead then do
        let rawStatus ← readU16
        let status ← StateT.lift (validateStatus rawStatus)
        let headers ← decodeHeaders caps.maxHeaders caps.maxHeaderBytes
        return ResponseFrame.head status headers
      else if ty = respChunk then do
        let data ← readBody caps.maxBodyBytes
        return ResponseFrame.chunk data
      else if ty = respEnd then
        return ResponseFrame.endOfStream
      else
        throw (FrameError.badResponseType ty))
      ResponseFrame.payload (fun resp => resp.typeByte = ty ∧ resp.Accepted caps) := by
    split
    · rename_i isFull
      rw [isFull]
      exact fullVariant_exact caps
    · split
      · rename_i isHead
        rw [isHead]
        exact headVariant_exact caps
      · split
        · rename_i isChunk
          rw [isChunk]
          exact chunkVariant_exact caps
        · split
          · rename_i isEnd
            rw [isEnd]
            exact endVariant_exact caps
          · rename_i notFull notHead notChunk notEnd
            refine (Exact.fail _ ResponseFrame.payload).restate ?_ ?_
            · intro resp
              simp only [iff_false, not_and]
              intro sameType
              cases resp <;> exact absurd sameType.symm (by assumption)
            · intro resp absurdity
              exact absurdity.elim
  refine (readU8_exact.bind ResponseFrame.typeByte variants
    (fun _ _ _ built => built.1)).restate ?_ ?_
  · intro resp
    simp
  · intro resp _
    rfl

/-- A response envelope decodes to a frame exactly when it is that frame's
envelope and the frame is within the decoder's demands. -/
theorem decodeResponse_eq_ok (envelope : List UInt8) (caps : FrameCaps) (resp : ResponseFrame) :
    decodeResponse envelope caps = .ok resp ↔ resp.Accepted caps ∧ envelope = resp.envelope :=
  decodeTiled_eq_ok (responseSections_exact caps) envelope resp

namespace ResponseFrame

theorem Accepted.of_fits {caps : FrameCaps} {resp : ResponseFrame} (fits : resp.FitsWire)
    (within : resp.WithinCaps caps) : resp.Accepted caps := by
  refine ⟨within, ?_⟩
  cases resp with
  | full => exact fits.1.1.2
  | head => exact fits.1.2
  | chunk | endOfStream =>
      intro header member
      cases member

/-- An accepted frame whose envelope fits `u32` encodes. -/
theorem Accepted.fitsWire {caps : FrameCaps} {resp : ResponseFrame}
    (accepted : resp.Accepted caps) (small : resp.envelope.length < 2 ^ 32) : resp.FitsWire := by
  obtain ⟨within, fit⟩ := accepted
  have count := lt_of_le_of_lt within.headerCount caps.maxHeaders.toNat_lt
  have bytes := lt_of_le_of_lt within.bytes caps.maxBodyBytes.toNat_lt
  refine ⟨?_, small⟩
  cases resp with
  | full => exact ⟨⟨count, fit⟩, bytes⟩
  | head => exact ⟨count, fit⟩
  | chunk => exact bytes
  | endOfStream => trivial

end ResponseFrame

/-! ## The two-way bijection -/

/-- The response codec is a two-way bijection on its image, under every caps:
a frame that fits encodes and decodes to itself; an accepted envelope is
reproduced by the encoder; and no two envelopes decode to one frame. -/
theorem response_codec_bijection (caps : FrameCaps) :
    (∀ resp : ResponseFrame, resp.FitsWire → resp.WithinCaps caps →
      ∃ frame, encodeResponse resp = .ok frame ∧
        decodeResponse (frame.drop framePrefixLen) caps = .ok resp) ∧
    (∀ (envelope : List UInt8) (resp : ResponseFrame), envelope.length < 2 ^ 32 →
      decodeResponse envelope caps = .ok resp →
      encodeResponse resp = .ok (prefixImage envelope.length ++ envelope)) ∧
    (∀ (left right : List UInt8) (resp : ResponseFrame),
      decodeResponse left caps = .ok resp → decodeResponse right caps = .ok resp →
      left = right) := by
  refine ⟨?_, ?_, ?_⟩
  · intro resp fits within
    refine ⟨_, encodeResponse_of_fits fits, ?_⟩
    rw [← prefixImage_length resp.envelope.length, List.drop_left, decodeResponse_eq_ok]
    exact ⟨.of_fits fits within, rfl⟩
  · intro envelope resp small decoded
    obtain ⟨accepted, rfl⟩ := (decodeResponse_eq_ok envelope caps resp).mp decoded
    exact encodeResponse_of_fits (accepted.fitsWire small)
  · intro left right resp decodedLeft decodedRight
    obtain ⟨_, leftEq⟩ := (decodeResponse_eq_ok left caps resp).mp decodedLeft
    obtain ⟨_, rightEq⟩ := (decodeResponse_eq_ok right caps resp).mp decodedRight
    rw [leftEq, rightEq]

def sampleResponseCaps : FrameCaps := ⟨65536, 100, 1048576⟩

/-- The codec laws at a full response and at a stream chunk. -/
theorem response_codec_bijection_samples :
    (∃ frame, encodeResponse (.full 200 [("content-type", "text/plain")] [0x6f, 0x6b]) =
        .ok frame ∧
      decodeResponse (frame.drop framePrefixLen) sampleResponseCaps =
        .ok (.full 200 [("content-type", "text/plain")] [0x6f, 0x6b])) ∧
    encodeResponse (.chunk [1, 2]) = .ok [0xbf, 1, 7, 0, 0, 0, 2, 2, 0, 0, 0, 1, 2] := by
  have laws := response_codec_bijection sampleResponseCaps
  refine ⟨?_, ?_⟩
  · apply laws.1
    · exact ⟨⟨by decide, by decide⟩, by decide⟩
    · refine ⟨?_, by decide, by decide, by decide, by decide⟩
      intro status same
      cases same
      decide
  · exact laws.2.1 [2, 2, 0, 0, 0, 1, 2] (.chunk [1, 2]) (by decide) (by rfl)

end Oxo.Core.HopFrame
