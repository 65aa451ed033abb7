import Oxo.Edge.FrameHop.Streaming
import Oxo.Worker.AsyncResponse
import Oxo.Worker.DecoderParity

/-!
Contract: what the edge makes of the response frames of the async worker.

Owns: the responses that reach the edge unchanged, and the exact condition on the
application's status, header lines and body for that.

Does not own: the frames of the native worker, or the socket the frame crosses.
-/

namespace Oxo.Edge.FrameHop

open Oxo.Foundation Oxo.Core.HopFrame Oxo.Worker Oxo.Worker.AsyncWorker

def textBytes (header : String × String) : List UInt8 × List UInt8 :=
  (utf8 header.1, utf8 header.2)

/-- The edge reads the frame of the response as one full frame with the same status, the
sanitized headers and the body. -/
def AcceptedUnchanged (response : RackResponse) : Prop :=
  ∃ frame kept status headers,
    respondToRequest response = .ok frame ∧
    (flattenHeaderPairs response.headers >>= sanitizeResponseHeaders) = .ok kept ∧
    FramePrefix.parse (prefixBytes frame) responseFrameCaps =
      .ok ⟨UInt32.ofNat (frame.length - framePrefixLen)⟩ ∧
    decodeResponse (frame.drop framePrefixLen) responseFrameCaps =
      .ok (.full status headers response.body) ∧
    (status.toNat : Int) = response.status ∧ headers.map textBytes = kept.map AsyncWorker.lineBytes

/-- The lines the sanitizer lets through. -/
def keptLines (response : RackResponse) : List (RubyString × RubyString) :=
  (headerLines response.headers).filter keepsLine

/-- Status, line count, header bytes and body within what the edge takes. -/
structure WithinEdgeCaps (response : RackResponse) : Prop where
  status : 100 ≤ response.status ∧ response.status ≤ 599
  lineCount : (keptLines response).length ≤ 100
  lineBytes : ((keptLines response).map fun line => line.1.bytes.length + line.2.bytes.length).sum ≤
    maxResponseHeaderBytes
  body : response.body.length ≤ maxResponseBytes

/-- No string that the worker takes apart is broken, and every line it keeps is a name of
at most 65535 bytes with a value in UTF-8 without a tab. -/
structure EdgeReadable (response : RackResponse) : Prop where
  splits : ∀ header ∈ response.headers, header.2.Splits
  names : ∀ line ∈ headerLines response.headers, line.1.validEncoding = true
  nameLengths : ∀ line ∈ keptLines response, line.1.bytes.length < 2 ^ 16
  valueTexts : ∀ line ∈ keptLines response, (fromUtf8 line.2.bytes).isSome = true
  tabFree : ∀ line ∈ keptLines response, 0x09 ∉ line.2.bytes

/-! ## Lines and texts -/

/-- The name of a line that is kept is visible ASCII. -/
private theorem keptName_ascii {response : RackResponse} {line : RubyString × RubyString}
    (kept : line ∈ keptLines response) : ∀ byte ∈ line.1.bytes, 0x20 < byte ∧ byte < 0x7f := by
  have keeps := (List.mem_filter.mp kept).2
  simp only [keepsLine, Bool.and_eq_true] at keeps
  have valid := keeps.2.1
  unfold validName at valid
  intro byte member
  split at valid
  · have inRange : 0x21 ≤ byte ∧ byte ≤ 0x7e := by
      simpa using List.all_eq_true.mp (Bool.and_eq_true_iff.mp valid).2 byte member
    simp only [UInt8.le_iff_toNat_le, UInt8.lt_iff_toNat_lt] at inRange ⊢
    exact ⟨inRange.1, Nat.lt_succ_of_le inRange.2⟩
  · simpa using List.all_eq_true.mp (Bool.and_eq_true_iff.mp valid).2 byte member

/-- In a value that is kept, the tab is the only byte that the decoder rejects. -/
private theorem keptValue_controlFree {response : RackResponse}
    {line : RubyString × RubyString} (kept : line ∈ keptLines response) :
    line.2.bytes.any isControlByte = false ↔ 0x09 ∉ line.2.bytes := by
  have keeps := (List.mem_filter.mp kept).2
  simp only [keepsLine, Bool.and_eq_true] at keeps
  have valid := keeps.2.2
  have allowed : ∀ byte ∈ line.2.bytes, byte = 0x09 ∨ isControlByte byte = false := by
    have asControl : ∀ byte : UInt8,
        (byte == 0x09 || (0x20 ≤ byte && byte ≤ 0x7e)) = true ∨
          (byte == 0x09 || (byte != 0x7f && byte ≥ 0x20)) = true →
        byte = 0x09 ∨ isControlByte byte = false := by
      decide +kernel
    intro byte member
    have found := asControl byte
    unfold validValue at valid
    split at valid
    · exact found (Or.inl (List.all_eq_true.mp valid byte member))
    · exact found (Or.inr (List.all_eq_true.mp valid byte member))
  rw [List.any_eq_false]
  constructor
  · intro free tab
    exact free 0x09 tab (by decide)
  · intro tabFree byte member control
    rcases allowed byte member with isTab | notControl
    · rw [isTab] at member
      exact tabFree member
    · rw [notControl] at control
      cases control

/-- The frame's layout is the envelope of the full frame with the same texts. -/
private theorem responseLayout_eq (status : UInt16) {headers : List (String × String)}
    {kept : List (RubyString × RubyString)}
    (same : headers.map textBytes = kept.map AsyncWorker.lineBytes)
    (body : List UInt8) :
    responseLayout (status.toNat : Int) kept body =
      (ResponseFrame.full status headers body).envelope := by
  have count : kept.length = headers.length := by
    simpa using (congrArg List.length same).symm
  have pairs : headerPairsLayout (kept.map AsyncWorker.lineBytes) = headerPairsImage headers := by
    rw [← same]
    exact headerPairsLayout_view headers
  rw [responseLayout, pack_natCast, count, pairs]
  rfl

/-- What the decoder asks of the texts, asked of the lines. -/
private theorem textBytes_lineBytes {headers : List (String × String)}
    {kept : List (RubyString × RubyString)}
    (same : headers.map textBytes = kept.map AsyncWorker.lineBytes)
    (asks : List UInt8 × List UInt8 → Prop) :
    (∀ header ∈ headers, asks (textBytes header)) ↔
      ∀ line ∈ kept, asks (AsyncWorker.lineBytes line) := by
  rw [← List.forall_mem_map, same, List.forall_mem_map]

private theorem headerBytes_textBytes {headers : List (String × String)}
    {kept : List (RubyString × RubyString)}
    (same : headers.map textBytes = kept.map AsyncWorker.lineBytes) :
    headerBytes headers =
      (kept.map fun line => line.1.bytes.length + line.2.bytes.length).sum := by
  rw [← headerBytes_view]
  show ((headers.map textBytes).map _).sum = _
  rw [same, List.map_map]
  rfl

/-! ## Responses that reach the edge unchanged -/

private theorem sanitized_eq {headers : List (RubyString × HeaderValue)}
    {kept : List (RubyString × RubyString)}
    (built : (flattenHeaderPairs headers >>= sanitizeResponseHeaders) = .ok kept) :
    (headerLines headers).filter keepsLine = kept := by
  obtain ⟨pairs, flattened, sanitized⟩ := bind_eq_ok.mp built
  rw [(flattenHeaderPairs_eq_ok.mp flattened).2]
  exact (sanitizeResponseHeaders_eq_ok.mp sanitized).2

private theorem drop_encodeFullResponse (status : Int) (kept : List (RubyString × RubyString))
    (body : List UInt8) :
    (encodeFullResponse status kept body).drop framePrefixLen =
      responseLayout status kept body := by
  rw [encodeFullResponse_eq]
  exact List.drop_left' (by simp)

/-- A response whose frame the edge reads is within the caps and readable. -/
private theorem edgeReadable_of_accepted {response : RackResponse}
    (accepted : AcceptedUnchanged response) :
    WithinEdgeCaps response ∧ EdgeReadable response := by
  obtain ⟨frame, kept, status, headers, built, sanitized, _, decoded, sameStatus, same⟩ := accepted
  obtain ⟨splits, names, frameEq⟩ := respondToRequest_eq_ok.mp built
  have keptEq : keptLines response = kept := sanitized_eq sanitized
  obtain ⟨frameAccepted, _⟩ := (decodeResponse_eq_ok _ _ _).mp decoded
  obtain ⟨within, fit⟩ := frameAccepted
  have inRange := within.status status rfl
  simp only [UInt16.le_iff_toNat_le] at inRange
  have count : headers.length = kept.length := by
    simpa using congrArg List.length same
  have lengths := (textBytes_lineBytes same (fun pair => pair.1.length < 2 ^ 16)).mp
    fun header member => by
      rw [textBytes, utf8_length]
      exact (fit header member).1
  have texts := (textBytes_lineBytes same (fun pair => (fromUtf8 pair.2).isSome = true)).mp
    fun header _ => by
      rw [textBytes, fromUtf8_utf8]
      rfl
  have free := (textBytes_lineBytes same (fun pair => pair.2.any isControlByte = false)).mp
    fun header member => (within.controlFree header member).2
  rw [← keptEq] at lengths texts free
  constructor
  · refine ⟨?_, ?_, ?_, within.bytes⟩
    · rw [← sameStatus]
      exact ⟨Int.ofNat_le.mpr inRange.1, Int.ofNat_le.mpr inRange.2⟩
    · rw [keptEq, ← count]
      exact within.headerCount
    · rw [keptEq, ← headerBytes_textBytes same]
      exact within.headerBytes
  · refine ⟨splits, names, lengths, texts, ?_⟩
    intro line member
    exact (keptValue_controlFree member).mp (free line member)

/-- A response within the caps that is readable is read unchanged. -/
private theorem accepted_of_edgeReadable {response : RackResponse}
    (within : WithinEdgeCaps response) (readable : EdgeReadable response) :
    AcceptedUnchanged response := by
  have keptTexts : ∀ pair ∈ (keptLines response).map AsyncWorker.lineBytes,
      (fromUtf8 pair.1).isSome = true ∧ (fromUtf8 pair.2).isSome = true := by
    rw [List.forall_mem_map]
    intro line member
    refine ⟨fromUtf8_isSome_of_ascii ?_, readable.valueTexts line member⟩
    intro byte byteMember
    have bounds := (keptName_ascii member byte byteMember).2
    rw [UInt8.lt_iff_toNat_lt] at bounds ⊢
    exact Nat.lt_succ_of_lt bounds
  obtain ⟨headers, same⟩ := exists_textPairs keptTexts
  have same : headers.map textBytes = (keptLines response).map AsyncWorker.lineBytes := same.symm
  have count : headers.length = (keptLines response).length := by
    simpa using congrArg List.length same
  have bytes := headerBytes_textBytes same
  obtain ⟨status, sameStatus⟩ : ∃ status : UInt16, (status.toNat : Int) = response.status := by
    refine ⟨UInt16.ofNat response.status.toNat, ?_⟩
    have inRange := within.status
    rw [u16_toNat_ofNat (by omega)]
    omega
  have valueLengths : ∀ header ∈ headers, (textBytes header).2.length < 2 ^ 32 := by
    rw [textBytes_lineBytes same (fun pair => pair.2.length < 2 ^ 32)]
    intro line member
    have total : line.1.bytes.length + line.2.bytes.length ≤
        ((keptLines response).map fun line => line.1.bytes.length + line.2.bytes.length).sum :=
      List.single_le_sum (by simp) _ (List.mem_map_of_mem member)
    have cap := within.lineBytes
    simp only [maxResponseHeaderBytes] at cap
    show line.2.bytes.length < 2 ^ 32
    omega
  have accepted : (ResponseFrame.full status headers response.body).Accepted responseFrameCaps := by
    refine ⟨⟨?_, ?_, ?_, ?_, within.body⟩, ?_⟩
    · intro other sameOther
      cases sameOther
      have inRange := within.status
      rw [← sameStatus] at inRange
      exact ⟨UInt16.le_iff_toNat_le.mpr (Int.ofNat_le.mp inRange.1),
        UInt16.le_iff_toNat_le.mpr (Int.ofNat_le.mp inRange.2)⟩
    · rw [show ResponseFrame.headers _ = headers from rfl, count]
      exact within.lineCount
    · rw [show ResponseFrame.headers _ = headers from rfl, bytes]
      exact within.lineBytes
    · apply (textBytes_lineBytes same (fun pair =>
        pair.1.any isControlByte = false ∧ pair.2.any isControlByte = false)).mpr
      intro line member
      refine ⟨?_, (keptValue_controlFree member).mpr (readable.tabFree line member)⟩
      rw [List.any_eq_false]
      intro byte byteMember control
      have bounds := keptName_ascii member byte byteMember
      simp only [isControlByte, Bool.or_eq_true, decide_eq_true_eq, beq_iff_eq] at control
      rcases control with low | delete
      · exact absurd low (UInt8.not_lt.mpr (UInt8.le_of_lt bounds.1))
      · rw [delete] at bounds
        exact absurd bounds.2 (by decide)
    · intro header member
      have nameLength := (textBytes_lineBytes same (fun pair => pair.1.length < 2 ^ 16)).mpr readable.nameLengths header member
      have valueLength := valueLengths header member
      rw [textBytes, utf8_length] at nameLength valueLength
      exact ⟨nameLength, valueLength⟩
  have layout := responseLayout_eq status same response.body
  rw [sameStatus] at layout
  have fits := envelope_length_le accepted.1
  have small := lt_of_le_of_lt fits maxRemainingLength_lt
  refine ⟨encodeFullResponse response.status (keptLines response) response.body,
    keptLines response, status, headers, ?_, ?_, ?_, ?_, sameStatus, same⟩
  · exact respondToRequest_eq_ok.mpr ⟨readable.splits, readable.names, rfl⟩
  · exact bind_eq_ok.mpr ⟨_, flattenHeaderPairs_eq_ok.mpr ⟨readable.splits, rfl⟩,
      sanitizeResponseHeaders_eq_ok.mpr ⟨readable.names, rfl⟩⟩
  · have behind : (encodeFullResponse response.status (keptLines response) response.body).length -
        framePrefixLen = (ResponseFrame.full status headers response.body).envelope.length := by
      rw [← List.length_drop, drop_encodeFullResponse, layout]
    rw [behind, encodeFullResponse_eq, layout]
    exact (parse_prefixImage responseFrameCaps small _).trans (if_neg (Nat.not_lt.mpr fits))
  · rw [drop_encodeFullResponse, layout]
    exact (decodeResponse_eq_ok _ _ _).mpr ⟨accepted, rfl⟩

/-- A response within the edge's caps reaches the edge unchanged exactly when it is
readable. -/
theorem async_response_accepted_iff {response : RackResponse}
    (within : WithinEdgeCaps response) :
    AcceptedUnchanged response ↔ EdgeReadable response := by
  constructor
  · intro accepted
    exact (edgeReadable_of_accepted accepted).2
  · intro readable
    exact accepted_of_edgeReadable within readable

/-- One header with the given name and value. -/
def responseWith (name value : String) : RackResponse where
  status := 200
  headers := [(⟨utf8 name, .utf8⟩, .string ⟨utf8 value, .utf8⟩)]
  body := []

theorem async_response_accepted_iff_plain :
    AcceptedUnchanged (responseWith "x-a" "b c") ↔ EdgeReadable (responseWith "x-a" "b c") :=
  async_response_accepted_iff
    ⟨by decide, by decide +kernel, by decide +kernel, by decide +kernel⟩

/-- A tab in a header value passes the sanitizer, and the edge refuses the whole frame. -/
theorem async_response_tab_rejected :
    WithinEdgeCaps (responseWith "x-a" "b\tc") ∧
      (respondToRequest (responseWith "x-a" "b\tc") >>= fun frame =>
        .ok (decodeResponse (frame.drop framePrefixLen) responseFrameCaps)) =
          .ok (.error .controlByteInHeader) ∧
      ¬ AcceptedUnchanged (responseWith "x-a" "b\tc") := by
  refine ⟨⟨by decide, by decide +kernel, by decide +kernel, by decide +kernel⟩, ?_, ?_⟩
  · decide +kernel
  · intro accepted
    have tabFree := (edgeReadable_of_accepted accepted).2.tabFree
    exact tabFree _ (by decide +kernel : (⟨utf8 "x-a", .utf8⟩, ⟨utf8 "b\tc", .utf8⟩) ∈
      keptLines (responseWith "x-a" "b\tc")) (by decide +kernel)

end Oxo.Edge.FrameHop
