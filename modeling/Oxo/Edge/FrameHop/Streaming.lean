import Oxo.Core.HopFrame.Request
import Oxo.Edge.ClientRequest
import Oxo.Edge.FrameHop.Feed
import Oxo.Worker.Streaming

/-!
Contract: a streamed response over the frame hop
(`oxo-worker/src/native/frame.rs`, `oxo-pingora-edge/src/platform/frame_hop.rs`).

Owns: what the edge writes downstream when a worker's streamed response is read off its
connection, and for which response heads that is the response itself.

Does not own: drains, failing writes and refused admissions. What the HTTP library takes as a
status and as a header is a parameter, with what its documentation says as a hypothesis.
-/

namespace Oxo.Edge.FrameHop

open Oxo.Foundation Oxo.Core.HopFrame Oxo.Worker

/-! ## Frames on the wire -/

/-- A frame within the caps is within the length its prefix may declare. -/
theorem envelope_length_le {frame : ResponseFrame} (within : frame.WithinCaps responseFrameCaps) :
    frame.envelope.length ≤ responseFrameCaps.maxRemainingLength := by
  have count : frame.headers.length ≤ 100 := within.headerCount
  have bytes := within.headerBytes
  have body := within.bytes
  have slack : responseFrameCaps.maxRemainingLength = 4096 +
      responseFrameCaps.maxHeaderBytes.toNat + responseFrameCaps.maxBodyBytes.toNat := rfl
  rw [slack]
  cases frame with
  | full status headers data | head status headers | chunk data | endOfStream =>
      simp only [ResponseFrame.headers, ResponseFrame.bytes, List.length_nil] at count bytes body
      simp only [ResponseFrame.envelope, ResponseFrame.payload, u16Image, headersImage, bytesImage,
        List.length_append, List.length_cons, List.length_nil, toLeBytes_length,
        RequestFrame.headerPairsImage_length]
      omega

theorem maxRemainingLength_lt : responseFrameCaps.maxRemainingLength < 2 ^ 32 := by
  decide

/-- An acceptable frame at the front of the bytes is cut off whole. -/
theorem cutFrame_wireBytes {frame : ResponseFrame} (accepted : frame.Accepted responseFrameCaps)
    (firstOfExchange : Bool) (behind : List UInt8) :
    cutFrame firstOfExchange (frame.wireBytes ++ behind) = (.frame frame, behind) := by
  have fits := envelope_length_le accepted.1
  have small := lt_of_le_of_lt fits maxRemainingLength_lt
  have opened : framePrefixLen ≤ (frame.wireBytes ++ behind).length := by
    rw [List.length_append, ResponseFrame.wireBytes, framed_length]
    omega
  have nonempty : frame.wireBytes ++ behind ≠ [] := by
    intro empty
    rw [empty] at opened
    cases opened
  have split : frame.wireBytes ++ behind =
      prefixImage frame.envelope.length ++ (frame.envelope ++ behind) := by
    rw [ResponseFrame.wireBytes, framed, List.append_assoc]
  have behindPrefix : (frame.wireBytes ++ behind).drop framePrefixLen = frame.envelope ++ behind := by
    rw [split, List.drop_left' (prefixImage_length _)]
  have declared : (UInt32.ofNat frame.envelope.length).toNat = frame.envelope.length :=
    u32_toNat_ofNat small
  have decoded : decodeResponse frame.envelope responseFrameCaps = .ok frame :=
    (decodeResponse_eq_ok _ _ _).mpr ⟨accepted, rfl⟩
  have parsed : FramePrefix.parse (prefixBytes (frame.wireBytes ++ behind)) responseFrameCaps =
      .ok ⟨UInt32.ofNat frame.envelope.length⟩ := by
    rw [split, parse_prefixImage _ small, if_neg (by omega)]
  unfold cutFrame
  rw [if_neg nonempty, if_neg (Nat.not_lt.mpr opened), parsed]
  simp only [cutEnvelope, declared, behindPrefix, List.take_left, lt_irrefl, if_false, decoded]
  rw [← List.drop_drop, behindPrefix, List.drop_left]

/-! ## The writer -/

/-- The events of one streamed response. -/
def streamEvents (head : WorkerResponseHead) (chunks : List (List UInt8)) : List WorkerEvent :=
  .start head :: (chunks.map .chunk ++ [.finish])

/-- The chunks that are written: empty ones are skipped. -/
def written (chunks : List (List UInt8)) : List (List UInt8) :=
  chunks.filter fun chunk => !chunk.isEmpty

/-- The frames behind the head. -/
def bodyFrames (chunks : List (List UInt8)) : List ResponseFrame :=
  (written chunks).map .chunk ++ [.endOfStream]

/-- The frame the sanitized head becomes. -/
def headFrame (head : WorkerResponseHead) : ResponseFrame :=
  .head head.status (sanitizeResponseHeaders head.headers)

theorem writeFrame_of_fits {frame : ResponseFrame} (fits : frame.FitsWire) (before : List UInt8) :
    writeFrame frame before = .ok (before ++ frame.wireBytes) := by
  rw [writeFrame, encodeResponse_of_fits fits]
  rfl

theorem writeFrame_of_not_fits {frame : ResponseFrame} (fails : ¬ frame.FitsWire)
    (before : List UInt8) : writeFrame frame before = .error before := by
  rw [writeFrame, encodeResponse_of_not_fits fails]

/-- A chunk within the caps encodes and is accepted. -/
theorem chunk_accepted {chunk : List UInt8}
    (within : (ResponseFrame.chunk chunk).WithinCaps responseFrameCaps) :
    (ResponseFrame.chunk chunk).Accepted responseFrameCaps := by
  refine ⟨within, ?_⟩
  intro header member
  cases member

theorem end_accepted : ResponseFrame.endOfStream.Accepted responseFrameCaps := by
  refine ⟨⟨?_, Nat.zero_le _, Nat.zero_le _, ?_, Nat.zero_le _⟩, ?_⟩
  · intro status same
    cases same
  · intro header member
    cases member
  · intro header member
    cases member

theorem fitsWire_of_accepted {frame : ResponseFrame}
    (accepted : frame.Accepted responseFrameCaps) : frame.FitsWire :=
  accepted.fitsWire (lt_of_le_of_lt (envelope_length_le accepted.1) maxRemainingLength_lt)

theorem writeChunkFrames_eq {chunks : List (List UInt8)}
    (within : ∀ chunk ∈ chunks, (ResponseFrame.chunk chunk).WithinCaps responseFrameCaps)
    (before : List UInt8) :
    writeChunkFrames (chunks.map .chunk ++ [.finish]) before =
      .ok (before ++ wire ((written chunks).map .chunk)) := by
  induction chunks generalizing before with
  | nil => simp [writeChunkFrames, written]
  | cons chunk rest inductionHypothesis =>
      obtain ⟨chunkWithin, restWithin⟩ := List.forall_mem_cons.mp within
      have fits := fitsWire_of_accepted (chunk_accepted chunkWithin)
      rw [List.map_cons, List.cons_append, writeChunkFrames]
      by_cases empty : chunk.isEmpty = true
      · rw [if_pos empty, inductionHypothesis restWithin]
        simp [written, empty]
      · rw [if_neg empty, writeFrame_of_fits fits]
        rw [ok_bind, inductionHypothesis restWithin]
        simp [written, empty, wire]

/-- What the worker writes when the head encodes: the frames of the response. -/
theorem writeStreamingFrames_of_fits {head : WorkerResponseHead} {chunks : List (List UInt8)}
    (within : ∀ chunk ∈ chunks, (ResponseFrame.chunk chunk).WithinCaps responseFrameCaps)
    (fits : (headFrame head).FitsWire) :
    writeStreamingFrames (streamEvents head chunks) =
      .ok ((headFrame head).wireBytes ++ wire (bodyFrames chunks)) := by
  have endFits := fitsWire_of_accepted end_accepted
  simp only [writeStreamingFrames, streamEvents, headOf]
  rw [← headFrame, writeFrame_of_fits fits, ok_bind, writeChunkFrames_eq within, ok_bind,
    writeFrame_of_fits endFits, List.nil_append, List.append_assoc, bodyFrames, wire_concat]

/-- It writes nothing when the head does not. -/
theorem writeStreamingFrames_of_not_fits {head : WorkerResponseHead}
    {chunks : List (List UInt8)} (fails : ¬ (headFrame head).FitsWire) :
    writeStreamingFrames (streamEvents head chunks) = .error [] := by
  simp only [writeStreamingFrames, streamEvents, headOf]
  rw [← headFrame, writeFrame_of_not_fits fails]
  rfl

/-! ## The reader -/

section

variable (around : Surroundings) (stream : Nat)

private theorem run_writeOwedHeader (owed : Option ResponseHeader) :
    around.run (writeOwedHeader owed) =
      some (.ok (), { around with log := around.log ++ owed.toList.map (.header · false) }) := by
  cases owed with
  | none => simp [writeOwedHeader, Surroundings.run]
  | some header => rfl

/-- An acceptable frame next on the connection is what the streaming loop reads. -/
private theorem run_nextFrame {rbuf : FrameReadBuffer} {frame : ResponseFrame}
    {behind : List UInt8} (accepted : frame.Accepted responseFrameCaps)
    (arrives : rbuf.pending ++ around.feed.bytes = frame.wireBytes ++ behind) :
    ∃ rest feed, around.run (rbuf.readFrameOrDrain stream) =
        some (.ok (some (frame, rest)), { around with feed }) ∧
      rest.pending ++ feed.bytes = behind := by
  obtain ⟨result, feed, ran, delivers⟩ := run_readFrameOrDrain around stream rbuf
  rw [arrives, cutFrame_wireBytes accepted] at delivers
  obtain ⟨rest, rfl, same⟩ := delivers
  exact ⟨rest, feed, ran, same⟩

/-- The loop over the frames behind the head. -/
theorem run_streamLoop (status : UInt16) {chunks : List (List UInt8)}
    (nonempty : ∀ chunk ∈ chunks, chunk ≠ [])
    (within : ∀ chunk ∈ chunks, (ResponseFrame.chunk chunk).WithinCaps responseFrameCaps)
    {rounds : Nat} (enough : chunks.length < rounds) (rbuf : FrameReadBuffer)
    (owed : Option ResponseHeader) (streamed : Nat)
    (arrives : rbuf.pending ++ around.feed.bytes = wire (chunks.map .chunk ++ [.endOfStream]))
    (room : streamed + chunks.flatten.length ≤ maxResponseBytes)
    (counted : around.bytesStreamed = streamed)
    (allowed : streamed + chunks.flatten.length ≤ around.limit) :
    ∃ rest next, around.run (streamLoop stream status rounds rbuf owed streamed) =
        some (.ok (status, rest, true), next) ∧
      rest.pending = [] ∧ next.feed.bytes = [] ∧
      next.log = around.log ++ owed.toList.map (.header · false) ++
        (chunks.map fun chunk => .body (some chunk) false) ++ [.body none true] := by
  induction chunks generalizing rounds rbuf around owed streamed with
  | nil =>
      obtain ⟨rounds, rfl⟩ := Nat.exists_eq_succ_of_ne_zero (Nat.ne_of_gt enough)
      have last : rbuf.pending ++ around.feed.bytes = ResponseFrame.endOfStream.wireBytes ++ [] := by
        simpa [wire] using arrives
      obtain ⟨rest, feed, ran, same⟩ := run_nextFrame around stream end_accepted last
      obtain ⟨empty, none⟩ := List.append_eq_nil_iff.mp same
      have clean : rest.hasSurplus = false := by
        have length := rest.pending_length
        rw [empty] at length
        simp [FrameReadBuffer.hasSurplus, ← length]
      rw [streamLoop, Surroundings.run_drainBorrow]
      simp only [Bool.false_eq_true, if_false]
      rw [Surroundings.run_bindOk ran]
      simp only [clean, Bool.not_false]
      rw [Surroundings.run_bindOk (run_writeOwedHeader _ owed)]
      refine ⟨rest, _, rfl, empty, none, ?_⟩
      simp
  | cons chunk rest inductionHypothesis =>
      obtain ⟨rounds, rfl⟩ := Nat.exists_eq_succ_of_ne_zero (Nat.ne_of_gt (Nat.zero_lt_of_lt enough))
      obtain ⟨chunkNonempty, restNonempty⟩ := List.forall_mem_cons.mp nonempty
      obtain ⟨chunkWithin, restWithin⟩ := List.forall_mem_cons.mp within
      simp only [List.flatten_cons, List.length_append] at room allowed
      have next : rbuf.pending ++ around.feed.bytes = (ResponseFrame.chunk chunk).wireBytes ++
          wire (rest.map .chunk ++ [.endOfStream]) := by
        simpa [wire] using arrives
      obtain ⟨left, feed, ran, same⟩ :=
        run_nextFrame around stream (chunk_accepted chunkWithin) next
      have isEmpty : chunk.isEmpty = false := by
        rw [List.isEmpty_eq_false_iff]
        exact chunkNonempty
      have small : streamed + chunk.length < 2 ^ 64 - 1 := by
        unfold maxResponseBytes at room
        omega
      have saturated : min (streamed + chunk.length) (2 ^ 64 - 1) = streamed + chunk.length := by
        omega
      rw [streamLoop, Surroundings.run_drainBorrow]
      simp only [Bool.false_eq_true, if_false]
      rw [Surroundings.run_bindOk ran]
      simp only [isEmpty, Bool.false_eq_true, if_false, saturated]
      rw [if_neg (by omega), Surroundings.run_recordBytes]
      simp only [counted, saturated]
      rw [decide_eq_true (show streamed + chunk.length ≤ around.limit by omega), if_pos rfl,
        Surroundings.run_bindOk (run_writeOwedHeader _ owed)]
      have roomLeft : streamed + chunk.length + rest.flatten.length ≤ maxResponseBytes := by omega
      have stillAllowed : streamed + chunk.length + rest.flatten.length ≤ around.limit := by omega
      have later := inductionHypothesis
        { around with
          feed
          bytesStreamed := streamed + chunk.length
          log := around.log ++ owed.toList.map (.header · false) ++ [.body (some chunk) false] }
        restNonempty restWithin (Nat.lt_of_succ_lt_succ enough) left none
        (streamed + chunk.length) same roomLeft rfl stillAllowed
      obtain ⟨final, after, finished, empty, none, log⟩ := later
      refine ⟨final, after, ?_, empty, none, ?_⟩
      · exact finished
      · rw [log]
        simp

end

/-! ## The HTTP library -/

/-- A header name of the library: a token, of at most 65535 bytes. -/
def isHeaderName (name : String) : Bool :=
  isValidHeaderName (utf8 name) && decide (name.utf8ByteSize < 2 ^ 16)

/-- A header value of the library: no control byte but the tab. -/
def isHeaderValue (value : String) : Bool :=
  (utf8 value).all fun byte => byte == 9 || byte ≥ 0x20 && byte != 0x7f

/-- What the library's documentation says it takes. -/
structure LibraryAccepts (settings : HopSettings) : Prop where
  status : ∀ status, settings.acceptsStatus status = decide (100 ≤ status ∧ status ≤ 999)
  header : ∀ name value, settings.acceptsHeader name value =
    (isHeaderName name && isHeaderValue value)

theorem isFramingHeader_eq (name : String) : isFramingHeader name = isHostFraming name := by
  have length : toAsciiLowercase "content-length" = "content-length" := by decide
  have encoding : toAsciiLowercase "transfer-encoding" = "transfer-encoding" := by decide
  have connection : toAsciiLowercase "connection" = "connection" := by decide
  simp only [isFramingHeader, isHostFraming, eqIgnoreAsciiCase, length, encoding, connection,
    List.contains_cons, List.contains_nil, Bool.or_false, Bool.or_assoc]

theorem kept_of_sanitized {headers : List (String × String)} {header : String × String}
    (member : header ∈ sanitizeResponseHeaders headers) :
    isFramingHeader header.1 = false ∧ isHeaderValue header.2 = true := by
  have kept := (List.mem_filter.mp member).2
  simp only [Bool.and_eq_true, Bool.not_eq_true'] at kept
  obtain ⟨unframed, -, value⟩ := kept
  refine ⟨(isFramingHeader_eq _).trans unframed, ?_⟩
  apply List.all_eq_true.mpr
  intro byte inValue
  have valid := List.all_eq_true.mp value byte inValue
  rw [valid, Bool.or_true]

/-- The head of a streamed response, when the library takes every header. -/
theorem buildResponseChunkedHeader_eq {settings : HopSettings} (library : LibraryAccepts settings)
    {head : WorkerResponseHead} (within : (headFrame head).WithinCaps responseFrameCaps) :
    buildResponseChunkedHeader settings head.status (sanitizeResponseHeaders head.headers) =
      if ∀ header ∈ sanitizeResponseHeaders head.headers, isHeaderName header.1 = true then
        .ok ⟨head.status, sanitizeResponseHeaders head.headers ++ closeHeader settings⟩
      else .error 502 := by
  have range := within.status head.status rfl
  have status : settings.acceptsStatus head.status = true := by
    rw [library.status, decide_eq_true_eq]
    exact ⟨range.1, UInt16.le_trans range.2 (by decide)⟩
  have kept : (sanitizeResponseHeaders head.headers).filter
      (fun header => !isFramingHeader header.1) = sanitizeResponseHeaders head.headers := by
    apply List.filter_eq_self.mpr
    intro header member
    rw [(kept_of_sanitized member).1]
    rfl
  have accepts : ((sanitizeResponseHeaders head.headers).all fun header =>
      settings.acceptsHeader header.1 header.2) = true ↔
      ∀ header ∈ sanitizeResponseHeaders head.headers, isHeaderName header.1 = true := by
    rw [List.all_eq_true]
    apply forall_congr'
    intro header
    apply imp_congr_right
    intro member
    rw [library.header, (kept_of_sanitized member).2, Bool.and_true]
  unfold buildResponseChunkedHeader appendResponseHeaders
  simp only [kept, status, Bool.true_and, accepts]
  split <;> rfl

/-! ## The whole response -/

/-- Within the caps a head encodes when its names fit their length bytes. -/
theorem headFrame_fits_iff {head : WorkerResponseHead}
    (within : (headFrame head).WithinCaps responseFrameCaps) :
    (headFrame head).FitsWire ↔
      ∀ header ∈ sanitizeResponseHeaders head.headers, header.1.utf8ByteSize < 2 ^ 16 := by
  have small := lt_of_le_of_lt (envelope_length_le within) maxRemainingLength_lt
  have count : (sanitizeResponseHeaders head.headers).length ≤ 100 := within.headerCount
  have bytes : headerBytes (sanitizeResponseHeaders head.headers) ≤ 65536 := within.headerBytes
  constructor
  · intro fits header member
    exact (fits.1.2 header member).1
  · intro names
    refine ⟨⟨by omega, ?_⟩, small⟩
    intro header member
    have part : header.1.utf8ByteSize + header.2.utf8ByteSize ≤
        headerBytes (sanitizeResponseHeaders head.headers) :=
      List.le_sum_of_mem (List.mem_map_of_mem member)
    exact ⟨names header member, by omega⟩

/-- The sanitized head, each chunk in order and one end go downstream, and the connection is left
reusable with nothing in its buffer. -/
def StreamDelivered (settings : HopSettings) (head : WorkerResponseHead)
    (chunks : List (List UInt8)) (rounds : Nat) (conn : PooledConn) (request : List UInt8)
    (around : Surroundings) : Prop :=
  ∃ rest next, around.run (exchange settings rounds conn request) =
      some (.ok (head.status, rest, true), next) ∧
    rest.pending = [] ∧ next.feed.bytes = [] ∧
    next.log = around.log ++
      [.header ⟨head.status, sanitizeResponseHeaders head.headers ++ closeHeader settings⟩ false] ++
      ((written chunks).map fun chunk => .body (some chunk) false) ++ [.body none true] ∧
    bodyOf next.log = bodyOf around.log ++ chunks.flatten

section

variable (settings : HopSettings) {head : WorkerResponseHead} {chunks : List (List UInt8)}
  (rounds : Nat) {conn : PooledConn} (request : List UInt8) (around : Surroundings)

/-- A worker that wrote nothing delivers nothing. -/
theorem run_exchange_silent (silent : conn.rbuf.pending ++ around.feed.bytes = []) :
    ∃ next, around.run (exchange settings rounds conn request) =
      some (.error (.staleBeforeDispatch true), next) := by
  obtain ⟨result, feed, ran, delivers⟩ := run_readFrame around conn.stream true conn.rbuf
  rw [silent] at delivers
  cases delivers
  rw [exchange, Surroundings.run_writeAll]
  simp only
  rw [Surroundings.run_bindOk (Surroundings.run_adapt ran)]
  exact ⟨_, rfl⟩

/-- A head in front of the connection's bytes is responded to. -/
theorem run_exchange_head {behind : List UInt8}
    (accepted : (headFrame head).Accepted responseFrameCaps)
    (arrives : conn.rbuf.pending ++ around.feed.bytes = (headFrame head).wireBytes ++ behind) :
    ∃ rest feed, rest.pending ++ feed.bytes = behind ∧
      around.run (exchange settings rounds conn request) =
        { around with feed }.run (ExceptT.adapt ExchangeError.status
          (respond settings rounds conn.stream rest (headFrame head))) := by
  obtain ⟨result, feed, ran, delivers⟩ := run_readFrame around conn.stream true conn.rbuf
  rw [arrives, cutFrame_wireBytes accepted] at delivers
  obtain ⟨rest, rfl, same⟩ := delivers
  refine ⟨rest, feed, same, ?_⟩
  rw [exchange, Surroundings.run_writeAll]
  simp only
  rw [Surroundings.run_bindOk (Surroundings.run_adapt ran)]

/-- The bytes of the chunk writes. -/
theorem bodyOf_written (chunks : List (List UInt8)) :
    bodyOf ((written chunks).map fun chunk => .body (some chunk) false) = chunks.flatten := by
  induction chunks with
  | nil => rfl
  | cons chunk rest inductionHypothesis =>
      by_cases empty : chunk.isEmpty = true
      · have skipped : written (chunk :: rest) = written rest := by simp [written, empty]
        rw [skipped, inductionHypothesis, List.flatten_cons, List.isEmpty_iff.mp empty]
        rfl
      · have kept : written (chunk :: rest) = chunk :: written rest := by simp [written, empty]
        rw [kept, List.map_cons, bodyOf, inductionHypothesis]
        rfl

theorem flatten_written (chunks : List (List UInt8)) :
    (written chunks).flatten = chunks.flatten := by
  rw [written, List.flatten_filter_not_isEmpty]

variable {settings rounds}

/-- A head that the library takes, and the frames behind it. -/
private theorem run_respond_head {stream : Nat} {rbuf : FrameReadBuffer}
    (library : LibraryAccepts settings)
    (headWithin : (headFrame head).WithinCaps responseFrameCaps)
    (chunksWithin : ∀ chunk ∈ chunks, (ResponseFrame.chunk chunk).WithinCaps responseFrameCaps)
    (room : chunks.flatten.length ≤ maxResponseBytes)
    (names : ∀ header ∈ sanitizeResponseHeaders head.headers, isHeaderName header.1 = true)
    (enough : chunks.length < rounds)
    (arrives : rbuf.pending ++ around.feed.bytes = wire (bodyFrames chunks))
    (allowed : chunks.flatten.length ≤ around.limit) :
    ∃ rest next, around.run (respond settings rounds stream rbuf (headFrame head)) =
        some (.ok (head.status, rest, true), next) ∧
      rest.pending = [] ∧ next.feed.bytes = [] ∧
      next.log = around.log ++
        [.header ⟨head.status, sanitizeResponseHeaders head.headers ++ closeHeader settings⟩
          false] ++
        ((written chunks).map fun chunk => .body (some chunk) false) ++ [.body none true] := by
  have nonempty : ∀ chunk ∈ written chunks, chunk ≠ [] := by
    intro chunk member
    have kept := (List.mem_filter.mp member).2
    simpa using kept
  have within : ∀ chunk ∈ written chunks,
      (ResponseFrame.chunk chunk).WithinCaps responseFrameCaps :=
    fun chunk member => chunksWithin chunk (List.mem_filter.mp member).1
  have fewer : (written chunks).length < rounds :=
    lt_of_le_of_lt (List.length_filter_le ..) enough
  have built := buildResponseChunkedHeader_eq library headWithin
  rw [if_pos names] at built
  obtain ⟨rest, next, ran, empty, none, log⟩ :=
    run_streamLoop { around with bytesStreamed := 0 } stream head.status nonempty within fewer
      rbuf (some ⟨head.status, sanitizeResponseHeaders head.headers ++ closeHeader settings⟩) 0
      arrives (by rwa [flatten_written, Nat.zero_add]) rfl
      (by rwa [flatten_written, Nat.zero_add])
  refine ⟨rest, next, ?_, empty, none, log⟩
  have headed : around.run (settled (buildResponseChunkedHeader settings head.status
      (sanitizeResponseHeaders head.headers))) = some (.ok
        ⟨head.status, sanitizeResponseHeaders head.headers ++ closeHeader settings⟩, around) := by
    rw [built]
    rfl
  rw [headFrame, respond, Surroundings.run_bindOk headed, streamFramesDownstream,
    Surroundings.run_tryAdmit]
  exact ran

/-- A head with a name that the library does not take. -/
private theorem run_respond_refused {stream : Nat} {rbuf : FrameReadBuffer}
    (library : LibraryAccepts settings)
    (headWithin : (headFrame head).WithinCaps responseFrameCaps)
    (names : ¬ ∀ header ∈ sanitizeResponseHeaders head.headers, isHeaderName header.1 = true) :
    around.run (respond settings rounds stream rbuf (headFrame head)) =
      some (.error 502, around) := by
  have built := buildResponseChunkedHeader_eq library headWithin
  rw [if_neg names] at built
  rw [headFrame, respond]
  apply Surroundings.run_bindError
  rw [built]
  rfl

/-- Over the frame hop a streamed response arrives exactly as it was sent if and only if every
header that the worker's sanitizer keeps has a name that the HTTP library takes. -/
theorem streamed_frames_delivered_iff (library : LibraryAccepts settings)
    (headWithin : (headFrame head).WithinCaps responseFrameCaps)
    (chunksWithin : ∀ chunk ∈ chunks, (ResponseFrame.chunk chunk).WithinCaps responseFrameCaps)
    (room : chunks.flatten.length ≤ maxResponseBytes)
    (allowed : chunks.flatten.length ≤ around.limit)
    (clean : conn.rbuf.pending = [])
    (arrives : around.feed.bytes =
      (match writeStreamingFrames (streamEvents head chunks) with
      | .ok bytes | .error bytes => bytes))
    (enough : chunks.length < rounds) :
    StreamDelivered settings head chunks rounds conn request around ↔
      ∀ header ∈ sanitizeResponseHeaders head.headers, isHeaderName header.1 = true := by
  by_cases fits : (headFrame head).FitsWire
  · have accepted : (headFrame head).Accepted responseFrameCaps := .of_fits fits headWithin
    have wired : conn.rbuf.pending ++ around.feed.bytes =
        (headFrame head).wireBytes ++ wire (bodyFrames chunks) := by
      rw [clean, arrives, writeStreamingFrames_of_fits chunksWithin fits]
      rfl
    obtain ⟨rest, feed, same, ran⟩ :=
      run_exchange_head settings rounds request around accepted wired
    by_cases names : ∀ header ∈ sanitizeResponseHeaders head.headers, isHeaderName header.1 = true
    · refine iff_of_true ?_ names
      obtain ⟨final, next, responded, empty, none, log⟩ :=
        run_respond_head { around with feed } library headWithin chunksWithin room names enough same
          allowed
      refine ⟨final, next, ?_, empty, none, log, ?_⟩
      · rw [ran]
        exact Surroundings.run_adapt responded
      · rw [log]
        simp [bodyOf, bodyOf_written]
    · refine iff_of_false ?_ names
      rintro ⟨final, after, delivered, -⟩
      rw [ran, Surroundings.run_adapt (run_respond_refused _ library headWithin names)] at delivered
      cases delivered
  · have names : ¬ ∀ header ∈ sanitizeResponseHeaders head.headers,
        isHeaderName header.1 = true := by
      intro names
      apply fits
      rw [headFrame_fits_iff headWithin]
      intro header member
      have name := names header member
      simp only [isHeaderName, Bool.and_eq_true, decide_eq_true_eq] at name
      exact name.2
    have silent : conn.rbuf.pending ++ around.feed.bytes = [] := by
      rw [clean, arrives, writeStreamingFrames_of_not_fits fits]
      rfl
    obtain ⟨next, ran⟩ := run_exchange_silent settings rounds request around silent
    refine iff_of_false ?_ names
    rintro ⟨rest, after, delivered, -⟩
    rw [ran] at delivered
    cases delivered

end

/-! ## Two responses -/

/-- One worker behind a library that does what is documented. -/
def documentedLibrary : HopSettings where
  kind := .async
  mode := .rr
  cap := none
  workers := 1
  keepaliveEnabled := true
  acceptsStatus status := decide (100 ≤ status ∧ status ≤ 999)
  acceptsHeader name value := isHeaderName name && isHeaderValue value

/-- A connection that hands over the bytes of a response one at a time. -/
def byteByByte (head : WorkerResponseHead) (chunks : List (List UInt8)) : Surroundings where
  feed := ⟨(match writeStreamingFrames (streamEvents head chunks) with
    | .ok bytes | .error bytes => bytes).map fun byte => ⟨byte, []⟩, .eof⟩
  log := []
  limit := 100
  bytesStreamed := 0

def plainHead : WorkerResponseHead := ⟨200, [("x-a", "b"), ("connection", "close")]⟩

def parenthesizedHead : WorkerResponseHead := ⟨200, [("x(a)", "b")]⟩

/-- A head with one header that is kept is within the caps when its status is. -/
private theorem headFrame_within {head : WorkerResponseHead}
    (status : 100 ≤ head.status ∧ head.status ≤ 599)
    (count : (sanitizeResponseHeaders head.headers).length ≤ 100)
    (bytes : headerBytes (sanitizeResponseHeaders head.headers) ≤ 65536)
    (free : ∀ header ∈ sanitizeResponseHeaders head.headers,
      ControlFree header.1 ∧ ControlFree header.2) :
    (headFrame head).WithinCaps responseFrameCaps := by
  refine ⟨?_, count, bytes, free, Nat.zero_le _⟩
  intro code same
  cases same
  exact status

private theorem chunk_within {chunk : List UInt8} (small : chunk.length ≤ maxResponseBytes) :
    (ResponseFrame.chunk chunk).WithinCaps responseFrameCaps := by
  refine ⟨?_, Nat.zero_le _, Nat.zero_le _, ?_, small⟩
  · intro status same
    cases same
  · intro header member
    cases member

theorem streamed_frames_delivered_iff_plain :
    StreamDelivered documentedLibrary plainHead [[1, 2], [], [3]] 4 ⟨0, .new⟩ []
        (byteByByte plainHead [[1, 2], [], [3]]) ↔
      ∀ header ∈ sanitizeResponseHeaders plainHead.headers, isHeaderName header.1 = true := by
  have small : ∀ chunk ∈ ([[1, 2], [], [3]] : List (List UInt8)),
      chunk.length ≤ maxResponseBytes := by
    decide
  exact streamed_frames_delivered_iff [] _ ⟨fun _ => rfl, fun _ _ => rfl⟩
    (headFrame_within (by decide) (by decide +kernel) (by decide +kernel) (by decide +kernel))
    (fun chunk member => chunk_within (small chunk member))
    (by decide) (by decide) rfl (by decide +kernel) (by decide)

/-- A header that the sanitizer keeps and the library does not take costs the whole response. -/
theorem parenthesized_name_undelivered :
    sanitizeResponseHeaders parenthesizedHead.headers = parenthesizedHead.headers ∧
      (headFrame parenthesizedHead).WithinCaps responseFrameCaps ∧
      ¬ StreamDelivered documentedLibrary parenthesizedHead [[1]] 2 ⟨0, .new⟩ []
        (byteByByte parenthesizedHead [[1]]) := by
  refine ⟨by decide +kernel, headFrame_within (by decide) (by decide +kernel)
    (by decide +kernel) (by decide +kernel), ?_⟩
  rintro ⟨rest, next, delivered, -⟩
  have failed : ((byteByByte parenthesizedHead [[1]]).run
      (exchange documentedLibrary 2 ⟨0, .new⟩ [])).map
        (fun ended => (ended.1.isOk, ended.2.log.length)) = some (false, 0) := by
    decide +kernel
  rw [delivered] at failed
  cases failed

end Oxo.Edge.FrameHop
