import Oxo.Edge.FrameHop.Reading

/-!
Contract: frames are the same however their bytes arrive
(`oxo-pingora-edge/src/platform/frame_hop.rs`, `FrameReadBuffer::read_frame`).

Owns: a connection that hands over given bytes in given reads and then ends, the frames of a
byte stream cut directly, and that reading frame after frame gives the same results.

Does not own: what is done with the frames. A connection is read without waiting for anything
else: no read fails before the stream ends, and no drain interrupts one.
-/

namespace Oxo.Edge.FrameHop

open Oxo.Foundation Oxo.Core.HopFrame

/-! ## Connections that are read to their end -/

/-- What one read hands over: at least one byte. -/
structure Segment where
  first : UInt8
  rest : List UInt8
deriving DecidableEq, Repr

def Segment.bytes (segment : Segment) : List UInt8 :=
  segment.first :: segment.rest

inductive Ending where
  | eof
  | reset
deriving DecidableEq, Repr

def Ending.answer : Ending → ReadAnswer
  | .eof => .eof
  | .reset => .reset

/-- What is still to come on a connection. -/
structure Feed where
  segments : List Segment
  ending : Ending
deriving DecidableEq, Repr

namespace Feed

def bytes (feed : Feed) : List UInt8 :=
  feed.segments.flatMap Segment.bytes

/-- One read. -/
def read (feed : Feed) : ReadAnswer × Feed :=
  match feed.segments with
  | [] => (feed.ending.answer, feed)
  | segment :: rest => (.data segment.first segment.rest, ⟨rest, feed.ending⟩)

end Feed

/-- The surroundings of one exchange that nothing disturbs: a connection that is read, a
downstream session that takes every write, and a long-lived admission with its byte limit. -/
structure Surroundings where
  feed : Feed
  log : List Downstream
  limit : Nat
  bytesStreamed : Nat

namespace Surroundings

/-- No drain, no failing write, admission granted. -/
def answer (around : Surroundings) : (op : HopOp) → Option (op.Answer × Surroundings)
  | .drainBorrow | .drainChanged => some (false, around)
  | .writeAll _ _ => some (.done, around)
  | .read _ => some (around.feed.read.1, { around with feed := around.feed.read.2 })
  | .readOrDrain _ => some (some around.feed.read.1, { around with feed := around.feed.read.2 })
  | .tryAdmit => some (true, { around with bytesStreamed := 0 })
  | .recordBytes count =>
      let bytesStreamed := min (around.bytesStreamed + count) (2 ^ 64 - 1)
      some (decide (bytesStreamed ≤ around.limit), { around with bytesStreamed })
  | .complete | .completeDrained => some ((), around)
  | .writeHeader header last =>
      some (true, { around with log := around.log ++ [.header header last] })
  | .writeBody body last => some (true, { around with log := around.log ++ [.body body last] })
  | _ => none

/-- What a program comes to. -/
def run {ε α : Type} (program : ExceptT ε Hop α) (around : Surroundings) :
    Option (Except ε α × Surroundings) :=
  Program.run answer program.run around

section

variable {ε α β : Type} {around next : Surroundings}

section

variable {program : ExceptT ε Hop α} {continuation : α → ExceptT ε Hop β}

theorem run_bindOk {value : α} (ran : around.run program = some (.ok value, next)) :
    around.run (program >>= continuation) = next.run (continuation value) :=
  Program.run_bindOk ran

theorem run_bindError {failure : ε} (ran : around.run program = some (.error failure, next)) :
    around.run (program >>= continuation) = some (.error failure, next) :=
  Program.run_bindError ran

/-- Failures under another name. -/
theorem run_adapt {φ : Type} {rename : ε → φ} {result : Except ε α}
    (ran : around.run program = some (result, next)) :
    around.run (ExceptT.adapt rename program) = some (result.mapError rename, next) :=
  Program.run_adapt ran

end

/-! One operation in front of the rest. -/

theorem run_drainBorrow (continuation : Bool → ExceptT ε Hop β) :
    around.run (do
      let answer ← Hop.drainBorrow
      continuation answer) = around.run (continuation false) :=
  Program.run_callExcept rfl

theorem run_drainChanged (continuation : Bool → ExceptT ε Hop β) :
    around.run (do
      let answer ← Hop.drainChanged
      continuation answer) = around.run (continuation false) :=
  Program.run_callExcept rfl

theorem run_writeAll (stream : Nat) (bytes : List UInt8)
    (continuation : WriteAnswer bytes.length → ExceptT ε Hop β) :
    around.run (do
      let answer ← Hop.writeAll stream bytes
      continuation answer) = around.run (continuation .done) :=
  Program.run_callExcept rfl

theorem run_read (stream : Nat) (continuation : ReadAnswer → ExceptT ε Hop β) :
    around.run (do
      let answer ← Hop.read stream
      continuation answer) =
      { around with feed := around.feed.read.2 }.run (continuation around.feed.read.1) :=
  Program.run_callExcept rfl

theorem run_readOrDrain (stream : Nat) (continuation : Option ReadAnswer → ExceptT ε Hop β) :
    around.run (do
      let answer ← Hop.readOrDrain stream
      continuation answer) =
      { around with feed := around.feed.read.2 }.run (continuation (some around.feed.read.1)) :=
  Program.run_callExcept rfl

theorem run_tryAdmit (continuation : Bool → ExceptT ε Hop β) :
    around.run (do
      let answer ← Hop.tryAdmit
      continuation answer) = { around with bytesStreamed := 0 }.run (continuation true) :=
  Program.run_callExcept rfl

theorem run_recordBytes (count : Nat) (continuation : Bool → ExceptT ε Hop β) :
    around.run (do
      let answer ← Hop.recordBytes count
      continuation answer) =
      let bytesStreamed := min (around.bytesStreamed + count) (2 ^ 64 - 1)
      { around with bytesStreamed }.run
        (continuation (decide (bytesStreamed ≤ around.limit))) :=
  Program.run_callExcept rfl

end

end Surroundings

/-! ## Cutting a byte stream -/

/-- How one call of `read_frame` ends. -/
inductive FrameResult where
  | frame (frame : ResponseFrame)
  | cleanEnd
  | failed (status : UInt16)
deriving DecidableEq

/-- The frame behind a prefix that declares `remaining` bytes. -/
def cutEnvelope (bytes : List UInt8) (remaining : Nat) : FrameResult × List UInt8 :=
  let envelope := (bytes.drop framePrefixLen).take remaining
  if envelope.length < remaining then (.failed 502, bytes)
  else match decodeResponse envelope responseFrameCaps with
    | .error _ => (.failed 502, bytes)
    | .ok frame => (.frame frame, bytes.drop (framePrefixLen + remaining))

/-- The frame at the front of a whole byte stream, and what is behind it. -/
def cutFrame (firstOfExchange : Bool) (bytes : List UInt8) : FrameResult × List UInt8 :=
  if bytes = [] then (if firstOfExchange then .cleanEnd else .failed 502, [])
  else if bytes.length < framePrefixLen then (.failed 502, bytes)
  else match FramePrefix.parse (prefixBytes bytes) responseFrameCaps with
    | .error _ => (.failed 502, bytes)
    | .ok parsed => cutEnvelope bytes parsed.remainingLength.toNat

/-- Frame after frame, one for each flag, up to the first result that is not a frame. -/
def cutFrames : List Bool → List UInt8 → List FrameResult
  | [], _ => []
  | firstOfExchange :: flags, bytes =>
      match cutFrame firstOfExchange bytes with
      | (.frame frame, rest) => .frame frame :: cutFrames flags rest
      | (result, _) => [result]

/-! ## Filling the buffer -/

section

variable (around : Surroundings) (stream : Nat) {needed : Nat}

private theorem bytes_cons (segment : Segment) (rest : List Segment) (ending : Ending) :
    Feed.bytes ⟨segment :: rest, ending⟩ = segment.bytes ++ Feed.bytes ⟨rest, ending⟩ :=
  rfl

/-- Enough bytes are to come: the buffer fills, and no byte is lost or made up. -/
theorem run_fillLoop_enough (eofOkAtZero : Bool) (shortfall : Nat) (rbuf : FrameReadBuffer)
    (covers : needed ≤ rbuf.available + shortfall)
    (enough : needed ≤ (rbuf.pending ++ around.feed.bytes).length) :
    ∃ (filled : FrameReadBuffer.Filled needed) (feed : Feed),
      around.run (FrameReadBuffer.fillLoop stream needed eofOkAtZero shortfall rbuf covers) =
        some (.ok (some filled), { around with feed }) ∧
      filled.val.pending ++ feed.bytes = rbuf.pending ++ around.feed.bytes := by
  induction shortfall generalizing rbuf around with
  | zero => exact ⟨⟨rbuf, covers⟩, around.feed, rfl, rfl⟩
  | succ shortfall inductionHypothesis =>
      rw [FrameReadBuffer.fillLoop]
      by_cases filled : needed ≤ rbuf.available
      · rw [dif_pos filled]
        exact ⟨⟨rbuf, filled⟩, around.feed, rfl, rfl⟩
      · rw [dif_neg filled, Surroundings.run_read]
        obtain ⟨⟨segments, ending⟩, log, limit, bytesStreamed⟩ := around
        cases segments with
        | nil =>
            simp only [Feed.bytes, List.flatMap_nil, List.append_nil,
              FrameReadBuffer.pending_length] at enough
            exact absurd enough filled
        | cons segment rest =>
            simp only [bytes_cons] at enough ⊢
            have later := inductionHypothesis ⟨⟨rest, ending⟩, log, limit, bytesStreamed⟩
              (rbuf.append segment.bytes) (by
                rw [FrameReadBuffer.available_append]
                simp only [Segment.bytes, List.length_cons]
                omega)
              (by rwa [FrameReadBuffer.pending_append, List.append_assoc])
            rw [FrameReadBuffer.pending_append, List.append_assoc] at later
            exact later

/-- The stream ends first: nothing at all on a first frame is the clean end, the rest is 502. -/
theorem run_fillLoop_short (eofOkAtZero : Bool) (shortfall : Nat) (rbuf : FrameReadBuffer)
    (covers : needed ≤ rbuf.available + shortfall)
    (short : (rbuf.pending ++ around.feed.bytes).length < needed) :
    ∃ feed : Feed,
      around.run (FrameReadBuffer.fillLoop stream needed eofOkAtZero shortfall rbuf covers) =
        some (if eofOkAtZero = true ∧ rbuf.pending ++ around.feed.bytes = [] then .ok none
          else .error 502, { around with feed }) := by
  induction shortfall generalizing rbuf around with
  | zero =>
      rw [List.length_append, FrameReadBuffer.pending_length] at short
      omega
  | succ shortfall inductionHypothesis =>
      have unfilled : ¬ needed ≤ rbuf.available := by
        rw [List.length_append, FrameReadBuffer.pending_length] at short
        omega
      rw [FrameReadBuffer.fillLoop, dif_neg unfilled, Surroundings.run_read]
      obtain ⟨⟨segments, ending⟩, log, limit, bytesStreamed⟩ := around
      cases segments with
      | nil =>
          have empty : rbuf.pending = [] ↔ rbuf.available = 0 := by
            rw [← FrameReadBuffer.pending_length, List.length_eq_zero_iff]
          refine ⟨⟨[], ending⟩, ?_⟩
          simp only [Feed.bytes, List.flatMap_nil, List.append_nil, empty]
          cases ending <;> cases eofOkAtZero <;>
            by_cases none : rbuf.available = 0 <;>
            simp [Feed.read, Ending.answer, none] <;> rfl
      | cons segment rest =>
          simp only [bytes_cons] at short ⊢
          have later := inductionHypothesis ⟨⟨rest, ending⟩, log, limit, bytesStreamed⟩
            (rbuf.append segment.bytes) (by
              rw [FrameReadBuffer.available_append]
              simp only [Segment.bytes, List.length_cons]
              omega)
            (by rwa [FrameReadBuffer.pending_append, List.append_assoc])
          rw [FrameReadBuffer.pending_append, List.append_assoc] at later
          exact later

theorem run_fillTo_enough (eofOkAtZero : Bool) (rbuf : FrameReadBuffer)
    (enough : needed ≤ (rbuf.pending ++ around.feed.bytes).length) :
    ∃ (filled : FrameReadBuffer.Filled needed) (feed : Feed),
      around.run (rbuf.fillTo stream needed eofOkAtZero) =
        some (.ok (some filled), { around with feed }) ∧
      filled.val.pending ++ feed.bytes = rbuf.pending ++ around.feed.bytes :=
  run_fillLoop_enough around stream eofOkAtZero _ rbuf (by omega) enough

theorem run_fillTo_short (eofOkAtZero : Bool) (rbuf : FrameReadBuffer)
    (short : (rbuf.pending ++ around.feed.bytes).length < needed) :
    ∃ feed : Feed, around.run (rbuf.fillTo stream needed eofOkAtZero) =
      some (if eofOkAtZero = true ∧ rbuf.pending ++ around.feed.bytes = [] then .ok none
        else .error 502, { around with feed }) :=
  run_fillLoop_short around stream eofOkAtZero _ rbuf (by omega) short

/-! ## One frame -/

theorem prefixBytes_append {left : List UInt8} (enough : framePrefixLen ≤ left.length)
    (right : List UInt8) : prefixBytes (left ++ right) = prefixBytes left := by
  funext index
  have inside : (index : Nat) < left.length := lt_of_lt_of_le index.isLt enough
  simp only [prefixBytes, List.getD_eq_getElem?_getD]
  rw [List.getElem?_append_left inside]

/-- What a call of `read_frame` comes to when the stream was cut like this. -/
def Delivers (result : Except UInt16 (Option (ResponseFrame × FrameReadBuffer))) (feed : Feed) :
    FrameResult × List UInt8 → Prop
  | (.frame frame, behind) =>
      ∃ rest, result = .ok (some (frame, rest)) ∧ rest.pending ++ feed.bytes = behind
  | (.cleanEnd, _) => result = .ok none
  | (.failed status, _) => result = .error status

theorem decodeFront_run (rbuf : FrameReadBuffer) (total : Nat)
    (whole : total ≤ rbuf.available) :
    match decodeResponse ((rbuf.pending.drop framePrefixLen).take (total - framePrefixLen))
      responseFrameCaps with
    | .ok frame => ∃ rest, rbuf.decodeFront total whole = .ok (frame, rest) ∧
        rest.pending = rbuf.pending.drop total
    | .error _ => rbuf.decodeFront total whole = .error 502 := by
  unfold FrameReadBuffer.decodeFront FrameReadBuffer.pending
  rw [List.drop_drop]
  cases decodeResponse ((rbuf.buf.drop (rbuf.pos + framePrefixLen)).take (total - framePrefixLen))
    responseFrameCaps with
  | ok frame => exact ⟨_, rfl, by rw [List.drop_drop]⟩
  | error _ => rfl

/-- The rest of a frame whose length is known, and the frame. -/
private theorem run_envelope (rbuf : FrameReadBuffer) (remaining : Nat)
    (opened : framePrefixLen ≤ (rbuf.pending ++ around.feed.bytes).length)
    (total : rbuf.frameTotal = .ok (framePrefixLen + remaining)) :
    ∃ (result : Except UInt16 (ResponseFrame × FrameReadBuffer)) (feed : Feed),
      around.run (rbuf.finishFrame stream) = some (result, { around with feed }) ∧
      Delivers (result.map some) feed
        (cutEnvelope (rbuf.pending ++ around.feed.bytes) remaining) := by
  have declared : around.run (settled rbuf.frameTotal) =
      some (.ok (framePrefixLen + remaining), around) := by
    rw [total]
    rfl
  rw [FrameReadBuffer.finishFrame, Surroundings.run_bindOk declared]
  unfold cutEnvelope
  by_cases enough : framePrefixLen + remaining ≤ (rbuf.pending ++ around.feed.bytes).length
  · obtain ⟨filled, feed, ran, same⟩ := run_fillTo_enough around stream false rbuf enough
    have held : framePrefixLen + remaining ≤ filled.val.pending.length := by
      rw [FrameReadBuffer.pending_length]
      exact filled.property
    have envelopeEq : ((rbuf.pending ++ around.feed.bytes).drop framePrefixLen).take remaining =
        (filled.val.pending.drop framePrefixLen).take remaining := by
      rw [← same, List.drop_append_of_le_length (by omega), List.take_append_of_le_length]
      rw [List.length_drop]
      omega
    have envelopeLength : ((filled.val.pending.drop framePrefixLen).take remaining).length =
        remaining := by
      rw [List.length_take, List.length_drop]
      omega
    have decoded := decodeFront_run filled.val _ filled.property
    rw [Nat.add_sub_cancel_left] at decoded
    rw [Surroundings.run_bindOk ran]
    simp only [envelopeEq, envelopeLength, lt_irrefl, if_false]
    cases isFrame : decodeResponse ((filled.val.pending.drop framePrefixLen).take remaining)
        responseFrameCaps with
    | error failure =>
        rw [isFrame] at decoded
        refine ⟨.error 502, feed, ?_, rfl⟩
        simp only [decoded]
        rfl
    | ok frame =>
        rw [isFrame] at decoded
        obtain ⟨rest, taken, behind⟩ := decoded
        refine ⟨.ok (frame, rest), feed, ?_, rest, rfl, ?_⟩
        · simp only [taken]
          rfl
        · rw [behind, ← same, List.drop_append_of_le_length held]
  · obtain ⟨feed, ran⟩ := run_fillTo_short around stream false rbuf (Nat.lt_of_not_le enough)
    have short : (((rbuf.pending ++ around.feed.bytes).drop framePrefixLen).take
        remaining).length < remaining := by
      rw [List.length_take, List.length_drop]
      omega
    simp only [short, if_true]
    exact ⟨.error 502, feed, Surroundings.run_bindError ran, rfl⟩

/-- The envelope behind a buffered prefix, and the frame. -/
theorem run_finishFrame (rbuf : FrameReadBuffer) (buffered : framePrefixLen ≤ rbuf.available) :
    ∃ (result : Except UInt16 (ResponseFrame × FrameReadBuffer)) (feed : Feed),
      around.run (rbuf.finishFrame stream) = some (result, { around with feed }) ∧
      Delivers (result.map some) feed (cutFrame false (rbuf.pending ++ around.feed.bytes)) := by
  have length : framePrefixLen ≤ rbuf.pending.length := by
    rwa [FrameReadBuffer.pending_length]
  have nonempty : rbuf.pending ++ around.feed.bytes ≠ [] := by
    intro empty
    rw [(List.append_eq_nil_iff.mp empty).1] at length
    cases length
  have whole : ¬ (rbuf.pending ++ around.feed.bytes).length < framePrefixLen := by
    rw [List.length_append]
    omega
  unfold cutFrame
  rw [if_neg nonempty, if_neg whole, prefixBytes_append length]
  cases parse : FramePrefix.parse (prefixBytes rbuf.pending) responseFrameCaps with
  | error failure =>
      have total : rbuf.frameTotal = .error 502 := by
        simp [FrameReadBuffer.frameTotal, FrameReadBuffer.prefixBytes, parse]
      refine ⟨.error 502, around.feed, Surroundings.run_bindError ?_, rfl⟩
      rw [total]
      rfl
  | ok parsed =>
      have total : rbuf.frameTotal = .ok (framePrefixLen + parsed.remainingLength.toNat) := by
        simp [FrameReadBuffer.frameTotal, FrameReadBuffer.prefixBytes, parse]
      exact run_envelope around stream rbuf parsed.remainingLength.toNat (Nat.le_of_not_lt whole)
        total

/-- What `finishFrame` delivers, as a frame or none. -/
private theorem run_finishFrame_some (rbuf : FrameReadBuffer)
    (buffered : framePrefixLen ≤ rbuf.available) :
    ∃ (result : Except UInt16 (Option (ResponseFrame × FrameReadBuffer))) (feed : Feed),
      around.run (do
        let frame ← rbuf.finishFrame stream
        pure (some frame)) = some (result, { around with feed }) ∧
      Delivers result feed (cutFrame false (rbuf.pending ++ around.feed.bytes)) := by
  obtain ⟨result, feed, finished, delivers⟩ := run_finishFrame around stream rbuf buffered
  refine ⟨result.map some, feed, ?_, delivers⟩
  cases result with
  | ok taken => exact (Surroundings.run_bindOk finished).trans rfl
  | error status => exact (Surroundings.run_bindError finished).trans rfl

private theorem cutFrame_of_nonempty {bytes : List UInt8} (nonempty : bytes ≠ [])
    (firstOfExchange : Bool) : cutFrame firstOfExchange bytes = cutFrame false bytes := by
  unfold cutFrame
  rw [if_neg nonempty, if_neg nonempty]

/-- A call of `read_frame` gives what cutting the bytes directly gives, and leaves what the cut
leaves. -/
theorem run_readFrame (firstOfExchange : Bool) (rbuf : FrameReadBuffer) :
    ∃ (result : Except UInt16 (Option (ResponseFrame × FrameReadBuffer))) (feed : Feed),
      around.run (rbuf.readFrame stream firstOfExchange) = some (result, { around with feed }) ∧
      Delivers result feed (cutFrame firstOfExchange (rbuf.pending ++ around.feed.bytes)) := by
  have compacted : rbuf.compact.pending ++ around.feed.bytes =
      rbuf.pending ++ around.feed.bytes := by
    rw [FrameReadBuffer.pending_compact]
  rw [FrameReadBuffer.readFrame, ← compacted]
  by_cases enough : framePrefixLen ≤ (rbuf.compact.pending ++ around.feed.bytes).length
  · obtain ⟨filled, feed, ran, same⟩ :=
      run_fillTo_enough around stream firstOfExchange rbuf.compact enough
    have nonempty : rbuf.compact.pending ++ around.feed.bytes ≠ [] := by
      intro empty
      rw [empty] at enough
      cases enough
    rw [cutFrame_of_nonempty nonempty, ← same, Surroundings.run_bindOk ran]
    exact run_finishFrame_some { around with feed } stream filled.val filled.property
  · have short := Nat.lt_of_not_le enough
    obtain ⟨feed, ran⟩ := run_fillTo_short around stream firstOfExchange rbuf.compact short
    unfold cutFrame
    by_cases empty : rbuf.compact.pending ++ around.feed.bytes = []
    · rw [if_pos empty]
      cases firstOfExchange with
      | true =>
          rw [if_pos ⟨rfl, empty⟩] at ran
          exact ⟨.ok none, feed, (Surroundings.run_bindOk ran).trans rfl, rfl⟩
      | false =>
          rw [if_neg (by simp)] at ran
          exact ⟨.error 502, feed, Surroundings.run_bindError ran, rfl⟩
    · rw [if_neg (fun both => empty both.2)] at ran
      rw [if_neg empty, if_pos short]
      exact ⟨.error 502, feed, Surroundings.run_bindError ran, rfl⟩

/-- Where nothing drains, the race is a plain read. -/
theorem run_fillLoopOrDrain (shortfall : Nat) (rbuf : FrameReadBuffer)
    (covers : needed ≤ rbuf.available + shortfall) :
    around.run (FrameReadBuffer.fillLoopOrDrain stream needed shortfall rbuf covers) =
      around.run (FrameReadBuffer.fillLoop stream needed false shortfall rbuf covers) := by
  induction shortfall generalizing rbuf around with
  | zero => rfl
  | succ shortfall inductionHypothesis =>
      rw [FrameReadBuffer.fillLoopOrDrain, FrameReadBuffer.fillLoop]
      split
      · rfl
      · rw [Surroundings.run_readOrDrain, Surroundings.run_read]
        cases around.feed.read.1 with
        | data first rest => exact inductionHypothesis ..
        | eof | reset | failed => rfl

private theorem run_fillTo_filled (eofOkAtZero : Bool) (rbuf : FrameReadBuffer)
    (filled : needed ≤ rbuf.available) :
    around.run (rbuf.fillTo stream needed eofOkAtZero) =
      some (.ok (some ⟨rbuf, filled⟩), around) := by
  unfold FrameReadBuffer.fillTo
  have covers : ∀ shortfall (covers : needed ≤ rbuf.available + shortfall),
      around.run (FrameReadBuffer.fillLoop stream needed eofOkAtZero shortfall rbuf covers) =
        some (.ok (some ⟨rbuf, filled⟩), around) := by
    intro shortfall covers
    cases shortfall with
    | zero => rfl
    | succ shortfall =>
        rw [FrameReadBuffer.fillLoop, dif_pos filled]
        rfl
  exact covers _ _

/-- A whole buffered frame is taken without a read. -/
private theorem run_finishFrame_whole (rbuf : FrameReadBuffer) {total : Nat}
    (declared : rbuf.frameTotal = .ok total) (whole : total ≤ rbuf.available) :
    around.run (rbuf.finishFrame stream) = some (rbuf.decodeFront total whole, around) := by
  have started : around.run (settled rbuf.frameTotal) = some (.ok total, around) := by
    rw [declared]
    rfl
  rw [FrameReadBuffer.finishFrame, Surroundings.run_bindOk started,
    Surroundings.run_bindOk (run_fillTo_filled around stream false rbuf whole)]
  rfl

/-- Behind a buffered prefix the frame is finished, from the buffer alone when it is whole. -/
private theorem run_buffered (rbuf : FrameReadBuffer)
    (buffered : framePrefixLen ≤ rbuf.available) :
    around.run (do
      match ← settled rbuf.bufferedFrameLen with
      | some total => do
          let frame ← settled (rbuf.decodeFront total.val total.property)
          pure (some frame)
      | none => do
          if ← Hop.drainChanged then pure none
          else do
            match ← FrameReadBuffer.fillLoopOrDrain stream framePrefixLen
                (framePrefixLen - rbuf.available) rbuf (rbuf.shortfall_enough framePrefixLen) with
            | none => pure none
            | some filled => do
                let frame ← filled.val.finishFrame stream
                pure (some frame)) =
      around.run (do
        let frame ← rbuf.finishFrame stream
        pure (some frame)) := by
  have opened : ¬ rbuf.available < framePrefixLen := Nat.not_lt.mpr buffered
  cases declared : rbuf.frameTotal with
  | error status =>
      have refused : around.run (settled rbuf.bufferedFrameLen) = some (.error status, around) := by
        simp only [FrameReadBuffer.bufferedFrameLen, opened, if_false, declared]
        rfl
      have ended : around.run (rbuf.finishFrame stream) = some (.error status, around) := by
        apply Surroundings.run_bindError
        rw [declared]
        rfl
      rw [Surroundings.run_bindError refused, Surroundings.run_bindError ended]
  | ok total =>
      by_cases whole : total ≤ rbuf.available
      · have ready : around.run (settled rbuf.bufferedFrameLen) =
            some (.ok (some ⟨total, whole⟩), around) := by
          simp only [FrameReadBuffer.bufferedFrameLen, opened, if_false, declared, ge_iff_le, whole,
            dite_true]
          rfl
        have decoded := run_finishFrame_whole around stream rbuf declared whole
        rw [Surroundings.run_bindOk ready]
        cases isFrame : rbuf.decodeFront total whole with
        | ok taken =>
            rw [isFrame] at decoded
            rw [Surroundings.run_bindOk decoded]
            simp only [isFrame]
            rfl
        | error status =>
            rw [isFrame] at decoded
            rw [Surroundings.run_bindError decoded]
            simp only [isFrame]
            rfl
      · have unbuffered : around.run (settled rbuf.bufferedFrameLen) = some (.ok none, around) := by
          simp only [FrameReadBuffer.bufferedFrameLen, opened, if_false, declared, ge_iff_le, whole,
            dite_false]
          rfl
        have filled := run_fillTo_filled around stream false rbuf buffered
        rw [FrameReadBuffer.fillTo, ← run_fillLoopOrDrain] at filled
        rw [Surroundings.run_bindOk unbuffered]
        simp only
        rw [Surroundings.run_drainChanged]
        simp only [Bool.false_eq_true, if_false]
        rw [Surroundings.run_bindOk filled]

/-- Where nothing drains, `read_frame_or_drain` gives what cutting the bytes directly gives. -/
theorem run_readFrameOrDrain (rbuf : FrameReadBuffer) :
    ∃ (result : Except UInt16 (Option (ResponseFrame × FrameReadBuffer))) (feed : Feed),
      around.run (rbuf.readFrameOrDrain stream) = some (result, { around with feed }) ∧
      Delivers result feed (cutFrame false (rbuf.pending ++ around.feed.bytes)) := by
  have compacted : rbuf.compact.pending ++ around.feed.bytes =
      rbuf.pending ++ around.feed.bytes := by
    rw [FrameReadBuffer.pending_compact]
  have length := rbuf.compact.pending_length
  rw [← compacted]
  unfold FrameReadBuffer.readFrameOrDrain
  simp only
  by_cases opened : rbuf.compact.available < framePrefixLen
  · have unbuffered : around.run (settled rbuf.compact.bufferedFrameLen) =
        some (.ok none, around) := by
      simp only [FrameReadBuffer.bufferedFrameLen, opened, if_true]
      rfl
    rw [Surroundings.run_bindOk unbuffered]
    simp only
    rw [Surroundings.run_drainChanged]
    simp only [Bool.false_eq_true, if_false]
    by_cases enough : framePrefixLen ≤ (rbuf.compact.pending ++ around.feed.bytes).length
    · obtain ⟨filled, feed, ran, same⟩ := run_fillLoop_enough around stream false
        (framePrefixLen - rbuf.compact.available) rbuf.compact (by omega) enough
      rw [← run_fillLoopOrDrain] at ran
      rw [← same, Surroundings.run_bindOk ran]
      exact run_finishFrame_some { around with feed } stream filled.val filled.property
    · have short := Nat.lt_of_not_le enough
      obtain ⟨feed, ran⟩ := run_fillLoop_short around stream false
        (framePrefixLen - rbuf.compact.available) rbuf.compact (by omega) short
      rw [← run_fillLoopOrDrain, if_neg (by simp)] at ran
      refine ⟨.error 502, feed, Surroundings.run_bindError ran, ?_⟩
      unfold cutFrame
      by_cases empty : rbuf.compact.pending ++ around.feed.bytes = []
      · rw [if_pos empty]
        rfl
      · rw [if_neg empty, if_pos short]
        rfl
  · have buffered := Nat.le_of_not_lt opened
    obtain ⟨result, feed, finished, delivers⟩ :=
      run_finishFrame_some around stream rbuf.compact buffered
    refine ⟨result, feed, ?_, delivers⟩
    rw [← finished]
    exact run_buffered around stream rbuf.compact buffered

end

/-! ## Frame after frame -/

/-- Repeated calls of `read_frame`, one for each flag, up to the first that is not a frame. -/
def readFrames (stream : Nat) : List Bool → FrameReadBuffer → Surroundings → List FrameResult
  | [], _, _ => []
  | firstOfExchange :: flags, rbuf, around =>
      match around.run (rbuf.readFrame stream firstOfExchange) with
      | some (.ok (some (frame, rbuf)), around) => .frame frame :: readFrames stream flags rbuf around
      | some (.ok none, _) => [.cleanEnd]
      | some (.error status, _) => [.failed status]
      | none => []

theorem readFrames_eq_cutFrames (stream : Nat) (flags : List Bool) (rbuf : FrameReadBuffer)
    (around : Surroundings) :
    readFrames stream flags rbuf around = cutFrames flags (rbuf.pending ++ around.feed.bytes) := by
  induction flags generalizing rbuf around with
  | nil => rfl
  | cons firstOfExchange flags inductionHypothesis =>
      obtain ⟨result, feed, ran, delivers⟩ := run_readFrame around stream firstOfExchange rbuf
      rw [readFrames, cutFrames, ran]
      generalize cutFrame firstOfExchange (rbuf.pending ++ around.feed.bytes) = cut at delivers ⊢
      obtain ⟨cut, behind⟩ := cut
      cases cut with
      | frame frame =>
          obtain ⟨rest, rfl, same⟩ := delivers
          simp only [inductionHypothesis, same]
      | cleanEnd =>
          cases delivers
          rfl
      | failed status =>
          cases delivers
          rfl

/-- The stream ends inside its next frame. -/
def CutShort (bytes : List UInt8) : Prop :=
  bytes ≠ [] ∧ (bytes.length < framePrefixLen ∨
    ∃ parsed, FramePrefix.parse (prefixBytes bytes) responseFrameCaps = .ok parsed ∧
      bytes.length < framePrefixLen + parsed.remainingLength.toNat)

theorem cutFrame_of_cutShort {bytes : List UInt8} (short : CutShort bytes)
    (firstOfExchange : Bool) : (cutFrame firstOfExchange bytes).1 = .failed 502 := by
  obtain ⟨nonempty, ends⟩ := short
  unfold cutFrame
  rw [if_neg nonempty]
  split
  · rfl
  · rename_i opened
    rcases ends with early | ⟨parsed, accepted, early⟩
    · exact absurd early opened
    · rw [accepted]
      have envelope : ((bytes.drop framePrefixLen).take parsed.remainingLength.toNat).length <
          parsed.remainingLength.toNat := by
        rw [List.length_take, List.length_drop]
        omega
      simp only [cutEnvelope, envelope, if_true]

private theorem cutEnvelope_ne_cleanEnd (bytes : List UInt8) (remaining : Nat) :
    (cutEnvelope bytes remaining).1 ≠ .cleanEnd := by
  unfold cutEnvelope
  simp only
  split
  · simp
  · split <;> simp

theorem cutFrame_eq_cleanEnd (firstOfExchange : Bool) (bytes : List UInt8) :
    (cutFrame firstOfExchange bytes).1 = .cleanEnd ↔ firstOfExchange = true ∧ bytes = [] := by
  unfold cutFrame
  by_cases empty : bytes = []
  · cases firstOfExchange <;> simp [empty]
  · rw [if_neg empty]
    split
    · simp [empty]
    · split
      · simp [empty]
      · simp [empty, cutEnvelope_ne_cleanEnd]

/-- A frame cut off the front is its own bytes, and the rest is what follows them. -/
theorem cutFrame_eq_frame {firstOfExchange : Bool} {bytes behind : List UInt8}
    {frame : ResponseFrame} (cut : cutFrame firstOfExchange bytes = (.frame frame, behind)) :
    bytes = frame.wireBytes ++ behind := by
  unfold cutFrame at cut
  split at cut
  · cases firstOfExchange <;> simp at cut
  · split at cut
    · cases cut
    · rename_i opened
      split at cut
      · cases cut
      · rename_i parsed accepted
        have prefixEq := prefixImage_of_parse (Nat.le_of_not_lt opened) accepted
        unfold cutEnvelope at cut
        simp only at cut
        split at cut
        · cases cut
        · rename_i whole
          split at cut
          · cases cut
          · rename_i found decoded
            simp only [Prod.mk.injEq, FrameResult.frame.injEq] at cut
            obtain ⟨rfl, rfl⟩ := cut
            have envelope := ((decodeResponse_eq_ok _ _ _).mp decoded).2
            have declared : found.envelope.length = parsed.remainingLength.toNat := by
              rw [← envelope]
              refine Nat.le_antisymm ?_ (Nat.le_of_not_lt whole)
              exact List.length_take_le ..
            calc bytes
                = bytes.take framePrefixLen ++ bytes.drop framePrefixLen :=
                  (List.take_append_drop ..).symm
              _ = prefixImage parsed.remainingLength.toNat ++ (found.envelope ++
                    (bytes.drop framePrefixLen).drop parsed.remainingLength.toNat) := by
                  rw [prefixEq, ← envelope, List.take_append_drop]
              _ = found.wireBytes ++ bytes.drop (framePrefixLen + parsed.remainingLength.toNat) := by
                  rw [List.drop_drop, ResponseFrame.wireBytes, framed, declared,
                    List.append_assoc]

/-- However the bytes arrive, frame after frame comes out as the whole stream is cut directly. The
clean end is reported exactly on a call for a first frame with no byte left, a frame cut short is
an error, and each frame takes exactly its own bytes. -/
theorem frames_independent_of_arrival (stream : Nat) (flags : List Bool) (rbuf : FrameReadBuffer)
    (around : Surroundings) :
    readFrames stream flags rbuf around = cutFrames flags (rbuf.pending ++ around.feed.bytes) ∧
      ∀ firstOfExchange,
        ((∃ next, around.run (rbuf.readFrame stream firstOfExchange) = some (.ok none, next)) ↔
          firstOfExchange = true ∧ rbuf.pending ++ around.feed.bytes = []) ∧
        (CutShort (rbuf.pending ++ around.feed.bytes) →
          ∃ next, around.run (rbuf.readFrame stream firstOfExchange) =
            some (.error 502, next)) ∧
        ∀ frame rest next,
          around.run (rbuf.readFrame stream firstOfExchange) =
            some (.ok (some (frame, rest)), next) →
          rbuf.pending ++ around.feed.bytes =
            frame.wireBytes ++ (rest.pending ++ next.feed.bytes) := by
  refine ⟨readFrames_eq_cutFrames stream flags rbuf around, fun firstOfExchange => ?_⟩
  obtain ⟨result, feed, ran, delivers⟩ := run_readFrame around stream firstOfExchange rbuf
  have clean := cutFrame_eq_cleanEnd firstOfExchange (rbuf.pending ++ around.feed.bytes)
  rw [ran]
  refine ⟨?_, ?_, ?_⟩
  · rw [← clean]
    generalize cutFrame firstOfExchange (rbuf.pending ++ around.feed.bytes) = cut at delivers ⊢
    obtain ⟨cut, behind⟩ := cut
    cases cut with
    | frame frame =>
        obtain ⟨rest, rfl, -⟩ := delivers
        simp
    | cleanEnd =>
        cases delivers
        simp
    | failed status =>
        cases delivers
        simp
  · intro short
    have failed := cutFrame_of_cutShort short firstOfExchange
    generalize cutFrame firstOfExchange (rbuf.pending ++ around.feed.bytes) = cut at delivers failed
    obtain ⟨cut, behind⟩ := cut
    cases failed
    cases delivers
    exact ⟨_, rfl⟩
  · intro frame rest next isFrame
    simp only [Option.some.injEq, Prod.mk.injEq] at isFrame
    obtain ⟨rfl, rfl⟩ := isFrame
    cases isCut : cutFrame firstOfExchange (rbuf.pending ++ around.feed.bytes) with
    | mk cut behind =>
        rw [isCut] at delivers
        cases cut with
        | frame found =>
            obtain ⟨left, same, whole⟩ := delivers
            cases same
            rw [cutFrame_eq_frame isCut, ← whole]
        | cleanEnd => cases delivers
        | failed status => cases delivers

/-- On a call that is not for a first frame, a stream that ends with no byte is an error. -/
theorem end_between_frames_refused :
    ((⟨⟨[], .eof⟩, [], 0, 0⟩ : Surroundings).run (FrameReadBuffer.new.readFrame 0 false)).map
      Prod.fst = some (.error 502) := by
  rfl

end Oxo.Edge.FrameHop
