import Oxo.Edge.FrameHop.Discipline

/-!
Contract: reading frames keeps the discipline.

Owns: the invariant of a connection being read (what came back is the frames taken so
far and the pending bytes), and that every reading function keeps it and takes exactly
the bytes of the frame it returns.

Does not own: what is done with the frames.
-/

namespace Oxo.Edge.FrameHop

open Oxo.Foundation Oxo.Core.HopFrame

/-! ## Buffers -/

namespace FrameReadBuffer

theorem pending_append (rbuf : FrameReadBuffer) (bytes : List UInt8) :
    (rbuf.append bytes).pending = rbuf.pending ++ bytes :=
  List.drop_append_of_le_length rbuf.bounded

theorem pending_compact (rbuf : FrameReadBuffer) : rbuf.compact.pending = rbuf.pending := by
  unfold compact
  split
  · rfl
  · split
    · rename_i _ empty
      rw [← pending_length] at empty
      exact (List.eq_nil_of_length_eq_zero empty).symm
    · exact List.drop_zero ..

theorem pending_of_hasSurplus {rbuf : FrameReadBuffer} (clean : rbuf.hasSurplus = false) :
    rbuf.pending = [] := by
  apply List.eq_nil_of_length_eq_zero
  rw [pending_length]
  simpa [hasSurplus] using clean

private theorem frameTotal_eq_ok {rbuf : FrameReadBuffer} {total : Nat}
    (enough : framePrefixLen ≤ rbuf.available) (declared : rbuf.frameTotal = .ok total) :
    ∃ length : UInt32, total = framePrefixLen + length.toNat ∧
      rbuf.pending.take framePrefixLen = prefixImage length.toNat := by
  unfold frameTotal at declared
  split at declared
  · rename_i parsed accepted
    refine ⟨parsed.remainingLength, (Except.ok.inj declared).symm, ?_⟩
    rw [← pending_length] at enough
    exact prefixImage_of_parse enough accepted
  · cases declared

private theorem decodeFront_eq_ok {rbuf rest : FrameReadBuffer} {total : Nat}
    {frame : ResponseFrame} {whole : total ≤ rbuf.available}
    (decoded : rbuf.decodeFront total whole = .ok (frame, rest)) :
    frame.Accepted responseFrameCaps ∧
      (rbuf.pending.drop framePrefixLen).take (total - framePrefixLen) = frame.envelope ∧
      rest.pending = rbuf.pending.drop total := by
  unfold decodeFront at decoded
  split at decoded
  · rename_i found accepted
    obtain ⟨within, envelope⟩ := (decodeResponse_eq_ok _ _ _).mp accepted
    obtain ⟨rfl, rfl⟩ := Prod.ext_iff.mp (Except.ok.inj decoded)
    refine ⟨within, ?_, ?_⟩
    · rw [pending, List.drop_drop]
      exact envelope
    · rw [pending, pending, List.drop_drop]
  · cases decoded

/-- The frame taken off the front is what its bytes say, when the prefix in front of
them declared its length. -/
theorem pending_of_decodeFront {early rbuf rest : FrameReadBuffer} {total : Nat}
    {frame : ResponseFrame} (enough : framePrefixLen ≤ early.available)
    (declared : early.frameTotal = .ok total) (grown : early.pending <+: rbuf.pending)
    {whole : total ≤ rbuf.available} (decoded : rbuf.decodeFront total whole = .ok (frame, rest)) :
    frame.FitsWire ∧ rbuf.pending = frame.wireBytes ++ rest.pending := by
  obtain ⟨length, totalEq, prefixEq⟩ := frameTotal_eq_ok enough declared
  obtain ⟨within, envelope, restEq⟩ := decodeFront_eq_ok decoded
  rw [← pending_length] at enough whole
  have envelopeLength : frame.envelope.length = length.toNat := by
    rw [← envelope, List.length_take, List.length_drop]
    omega
  have small : frame.envelope.length < 2 ^ 32 := by
    rw [envelopeLength]
    exact length.toNat_lt
  have grownPrefix : rbuf.pending.take framePrefixLen = prefixImage length.toNat := by
    obtain ⟨tail, same⟩ := grown
    rw [← same, List.take_append_of_le_length enough]
    exact prefixEq
  refine ⟨within.fitsWire small, ?_⟩
  calc rbuf.pending
      = rbuf.pending.take framePrefixLen ++ rbuf.pending.drop framePrefixLen :=
        (List.take_append_drop ..).symm
    _ = prefixImage length.toNat ++ (frame.envelope ++
          (rbuf.pending.drop framePrefixLen).drop (total - framePrefixLen)) := by
        rw [grownPrefix, ← envelope, List.take_append_drop]
    _ = frame.wireBytes ++ rest.pending := by
        rw [List.drop_drop, restEq, ResponseFrame.wireBytes, framed, envelopeLength,
          List.append_assoc, totalEq, Nat.add_sub_cancel_left]

/-- A buffered frame is decoded behind the prefix that declares it. -/
theorem frameTotal_of_buffered {rbuf : FrameReadBuffer}
    {total : { total : Nat // total ≤ rbuf.available }}
    (buffered : rbuf.bufferedFrameLen = .ok (some total)) :
    framePrefixLen ≤ rbuf.available ∧ rbuf.frameTotal = .ok total.val := by
  unfold bufferedFrameLen at buffered
  split at buffered
  · cases buffered
  · rename_i enough
    split at buffered
    · rename_i declared accepted
      have found := Except.ok.inj buffered
      split at found
      · rename_i whole
        cases found
        exact ⟨Nat.not_lt.mp enough, accepted⟩
      · cases found
    · cases buffered

end FrameReadBuffer

/-! ## The reading invariant -/

/-- The connection is in its exchange: what came back is the frames taken so far and the
pending bytes, and the log is this one. -/
structure Reading (stream : Nat) (log : List Downstream) (frames : List ResponseFrame)
    (rbuf : FrameReadBuffer) (monitor : Monitor) : Prop where
  phase : monitor.phase stream = some (.sent (wire frames ++ rbuf.pending))
  fits : ∀ frame ∈ frames, frame.FitsWire
  log : monitor.log = log

namespace Reading

variable {stream : Nat} {log : List Downstream} {frames : List ResponseFrame}
  {rbuf rest : FrameReadBuffer} {monitor : Monitor}

theorem samePending (reading : Reading stream log frames rbuf monitor)
    (same : rest.pending = rbuf.pending) : Reading stream log frames rest monitor :=
  ⟨by rw [same]; exact reading.phase, reading.fits, reading.log⟩

theorem afterData (reading : Reading stream log frames rbuf monitor) (first : UInt8)
    (bytes : List UInt8) :
    Reading stream log frames (rbuf.append (first :: bytes))
      (monitor.afterRead stream (.data first bytes)) := by
  unfold Monitor.afterRead
  simp only [reading.phase]
  refine ⟨?_, reading.fits, reading.log⟩
  simp [FrameReadBuffer.pending_append, Monitor.setPhase]

theorem takeFrame (reading : Reading stream log frames rbuf monitor) {frame : ResponseFrame}
    (frameFits : frame.FitsWire) (front : rbuf.pending = frame.wireBytes ++ rest.pending) :
    Reading stream log (frames ++ [frame]) rest monitor := by
  refine ⟨?_, ?_, reading.log⟩
  · rw [reading.phase, front, wire_concat, List.append_assoc]
  · intro other member
    rcases List.mem_append.mp member with earlier | last
    · exact reading.fits other earlier
    · rw [List.mem_singleton.mp last]
      exact frameFits

end Reading

section Reads

variable {settings : HopSettings} {request : List UInt8} {stream : Nat} {log : List Downstream}
  {frames : List ResponseFrame}

/-- The fill loop keeps the invariant. It reports a peer that went away only when it
has read nothing. -/
theorem fillLoop_meets (needed : Nat) (eofOkAtZero : Bool) (shortfall : Nat)
    (rbuf : FrameReadBuffer) (enough : needed ≤ rbuf.available + shortfall) {monitor : Monitor}
    (reading : Reading stream log frames rbuf monitor) :
    (discipline settings request).Meets
      (FrameReadBuffer.fillLoop stream needed eofOkAtZero shortfall rbuf enough).run monitor
      (Contract.onOk fun outcome after =>
        match outcome with
        | some filled => Reading stream log frames filled.val after ∧
            rbuf.pending <+: filled.val.pending
        | none => after = monitor ∧ rbuf.available = 0) := by
  induction shortfall generalizing rbuf monitor with
  | zero => exact ⟨reading, List.prefix_refl _⟩
  | succ shortfall inductionHypothesis =>
      unfold FrameReadBuffer.fillLoop
      split
      · exact ⟨reading, List.prefix_refl _⟩
      · apply Contract.Meets.callExcept
        · exact ⟨_, reading.phase⟩
        · intro answer
          cases answer with
          | data first bytes =>
              have enoughNext : needed ≤ (rbuf.append (first :: bytes)).available + shortfall := by
                rw [FrameReadBuffer.available_append, List.length_cons]
                omega
              apply (inductionHypothesis _ enoughNext (reading.afterData first bytes)).mono
              intro result after holds
              cases result with
              | error status => trivial
              | ok found =>
                  cases found with
                  | some filled =>
                      have grown : rbuf.pending <+: (rbuf.append (first :: bytes)).pending := by
                        rw [FrameReadBuffer.pending_append]
                        exact List.prefix_append _ _
                      exact ⟨holds.1, grown.trans holds.2⟩
                  | none =>
                      have available := holds.2
                      rw [FrameReadBuffer.available_append, List.length_cons] at available
                      omega
          | eof | reset =>
              dsimp only
              split
              · rename_i wentAway
                simp only [Bool.and_eq_true, beq_iff_eq] at wentAway
                exact ⟨rfl, wentAway.2⟩
              · trivial
          | failed => trivial

/-- The envelope behind a prefix, and the frame: exactly its bytes are taken. -/
theorem finishFrame_meets (rbuf : FrameReadBuffer) (enough : framePrefixLen ≤ rbuf.available)
    {monitor : Monitor} (reading : Reading stream log frames rbuf monitor) :
    (discipline settings request).Meets (rbuf.finishFrame stream).run monitor
      (Contract.onOk fun taken after =>
        Reading stream log (frames ++ [taken.1]) taken.2 after) := by
  unfold FrameReadBuffer.finishFrame
  cases declared : rbuf.frameTotal with
  | error status => trivial
  | ok total =>
      apply Contract.Meets.bindOk (fillLoop_meets total false _ rbuf _ reading)
      intro outcome after ends
      cases outcome with
      | none => trivial
      | some filled =>
          dsimp only
          cases decoded : filled.val.decodeFront total filled.property with
          | error status => trivial
          | ok taken =>
              obtain ⟨frameFits, front⟩ :=
                FrameReadBuffer.pending_of_decodeFront enough declared ends.2 decoded
              exact ends.1.takeFrame frameFits front

/-- Reading a frame: the frame joins those taken, or nothing has happened. -/
theorem readFrame_meets (rbuf : FrameReadBuffer) (firstOfExchange : Bool) {monitor : Monitor}
    (reading : Reading stream log frames rbuf monitor) :
    (discipline settings request).Meets (rbuf.readFrame stream firstOfExchange).run monitor
      (Contract.onOk fun outcome after =>
        match outcome with
        | some taken => Reading stream log (frames ++ [taken.1]) taken.2 after
        | none => after = monitor) := by
  unfold FrameReadBuffer.readFrame
  apply Contract.Meets.bindOk (fillLoop_meets framePrefixLen firstOfExchange _ rbuf.compact _
    (reading.samePending rbuf.pending_compact))
  intro outcome after ends
  cases outcome with
  | none => exact ends.1
  | some filled =>
      apply Contract.Meets.bindOk (finishFrame_meets filled.val filled.property ends.1)
      intro taken after taking
      exact taking

/-- The raced fill loop keeps the invariant. -/
theorem fillLoopOrDrain_meets (needed shortfall : Nat) (rbuf : FrameReadBuffer)
    (enough : needed ≤ rbuf.available + shortfall) {monitor : Monitor}
    (reading : Reading stream log frames rbuf monitor) :
    (discipline settings request).Meets
      (FrameReadBuffer.fillLoopOrDrain stream needed shortfall rbuf enough).run monitor
      (Contract.onOk fun outcome after =>
        match outcome with
        | some filled => Reading stream log frames filled.val after
        | none => ∃ pending, Reading stream log frames pending after) := by
  induction shortfall generalizing rbuf monitor with
  | zero => exact reading
  | succ shortfall inductionHypothesis =>
      unfold FrameReadBuffer.fillLoopOrDrain
      split
      · exact reading
      · apply Contract.Meets.callExcept
        · exact ⟨_, reading.phase⟩
        · intro answer
          cases answer with
          | none => exact ⟨rbuf, reading⟩
          | some answer =>
              cases answer with
              | data first bytes => exact inductionHypothesis _ _ (reading.afterData first bytes)
              | eof | reset | failed => trivial

/-- Reading a frame against the drain signal: the frame joins those taken, or the
signal won and what came back so far is still behind the frames taken. -/
theorem readFrameOrDrain_meets (rbuf : FrameReadBuffer) {monitor : Monitor}
    (reading : Reading stream log frames rbuf monitor) :
    (discipline settings request).Meets (rbuf.readFrameOrDrain stream).run monitor
      (Contract.onOk fun outcome after =>
        match outcome with
        | some taken => Reading stream log (frames ++ [taken.1]) taken.2 after
        | none => ∃ pending, Reading stream log frames pending after) := by
  have compacted := reading.samePending rbuf.pending_compact
  unfold FrameReadBuffer.readFrameOrDrain
  dsimp only
  cases buffered : rbuf.compact.bufferedFrameLen with
  | error status => trivial
  | ok outcome =>
      cases outcome with
      | some total =>
          obtain ⟨enough, declared⟩ := FrameReadBuffer.frameTotal_of_buffered buffered
          change (discipline settings request).Meets
            (settled (rbuf.compact.decodeFront total.val total.property) >>= _).run monitor _
          cases decoded : rbuf.compact.decodeFront total.val total.property with
          | error status => trivial
          | ok taken =>
              obtain ⟨frameFits, front⟩ := FrameReadBuffer.pending_of_decodeFront enough declared
                (List.prefix_refl _) decoded
              exact compacted.takeFrame frameFits front
      | none =>
          apply Contract.Meets.callExcept trivial
          intro drained
          cases drained with
          | true => exact ⟨_, compacted⟩
          | false =>
              apply Contract.Meets.bindOk
                (fillLoopOrDrain_meets framePrefixLen _ rbuf.compact _ compacted)
              intro outcome after ends
              cases outcome with
              | none => exact ends
              | some filled =>
                  apply Contract.Meets.bindOk (finishFrame_meets filled.val filled.property ends)
                  intro taken after taking
                  exact taking

end Reads

end Oxo.Edge.FrameHop
