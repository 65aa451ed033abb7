import Oxo.Edge.FrameHop.Reading

/-!
Contract: the whole request path keeps the discipline.

Owns: the invariant of a response being relayed, and one lemma for each function from
the downstream writes up to `sendWorkerFrameToPool`.

Does not own: what the discipline means for a trace or for a system of many calls.
-/

namespace Oxo.Edge.FrameHop

open Oxo.Foundation Oxo.Core.HopFrame

/-! ## Relaying -/

/-- A response is being relayed: its frames so far were read, their head is written or
owed, and their bytes are written up to `unsent`. -/
structure Relaying (settings : HopSettings) (stream : Nat) (header : ResponseHeader)
    (frames : List ResponseFrame) (rbuf : FrameReadBuffer) (owed : Option ResponseHeader)
    (unsent : List UInt8) (monitor : Monitor) : Prop where
  reading : Reading stream monitor.log frames rbuf monitor
  built : responseHead settings frames = .ok header
  heads : headsOf monitor.log ++ owed.toList = [header]
  body : bodyOf monitor.log ++ unsent = frames.flatMap ResponseFrame.bytes

section Relay

variable {settings : HopSettings} {request : List UInt8} {stream : Nat} {header : ResponseHeader}
  {frames : List ResponseFrame} {rbuf : FrameReadBuffer} {unsent : List UInt8} {monitor : Monitor}

/-- The start of a response: its first frame is read and nothing is written. -/
theorem Relaying.start {frame : ResponseFrame} (reading : Reading stream [] [frame] rbuf monitor)
    (built : responseHead settings [frame] = .ok header) :
    Relaying settings stream header [frame] rbuf (some header) frame.bytes monitor := by
  have empty := reading.log
  apply Relaying.mk
  · rw [empty]
    exact reading
  · exact built
  · rw [empty]
    rfl
  · rw [empty]
    simp [bodyOf]

/-- Further frames are read: their bytes are still to be written. -/
theorem Relaying.readOn {owed : Option ResponseHeader} {further : List ResponseFrame}
    {rest : FrameReadBuffer} {after : Monitor}
    (relaying : Relaying settings stream header frames rbuf owed unsent monitor)
    (reading : Reading stream monitor.log (frames ++ further) rest after) :
    Relaying settings stream header (frames ++ further) rest owed
      (unsent ++ further.flatMap ResponseFrame.bytes) after := by
  have sameLog := reading.log
  apply Relaying.mk
  · rw [sameLog]
    exact reading
  · exact responseHead_of_prefix (List.prefix_append _ _) relaying.built
  · rw [sameLog]
    exact relaying.heads
  · rw [sameLog, List.flatMap_append, ← relaying.body, List.append_assoc]

theorem Relaying.mayRelay {owed : Option ResponseHeader}
    (relaying : Relaying settings stream header frames rbuf owed unsent monitor)
    {write : Downstream} (taken : TakenFrom settings frames (monitor.log ++ [write])) :
    monitor.MayRelay settings write := by
  have nonempty : frames ≠ [] := by
    intro empty
    have built := relaying.built
    rw [empty] at built
    cases built
  exact ⟨stream, _, frames, relaying.reading.phase, nonempty, relaying.reading.fits,
    List.prefix_append _ _, taken⟩

/-- Writing the head that is owed. -/
theorem Relaying.writeHead {owed : ResponseHeader} (last : Bool)
    (relaying : Relaying settings stream header frames rbuf (some owed) unsent monitor) :
    monitor.MayRelay settings (.header owed last) ∧
      Relaying settings stream header frames rbuf none unsent
        (monitor.afterDownstream (.header owed last)) := by
  have heads : headsOf (monitor.log ++ [.header owed last]) = [header] := by
    rw [headsOf_append]
    exact relaying.heads
  have body : bodyOf (monitor.log ++ [.header owed last]) = bodyOf monitor.log := by
    simp [bodyOf]
  refine ⟨relaying.mayRelay ⟨.inr ⟨header, heads, relaying.built⟩, ?_⟩, ?_⟩
  · rw [body, ← relaying.body]
    exact List.prefix_append _ _
  · apply Relaying.mk
    · exact ⟨relaying.reading.phase, relaying.reading.fits, rfl⟩
    · exact relaying.built
    · rw [Option.toList_none, List.append_nil]
      exact heads
    · exact body ▸ relaying.body

/-- Writing body bytes behind the head. -/
theorem Relaying.writeBytes {body : Option (List UInt8)} (last : Bool)
    (relaying : Relaying settings stream header frames rbuf none (body.getD []) monitor) :
    monitor.MayRelay settings (.body body last) ∧
      Relaying settings stream header frames rbuf none []
        (monitor.afterDownstream (.body body last)) := by
  have heads : headsOf (monitor.log ++ [.body body last]) = [header] := by
    have written := relaying.heads
    rw [Option.toList_none, List.append_nil] at written
    simpa [headsOf] using written
  have bytes : bodyOf (monitor.log ++ [.body body last]) =
      frames.flatMap ResponseFrame.bytes := by
    rw [bodyOf_append, ← relaying.body]
    simp [bodyOf]
  refine ⟨relaying.mayRelay ⟨.inr ⟨header, heads, relaying.built⟩, ?_⟩, ?_⟩
  · rw [bytes]
  · apply Relaying.mk
    · exact ⟨relaying.reading.phase, relaying.reading.fits, rfl⟩
    · exact relaying.built
    · rw [Option.toList_none, List.append_nil]
      exact heads
    · rw [List.append_nil]
      exact bytes

theorem writeResponseHeader_meets {owed : ResponseHeader} (last : Bool)
    (relaying : Relaying settings stream header frames rbuf (some owed) unsent monitor) :
    (discipline settings request).Meets (writeResponseHeader owed last).run monitor
      (Contract.onOk fun _ after =>
        Relaying settings stream header frames rbuf none unsent after) := by
  obtain ⟨allowed, relayed⟩ := relaying.writeHead last
  apply Contract.Meets.callExcept allowed
  intro written
  cases written with
  | true => exact relayed
  | false => trivial

theorem writeResponseBody_meets (body : Option (List UInt8)) (last : Bool)
    (relaying : Relaying settings stream header frames rbuf none (body.getD []) monitor) :
    (discipline settings request).Meets (writeResponseBody body last).run monitor
      (Contract.onOk fun _ after =>
        Relaying settings stream header frames rbuf none [] after) := by
  obtain ⟨allowed, relayed⟩ := relaying.writeBytes last
  apply Contract.Meets.callExcept allowed
  intro written
  cases written with
  | true => exact relayed
  | false => trivial

theorem writeOwedHeader_meets {owed : Option ResponseHeader}
    (relaying : Relaying settings stream header frames rbuf owed unsent monitor) :
    (discipline settings request).Meets (writeOwedHeader owed).run monitor
      (Contract.onOk fun _ after =>
        Relaying settings stream header frames rbuf none unsent after) := by
  cases owed with
  | none => exact relaying
  | some owed => exact writeResponseHeader_meets false relaying

/-- The end of a response downstream: what is owed, then the last write. -/
theorem closeDownstream_meets {α : Type} {owed : Option ResponseHeader}
    {next : ExceptT UInt16 Hop α} {post : α → Monitor → Prop}
    (relaying : Relaying settings stream header frames rbuf owed [] monitor)
    (continues : ∀ after, Relaying settings stream header frames rbuf none [] after →
      (discipline settings request).Meets next.run after (Contract.onOk post)) :
    (discipline settings request).Meets
      (do
        writeOwedHeader owed
        writeResponseBody none true
        next).run monitor (Contract.onOk post) := by
  apply Contract.Meets.bindOk (writeOwedHeader_meets relaying)
  intro _ opened headWritten
  apply Contract.Meets.bindOk (writeResponseBody_meets none true headWritten)
  intro _ after closed
  exact continues after closed

end Relay

/-! ## Responses -/

/-- A stream that has begun: its head and some chunks. -/
def Begun (frames : List ResponseFrame) : Prop :=
  ∃ status headers, ∃ chunks : List (List UInt8),
    frames = .head status headers :: chunks.map .chunk

theorem Begun.chunk {frames : List ResponseFrame} (begun : Begun frames) (data : List UInt8) :
    Begun (frames ++ [.chunk data]) := by
  obtain ⟨status, headers, chunks, rfl⟩ := begun
  exact ⟨status, headers, chunks ++ [data], by simp⟩

theorem Begun.complete {frames : List ResponseFrame} (begun : Begun frames) :
    Complete (frames ++ [.endOfStream]) := by
  obtain ⟨status, headers, chunks, rfl⟩ := begun
  exact .stream status headers chunks

/-- A connection reported reusable may be pooled. -/
def Finished (stream : Nat) (outcome : UInt16 × FrameReadBuffer × Bool) (monitor : Monitor) :
    Prop :=
  outcome.2.2 = true → monitor.MayPool stream

theorem Relaying.finished {settings : HopSettings} {stream : Nat} {header : ResponseHeader}
    {frames : List ResponseFrame} {rbuf : FrameReadBuffer} {monitor : Monitor} {status : UInt16}
    (relaying : Relaying settings stream header frames rbuf none [] monitor)
    (complete : Complete frames) :
    Finished stream (status, rbuf, !rbuf.hasSurplus) monitor := by
  intro reusable
  have clean : rbuf.hasSurplus = false := by
    simpa using reusable
  have phase := relaying.reading.phase
  rw [FrameReadBuffer.pending_of_hasSurplus clean, List.append_nil] at phase
  exact .inr ⟨frames, complete, relaying.reading.fits, phase⟩

section Response

variable {settings : HopSettings} {request : List UInt8} {stream : Nat}

theorem streamLoop_meets {header : ResponseHeader} (status : UInt16) (rounds : Nat)
    {frames : List ResponseFrame} {rbuf : FrameReadBuffer} {owed : Option ResponseHeader}
    (streamed : Nat) {monitor : Monitor} (begun : Begun frames)
    (relaying : Relaying settings stream header frames rbuf owed [] monitor) :
    (discipline settings request).Meets
      (streamLoop stream status rounds rbuf owed streamed).run monitor
      (Contract.onOk (Finished stream)) := by
  induction rounds generalizing frames rbuf owed streamed monitor with
  | zero => trivial
  | succ rounds inductionHypothesis =>
      unfold streamLoop
      apply Contract.Meets.callExcept trivial
      intro drained
      cases drained with
      | true =>
          apply closeDownstream_meets relaying
          intro after closed
          apply Contract.Meets.callExcept trivial
          intro _ reusable
          cases reusable
      | false =>
          apply Contract.Meets.bindOk (readFrameOrDrain_meets rbuf relaying.reading)
          intro outcome after ends
          match outcome with
          | none =>
              obtain ⟨pending, reading⟩ := ends
              rw [← List.append_nil frames] at reading
              have stopped := relaying.readOn reading
              apply closeDownstream_meets stopped
              intro after closed
              apply Contract.Meets.callExcept trivial
              intro _ reusable
              cases reusable
          | some (.chunk data, rest) =>
              have grown := relaying.readOn ends
              simp only [List.flatMap_cons, List.flatMap_nil, List.append_nil, List.nil_append,
                ResponseFrame.bytes] at grown
              dsimp only
              split
              · rename_i empty
                rw [List.isEmpty_iff.mp empty] at grown
                exact inductionHypothesis streamed (begun.chunk []) grown
              · split
                · trivial
                · apply Contract.Meets.callExcept trivial
                  intro admitted
                  cases admitted with
                  | false => trivial
                  | true =>
                      apply Contract.Meets.bindOk (writeOwedHeader_meets grown)
                      intro _ opened headWritten
                      apply Contract.Meets.bindOk
                        (writeResponseBody_meets (some data) false headWritten)
                      intro _ written bodyWritten
                      exact inductionHypothesis _ (begun.chunk data) bodyWritten
          | some (.endOfStream, rest) =>
              have ended := relaying.readOn ends
              apply closeDownstream_meets ended
              intro after closed
              apply Contract.Meets.callExcept trivial
              intro _
              exact closed.finished begun.complete
          | some (.head _ _, _) | some (.full _ _ _, _) => trivial

private theorem settled_meets {ε α : Type} (result : Except ε α) (monitor : Monitor) :
    (discipline settings request).Meets (settled result).run monitor
      (Contract.onOk fun value after => result = .ok value ∧ after = monitor) := by
  cases result with
  | ok value => exact ⟨rfl, rfl⟩
  | error failure => trivial

/-- The response behind its first frame is relayed, and a connection reported reusable
has carried all of it. -/
theorem respond_meets (rounds : Nat) {rbuf : FrameReadBuffer} (frame : ResponseFrame)
    {monitor : Monitor} (reading : Reading stream [] [frame] rbuf monitor) :
    (discipline settings request).Meets (respond settings rounds stream rbuf frame).run monitor
      (Contract.onOk (Finished stream)) := by
  cases frame with
  | full status headers body =>
      apply Contract.Meets.bindOk
        (settled_meets (buildResponseHeader settings status headers body.length) monitor)
      intro header after built
      obtain ⟨built, rfl⟩ := built
      apply Contract.Meets.bindOk (writeResponseHeader_meets false (Relaying.start reading built))
      intro _ opened headWritten
      apply Contract.Meets.bindOk (writeResponseBody_meets (some body) true headWritten)
      intro _ after bodyWritten
      exact bodyWritten.finished (.full status headers body)
  | head status headers =>
      apply Contract.Meets.bindOk
        (settled_meets (buildResponseChunkedHeader settings status headers) monitor)
      intro header after built
      obtain ⟨built, rfl⟩ := built
      apply Contract.Meets.callExcept trivial
      intro admitted
      cases admitted with
      | false => trivial
      | true =>
          exact streamLoop_meets status rounds 0 ⟨status, headers, [], rfl⟩
            (Relaying.start reading built)
  | chunk _ | endOfStream => trivial

end Response

/-! ## One exchange -/

/-- Nothing of a response has been seen, and the request may be written. -/
structure Quiet (kind : WorkerKind) (monitor : Monitor) : Prop where
  mayWrite : monitor.MayWrite kind
  log : monitor.log = []

theorem Quiet.setPhase {kind : WorkerKind} {monitor : Monitor} (quiet : Quiet kind monitor)
    (stream : Nat) (phase : Option Phase) : Quiet kind (monitor.setPhase stream phase) :=
  ⟨⟨quiet.mayWrite.noResponse, quiet.mayWrite.notDelivered⟩, quiet.log⟩

/-- The connection is held and as new. -/
structure Held (conn : PooledConn) (monitor : Monitor) : Prop where
  phase : monitor.phase conn.stream = some .idle
  clean : conn.rbuf.pending = []

section Exchange

variable {settings : HopSettings} {request : List UInt8}

/-- How an exchange ends. A stale connection leaves the call quiet, unless an async
worker may have got the request. -/
def Exchanged (kind : WorkerKind) (stream : Nat) :
    Except ExchangeError (UInt16 × FrameReadBuffer × Bool) → Monitor → Prop
  | .ok outcome, after => Finished stream outcome after
  | .error (.staleBeforeDispatch requestDelivered), after =>
      (requestDelivered = true → kind ≠ .async) → Quiet kind after
  | .error (.status _), _ => True

theorem exchange_meets (rounds : Nat) {conn : PooledConn} {monitor : Monitor}
    (held : Held conn monitor) (quiet : Quiet settings.kind monitor) :
    (discipline settings request).Meets (exchange settings rounds conn request).run monitor
      (Exchanged settings.kind conn.stream) := by
  have allowed : mayPerform settings request monitor (.writeAll conn.stream request) :=
    ⟨held.phase, rfl, quiet.mayWrite⟩
  apply Contract.Meets.callExcept allowed
  intro written
  cases written with
  | failed _ =>
      intro _
      exact quiet.setPhase conn.stream (some .spoiled)
  | done =>
      have reading : Reading conn.stream [] [] conn.rbuf
          { monitor.setPhase conn.stream (some (.sent [])) with delivered := true } := by
        refine ⟨?_, ?_, quiet.log⟩
        · rw [held.clean]
          exact monitor.setPhase_phase conn.stream _
        · intro frame member
          cases member
      apply Contract.Meets.bindExcept
      apply Contract.Meets.adapt
      apply (readFrame_meets conn.rbuf true reading).mono
      intro result after ends
      match result with
      | .error status => trivial
      | .ok none =>
          intro classic
          rw [show after = _ from ends]
          exact ⟨⟨quiet.mayWrite.noResponse, fun async => absurd async (classic rfl)⟩, quiet.log⟩
      | .ok (some (frame, rest)) =>
          apply Contract.Meets.adapt
          apply (respond_meets rounds frame ends).mono
          intro result after holds
          cases result with
          | ok outcome => exact holds
          | error status => trivial

/-! ## One worker -/

theorem finishExchange_meets (idx stream : Nat) {status : UInt16} {rbuf : FrameReadBuffer}
    {reusable : Bool} {monitor : Monitor}
    (finished : Finished stream (status, rbuf, reusable) monitor) :
    (discipline settings request).Meets (finishExchange idx stream rbuf reusable) monitor
      fun _ _ => True := by
  unfold finishExchange
  cases reusable with
  | false => trivial
  | true =>
      refine ⟨trivial, ?_⟩
      intro drained
      cases drained with
      | true => trivial
      | false =>
          unfold checkin
          dsimp only
          split
          · exact ⟨finished rfl, fun _ => trivial⟩
          · trivial

/-- How a send to one worker ends: an error that lets the sweep go on leaves the call
quiet. -/
def Sent (kind : WorkerKind) : Except FrameSendError UInt16 → Monitor → Prop
  | .error .connect, after => Quiet kind after
  | .error .atCapacity, after => Quiet kind after
  | .error (.afterWrite _), _ => True
  | .ok _, _ => True

theorem connectWorker_meets (idx : Nat) {monitor : Monitor}
    (quiet : Quiet settings.kind monitor) :
    (discipline settings request).Meets (connectWorker idx).run monitor fun result after =>
      match result with
      | .ok conn => Held conn after ∧ Quiet settings.kind after
      | .error failure => Sent settings.kind (.error failure) after := by
  apply Contract.Meets.callExcept trivial
  intro answer
  cases answer with
  | none => exact quiet
  | some stream => exact ⟨⟨monitor.setPhase_phase stream _, rfl⟩, quiet.setPhase stream _⟩

theorem retryFresh_meets (rounds idx : Nat) {monitor : Monitor}
    (quiet : Quiet settings.kind monitor) :
    (discipline settings request).Meets (retryFresh settings rounds idx request).run monitor
      (Sent settings.kind) := by
  apply Contract.Meets.bindExcept
  apply (connectWorker_meets idx quiet).mono
  intro result after connected
  cases result with
  | error failure => exact connected
  | ok fresh =>
      apply Contract.Meets.lift
      apply (exchange_meets rounds connected.1 connected.2).mono
      intro result after ends
      cases result with
      | error failure => trivial
      | ok outcome =>
          apply Contract.Meets.lift
          exact (finishExchange_meets idx fresh.stream ends).mono fun _ _ _ => trivial

theorem attempt_meets (rounds idx : Nat) {conn : PooledConn} (reused : Bool) {monitor : Monitor}
    (held : Held conn monitor) (quiet : Quiet settings.kind monitor) :
    (discipline settings request).Meets
      (attempt settings rounds idx request conn reused).run monitor (Sent settings.kind) := by
  apply Contract.Meets.lift
  apply (exchange_meets rounds held quiet).mono
  intro result after ends
  match result with
  | .ok (status, rbuf, reusable) =>
      apply Contract.Meets.lift
      exact (finishExchange_meets idx conn.stream ends).mono fun _ _ _ => trivial
  | .error (.status _) => trivial
  | .error (.staleBeforeDispatch requestDelivered) =>
      dsimp only
      split
      · rename_i retries
        apply retryFresh_meets rounds idx
        apply ends
        intro delivered
        simpa [mayRetry, delivered] using (Bool.and_eq_true_iff.mp retries).2
      · trivial

theorem checkout_meets (idx : Nat) {monitor : Monitor} (quiet : Quiet settings.kind monitor) :
    (discipline settings request).Meets (checkout idx) monitor fun result after =>
      Quiet settings.kind after ∧ ∀ conn, result = some conn → Held conn after := by
  refine ⟨trivial, ?_⟩
  intro answer
  cases answer with
  | none => exact ⟨quiet, fun _ same => nomatch same⟩
  | some idle =>
      have checkedOut := quiet.setPhase idle.conn.stream (some .idle)
      refine ⟨trivial, ?_⟩
      intro sole
      cases sole with
      | false => exact ⟨checkedOut, fun _ same => nomatch same⟩
      | true =>
          refine ⟨trivial, ?_⟩
          intro live
          cases live with
          | false => exact ⟨checkedOut, fun _ same => nomatch same⟩
          | true =>
              refine ⟨checkedOut, ?_⟩
              intro conn same
              cases same
              exact ⟨monitor.setPhase_phase _ _,
                FrameReadBuffer.pending_of_hasSurplus idle.clean⟩

theorem obtain_meets (idx : Nat) {monitor : Monitor} (quiet : Quiet settings.kind monitor) :
    (discipline settings request).Meets (obtain idx).run monitor fun result after =>
      match result with
      | .ok (conn, _) => Held conn after ∧ Quiet settings.kind after
      | .error failure => Sent settings.kind (.error failure) after := by
  apply Contract.Meets.lift
  apply (checkout_meets idx quiet).mono
  intro result after checkedOut
  cases result with
  | some conn => exact ⟨checkedOut.2 conn rfl, checkedOut.1⟩
  | none =>
      apply Contract.Meets.bindExcept
      apply (connectWorker_meets idx checkedOut.1).mono
      intro result after connected
      cases result with
      | ok conn => exact connected
      | error failure => exact connected

theorem atCapacity_meets (idx : Nat) (cap : Option Nat) (monitor : Monitor) :
    (discipline settings request).Meets (atCapacity idx cap) monitor
      fun _ after => after = monitor := by
  cases cap with
  | none => rfl
  | some k => exact ⟨trivial, fun _ => rfl⟩

theorem tryAcquire_meets (idx : Nat) (cap : Option Nat) (monitor : Monitor) :
    (discipline settings request).Meets (tryAcquire idx cap) monitor
      fun _ after => after = monitor := by
  cases cap with
  | none => exact ⟨trivial, fun _ => rfl⟩
  | some k => exact ⟨trivial, fun _ => rfl⟩

/-- Returning an untouched connection. -/
theorem checkin_meets (idx : Nat) {conn : PooledConn} {monitor : Monitor}
    (held : Held conn monitor) (quiet : Quiet settings.kind monitor) :
    (discipline settings request).Meets (checkin idx conn) monitor
      fun _ after => Quiet settings.kind after := by
  unfold checkin
  split
  · exact ⟨.inl held.phase, fun _ => quiet.setPhase conn.stream none⟩
  · exact quiet

theorem sendToWorker_meets (rounds idx : Nat) {monitor : Monitor}
    (quiet : Quiet settings.kind monitor) :
    (discipline settings request).Meets (sendToWorker settings rounds idx request).run monitor
      (Sent settings.kind) := by
  apply Contract.Meets.callExcept trivial
  intro drained
  cases drained with
  | true => trivial
  | false =>
      apply Contract.Meets.lift
      apply (atCapacity_meets idx settings.cap monitor).mono
      intro full after same
      subst same
      cases full with
      | true => exact quiet
      | false =>
          apply Contract.Meets.bindExcept
          apply (obtain_meets idx quiet).mono
          intro result after obtained
          match result with
          | .error failure => exact obtained
          | .ok (conn, reused) =>
              apply Contract.Meets.lift
              apply (tryAcquire_meets idx settings.cap after).mono
              intro admitted after same
              subst same
              cases admitted with
              | true => exact attempt_meets rounds idx reused obtained.1 obtained.2
              | false =>
                  apply Contract.Meets.lift
                  exact checkin_meets idx obtained.1 obtained.2

end Exchange

/-! ## The sweep -/

section Sweep

variable {settings : HopSettings} {request : List UInt8}

theorem parkLoop_meets (mask : BitVec 32) (k rounds : Nat) (monitor : Monitor) :
    (discipline settings request).Meets (parkLoop mask k rounds).run monitor
      (Contract.onOk fun _ after => after = monitor) := by
  induction rounds with
  | zero => trivial
  | succ rounds inductionHypothesis =>
      apply Contract.Meets.callExcept trivial
      intro drained
      cases drained with
      | true => trivial
      | false =>
          apply Contract.Meets.callExcept trivial
          intro admittable
          cases admittable with
          | true =>
              apply Contract.Meets.callExcept trivial
              intro parked
              split
              · apply Contract.Meets.callExcept trivial
                intro _
                rfl
              · rfl
          | false =>
              apply Contract.Meets.callExcept trivial
              intro drainEnded
              cases drainEnded with
              | false => exact inductionHypothesis
              | true =>
                  apply Contract.Meets.callExcept trivial
                  intro drained
                  cases drained with
                  | true => trivial
                  | false => exact inductionHypothesis

theorem parkForSlot_meets (rounds : Nat) (mask : BitVec 32) (k : Nat) (monitor : Monitor) :
    (discipline settings request).Meets (parkForSlot rounds mask k).run monitor
      (Contract.onOk fun _ after => after = monitor) := by
  apply Contract.Meets.callExcept trivial
  intro _
  exact parkLoop_meets mask k rounds monitor

/-- A sweep that runs out of candidates has left the call quiet. -/
theorem sweep_meets (rounds : Nat) (pinned : Option (UInt64 × Nat)) (order : List Nat)
    (mask : BitVec 32) (pinConnectFailed : Bool) {monitor : Monitor}
    (quiet : Quiet settings.kind monitor) :
    (discipline settings request).Meets
      (sweep settings rounds request pinned order mask pinConnectFailed) monitor
      fun outcome after =>
        match outcome with
        | .exhausted _ => Quiet settings.kind after
        | .served _ | .refused _ => True := by
  induction order generalizing mask pinConnectFailed monitor with
  | nil => exact quiet
  | cons idx rest inductionHypothesis =>
      apply Contract.Meets.bind
      apply (sendToWorker_meets rounds idx quiet).mono
      intro result after ends
      match result with
      | .ok status =>
          dsimp only
          split
          · split
            · exact ⟨trivial, fun _ => trivial⟩
            · trivial
          · trivial
      | .error .connect => exact inductionHypothesis _ _ ends
      | .error .atCapacity => exact inductionHypothesis _ _ ends
      | .error (.afterWrite status) => trivial

theorem passOrder_meets (start : Nat) (woken : Bool) (pinned : Option (UInt64 × Nat))
    (monitor : Monitor) :
    (discipline settings request).Meets (passOrder settings start woken pinned) monitor
      fun _ after => after = monitor := by
  cases pinned with
  | none => exact ⟨trivial, fun _ => rfl⟩
  | some pin =>
      cases woken with
      | true => exact ⟨trivial, fun _ => rfl⟩
      | false => rfl

theorem poolLoop_meets (rounds : Nat) (pinned : Option (UInt64 × Nat)) (woken : Bool)
    {monitor : Monitor} (quiet : Quiet settings.kind monitor) :
    (discipline settings request).Meets (poolLoop settings request rounds pinned woken).run monitor
      (Contract.onOk fun _ _ => True) := by
  induction rounds generalizing pinned woken monitor with
  | zero => trivial
  | succ rounds inductionHypothesis =>
      apply Contract.Meets.callExcept trivial
      intro (next : Nat)
      apply Contract.Meets.lift
      apply (passOrder_meets (next % settings.workers) woken pinned monitor).mono
      intro pass after same
      subst same
      apply Contract.Meets.lift
      apply (sweep_meets rounds pass.2 pass.1 0 false quiet).mono
      intro outcome after ends
      cases outcome with
      | served status => trivial
      | refused status => trivial
      | exhausted mask =>
          dsimp only
          split
          · trivial
          · apply Contract.Meets.bindOk (parkForSlot_meets rounds mask _ after)
            intro _ woken same
            rw [same]
            exact inductionHypothesis pass.2 true ends

theorem resolvePin_meets (stickyKey : Option UInt64) (monitor : Monitor) :
    (discipline settings request).Meets (resolvePin settings stickyKey) monitor
      fun _ after => after = monitor := by
  unfold resolvePin
  split
  · cases stickyKey with
    | some key => exact ⟨trivial, fun _ => rfl⟩
    | none => exact ⟨trivial, fun _ => rfl⟩
  · rfl

theorem bargingGuard_meets (rounds : Nat) (cap : Option Nat) (monitor : Monitor) :
    (discipline settings request).Meets (bargingGuard rounds cap).run monitor
      (Contract.onOk fun _ after => after = monitor) := by
  cases cap with
  | none => rfl
  | some k =>
      apply Contract.Meets.callExcept trivial
      intro parked
      split
      · exact parkForSlot_meets rounds _ k monitor
      · rfl

/-- The whole call keeps the discipline, whatever its surroundings answer. -/
theorem sendWorkerFrameToPool_meets (rounds : Nat) (stickyKey : Option UInt64)
    {monitor : Monitor} (quiet : Quiet settings.kind monitor) :
    (discipline settings request).Meets
      (sendWorkerFrameToPool settings rounds request stickyKey).run monitor
      (Contract.onOk fun _ _ => True) := by
  unfold sendWorkerFrameToPool
  split
  · trivial
  · apply Contract.Meets.lift
    apply (resolvePin_meets stickyKey monitor).mono
    intro pinned after same
    subst same
    apply Contract.Meets.bindOk (bargingGuard_meets rounds settings.cap after)
    intro _ passed same
    rw [same]
    exact poolLoop_meets rounds pinned false quiet

end Sweep

end Oxo.Edge.FrameHop
