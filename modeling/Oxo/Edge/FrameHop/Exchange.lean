import Oxo.Edge.FrameHop.ReadBuffer
import Oxo.Foundation.Text

/-!
Contract: the frame hop's request path
(`oxo-pingora-edge/src/platform/frame_hop.rs`).

Owns: one exchange, streaming a response downstream, the pooled-then-fresh attempt on
one worker, and the sweep over the workers with parking.

Does not own: the pool's bookkeeping, the gauges or the HTTP library behind the
downstream session. A loop without a bound of its own takes the number of rounds it
is run for; a run that uses them up is never resumed.
-/

namespace Oxo.Edge.FrameHop

open Oxo.Foundation Oxo.Core.HopFrame

inductive WorkerKind where
  | classic
  | async
deriving DecidableEq, Repr

/-- What the hop is configured with, and what the HTTP library accepts in a response
head. -/
structure HopSettings where
  kind : WorkerKind
  mode : DispatchMode
  cap : Option Nat
  workers : Nat
  keepaliveEnabled : Bool
  acceptsStatus : UInt16 → Bool
  acceptsHeader : String → String → Bool

/-! ## Response heads -/

def isFramingHeader (name : String) : Bool :=
  eqIgnoreAsciiCase name "content-length" || eqIgnoreAsciiCase name "transfer-encoding" ||
    eqIgnoreAsciiCase name "connection"

/-- The status and the headers that are not framing, each accepted by the library. -/
def appendResponseHeaders (settings : HopSettings) (status : UInt16)
    (headers : List (String × String)) : Except UInt16 ResponseHeader :=
  let kept := headers.filter fun header => !isFramingHeader header.1
  if settings.acceptsStatus status && kept.all fun header =>
      settings.acceptsHeader header.1 header.2 then .ok ⟨status, kept⟩
  else .error 502

def closeHeader (settings : HopSettings) : List (String × String) :=
  if settings.keepaliveEnabled then [] else [("Connection", "close")]

def buildResponseHeader (settings : HopSettings) (status : UInt16)
    (headers : List (String × String)) (bodyLen : Nat) : Except UInt16 ResponseHeader := do
  let header ← appendResponseHeaders settings status headers
  return { header with
    headers := header.headers ++ [("Content-Length", numeral 10 bodyLen)] ++ closeHeader settings }

def buildResponseChunkedHeader (settings : HopSettings) (status : UInt16)
    (headers : List (String × String)) : Except UInt16 ResponseHeader := do
  let header ← appendResponseHeaders settings status headers
  return { header with headers := header.headers ++ closeHeader settings }

/-! ## Exchange -/

inductive ExchangeError where
  | staleBeforeDispatch (requestDelivered : Bool)
  | status (code : UInt16)

def ExchangeError.code : ExchangeError → UInt16
  | .staleBeforeDispatch _ => 502
  | .status code => code

/-- A downstream write; any failure is 502. -/
def writeResponseHeader (header : ResponseHeader) (last : Bool) : ExceptT UInt16 Hop Unit := do
  if ← Hop.writeHeader header last then pure () else throw 502

def writeResponseBody (body : Option (List UInt8)) (last : Bool) : ExceptT UInt16 Hop Unit := do
  if ← Hop.writeBody body last then pure () else throw 502

/-- Write a header that is still owed. -/
def writeOwedHeader : Option ResponseHeader → ExceptT UInt16 Hop Unit
  | some header => writeResponseHeader header false
  | none => pure ()

/-- The loop over `Chunk` and `End` frames. Returns the status and the buffer of a
reusable connection, if it is one. -/
def streamLoop (stream : Nat) (status : UInt16) : (rounds : Nat) → FrameReadBuffer →
    (owed : Option ResponseHeader) → (streamed : Nat) →
    ExceptT UInt16 Hop (UInt16 × FrameReadBuffer × Bool)
  | 0, _, _, _ => ExceptT.lift .stop
  | rounds + 1, rbuf, owed, streamed => do
      if ← Hop.drainBorrow then
        writeOwedHeader owed
        writeResponseBody none true
        Hop.completeDrained
        pure (status, rbuf, false)
      else
        match ← rbuf.readFrameOrDrain stream with
        | some (.chunk data, rbuf) =>
            if data.isEmpty then streamLoop stream status rounds rbuf owed streamed
            else
              let streamed := min (streamed + data.length) (2 ^ 64 - 1)
              if streamed > maxResponseBytes then throw 502
              else if ← Hop.recordBytes data.length then
                writeOwedHeader owed
                writeResponseBody (some data) false
                streamLoop stream status rounds rbuf none streamed
              else throw 502
        | some (.endOfStream, rbuf) =>
            writeOwedHeader owed
            writeResponseBody none true
            Hop.complete
            -- bytes behind the end are out-of-turn worker data
            pure (status, rbuf, !rbuf.hasSurplus)
        | none =>
            writeOwedHeader owed
            writeResponseBody none true
            Hop.completeDrained
            pure (status, rbuf, false)
        -- a second head, or a full response mid-stream
        | some (.head _ _, _) | some (.full _ _ _, _) => throw 502

/-- Stream a response downstream under long-lived admission. -/
def streamFramesDownstream (rounds stream : Nat) (rbuf : FrameReadBuffer)
    (header : ResponseHeader) (status : UInt16) :
    ExceptT UInt16 Hop (UInt16 × FrameReadBuffer × Bool) := do
  if ← Hop.tryAdmit then streamLoop stream status rounds rbuf (some header) 0 else throw 503

/-- Respond with one whole frame. -/
def respondFull (settings : HopSettings) (rbuf : FrameReadBuffer) (status : UInt16)
    (headers : List (String × String)) (body : List UInt8) :
    ExceptT UInt16 Hop (UInt16 × FrameReadBuffer × Bool) := do
  let header ← settled (buildResponseHeader settings status headers body.length)
  writeResponseHeader header false
  writeResponseBody (some body) true
  pure (status, rbuf, !rbuf.hasSurplus)

/-- The response behind its first frame. -/
def respond (settings : HopSettings) (rounds stream : Nat) (rbuf : FrameReadBuffer) :
    ResponseFrame → ExceptT UInt16 Hop (UInt16 × FrameReadBuffer × Bool)
  | .full status headers body => respondFull settings rbuf status headers body
  | .head status headers => do
      let header ← settled (buildResponseChunkedHeader settings status headers)
      streamFramesDownstream rounds stream rbuf header status
  | .chunk _ | .endOfStream => throw 502

/-- One request and its response over one connection. The buffer and whether the
connection is left at a clean frame boundary come back with the status. -/
def exchange (settings : HopSettings) (rounds : Nat) (conn : PooledConn)
    (request : List UInt8) : ExceptT ExchangeError Hop (UInt16 × FrameReadBuffer × Bool) := do
  match ← Hop.writeAll conn.stream request with
  | .failed _ => throw (.staleBeforeDispatch false)
  | .done =>
      match ← ExceptT.adapt .status (conn.rbuf.readFrame conn.stream true) with
      -- nothing came back, but the request was delivered
      | none => throw (.staleBeforeDispatch true)
      | some (frame, rbuf) =>
          ExceptT.adapt .status (respond settings rounds conn.stream rbuf frame)

/-! ## One worker -/

inductive FrameSendError where
  | connect
  | afterWrite (status : UInt16)
  | atCapacity

/-- A pooled connection that is solely owned and live. -/
def checkout (idx : Nat) : Hop (Option PooledConn) := do
  match ← Hop.poolGet idx with
  | none => pure none
  | some idle =>
      if ← Hop.soleOwner idle.conn.stream then
        if ← Hop.probe idle.conn.stream then pure (some idle.conn) else pure none
      else pure none

/-- Return a connection to the pool; one with surplus is dropped instead. -/
def checkin (idx : Nat) (conn : PooledConn) : Hop Unit :=
  if clean : conn.rbuf.hasSurplus = false then Hop.poolPut idx ⟨conn, clean⟩ else pure ()

def connectWorker (idx : Nat) : ExceptT FrameSendError Hop PooledConn := do
  match ← Hop.connect idx with
  | some stream => pure ⟨stream, .new⟩
  | none => throw .connect

/-- Admission: uncapped it counts, capped it succeeds only below the cap. -/
def tryAcquire (idx : Nat) : Option Nat → Hop Bool
  | none => do
      Hop.acquire idx
      pure true
  | some k => Hop.tryAcquire idx k

/-- The end of a successful exchange. -/
def finishExchange (idx : Nat) (stream : Nat) (rbuf : FrameReadBuffer) (reusable : Bool) :
    Hop Unit := do
  if reusable then
    if ← Hop.drainBorrow then pure () else checkin idx ⟨stream, rbuf⟩
  else pure ()

/-- The retry of a stale exchange on a fresh connection. -/
def retryFresh (settings : HopSettings) (rounds idx : Nat) (request : List UInt8) :
    ExceptT FrameSendError Hop UInt16 := do
  let fresh ← connectWorker idx
  match ← ExceptT.lift (exchange settings rounds fresh request).run with
  | .ok (status, rbuf, reusable) =>
      finishExchange idx fresh.stream rbuf reusable
      pure status
  | .error failure => throw (.afterWrite failure.code)

/-- Whether a failed exchange may be retried: only a stale pooled connection, and a
delivered request only on a classic worker. -/
def mayRetry (kind : WorkerKind) (reused requestDelivered : Bool) : Bool :=
  reused && (!requestDelivered || kind != .async)

/-- Write the request on a held connection and deal with the outcome. -/
def attempt (settings : HopSettings) (rounds idx : Nat) (request : List UInt8) (conn : PooledConn)
    (reused : Bool) : ExceptT FrameSendError Hop UInt16 := do
  match ← ExceptT.lift (exchange settings rounds conn request).run with
  | .ok (status, rbuf, reusable) =>
      finishExchange idx conn.stream rbuf reusable
      pure status
  | .error (.staleBeforeDispatch requestDelivered) =>
      if mayRetry settings.kind reused requestDelivered then
        retryFresh settings rounds idx request
      else throw (.afterWrite 502)
  | .error (.status code) => throw (.afterWrite code)

/-- A pooled connection, else a fresh one; and whether it was pooled. -/
def obtain (idx : Nat) : ExceptT FrameSendError Hop (PooledConn × Bool) := do
  match ← checkout idx with
  | some conn => pure (conn, true)
  | none =>
      let conn ← connectWorker idx
      pure (conn, false)

/-- The cheap check before any connection is made. -/
def atCapacity (idx : Nat) : Option Nat → Hop Bool
  | none => pure false
  | some k => do
      let inFlight ← Hop.inFlight (min idx (maxWorkers - 1))
      pure (decide (inFlight ≥ k))

def sendToWorker (settings : HopSettings) (rounds idx : Nat) (request : List UInt8) :
    ExceptT FrameSendError Hop UInt16 := do
  if ← Hop.drainBorrow then throw (.afterWrite 503)
  else if ← atCapacity idx settings.cap then throw .atCapacity
  else
    let (conn, reused) ← obtain idx
    if ← tryAcquire idx settings.cap then attempt settings rounds idx request conn reused
    else
      -- the untouched connection goes back
      checkin idx conn
      throw .atCapacity

/-! ## The sweep -/

/-- Wait for a slot on a worker of the mask; 503 on drain. -/
def parkLoop (mask : BitVec 32) (k : Nat) : (rounds : Nat) → ExceptT UInt16 Hop Unit
  | 0 => ExceptT.lift .stop
  | rounds + 1 => do
      if ← Hop.drainBorrow then throw 503
      else if ← Hop.anyAdmittable mask k then
        -- forward the wake so that no other waiter is stranded
        if (← Hop.parked) > 1 then Hop.notifyOne
      else if ← Hop.waitForSlot then
        if ← Hop.drainBorrow then throw 503 else parkLoop mask k rounds
      else parkLoop mask k rounds

def parkForSlot (rounds : Nat) (mask : BitVec 32) (k : Nat) : ExceptT UInt16 Hop Unit := do
  Hop.parkEnter
  parkLoop mask k rounds

/-- Where the candidates leave the sweep: with the response's status, with a status
for the client, or with the workers that were full. -/
inductive SweepOutcome where
  | served (status : UInt16)
  | refused (status : UInt16)
  | exhausted (atCapacityMask : BitVec 32)

/-- The candidates in order. -/
def sweep (settings : HopSettings) (rounds : Nat) (request : List UInt8)
    (pinned : Option (UInt64 × Nat)) :
    List Nat → (atCapacityMask : BitVec 32) → (pinConnectFailed : Bool) → Hop SweepOutcome
  | [], mask, _ => pure (.exhausted mask)
  | idx :: rest, mask, pinConnectFailed => do
      match ← (sendToWorker settings rounds idx request).run with
      | .ok status =>
          match pinned with
          | some (key, pin) =>
              if idx ≠ pin ∧ pinConnectFailed = true then Hop.stickyRepin key pin idx
          | none => pure ()
          pure (.served status)
      | .error .connect =>
          sweep settings rounds request pinned rest mask
            (pinConnectFailed || (pinned.any fun pin => pin.2 == idx))
      | .error .atCapacity =>
          sweep settings rounds request pinned rest (mask ||| capacityBit idx) pinConnectFailed
      | .error (.afterWrite status) => pure (.refused status)

/-- The order of one pass, and the pin it went by. -/
def passOrder (settings : HopSettings) (start : Nat) (woken : Bool) :
    Option (UInt64 × Nat) → Hop (List Nat × Option (UInt64 × Nat))
  | some (key, prior) => do
      let idx ← if woken then Hop.stickyReread key prior else pure prior
      pure (stickyOrder idx start settings.workers, some (key, idx))
  | none => do
      let depths ← Hop.inFlightDepths
      pure (candidateOrderWith start settings.workers settings.mode depths, none)

/-- Passes over the workers, parking in between. -/
def poolLoop (settings : HopSettings) (request : List UInt8) : (rounds : Nat) →
    (pinned : Option (UInt64 × Nat)) → (woken : Bool) → ExceptT UInt16 Hop UInt16
  | 0, _, _ => ExceptT.lift .stop
  | rounds + 1, pinned, woken => do
      let next ← Hop.nextWorker
      let (order, pinned) ← passOrder settings (next % settings.workers) woken pinned
      match ← sweep settings rounds request pinned order 0 false with
      | .served status => pure status
      | .refused status => throw status
      | .exhausted mask =>
          if mask = 0 then throw 503
          else
            parkForSlot rounds mask (settings.cap.getD (2 ^ 64 - 1))
            poolLoop settings request rounds pinned true

/-- The pin of a keyed request under sticky dispatch. -/
def resolvePin (settings : HopSettings) (stickyKey : Option UInt64) :
    Hop (Option (UInt64 × Nat)) :=
  if settings.mode = .sticky then
    match stickyKey with
    | some key => do
        let idx ← Hop.stickyLookupOrAssign key settings.workers
        pure (some (key, idx))
    | none => do
        Hop.stickyNoteFallback
        pure none
  else pure none

/-- A fresh arrival behind parked requests parks first. -/
def bargingGuard (rounds : Nat) : Option Nat → ExceptT UInt16 Hop Unit
  | none => pure ()
  | some k => do
      if (← Hop.parked) > 0 then parkForSlot rounds (BitVec.allOnes 32) k

def sendWorkerFrameToPool (settings : HopSettings) (rounds : Nat) (request : List UInt8)
    (stickyKey : Option UInt64) : ExceptT UInt16 Hop UInt16 := do
  if settings.workers = 0 then throw 503
  else
    let pinned ← resolvePin settings stickyKey
    bargingGuard rounds settings.cap
    poolLoop settings request rounds pinned false

end Oxo.Edge.FrameHop
