import Oxo.Edge.FrameHop.Sending

/-!
Contract: when a request is written again.

Owns: the two laws of one call, over every trace of `sendWorkerFrameToPool`: an async
worker pool gets the whole request at most once, and no worker gets any of it once a
response has begun.

Does not own: what concurrent calls share.
-/

namespace Oxo.Edge.FrameHop

open Oxo.Foundation

/-! ## Events -/

/-- The event writes on a worker connection, successfully or not. -/
def writesRequest (event : HopEvent) : Bool :=
  match event.op with
  | .writeAll _ _ => true
  | _ => false

/-- The event writes all of its bytes on a worker connection. -/
def deliversWhole : HopEvent → Bool
  | ⟨.writeAll _ _, .done⟩ => true
  | _ => false

/-- The event reads response bytes from a worker, or writes downstream. -/
def beginsResponse : HopEvent → Bool
  | ⟨.read _, .data _ _⟩ => true
  | ⟨.readOrDrain _, some (.data _ _)⟩ => true
  | ⟨.writeHeader _ _, _⟩ => true
  | ⟨.writeBody _ _, _⟩ => true
  | _ => false

/-! ## The watch never forgets -/

theorem afterRead_keeps (monitor : Monitor) (stream : Nat) (answer : ReadAnswer) :
    (monitor.delivered = true → (monitor.afterRead stream answer).delivered = true) ∧
    (monitor.responded = true → (monitor.afterRead stream answer).responded = true) := by
  cases answer with
  | data first rest =>
      unfold Monitor.afterRead
      dsimp only
      split
      · exact ⟨id, fun _ => rfl⟩
      · exact ⟨id, fun _ => rfl⟩
  | eof | reset | failed => exact ⟨id, id⟩

theorem afterPerforming_keeps (monitor : Monitor) (op : HopOp) (answer : op.Answer) :
    (monitor.delivered = true → (afterPerforming monitor op answer).delivered = true) ∧
    (monitor.responded = true → (afterPerforming monitor op answer).responded = true) := by
  unfold afterPerforming
  split
  all_goals first
    | exact ⟨id, id⟩
    | exact ⟨fun _ => rfl, id⟩
    | exact ⟨id, fun _ => rfl⟩
    | exact afterRead_keeps monitor _ _

theorem deliversWhole_delivers {event : HopEvent} (whole : deliversWhole event = true)
    (monitor : Monitor) : (afterPerforming monitor event.op event.answer).delivered = true := by
  unfold deliversWhole at whole
  split at whole
  · rfl
  · cases whole

theorem beginsResponse_responds {event : HopEvent} (begins : beginsResponse event = true)
    (monitor : Monitor) : (afterPerforming monitor event.op event.answer).responded = true := by
  have afterData (stream : Nat) (first : UInt8) (rest : List UInt8) :
      (monitor.afterRead stream (.data first rest)).responded = true := by
    unfold Monitor.afterRead
    dsimp only
    split
    · rfl
    · rfl
  unfold beginsResponse at begins
  split at begins
  · exact afterData _ _ _
  · exact afterData _ _ _
  · rfl
  · rfl
  · cases begins

/-! ## The laws -/

section Laws

variable {settings : HopSettings} {rounds : Nat} {request : List UInt8}
  {stickyKey : Option UInt64}

/-- The whole call keeps the discipline from its start. -/
theorem call_meets : (discipline settings request).Meets
    (sendWorkerFrameToPool settings rounds request stickyKey).run Monitor.initial
    (Contract.onOk fun _ _ => True) :=
  sendWorkerFrameToPool_meets rounds stickyKey ⟨⟨rfl, fun _ => rfl⟩, rfl⟩

private theorem allowed_write {monitor : Monitor} {event : HopEvent}
    (writes : writesRequest event = true)
    (allowed : (discipline settings request).allows monitor event.op) :
    (∃ stream, event.op = .writeAll stream request) ∧ monitor.MayWrite settings.kind := by
  unfold writesRequest at writes
  split at writes
  · rename_i stream bytes isWrite
    rw [isWrite] at allowed
    obtain ⟨_, sameBytes, mayWrite⟩ := allowed
    rw [sameBytes] at isWrite
    exact ⟨⟨stream, isWrite⟩, mayWrite⟩
  · cases writes

/-- Every write is of the request. -/
theorem writes_request {events : List HopEvent}
    (trace : (sendWorkerFrameToPool settings rounds request stickyKey).run.Trace events) :
    ∀ event ∈ events, writesRequest event = true → ∃ stream, event.op = .writeAll stream request := by
  intro event member writes
  obtain ⟨before, after, split⟩ := List.append_of_mem member
  rw [split] at trace
  exact (allowed_write writes (call_meets.allowed_of_trace trace)).1

/-- Once a write of the whole request has succeeded, an async pool is not written to. -/
theorem no_write_after_delivery (async : settings.kind = .async) {before after : List HopEvent}
    {event : HopEvent}
    (trace : (sendWorkerFrameToPool settings rounds request stickyKey).run.Trace
      (before ++ event :: after))
    (whole : deliversWhole event = true) : ∀ later ∈ after, writesRequest later = false := by
  intro later member
  obtain ⟨monitor, delivered, allowed⟩ := call_meets.forbidden_after
    (fun monitor op answer => (afterPerforming_keeps monitor op answer).1) trace
    (deliversWhole_delivers whole) later member
  rw [Bool.eq_false_iff]
  intro writes
  have notDelivered := (allowed_write writes allowed).2.notDelivered async
  rw [delivered] at notDelivered
  cases notDelivered

private theorem countP_le_one {α : Type} {marked : α → Bool} {items : List α}
    (noneAfter : ∀ before item after, items = before ++ item :: after → marked item = true →
      ∀ later ∈ after, marked later = false) : items.countP marked ≤ 1 := by
  induction items with
  | nil => exact Nat.zero_le 1
  | cons item rest inductionHypothesis =>
      rw [List.countP_cons]
      split
      · rename_i isMarked
        have none : rest.countP marked = 0 := by
          rw [List.countP_eq_zero]
          intro later member
          rw [noneAfter [] item rest rfl isMarked later member]
          exact Bool.false_ne_true
        rw [none]
      · apply inductionHypothesis
        intro before other after split
        rw [split] at noneAfter
        exact noneAfter (item :: before) other after rfl

private theorem writesRequest_of_deliversWhole {event : HopEvent}
    (whole : deliversWhole event = true) : writesRequest event = true := by
  unfold deliversWhole at whole
  split at whole
  · rfl
  · cases whole

/-- At most once to an async pool. In every trace of a call, whatever the sockets, the
pool, the gauges and the client do: every write on a worker connection is of the whole
request frame, at most one of them succeeds, and none comes after it. -/
theorem async_request_delivered_at_most_once (async : settings.kind = .async)
    {events : List HopEvent}
    (trace : (sendWorkerFrameToPool settings rounds request stickyKey).run.Trace events) :
    (∀ event ∈ events, writesRequest event = true →
      ∃ stream, event.op = .writeAll stream request) ∧
    events.countP deliversWhole ≤ 1 ∧
    ∀ before event after, events = before ++ event :: after → deliversWhole event = true →
      ∀ later ∈ after, writesRequest later = false := by
  have noneAfter : ∀ before event after, events = before ++ event :: after →
      deliversWhole event = true → ∀ later ∈ after, writesRequest later = false := by
    intro before event after split whole
    rw [split] at trace
    exact no_write_after_delivery async trace whole
  refine ⟨writes_request trace, ?_, noneAfter⟩
  apply countP_le_one
  intro before event after split whole later member
  have notWritten := noneAfter before event after split whole later member
  rw [Bool.eq_false_iff] at notWritten ⊢
  intro laterWhole
  exact notWritten (writesRequest_of_deliversWhole laterWhole)

/-- No replay once a response has begun, for either kind of worker: in every trace of a
call, behind an event that reads a response byte from a worker or writes downstream
there is no write on a worker connection. -/
theorem no_replay_after_response_begins {before after : List HopEvent} {event : HopEvent}
    (trace : (sendWorkerFrameToPool settings rounds request stickyKey).run.Trace
      (before ++ event :: after))
    (begins : beginsResponse event = true) : ∀ later ∈ after, writesRequest later = false := by
  intro later member
  obtain ⟨monitor, responded, allowed⟩ := call_meets.forbidden_after
    (fun monitor op answer => (afterPerforming_keeps monitor op answer).2) trace
    (beginsResponse_responds begins) later member
  rw [Bool.eq_false_iff]
  intro writes
  have noResponse := (allowed_write writes allowed).2.noResponse
  rw [responded] at noResponse
  cases noResponse

end Laws

/-! ## Traces of a pooled connection that goes away -/

/-- One uncapped worker. -/
def oneWorker (kind : WorkerKind) : HopSettings where
  kind := kind
  mode := .rr
  cap := none
  workers := 1
  keepaliveEnabled := true
  acceptsStatus _ := true
  acceptsHeader _ _ := true

def pooledConn : IdleConn := ⟨⟨7, .new⟩, rfl⟩

/-- A pooled connection takes the whole request. -/
def deliveryTrace (request : List UInt8) : List HopEvent :=
  [⟨.nextWorker, (0 : Nat)⟩, ⟨.inFlightDepths, fun _ => (0 : Nat)⟩, ⟨.drainBorrow, false⟩,
    ⟨.poolGet 0, some pooledConn⟩, ⟨.soleOwner 7, true⟩, ⟨.probe 7, true⟩, ⟨.acquire 0, ()⟩,
    ⟨.writeAll 7 request, WriteAnswer.done⟩]

/-- The peer goes away without an answer. -/
def wentAway : HopEvent := ⟨.read 7, ReadAnswer.eof⟩

/-- The law at a connection that goes away without an answer. -/
theorem async_request_delivered_at_most_once_stale :
    (deliveryTrace [0xbf] ++ [wentAway]).any deliversWhole = true ∧
      (deliveryTrace [0xbf] ++ [wentAway]).countP deliversWhole ≤ 1 := by
  have trace : (sendWorkerFrameToPool (oneWorker .async) 1 [0xbf] none).run.Trace
      (deliveryTrace [0xbf] ++ [wentAway]) :=
    .step _ (.step _ (.step _ (.step _ (.step _ (.step _ (.step _ (.step _ (.step _
      (.cut _)))))))))
  exact ⟨rfl, (async_request_delivered_at_most_once rfl trace).2.1⟩

/-- The request on a fresh connection. -/
def replayed (request : List UInt8) : List HopEvent :=
  [⟨.connect 0, some (8 : Nat)⟩, ⟨.writeAll 8 request, WriteAnswer.done⟩]

-- a classic pool does get the request twice
example : (sendWorkerFrameToPool (oneWorker .classic) 1 [0xbf] none).run.Trace
      (deliveryTrace [0xbf] ++ wentAway :: replayed [0xbf]) ∧
    (deliveryTrace [0xbf] ++ wentAway :: replayed [0xbf]).countP deliversWhole = 2 :=
  ⟨.step _ (.step _ (.step _ (.step _ (.step _ (.step _ (.step _ (.step _ (.step _ (.step _
    (.step _ (.cut _))))))))))), rfl⟩

/-- One byte of a response. -/
def firstByte : HopEvent := ⟨.read 7, ReadAnswer.data 0xbf []⟩

/-- The law at a classic connection that goes away after one byte. -/
theorem no_replay_after_response_begins_torn :
    (sendWorkerFrameToPool (oneWorker .classic) 1 [0xbf] none).run.Trace
      (deliveryTrace [0xbf] ++ firstByte :: [wentAway]) ∧
    ∀ later ∈ [wentAway], writesRequest later = false := by
  have trace : (sendWorkerFrameToPool (oneWorker .classic) 1 [0xbf] none).run.Trace
      (deliveryTrace [0xbf] ++ firstByte :: [wentAway]) :=
    .step _ (.step _ (.step _ (.step _ (.step _ (.step _ (.step _ (.step _ (.step _ (.step _
      (.cut _))))))))))
  exact ⟨trace, no_replay_after_response_begins trace rfl⟩

end Oxo.Edge.FrameHop
