import Oxo.Core.HopFrame.Stream
import Oxo.Edge.FrameHop.Exchange

/-!
Contract: the discipline the frame hop keeps towards workers and client.

Owns: what one call has written downstream, what it has done on each connection it
holds, and the contract on its operations: when it may write a request, read, pool a
connection or write downstream.

Does not own: that the hop keeps the discipline, nor what follows for the workers.
-/

namespace Oxo.Edge.FrameHop

open Oxo.Foundation Oxo.Core.HopFrame

/-! ## Downstream -/

/-- A write on the downstream session, whether or not it succeeded. -/
inductive Downstream where
  | header (header : ResponseHeader) (last : Bool)
  | body (body : Option (List UInt8)) (last : Bool)

/-- The heads among the writes. -/
def headsOf : List Downstream → List ResponseHeader
  | [] => []
  | .header header _ :: rest => header :: headsOf rest
  | .body _ _ :: rest => headsOf rest

/-- The body bytes among the writes. -/
def bodyOf : List Downstream → List UInt8
  | [] => []
  | .header _ _ :: rest => bodyOf rest
  | .body body _ :: rest => body.getD [] ++ bodyOf rest

@[simp] theorem headsOf_append (left right : List Downstream) :
    headsOf (left ++ right) = headsOf left ++ headsOf right := by
  induction left with
  | nil => rfl
  | cons write rest inductionHypothesis =>
      cases write <;> simp [headsOf, inductionHypothesis]

@[simp] theorem bodyOf_append (left right : List Downstream) :
    bodyOf (left ++ right) = bodyOf left ++ bodyOf right := by
  induction left with
  | nil => rfl
  | cons write rest inductionHypothesis =>
      cases write <;> simp [bodyOf, inductionHypothesis]

/-- The head a response gives downstream: that of its first frame. -/
def responseHead (settings : HopSettings) : List ResponseFrame → Except UInt16 ResponseHeader
  | .full status headers body :: _ => buildResponseHeader settings status headers body.length
  | .head status headers :: _ => buildResponseChunkedHeader settings status headers
  | _ => .error 502

/-- The writes say nothing but what the frames say: at most their head, and an opening
of their body bytes. -/
structure TakenFrom (settings : HopSettings) (frames : List ResponseFrame)
    (log : List Downstream) : Prop where
  heads : headsOf log = [] ∨ ∃ header, headsOf log = [header] ∧
    responseHead settings frames = .ok header
  body : bodyOf log <+: frames.flatMap ResponseFrame.bytes

theorem responseHead_of_prefix {settings : HopSettings} {frames response : List ResponseFrame}
    {header : ResponseHeader} (opens : frames <+: response)
    (built : responseHead settings frames = .ok header) :
    responseHead settings response = .ok header := by
  cases frames with
  | nil => cases built
  | cons frame rest =>
      obtain ⟨tail, rfl⟩ := opens
      cases frame with
      | full | head => exact built
      | chunk | endOfStream => cases built

/-- What is taken from the opening of a response is taken from the response. -/
theorem TakenFrom.mono {settings : HopSettings} {frames response : List ResponseFrame}
    {log : List Downstream} (taken : TakenFrom settings frames log) (opens : frames <+: response) :
    TakenFrom settings response log := by
  apply TakenFrom.mk
  · rcases taken.heads with none | ⟨header, only, built⟩
    · exact .inl none
    · exact .inr ⟨header, only, responseHead_of_prefix opens built⟩
  · have bytesPrefix : frames.flatMap ResponseFrame.bytes <+:
        response.flatMap ResponseFrame.bytes := by
      obtain ⟨tail, rfl⟩ := opens
      rw [List.flatMap_append]
      exact List.prefix_append _ _
    exact taken.body.trans bytesPrefix

/-! ## Connections -/

/-- What has happened on a held connection since it was obtained: nothing, the whole
request was written and these bytes came back, or a write broke off. -/
inductive Phase where
  | idle
  | sent (got : List UInt8)
  | spoiled

/-- What one call has done so far. -/
structure Monitor where
  phase : Nat → Option Phase
  /-- some write of the whole request succeeded -/
  delivered : Bool
  /-- a response byte was read, or downstream was written to -/
  responded : Bool
  log : List Downstream

namespace Monitor

def initial : Monitor := ⟨fun _ => none, false, false, []⟩

def setPhase (monitor : Monitor) (stream : Nat) (phase : Option Phase) : Monitor :=
  { monitor with phase := Function.update monitor.phase stream phase }

@[simp] theorem setPhase_phase (monitor : Monitor) (stream : Nat) (phase : Option Phase) :
    (monitor.setPhase stream phase).phase stream = phase :=
  Function.update_self ..

/-- After a read on a connection. -/
def afterRead (monitor : Monitor) (stream : Nat) : ReadAnswer → Monitor
  | .data first rest =>
      match monitor.phase stream with
      | some (.sent got) =>
          { monitor.setPhase stream (some (.sent (got ++ first :: rest))) with responded := true }
      | _ => { monitor with responded := true }
  | .eof | .reset | .failed => monitor

/-- After a write downstream. -/
def afterDownstream (monitor : Monitor) (write : Downstream) : Monitor :=
  { monitor with responded := true, log := monitor.log ++ [write] }

/-- The request may be written (again). -/
structure MayWrite (kind : WorkerKind) (monitor : Monitor) : Prop where
  noResponse : monitor.responded = false
  notDelivered : kind = .async → monitor.delivered = false

/-- The connection is as new, or has carried one request and its whole response. -/
def MayPool (monitor : Monitor) (stream : Nat) : Prop :=
  monitor.phase stream = some .idle ∨
    ∃ frames, Complete frames ∧ (∀ frame ∈ frames, frame.FitsWire) ∧
      monitor.phase stream = some (.sent (wire frames))

/-- The write is taken from frames that were read behind the request. -/
def MayRelay (settings : HopSettings) (monitor : Monitor) (write : Downstream) : Prop :=
  ∃ stream got frames, monitor.phase stream = some (.sent got) ∧
    frames ≠ [] ∧ (∀ frame ∈ frames, frame.FitsWire) ∧ wire frames <+: got ∧
    TakenFrom settings frames (monitor.log ++ [write])

end Monitor

/-! ## The discipline -/

/-- When the hop may perform an operation. -/
def mayPerform (settings : HopSettings) (request : List UInt8) (monitor : Monitor) :
    HopOp → Prop
  | .writeAll stream bytes =>
      monitor.phase stream = some .idle ∧ bytes = request ∧ monitor.MayWrite settings.kind
  | .read stream | .readOrDrain stream => ∃ got, monitor.phase stream = some (.sent got)
  | .poolPut _ idle => monitor.MayPool idle.conn.stream
  | .writeHeader header last => monitor.MayRelay settings (.header header last)
  | .writeBody body last => monitor.MayRelay settings (.body body last)
  | _ => True

/-- What an operation and its answer change. -/
def afterPerforming (monitor : Monitor) : (op : HopOp) → op.Answer → Monitor
  | .poolGet _, (some idle : Option IdleConn) => monitor.setPhase idle.conn.stream (some .idle)
  | .connect _, (some stream : Option Nat) => monitor.setPhase stream (some .idle)
  | .poolPut _ idle, _ => monitor.setPhase idle.conn.stream none
  | .writeAll stream _, .done =>
      { monitor.setPhase stream (some (.sent [])) with delivered := true }
  | .writeAll stream _, .failed _ => monitor.setPhase stream (some .spoiled)
  | .read stream, answer => monitor.afterRead stream answer
  | .readOrDrain stream, (some answer : Option ReadAnswer) => monitor.afterRead stream answer
  | .writeHeader header last, _ => monitor.afterDownstream (.header header last)
  | .writeBody body last, _ => monitor.afterDownstream (.body body last)
  | _, _ => monitor

/-- One call with this request. -/
def discipline (settings : HopSettings) (request : List UInt8) :
    Contract HopOp HopOp.Answer Monitor where
  allows := mayPerform settings request
  after := afterPerforming

end Oxo.Edge.FrameHop
