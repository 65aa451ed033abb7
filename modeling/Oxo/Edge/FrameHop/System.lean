import Mathlib.Logic.Relation
import Oxo.Core.HopFrame.Request
import Oxo.Edge.FrameHop.Discipline

/-!
Contract: many calls, one pool and the workers behind it.

Owns: the connections with both directions of their bytes, the pool, what the workers
have answered, the effect of a call's operations on these, and the steps of the whole
system in any interleaving.

Does not own: gauges, pins and drain, whose operations may get any answer; nor what
holds of a run.
-/

namespace Oxo.Edge.FrameHop

open Oxo.Foundation Oxo.Core.HopFrame

/-! ## Workers -/

/-- A whole response of frames that fit the wire, the only thing a worker sends. -/
structure Response where
  frames : List ResponseFrame
  complete : Complete frames
  fits : ∀ frame ∈ frames, frame.FitsWire

/-- A request frame, as an encoder writes one. -/
def IsRequest (bytes : List UInt8) : Prop :=
  ∃ req, encodeRequest req = .ok bytes

/-- Bytes, each with the call that wrote it. -/
abbrev Tagged := List (Nat × UInt8)

/-- The bytes of one call. -/
def tagged (pid : Nat) (bytes : List UInt8) : Tagged :=
  bytes.map fun byte => (pid, byte)

/-- A request frame that a worker has read off a connection, and its response. -/
structure Answered where
  request : Tagged
  response : Response

/-! ## Connections -/

/-- One connection. `up` was written and is not yet read by the worker, `down` is what
the worker has still to send or the edge to read; `sent` and `got` are what the edge
has written and read since it last obtained the connection. -/
structure Wire where
  up : Tagged
  down : List UInt8
  sent : List UInt8
  got : List UInt8

namespace Wire

def fresh : Wire := ⟨[], [], [], []⟩

/-- A new holder. -/
def obtained (wire : Wire) : Wire :=
  { wire with sent := [], got := [] }

/-- The edge writes. -/
def write (wire : Wire) (pid : Nat) (bytes : List UInt8) : Wire :=
  { wire with up := wire.up ++ tagged pid bytes, sent := wire.sent ++ bytes }

/-- The edge reads. -/
def read (wire : Wire) (bytes rest : List UInt8) : Wire :=
  { wire with down := rest, got := wire.got ++ bytes }

/-- The worker reads a request frame and leaves `rest`, and will send the response. -/
def answer (wire : Wire) (rest : Tagged) (response : Response) : Wire :=
  { wire with up := rest, down := wire.down ++ Core.HopFrame.wire response.frames }

end Wire

/-! ## What calls share -/

structure Shared where
  wires : Nat → Wire
  /-- connections from here on do not exist yet -/
  next : Nat
  pool : List (Nat × IdleConn)
  answered : List Answered

namespace Shared

def initial : Shared := ⟨fun _ => .fresh, 0, [], []⟩

def setWire (shared : Shared) (stream : Nat) (wire : Wire) : Shared :=
  { shared with wires := Function.update shared.wires stream wire }

@[simp] theorem setWire_self (shared : Shared) (stream : Nat) (wire : Wire) :
    (shared.setWire stream wire).wires stream = wire :=
  Function.update_self ..

theorem setWire_of_ne (shared : Shared) {stream other : Nat} (wire : Wire)
    (different : other ≠ stream) :
    (shared.setWire stream wire).wires other = shared.wires other :=
  Function.update_of_ne different ..

/-- A read takes an opening of what the worker sends. -/
def Reads (before : Shared) (stream : Nat) (bytes : List UInt8) (after : Shared) : Prop :=
  ∃ rest, (before.wires stream).down = bytes ++ rest ∧
    after = before.setWire stream ((before.wires stream).read bytes rest)

end Shared

/-- What an operation of call `pid` does to the shared state, and with which answers.
The pool gives any of a worker's entries; a connection may end at any time; all other
operations leave the shared state alone and may get any answer. -/
def Effect (pid : Nat) (before : Shared) : (op : HopOp) → op.Answer → Shared → Prop
  | .poolGet idx, (some idle : Option IdleConn), after =>
      ∃ front back, before.pool = front ++ (idx, idle) :: back ∧
        after = { before.setWire idle.conn.stream (before.wires idle.conn.stream).obtained with
          pool := front ++ back }
  | .connect _, (some stream : Option Nat), after =>
      stream = before.next ∧
        after = { before.setWire stream .fresh with next := stream + 1 }
  | .poolPut idx idle, _, after => after = { before with pool := before.pool ++ [(idx, idle)] }
  | .writeAll stream bytes, .done, after =>
      after = before.setWire stream ((before.wires stream).write pid bytes)
  | .writeAll stream bytes, .failed written, after =>
      after = before.setWire stream ((before.wires stream).write pid (bytes.take written))
  | .read stream, .data first rest, after => before.Reads stream (first :: rest) after
  | .readOrDrain stream, some (.data first rest), after =>
      before.Reads stream (first :: rest) after
  | _, _, after => after = before

/-! ## Calls -/

/-- Where a call enters the hop. -/
inductive Entry where
  | sendToWorker (idx : Nat)
  | sendWorkerFrameToPool (stickyKey : Option UInt64)

def Entry.program (settings : HopSettings) (rounds : Nat) (request : List UInt8) :
    Entry → Hop Unit
  | .sendToWorker idx => do
      let _ ← (FrameHop.sendToWorker settings rounds idx request).run
  | .sendWorkerFrameToPool stickyKey => do
      let _ ← (FrameHop.sendWorkerFrameToPool settings rounds request stickyKey).run

/-- A call: its request frame, what it has still to do, and its writes downstream. -/
structure Call where
  request : List UInt8
  program : Hop Unit
  log : List Downstream

/-- The downstream writes of an operation. -/
def downstreamOf : HopOp → List Downstream
  | .writeHeader header last => [.header header last]
  | .writeBody body last => [.body body last]
  | _ => []

/-! ## The system -/

structure System where
  shared : Shared
  calls : Nat → Option Call

namespace System

def initial : System := ⟨.initial, fun _ => none⟩

def setCall (system : System) (pid : Nat) (call : Call) : System :=
  { system with calls := Function.update system.calls pid (some call) }

@[simp] theorem setCall_self (system : System) (pid : Nat) (call : Call) :
    (system.setCall pid call).calls pid = some call :=
  Function.update_self ..

theorem setCall_of_ne (system : System) {pid other : Nat} (call : Call) (different : other ≠ pid) :
    (system.setCall pid call).calls other = system.calls other :=
  Function.update_of_ne different ..

/-- One step of the system. -/
inductive Step (settings : HopSettings) : System → System → Prop where
  /-- a client request arrives as a call of its own -/
  | arrive {system : System} (pid rounds : Nat) (entry : Entry) (request : List UInt8)
      (absent : system.calls pid = none) (isRequest : IsRequest request) :
      Step settings system
        (system.setCall pid ⟨request, entry.program settings rounds request, []⟩)
  /-- a call performs its next operation -/
  | perform {system : System} {call : Call} {after : Shared} (pid : Nat) (op : HopOp)
      {next : op.Answer → Hop Unit} (answer : op.Answer)
      (present : system.calls pid = some call) (pending : call.program = .call op next)
      (effect : Effect pid system.shared op answer after) :
      Step settings system
        ({ system with shared := after }.setCall pid
          ⟨call.request, next answer, call.log ++ downstreamOf op⟩)
  /-- a call is cancelled wherever it stands -/
  | cancel {system : System} {pid : Nat} {call : Call} (present : system.calls pid = some call) :
      Step settings system (system.setCall pid { call with program := .stop })
  /-- a worker has read a whole request frame and answers it -/
  | answer {system : System} (stream : Nat) (request rest : Tagged) (response : Response)
      (arrived : (system.shared.wires stream).up = request ++ rest)
      (whole : IsRequest (request.map Prod.snd)) :
      Step settings system
        { system with
          shared := { system.shared.setWire stream
              ((system.shared.wires stream).answer rest response) with
            answered := system.shared.answered ++ [⟨request, response⟩] } }
  /-- an idle connection leaves the pool and is closed -/
  | evict {system : System} {front back : List (Nat × IdleConn)} {entry : Nat × IdleConn}
      (pooled : system.shared.pool = front ++ entry :: back) :
      Step settings system
        { system with shared := { system.shared with pool := front ++ back } }

/-- The states of every run. -/
def Reachable (settings : HopSettings) : System → Prop :=
  Relation.ReflTransGen (Step settings) initial

end System

end Oxo.Edge.FrameHop
