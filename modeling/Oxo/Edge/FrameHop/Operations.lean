import Oxo.Core.HopFrame
import Oxo.Edge.FrameHop.Dispatch
import Oxo.Foundation.Program

/-!
Contract: what the frame hop asks of its surroundings
(`oxo-pingora-edge/src/platform/frame_hop.rs`).

Owns: the read buffer of a connection, the operations on sockets, pool, gauges,
pins, long-lived admission and the downstream session, and their answers.

Does not own: when the hop performs them. Any answer of the right type may come
back; a connection that is no longer held is closed, so there is no operation for
dropping one, nor for the guards that are released on scope exit.
-/

namespace Oxo.Edge.FrameHop

open Oxo.Foundation Oxo.Core.HopFrame

/-! ## Connections -/

/-- Unconsumed bytes live in `buf` from `pos` on. -/
structure FrameReadBuffer where
  buf : List UInt8
  pos : Nat
  bounded : pos ≤ buf.length

namespace FrameReadBuffer

theorem bounded_nil : 0 ≤ ([] : List UInt8).length := Nat.le_refl 0

def new : FrameReadBuffer := ⟨[], 0, bounded_nil⟩

def available (rbuf : FrameReadBuffer) : Nat :=
  rbuf.buf.length - rbuf.pos

/-- Bytes left after a frame boundary. -/
def hasSurplus (rbuf : FrameReadBuffer) : Bool :=
  decide (rbuf.available > 0)

/-- The unconsumed bytes. -/
def pending (rbuf : FrameReadBuffer) : List UInt8 :=
  rbuf.buf.drop rbuf.pos

@[simp] theorem pending_length (rbuf : FrameReadBuffer) :
    rbuf.pending.length = rbuf.available := by
  simp [pending, available]

end FrameReadBuffer

structure PooledConn where
  stream : Nat
  rbuf : FrameReadBuffer

/-- A connection as the pool holds it: nothing in its read buffer. -/
structure IdleConn where
  conn : PooledConn
  clean : conn.rbuf.hasSurplus = false

/-! ## Downstream -/

structure ResponseHeader where
  status : UInt16
  headers : List (String × String)
deriving DecidableEq

/-! ## Operations -/

/-- How `write_all` of `length` bytes ends: whole, or after fewer bytes by an error
or a timeout. -/
inductive WriteAnswer (length : Nat) where
  | done
  | failed (written : Fin length)

/-- How one socket read ends. `failed` is any other error and the timeout. -/
inductive ReadAnswer where
  | data (first : UInt8) (rest : List UInt8)
  | eof
  | reset
  | failed

inductive HopOp where
  | drainBorrow
  | drainChanged
  | nextWorker
  | inFlightDepths
  | inFlight (idx : Nat)
  | parked
  | parkEnter
  | anyAdmittable (mask : BitVec 32) (k : Nat)
  | notifyOne
  | waitForSlot
  | stickyLookupOrAssign (key : UInt64) (n : Nat)
  | stickyNoteFallback
  | stickyReread (key : UInt64) (prior : Nat)
  | stickyRepin (key : UInt64) (pinned served : Nat)
  | poolGet (idx : Nat)
  | soleOwner (stream : Nat)
  | probe (stream : Nat)
  | connect (idx : Nat)
  | acquire (idx : Nat)
  | tryAcquire (idx k : Nat)
  | poolPut (idx : Nat) (idle : IdleConn)
  | writeAll (stream : Nat) (bytes : List UInt8)
  | read (stream : Nat)
  | readOrDrain (stream : Nat)
  | tryAdmit
  | recordBytes (count : Nat)
  | complete
  | completeDrained
  | writeHeader (header : ResponseHeader) (last : Bool)
  | writeBody (body : Option (List UInt8)) (last : Bool)

namespace HopOp

/-- The answers an operation may get. `waitForSlot` says whether the drain signal
ended the wait, `readOrDrain` has no answer when it won the race. -/
def Answer : HopOp → Type
  | drainBorrow | drainChanged | anyAdmittable _ _ | waitForSlot | soleOwner _ | probe _
  | tryAcquire _ _ | tryAdmit | recordBytes _ | writeHeader _ _ | writeBody _ _ => Bool
  | nextWorker | inFlight _ | parked | stickyLookupOrAssign _ _ | stickyReread _ _ => Nat
  | inFlightDepths => Nat → Nat
  | parkEnter | notifyOne | acquire _ | stickyNoteFallback | stickyRepin _ _ _ | poolPut _ _
  | complete | completeDrained => Unit
  | poolGet _ => Option IdleConn
  | connect _ => Option Nat
  | writeAll _ bytes => WriteAnswer bytes.length
  | read _ => ReadAnswer
  | readOrDrain _ => Option ReadAnswer

end HopOp

abbrev Hop := Program HopOp HopOp.Answer

abbrev HopEvent := Program.Event HopOp HopOp.Answer

/-! ## One operation each -/

namespace Hop

def drainBorrow : Hop Bool := Program.perform HopOp.drainBorrow

def drainChanged : Hop Bool := Program.perform HopOp.drainChanged

def nextWorker : Hop Nat := Program.perform HopOp.nextWorker

def inFlightDepths : Hop (Nat → Nat) := Program.perform HopOp.inFlightDepths

def inFlight (idx : Nat) : Hop Nat := Program.perform (HopOp.inFlight idx)

def parked : Hop Nat := Program.perform HopOp.parked

def parkEnter : Hop Unit := Program.perform HopOp.parkEnter

def anyAdmittable (mask : BitVec 32) (k : Nat) : Hop Bool :=
  Program.perform (HopOp.anyAdmittable mask k)

def notifyOne : Hop Unit := Program.perform HopOp.notifyOne

def waitForSlot : Hop Bool := Program.perform HopOp.waitForSlot

def stickyLookupOrAssign (key : UInt64) (n : Nat) : Hop Nat :=
  Program.perform (HopOp.stickyLookupOrAssign key n)

def stickyNoteFallback : Hop Unit := Program.perform HopOp.stickyNoteFallback

def stickyReread (key : UInt64) (prior : Nat) : Hop Nat :=
  Program.perform (HopOp.stickyReread key prior)

def stickyRepin (key : UInt64) (pinned served : Nat) : Hop Unit :=
  Program.perform (HopOp.stickyRepin key pinned served)

def poolGet (idx : Nat) : Hop (Option IdleConn) := Program.perform (HopOp.poolGet idx)

def soleOwner (stream : Nat) : Hop Bool := Program.perform (HopOp.soleOwner stream)

def probe (stream : Nat) : Hop Bool := Program.perform (HopOp.probe stream)

def connect (idx : Nat) : Hop (Option Nat) := Program.perform (HopOp.connect idx)

def acquire (idx : Nat) : Hop Unit := Program.perform (HopOp.acquire idx)

def tryAcquire (idx k : Nat) : Hop Bool := Program.perform (HopOp.tryAcquire idx k)

def poolPut (idx : Nat) (idle : IdleConn) : Hop Unit :=
  Program.perform (HopOp.poolPut idx idle)

def writeAll (stream : Nat) (bytes : List UInt8) : Hop (WriteAnswer bytes.length) :=
  Program.perform (HopOp.writeAll stream bytes)

def read (stream : Nat) : Hop ReadAnswer := Program.perform (HopOp.read stream)

def readOrDrain (stream : Nat) : Hop (Option ReadAnswer) :=
  Program.perform (HopOp.readOrDrain stream)

def tryAdmit : Hop Bool := Program.perform HopOp.tryAdmit

def recordBytes (count : Nat) : Hop Bool := Program.perform (HopOp.recordBytes count)

def complete : Hop Unit := Program.perform HopOp.complete

def completeDrained : Hop Unit := Program.perform HopOp.completeDrained

def writeHeader (header : ResponseHeader) (last : Bool) : Hop Bool :=
  Program.perform (HopOp.writeHeader header last)

def writeBody (body : Option (List UInt8)) (last : Bool) : Hop Bool :=
  Program.perform (HopOp.writeBody body last)

end Hop

end Oxo.Edge.FrameHop
