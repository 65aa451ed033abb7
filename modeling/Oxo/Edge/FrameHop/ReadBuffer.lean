import Oxo.Edge.FrameHop.Operations

/-!
Contract: reading response frames from a worker connection
(`oxo-pingora-edge/src/platform/frame_hop.rs`, `FrameReadBuffer`).

Owns: filling the buffer, taking whole frames off its front, and the race of a read
against the drain signal.

Does not own: what the frames mean for the exchange.
-/

namespace Oxo.Edge.FrameHop

open Oxo.Foundation Oxo.Core.HopFrame

def maxResponseHeaderBytes : Nat := 64 * 1024

def maxResponseBytes : Nat := 64 * 1024 * 1024

def responseFrameCaps : FrameCaps where
  maxHeaderBytes := UInt32.ofNat maxResponseHeaderBytes
  maxHeaders := 100
  maxBodyBytes := (u32TryFrom maxResponseBytes).getD (UInt32.ofNat (2 ^ 32 - 1))

/-- A result that needs no operation. -/
def settled {ε α : Type} (result : Except ε α) : ExceptT ε Hop α :=
  ExceptT.mk (pure result)

namespace FrameReadBuffer

/-- Reclaim consumed front space. -/
def compact (rbuf : FrameReadBuffer) : FrameReadBuffer :=
  if rbuf.pos = 0 then rbuf
  else if rbuf.available = 0 then ⟨[], 0, bounded_nil⟩
  else ⟨rbuf.buf.drop rbuf.pos, 0, Nat.zero_le _⟩

/-- The bytes of one read, behind what is there. -/
def append (rbuf : FrameReadBuffer) (bytes : List UInt8) : FrameReadBuffer :=
  ⟨rbuf.buf ++ bytes, rbuf.pos, by
    rw [List.length_append]
    exact Nat.le_trans rbuf.bounded (Nat.le_add_right ..)⟩

theorem available_append (rbuf : FrameReadBuffer) (bytes : List UInt8) :
    (rbuf.append bytes).available = rbuf.available + bytes.length := by
  have bounded := rbuf.bounded
  simp only [append, available, List.length_append]
  omega

theorem shortfall_enough (rbuf : FrameReadBuffer) (needed : Nat) :
    needed ≤ rbuf.available + (needed - rbuf.available) := by omega

/-- A buffer that holds at least `needed` bytes. -/
abbrev Filled (needed : Nat) := { rbuf : FrameReadBuffer // needed ≤ rbuf.available }

/-- The read loop of `fill_to`. Every read brings a byte, so `shortfall` reads are
enough. -/
def fillLoop (stream needed : Nat) (eofOkAtZero : Bool) : (shortfall : Nat) →
    (rbuf : FrameReadBuffer) → needed ≤ rbuf.available + shortfall →
    ExceptT UInt16 Hop (Option (Filled needed))
  | 0, rbuf, enough => pure (some ⟨rbuf, enough⟩)
  | shortfall + 1, rbuf, enough =>
      if filled : needed ≤ rbuf.available then pure (some ⟨rbuf, filled⟩)
      else do
        match ← Hop.read stream with
        | ReadAnswer.data first rest =>
            fillLoop stream needed eofOkAtZero shortfall (rbuf.append (first :: rest)) (by
              rw [available_append, List.length_cons]
              omega)
        -- a reset before any byte is the same went-away signature as EOF
        | ReadAnswer.reset | ReadAnswer.eof =>
            if eofOkAtZero && rbuf.available == 0 then pure none else throw 502
        | ReadAnswer.failed => throw 502

/-- Fill to at least `needed` bytes. `none` only when `eofOkAtZero` and the peer went
away with nothing available. -/
def fillTo (rbuf : FrameReadBuffer) (stream needed : Nat) (eofOkAtZero : Bool) :
    ExceptT UInt16 Hop (Option (Filled needed)) :=
  fillLoop stream needed eofOkAtZero (needed - rbuf.available) rbuf (by omega)

def prefixBytes (rbuf : FrameReadBuffer) : PrefixBytes :=
  Core.HopFrame.prefixBytes rbuf.pending

/-- The length of the frame the prefix declares, prefix included. -/
def frameTotal (rbuf : FrameReadBuffer) : Except UInt16 Nat :=
  match FramePrefix.parse rbuf.prefixBytes responseFrameCaps with
  | .ok parsed => .ok (framePrefixLen + parsed.remainingLength.toNat)
  | .error _ => .error 502

/-- The length of a whole buffered frame, if there is one. -/
def bufferedFrameLen (rbuf : FrameReadBuffer) :
    Except UInt16 (Option { total : Nat // total ≤ rbuf.available }) :=
  if rbuf.available < framePrefixLen then .ok none
  else match rbuf.frameTotal with
    | .ok total => .ok (if whole : rbuf.available ≥ total then some ⟨total, whole⟩ else none)
    | .error status => .error status

/-- Decode the frame at the front, consuming exactly its bytes. -/
def decodeFront (rbuf : FrameReadBuffer) (total : Nat) (whole : total ≤ rbuf.available) :
    Except UInt16 (ResponseFrame × FrameReadBuffer) :=
  match decodeResponse ((rbuf.buf.drop (rbuf.pos + framePrefixLen)).take (total - framePrefixLen))
      responseFrameCaps with
  | .ok frame => .ok (frame, ⟨rbuf.buf, rbuf.pos + total, by
      have bounded := rbuf.bounded
      unfold available at whole
      omega⟩)
  | .error _ => .error 502

/-- The envelope of the frame whose prefix is there, then the frame. -/
def finishFrame (rbuf : FrameReadBuffer) (stream : Nat) :
    ExceptT UInt16 Hop (ResponseFrame × FrameReadBuffer) := do
  let total ← settled rbuf.frameTotal
  match ← rbuf.fillTo stream total false with
  | some filled => settled (filled.val.decodeFront total filled.property)
  | none => throw 502

/-- Read one response frame. `none` is a clean EOF before any byte. -/
def readFrame (rbuf : FrameReadBuffer) (stream : Nat) (firstOfExchange : Bool) :
    ExceptT UInt16 Hop (Option (ResponseFrame × FrameReadBuffer)) := do
  match ← rbuf.compact.fillTo stream framePrefixLen firstOfExchange with
  | none => pure none
  | some filled => do
      let frame ← filled.val.finishFrame stream
      pure (some frame)

/-- The read loop raced against the drain signal, which may win any wait. -/
def fillLoopOrDrain (stream needed : Nat) : (shortfall : Nat) → (rbuf : FrameReadBuffer) →
    needed ≤ rbuf.available + shortfall → ExceptT UInt16 Hop (Option (Filled needed))
  | 0, rbuf, enough => pure (some ⟨rbuf, enough⟩)
  | shortfall + 1, rbuf, enough =>
      if filled : needed ≤ rbuf.available then pure (some ⟨rbuf, filled⟩)
      else do
        match ← Hop.readOrDrain stream with
        | none => pure none
        | some (ReadAnswer.data first rest) =>
            fillLoopOrDrain stream needed shortfall (rbuf.append (first :: rest)) (by
              rw [available_append, List.length_cons]
              omega)
        | some ReadAnswer.reset | some ReadAnswer.eof | some ReadAnswer.failed => throw 502

/-- Read one frame, or `none` when the drain signal fires. A whole buffered frame is
decoded without touching the socket. -/
def readFrameOrDrain (rbuf : FrameReadBuffer) (stream : Nat) :
    ExceptT UInt16 Hop (Option (ResponseFrame × FrameReadBuffer)) := do
  let rbuf := rbuf.compact
  match ← settled rbuf.bufferedFrameLen with
  | some total => do
      let frame ← settled (rbuf.decodeFront total.val total.property)
      pure (some frame)
  | none => do
      if ← Hop.drainChanged then pure none
      else do
        match ← fillLoopOrDrain stream framePrefixLen (framePrefixLen - rbuf.available) rbuf
            (by omega) with
        | none => pure none
        | some filled => do
            let frame ← filled.val.finishFrame stream
            pure (some frame)

end FrameReadBuffer

end Oxo.Edge.FrameHop
