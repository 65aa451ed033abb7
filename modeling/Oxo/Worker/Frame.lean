import Oxo.Core.HopFrame
import Oxo.Core.Headers

/-!
Contract: the native worker's end of the frame hop
(`oxo-worker/src/native/frame.rs`).

Owns: the caps it decodes with and the conversion of a decoded frame into the
request the application sees.

Does not own: the socket loop, the job queue or the response path.
-/

namespace Oxo.Worker

open Oxo.Foundation Oxo.Core Oxo.Core.HopFrame

def maxHeaderBytes : Nat := 64 * 1024

def maxHeaders : Nat := 100

/-- The codec caps for a configured body limit, clamped to `u32`. -/
def frameCaps (maxBody : Nat) : FrameCaps where
  maxHeaderBytes := UInt32.ofNat maxHeaderBytes
  maxHeaders := UInt16.ofNat maxHeaders
  maxBodyBytes := (u32TryFrom maxBody).getD (UInt32.ofNat (2 ^ 32 - 1))

structure WorkerRequest where
  method : String
  path : String
  query : String
  serverName : String
  serverPort : UInt16
  urlScheme : String
  remoteAddr : String
  headers : List (String × String)
  body : List UInt8
deriving DecidableEq

/-- The application header a frame header becomes, if any. Reserved names are
dropped again on this side of the hop. -/
def appHeader (header : String × String) : Option (String × String) :=
  let lower := toAsciiLowercase header.1
  if lower = "host" then some ("host", header.2)
  else if lower = "connection" then none
  else if isClientForwardingHeader lower then none
  else if startsWith lower "x-oxo-" then none
  else (normalizeHeaderName lower).map fun normalized => (normalized, header.2)

def requestFrameToWorkerRequest (frame : RequestFrame) : WorkerRequest where
  method := frame.method
  path := frame.path
  query := frame.query
  serverName := frame.serverName
  serverPort := frame.serverPort
  urlScheme := frame.scheme.asStr
  remoteAddr := frame.remoteAddr
  headers := frame.headers.filterMap appHeader
  body := frame.body

/-- The body cap as a number. -/
theorem frameCaps_maxBodyBytes (maxBody : Nat) :
    (frameCaps maxBody).maxBodyBytes.toNat = min maxBody (2 ^ 32 - 1) := by
  unfold frameCaps u32TryFrom
  by_cases fits : maxBody < 2 ^ 32
  · simp only [if_pos fits, Option.getD_some]
    rw [UInt32.toNat_ofNat_of_lt' fits]
    omega
  · simp only [if_neg fits, Option.getD_none]
    rw [UInt32.toNat_ofNat_of_lt' (by decide)]
    omega

end Oxo.Worker
