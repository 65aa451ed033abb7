import Oxo.Core.HopFrame
import Oxo.Worker.Parser

/-!
Contract: the native worker's streaming responses
(`oxo-worker/src/native/frame.rs`, `oxo-worker/src/native/serve.rs`).

Owns: the events a response is made of, the frames and the HTTP bytes they are written as,
and the headers each writer keeps.

Does not own: the channel the events come through, or a socket that fails. An event list is
what the writer receives before the channel closes.
-/

namespace Oxo.Worker

open Oxo.Foundation Oxo.Core.HopFrame

/-! ## Events -/

structure WorkerResponseHead where
  status : UInt16
  headers : List (String × String)
deriving DecidableEq

def WorkerResponseHead.text (status : UInt16) : WorkerResponseHead where
  status := status
  headers := [("content-type", "text/plain; charset=utf-8")]

inductive WorkerEvent where
  | start (head : WorkerResponseHead)
  | chunk (chunk : List UInt8)
  | finish
deriving DecidableEq

/-- The first event gives the head, and anything else in its place is a failed job. -/
def headOf : List WorkerEvent → WorkerResponseHead × List WorkerEvent
  | [] => (.text 500, [])
  | .start head :: rest => (head, rest)
  | .chunk _ :: rest | .finish :: rest => (.text 500, rest)

/-- Headers that the host owns. -/
def isHostFraming (name : String) : Bool :=
  ["content-length", "transfer-encoding", "connection"].contains (toAsciiLowercase name)

def validResponseHeaderValue (value : String) : Bool :=
  (utf8 value).all fun byte => byte ≥ 0x20 && byte != 0x7f

/-! ## Frames -/

def sanitizeResponseHeaders (headers : List (String × String)) : List (String × String) :=
  headers.filter fun header =>
    !isHostFraming header.1 &&
      ((header.1 != "" && (utf8 header.1).all fun byte => byte > 0x20 && byte < 0x7f) &&
        validResponseHeaderValue header.2)

/-- A frame behind what is written; a frame that does not encode ends the connection there. -/
def writeFrame (frame : ResponseFrame) (written : List UInt8) :
    Except (List UInt8) (List UInt8) :=
  match encodeResponse frame with
  | .ok bytes => .ok (written ++ bytes)
  | .error _ => .error written

/-- The events behind the head, up to the end. -/
def writeChunkFrames : List WorkerEvent → List UInt8 → Except (List UInt8) (List UInt8)
  | [], written => .ok written
  | .start _ :: rest, written => writeChunkFrames rest written
  | .chunk chunk :: rest, written =>
      if chunk.isEmpty then writeChunkFrames rest written
      else do
        let written ← writeFrame (.chunk chunk) written
        writeChunkFrames rest written
  | .finish :: _, written => .ok written

/-- The bytes of a streamed response; an error carries the bytes in front of the frame that
failed. -/
def writeStreamingFrames (events : List WorkerEvent) : Except (List UInt8) (List UInt8) := do
  let head := (headOf events).1
  let written ← writeFrame (.head head.status (sanitizeResponseHeaders head.headers)) []
  let written ← writeChunkFrames (headOf events).2 written
  writeFrame .endOfStream written

/-! ## HTTP -/

inductive ResponseBodyMode where
  | fixed (length : Nat)
  | chunked
deriving DecidableEq

def reason (status : UInt16) : String :=
  match status.toNat with
  | 200 => "OK"
  | 400 => "Bad Request"
  | 403 => "Forbidden"
  | 413 => "Payload Too Large"
  | 431 => "Request Header Fields Too Large"
  | 500 => "Internal Server Error"
  | 503 => "Service Unavailable"
  | _ => "Status"

/-- The status a head is written with. -/
def writtenStatus (status : UInt16) : UInt16 :=
  if 100 ≤ status ∧ status ≤ 999 then status else 500

/-- The headers a head is written with: not the host's framing, and valid on the wire. -/
def emittedHeaders (headers : List (String × String)) : List (String × String) :=
  headers.filter fun header =>
    !isHostFraming header.1 && (validToken header.1 && validResponseHeaderValue header.2)

def ResponseBodyMode.line : ResponseBodyMode → String
  | .fixed length => "content-length: " ++ numeral 10 length ++ "\r\n"
  | .chunked => "transfer-encoding: chunked\r\n"

def writeResponseHead (status : UInt16) (headers : List (String × String))
    (mode : ResponseBodyMode) : List UInt8 :=
  let status := writtenStatus status
  utf8 ("HTTP/1.1 " ++ numeral 10 status.toNat ++ " " ++ reason status ++ "\r\n") ++
    (emittedHeaders headers).flatMap (fun header =>
      utf8 (header.1 ++ ": " ++ header.2 ++ "\r\n")) ++
    utf8 mode.line ++ utf8 "connection: close\r\n\r\n"

/-- One chunk: its size in base sixteen, and its bytes. -/
def chunkBytes (chunk : List UInt8) : List UInt8 :=
  utf8 (numeral 16 chunk.length) ++ [13, 10] ++ chunk ++ [13, 10]

/-- The events behind the head, up to the end. -/
def writeChunks : List WorkerEvent → List UInt8
  | [] => []
  | .start _ :: rest => writeChunks rest
  | .chunk chunk :: rest =>
      if chunk.isEmpty then writeChunks rest else chunkBytes chunk ++ writeChunks rest
  | .finish :: _ => []

/-- The bytes of a streamed response. -/
def writeStreamingResponse (events : List WorkerEvent) : List UInt8 :=
  let head := (headOf events).1
  writeResponseHead head.status head.headers .chunked ++ writeChunks (headOf events).2 ++
    utf8 "0\r\n\r\n"

end Oxo.Worker
