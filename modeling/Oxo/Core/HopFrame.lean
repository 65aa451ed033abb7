import Oxo.Foundation.ByteCursor
import Oxo.Foundation.Utf8

/-!
Contract: the binary worker-hop codec shared by the edge and the native worker
(`oxo-core/src/hop_frame.rs`).

Owns: the frame types, the caps, the length-checked cursor, the request and
response encoders and decoders, and the six-byte prefix.

Does not own: socket I/O, connection reuse, timeouts or retry policy; nor any
statement about the codec, which the modules below this one prove.

Strings are Lean strings, so a frame field is UTF-8 by construction and a
decoder that meets other bytes fails as the source does. A buffer that the
source appends to in place is passed and returned; a failed encoder returns no
buffer, as no caller reads one.
-/

namespace Oxo.Core.HopFrame

open Oxo.Foundation

/-- First frame byte, not a valid HTTP method-token character. -/
def frameMagic : UInt8 := 0xBF

/-- Wire-format version. -/
def frameVersion : UInt8 := 0x01

/-- Fixed framing overhead allowed by the envelope pre-check. -/
def frameFixedSlack : Nat := 4096

inductive Scheme where
  | http
  | https
deriving DecidableEq, Repr

structure FrameCaps where
  /-- Max summed header bytes, names and values. -/
  maxHeaderBytes : UInt32
  maxHeaders : UInt16
  maxBodyBytes : UInt32
deriving DecidableEq, Repr

/-- The largest legal `remaining_length` for these caps. -/
def FrameCaps.maxRemainingLength (caps : FrameCaps) : Nat :=
  frameFixedSlack + caps.maxHeaderBytes.toNat + caps.maxBodyBytes.toNat

structure RequestFrame where
  method : String
  path : String
  query : String
  serverName : String
  serverPort : UInt16
  scheme : Scheme
  remoteAddr : String
  headers : List (String × String)
  body : List UInt8
deriving DecidableEq

inductive ResponseFrame where
  | full (status : UInt16) (headers : List (String × String)) (body : List UInt8)
  | head (status : UInt16) (headers : List (String × String))
  | chunk (data : List UInt8)
  | endOfStream
deriving DecidableEq

def respFull : UInt8 := 0
def respHead : UInt8 := 1
def respChunk : UInt8 := 2
def respEnd : UInt8 := 3

/-- Codec failure. Every decode variant is fatal for the connection. -/
inductive FrameError where
  | badMagic (byte : UInt8)
  | badVersion (byte : UInt8)
  | envelopeTooLarge (declared max : Nat)
  | envelopeTilingMismatch (declared consumed : Nat)
  | truncated
  | notUtf8
  | tooManyHeaders (declared max : UInt16)
  | headerBytesExceeded (max : UInt32)
  | bodyTooLarge (declared max : UInt32)
  | controlByteInHeader
  | badScheme (byte : UInt8)
  | badResponseType (byte : UInt8)
  | badStatus (status : UInt16)
  | lengthOverflow
deriving DecidableEq, Repr

def Scheme.toByte : Scheme → UInt8
  | .http => 0
  | .https => 1

def Scheme.fromByte (byte : UInt8) : Except FrameError Scheme :=
  if byte = 0 then .ok .http
  else if byte = 1 then .ok .https
  else .error (.badScheme byte)

/-- The `rack.url_scheme` string. -/
def Scheme.asStr : Scheme → String
  | .http => "http"
  | .https => "https"

/-! ## Prefix -/

abbrev framePrefixLen : Nat := 6

/-- The six bytes every frame starts with. -/
abbrev PrefixBytes := Fin framePrefixLen → UInt8

/-- The first six bytes of a buffer, over a zeroed array. -/
def prefixBytes (buffer : List UInt8) : PrefixBytes :=
  fun index => buffer.getD index 0

structure FramePrefix where
  remainingLength : UInt32
deriving DecidableEq, Repr

def FramePrefix.parse (bytes : PrefixBytes) (caps : FrameCaps) :
    Except FrameError FramePrefix :=
  if bytes 0 ≠ frameMagic then
    .error (.badMagic (bytes 0))
  else if bytes 1 ≠ frameVersion then
    .error (.badVersion (bytes 1))
  else
    let remainingLength := ofLeBytes [bytes 2, bytes 3, bytes 4, bytes 5]
    let max := caps.maxRemainingLength
    if remainingLength > max then
      .error (.envelopeTooLarge remainingLength max)
    else
      .ok ⟨UInt32.ofNat remainingLength⟩

/-! ## Cursor over one envelope -/

/-- The length-checked read position of the decoders. -/
abbrev Cursor := ByteCursor

abbrev Decode (α : Type) := Reader Cursor FrameError α

def take (count : Nat) : Decode (List UInt8) :=
  ByteCursor.take .truncated count

def readU8 : Decode UInt8 := do
  let bytes ← take 1
  return bytes.getD 0 0

def readU16 : Decode UInt16 := do
  let bytes ← take 2
  return UInt16.ofNat (ofLeBytes bytes)

def readU32 : Decode UInt32 := do
  let bytes ← take 4
  return UInt32.ofNat (ofLeBytes bytes)

/-- A `u16`-length-prefixed UTF-8 string. -/
def shortStr : Decode String := do
  let len ← readU16
  let bytes ← take len.toNat
  orFail (fromUtf8 bytes) .notUtf8

/-- A `u32`-length-prefixed UTF-8 string. -/
def longStr : Decode String := do
  let len ← readU32
  let bytes ← take len.toNat
  orFail (fromUtf8 bytes) .notUtf8

/-! ## Headers -/

def isControlByte (byte : UInt8) : Bool :=
  byte < 0x20 || byte == 0x7f

def rejectControlBytes (text : String) : Decode Unit :=
  failIf ((utf8 text).any isControlByte = true) .controlByteInHeader

def u16TryFrom (value : Nat) : Option UInt16 :=
  if value < 2 ^ 16 then some (UInt16.ofNat value) else none

def u32TryFrom (value : Nat) : Option UInt32 :=
  if value < 2 ^ 32 then some (UInt32.ofNat value) else none

def checkedAdd (left right : UInt32) : Option UInt32 :=
  u32TryFrom (left.toNat + right.toNat)

def encodeShort (text : String) (out : List UInt8) : Except FrameError (List UInt8) :=
  match u16TryFrom text.utf8ByteSize with
  | some len => .ok (out ++ toLeBytes 2 len.toNat ++ utf8 text)
  | none => .error .lengthOverflow

def encodeLongStr (text : String) (out : List UInt8) : Except FrameError (List UInt8) :=
  match u32TryFrom text.utf8ByteSize with
  | some len => .ok (out ++ toLeBytes 4 len.toNat ++ utf8 text)
  | none => .error .lengthOverflow

def encodeLongBytes (bytes : List UInt8) (out : List UInt8) : Except FrameError (List UInt8) :=
  match u32TryFrom bytes.length with
  | some len => .ok (out ++ toLeBytes 4 len.toNat ++ bytes)
  | none => .error .lengthOverflow

/-- The pairs of a header block, without its count. -/
def encodeHeaderPairs : List (String × String) → List UInt8 → Except FrameError (List UInt8)
  | [], out => .ok out
  | (name, value) :: rest, out => do
      let out ← encodeShort name out
      let out ← encodeLongStr value out
      encodeHeaderPairs rest out

def encodeHeaders (headers : List (String × String)) (out : List UInt8) :
    Except FrameError (List UInt8) :=
  match u16TryFrom headers.length with
  | some count => encodeHeaderPairs headers (out ++ toLeBytes 2 count.toNat)
  | none => .error .lengthOverflow

/-- The loop of `decode_headers`, with the running byte total. -/
def decodeHeaderPairs (maxHeaderBytes : UInt32) :
    (count : Nat) → (headerBytes : UInt32) → Decode (List (String × String))
  | 0, _ => return []
  | count + 1, headerBytes => do
      let name ← shortStr
      let value ← longStr
      rejectControlBytes name
      rejectControlBytes value
      let nameLen ← orFail (u32TryFrom name.utf8ByteSize) .lengthOverflow
      let headerBytes ← orFail
        ((checkedAdd headerBytes nameLen).bind fun total =>
          (u32TryFrom value.utf8ByteSize).bind fun valueLen => checkedAdd total valueLen)
        (.headerBytesExceeded maxHeaderBytes)
      failIf (headerBytes > maxHeaderBytes) (.headerBytesExceeded maxHeaderBytes)
      let rest ← decodeHeaderPairs maxHeaderBytes count headerBytes
      return (name, value) :: rest

def decodeHeaders (maxHeaders : UInt16) (maxHeaderBytes : UInt32) :
    Decode (List (String × String)) := do
  let count ← readU16
  failIf (count > maxHeaders) (.tooManyHeaders count maxHeaders)
  decodeHeaderPairs maxHeaderBytes count.toNat 0

/-! ## Frame assembly -/

/-- A frame buffer with magic and version final and a zeroed length hole. -/
def startFrame : List UInt8 :=
  [frameMagic, frameVersion] ++ toLeBytes 4 0

/-- Backfill the remaining-length hole. -/
def finishFrame (out : List UInt8) : Except FrameError (List UInt8) :=
  match u32TryFrom (out.length - framePrefixLen) with
  | some remaining => .ok (out.take 2 ++ toLeBytes 4 remaining.toNat ++ out.drop framePrefixLen)
  | none => .error .lengthOverflow

/-! ## Request frame -/

def encodeRequest (req : RequestFrame) : Except FrameError (List UInt8) := do
  let out := startFrame
  let out ← encodeShort req.method out
  let out ← encodeLongStr req.path out
  let out ← encodeLongStr req.query out
  let out ← encodeShort req.serverName out
  let out := out ++ toLeBytes 2 req.serverPort.toNat
  let out := out ++ [req.scheme.toByte]
  let out ← encodeShort req.remoteAddr out
  let out ← encodeHeaders req.headers out
  let out ← encodeLongBytes req.body out
  finishFrame out

/-- The request fields borrowed by `encode_request_ref`; the headers come
separately. -/
structure RequestFrameRef where
  method : String
  path : String
  query : String
  serverName : String
  serverPort : UInt16
  scheme : Scheme
  remoteAddr : String
  body : List UInt8

/-- Clear and reuse the caller's buffer. The supplied count must be the number
of pairs the iterator yields. -/
def encodeRequestRefInto (_out : List UInt8) (req : RequestFrameRef) (headerCount : Nat)
    (headers : List (String × String)) : Except FrameError (List UInt8) := do
  let out : List UInt8 := []
  let out := out ++ [frameMagic] ++ [frameVersion] ++ toLeBytes 4 0
  let out ← encodeShort req.method out
  let out ← encodeLongStr req.path out
  let out ← encodeLongStr req.query out
  let out ← encodeShort req.serverName out
  let out := out ++ toLeBytes 2 req.serverPort.toNat
  let out := out ++ [req.scheme.toByte]
  let out ← encodeShort req.remoteAddr out
  match u16TryFrom headerCount with
  | none => .error .lengthOverflow
  | some count =>
      let out := out ++ toLeBytes 2 count.toNat
      let out ← encodeHeaderPairs headers out
      if headers.length ≠ headerCount then
        .error .lengthOverflow
      else
        let out ← encodeLongBytes req.body out
        finishFrame out

/-- The length-prefixed tail shared by request and response bodies: the declared
length is checked against the cap before it is taken. -/
def readBody (maxBodyBytes : UInt32) : Decode (List UInt8) := do
  let bodyLen ← readU32
  failIf (bodyLen > maxBodyBytes) (.bodyTooLarge bodyLen maxBodyBytes)
  take bodyLen.toNat

/-- Decode a whole envelope: the sections must consume it exactly. -/
def decodeTiled {α : Type} (sections : Decode α) (envelope : List UInt8) :
    Except FrameError α := do
  let (value, cur) ← sections (ByteCursor.new envelope)
  if cur.remaining ≠ 0 then
    .error (.envelopeTilingMismatch (envelope.length % 2 ^ 32) cur.pos)
  else
    .ok value

def requestSections (caps : FrameCaps) : Decode RequestFrame := do
  let method ← shortStr
  let path ← longStr
  let query ← longStr
  let serverName ← shortStr
  let serverPort ← readU16
  let schemeByte ← readU8
  let scheme ← StateT.lift (Scheme.fromByte schemeByte)
  let remoteAddr ← shortStr
  let headers ← decodeHeaders caps.maxHeaders caps.maxHeaderBytes
  let body ← readBody caps.maxBodyBytes
  return ⟨method, path, query, serverName, serverPort, scheme, remoteAddr, headers, body⟩

def decodeRequest (envelope : List UInt8) (caps : FrameCaps) : Except FrameError RequestFrame :=
  decodeTiled (requestSections caps) envelope

/-! ## Response frame -/

def encodeResponse (resp : ResponseFrame) : Except FrameError (List UInt8) := do
  let out := startFrame
  let out ← match resp with
    | .full status headers body => do
        let out := out ++ [respFull]
        let out := out ++ toLeBytes 2 status.toNat
        let out ← encodeHeaders headers out
        encodeLongBytes body out
    | .head status headers => do
        let out := out ++ [respHead]
        let out := out ++ toLeBytes 2 status.toNat
        encodeHeaders headers out
    | .chunk data => do
        let out := out ++ [respChunk]
        encodeLongBytes data out
    | .endOfStream => .ok (out ++ [respEnd])
  finishFrame out

def validateStatus (status : UInt16) : Except FrameError UInt16 :=
  if 100 ≤ status ∧ status ≤ 599 then .ok status else .error (.badStatus status)

def responseSections (caps : FrameCaps) : Decode ResponseFrame := do
  let ty ← readU8
  if ty = respFull then
    let rawStatus ← readU16
    let status ← StateT.lift (validateStatus rawStatus)
    let headers ← decodeHeaders caps.maxHeaders caps.maxHeaderBytes
    let body ← readBody caps.maxBodyBytes
    return .full status headers body
  else if ty = respHead then
    let rawStatus ← readU16
    let status ← StateT.lift (validateStatus rawStatus)
    let headers ← decodeHeaders caps.maxHeaders caps.maxHeaderBytes
    return .head status headers
  else if ty = respChunk then
    let data ← readBody caps.maxBodyBytes
    return .chunk data
  else if ty = respEnd then
    return .endOfStream
  else
    throw (.badResponseType ty)

def decodeResponse (envelope : List UInt8) (caps : FrameCaps) :
    Except FrameError ResponseFrame :=
  decodeTiled (responseSections caps) envelope

end Oxo.Core.HopFrame
