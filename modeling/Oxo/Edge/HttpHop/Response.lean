import Oxo.Edge.FrameHop.Discipline
import Oxo.Edge.HttpHop
import Oxo.Foundation.Delimited

/-!
Contract: how the edge reads a worker's response on the HTTP hop
(`oxo-pingora-edge/src/platform/worker_wire.rs`).

Owns: the read loop for the head, the two ways a body is framed, the chunk loop with its drain
exits, and the response that is written downstream.

Does not own: the socket, the session or the admission registry. Any answer of the right type
may come back. A loop that grows a buffer by a byte or more on every round is given as many
rounds as its cap allows.
-/

namespace Oxo.Edge.HttpHop

open Oxo.Foundation Oxo.Edge.FrameHop

/-! ## Operations -/

/-- What one read into the buffer of 8192 bytes hands over. -/
structure ReadBytes where
  bytes : List UInt8
  nonempty : bytes ≠ []
  bounded : bytes.length ≤ 8192

/-- A read of one byte. -/
def ReadBytes.one (byte : UInt8) : ReadBytes where
  bytes := [byte]
  nonempty := List.cons_ne_nil byte []
  bounded := by simp

/-- How one socket read ends. `failed` is an error or the timeout. -/
inductive ReadEnd where
  | data (read : ReadBytes)
  | eof
  | failed

/-- `overflow` marks an addition that does not fit its machine type. -/
inductive ResponseOp where
  | drainBorrow
  | read
  | readOrDrain
  | tryAdmit
  | recordBytes (count : Nat)
  | complete
  | completeDrained
  | writeHeader (header : ResponseHeader) (last : Bool)
  | writeBody (body : Option (List UInt8)) (last : Bool)
  | overflow

/-- The answers an operation may get. `readOrDrain` has no answer when the drain won the race. -/
def ResponseOp.Answer : ResponseOp → Type
  | drainBorrow | tryAdmit | recordBytes _ | writeHeader _ _ | writeBody _ _ => Bool
  | read => ReadEnd
  | readOrDrain => Option ReadEnd
  | complete | completeDrained | overflow => Unit

abbrev Response := Program ResponseOp ResponseOp.Answer

namespace Response

def drainBorrow : Response Bool := Program.perform ResponseOp.drainBorrow

def read : Response ReadEnd := Program.perform ResponseOp.read

def readOrDrain : Response (Option ReadEnd) := Program.perform ResponseOp.readOrDrain

def tryAdmit : Response Bool := Program.perform ResponseOp.tryAdmit

def recordBytes (count : Nat) : Response Bool := Program.perform (ResponseOp.recordBytes count)

def complete : Response Unit := Program.perform ResponseOp.complete

def completeDrained : Response Unit := Program.perform ResponseOp.completeDrained

def writeHeader (header : ResponseHeader) (last : Bool) : Response Bool :=
  Program.perform (ResponseOp.writeHeader header last)

def writeBody (body : Option (List UInt8)) (last : Bool) : Response Bool :=
  Program.perform (ResponseOp.writeBody body last)

def overflow : Response Unit := Program.perform ResponseOp.overflow

/-- A result that needs no operation. -/
def settled {α : Type} (result : Except UInt16 α) : ExceptT UInt16 Response α :=
  ExceptT.mk (pure result)

end Response

/-- `+` on `usize`. -/
def addUsize (left right : Nat) : Response Nat :=
  if left + right < 2 ^ 64 then pure (left + right)
  else do
    Response.overflow
    pure ((left + right) % 2 ^ 64)

/-- A downstream write; any failure is 502. -/
def writeResponseHeader (header : ResponseHeader) (last : Bool) :
    ExceptT UInt16 Response Unit := do
  if ← Response.writeHeader header last then pure () else throw 502

def writeResponseBody (body : Option (List UInt8)) (last : Bool) :
    ExceptT UInt16 Response Unit := do
  if ← Response.writeBody body last then pure () else throw 502

/-- Write a header that is still owed. -/
def writeOwedHeader : Option ResponseHeader → ExceptT UInt16 Response Unit
  | some header => writeResponseHeader header false
  | none => pure ()

/-! ## Lines -/

def findHeaderEnd (bytes : List UInt8) : Option Nat :=
  windowPosition [13, 10, 13, 10] bytes

def stripTrailingCr (line : List UInt8) : List UInt8 :=
  if line.getLast? = some 13 then line.dropLast else line

def isOptionalWhitespace (byte : UInt8) : Bool :=
  byte == 32 || byte == 9

def trimOptionalWhitespace (bytes : List UInt8) : List UInt8 :=
  (bytes.dropWhile isOptionalWhitespace).rdropWhile isOptionalWhitespace

/-- A header line of a head: its name, and its trimmed value. -/
def headerFields (rawLine : List UInt8) : Except UInt16 (String × List UInt8) :=
  let line := stripTrailingCr rawLine
  if line.isEmpty || [32].isPrefixOf line || [9].isPrefixOf line then .error 502
  else match line.idxOf? 58 with
    | none => .error 502
    | some colon =>
        let name := line.take colon
        let value := trimOptionalWhitespace (line.drop (colon + 1))
        if !isValidHeaderName name || hasInvalidHeaderValueBytes value then .error 502
        else match fromUtf8 name with
          | none => .error 502
          | some nameText => .ok (nameText, value)

def parseStatusLine (line : List UInt8) : Except UInt16 UInt16 :=
  match fromUtf8 line with
  | none => .error 502
  | some text =>
      match splitWhitespace text with
      | version :: code :: _ =>
          if version != "HTTP/1.1" then .error 502
          else match parseUnsigned (2 ^ 16) code with
            | none => .error 502
            | some code =>
                if 100 ≤ code ∧ code ≤ 599 then .ok (UInt16.ofNat code) else .error 502
      | _ => .error 502

/-- The loop over the header lines. -/
def chunkedAmong : List (List UInt8) → (chunked : Bool) → Except UInt16 Bool
  | [], chunked => .ok chunked
  | rawLine :: rest, chunked => do
      let (name, value) ← headerFields rawLine
      if eqIgnoreAsciiCase name "transfer-encoding" then
        match fromUtf8 value with
        | none => .error 502
        | some valueText =>
            if eqIgnoreAsciiCase valueText "chunked" then chunkedAmong rest true else .error 502
      else chunkedAmong rest chunked

def workerResponseIsChunked (head : List UInt8) : Except UInt16 Bool :=
  chunkedAmong (head.splitOn 10).tail false

/-- The header lines that are not framing, each accepted by the library. -/
def appendHeaderFields (settings : HopSettings) :
    List (List UInt8) → ResponseHeader → Except UInt16 ResponseHeader
  | [], header => .ok header
  | rawLine :: rest, header => do
      let (name, value) ← headerFields rawLine
      if ["connection", "content-length", "transfer-encoding"].contains (toAsciiLowercase name) then
        appendHeaderFields settings rest header
      else match fromUtf8 value with
        | none => .error 502
        | some valueText =>
            if settings.acceptsHeader name valueText then
              appendHeaderFields settings rest
                { header with headers := header.headers ++ [(name, valueText)] }
            else .error 502

/-- The status line and the headers of a head. -/
def parseHead (settings : HopSettings) (head : List UInt8) : Except UInt16 ResponseHeader := do
  let lines := head.splitOn 10
  let status ← parseStatusLine (stripTrailingCr (lines.headD []))
  if settings.acceptsStatus status then appendHeaderFields settings lines.tail ⟨status, []⟩
  else .error 502

def parseChunkedWorkerResponseHead (settings : HopSettings) (head : List UInt8) :
    Except UInt16 (ResponseHeader × UInt16) := do
  let header ← parseHead settings head
  return ({ header with headers := header.headers ++ closeHeader settings }, header.status)

structure WorkerResponse where
  status : UInt16
  header : ResponseHeader
  body : List UInt8

def parseWorkerResponse (settings : HopSettings) (bytes : List UInt8) :
    Except UInt16 WorkerResponse :=
  match findHeaderEnd bytes with
  | none => .error 502
  | some headerEnd =>
      if headerEnd > maxResponseHeaderBytes || bytes.length > maxResponseBytes then .error 502
      else do
        let body := bytes.drop (headerEnd + 4)
        let header ← parseHead settings (bytes.take headerEnd)
        return ⟨header.status, { header with
          headers := header.headers ++ [("Content-Length", numeral 10 body.length)] ++
            closeHeader settings }, body⟩

def parseChunkSize (line : List UInt8) : Except UInt16 Nat :=
  match fromUtf8 line with
  | none => .error 502
  | some text =>
      let size := trim ((split text ';').headD "")
      if size = "" || !(utf8 size).all isAsciiHexdigit then .error 502
      else match fromStrRadix (2 ^ 64) 16 size with
        | none => .error 502
        | some size => .ok size

/-! ## Reading -/

/-- The bytes of one read; none at the end of the stream. -/
def readEnd : ReadEnd → Except UInt16 (List UInt8)
  | .data read => .ok read.bytes
  | .eof => .ok []
  | .failed => .error 502

def readWorkerBytesWithTimeout : ExceptT UInt16 Response (List UInt8) := do
  Response.settled (readEnd (← Response.read))

/-- No bytes when the drain won. -/
def readWorkerBytesWithTimeoutOrDrain : ExceptT UInt16 Response (Option (List UInt8)) := do
  if ← Response.drainBorrow then pure none
  else match ← Response.readOrDrain with
    | none => pure none
    | some ended => do
        let bytes ← Response.settled (readEnd ended)
        pure (some bytes)

/-- The buffer with one more read, or none when the drain won. -/
def readMoreWorkerBytesOrDrain (pending : List UInt8) :
    ExceptT UInt16 Response (Option (List UInt8)) := do
  match ← readWorkerBytesWithTimeoutOrDrain with
  | none => pure none
  | some bytes => if bytes = [] then throw 502 else pure (some (pending ++ bytes))

/-- Read until a line end is in the buffer. -/
def readUntilCrlf : (rounds : Nat) → List UInt8 →
    ExceptT UInt16 Response (Option (Nat × List UInt8))
  | 0, _ => ExceptT.lift .stop
  | rounds + 1, pending =>
      match windowPosition [13, 10] pending with
      | some position => pure (some (position, pending))
      | none => do
          match ← readMoreWorkerBytesOrDrain pending with
          | none => pure none
          | some pending =>
              if pending.length > maxResponseHeaderBytes then throw 502
              else readUntilCrlf rounds pending

def readUntilCrlfOrDrain (pending : List UInt8) :
    ExceptT UInt16 Response (Option (Nat × List UInt8)) :=
  readUntilCrlf (maxResponseHeaderBytes + 1) pending

/-- Read until the buffer has the length. -/
def readUntilAvailable (length : Nat) : (rounds : Nat) → List UInt8 →
    ExceptT UInt16 Response (Option (List UInt8))
  | 0, _ => ExceptT.lift .stop
  | rounds + 1, pending =>
      if pending.length < length then do
        match ← readMoreWorkerBytesOrDrain pending with
        | none => pure none
        | some pending => readUntilAvailable length rounds pending
      else pure (some pending)

def readUntilAvailableOrDrain (pending : List UInt8) (length : Nat) :
    ExceptT UInt16 Response (Option (List UInt8)) :=
  readUntilAvailable length (length + 1) pending

/-- Read until the head is in the buffer. -/
def readHead : (rounds : Nat) → List UInt8 → ExceptT UInt16 Response (Nat × List UInt8)
  | 0, _ => ExceptT.lift .stop
  | rounds + 1, response => do
      let bytes ← readWorkerBytesWithTimeout
      if bytes = [] then throw 502
      else
        let response := response ++ bytes
        if response.length > maxResponseBytes then throw 502
        else match findHeaderEnd response with
          | some headerEnd =>
              if headerEnd > maxResponseHeaderBytes then throw 502 else pure (headerEnd, response)
          | none =>
              if response.length > maxResponseHeaderBytes then throw 502
              else readHead rounds response

/-- Read to the end of the stream. -/
def readToEnd : (rounds : Nat) → List UInt8 → ExceptT UInt16 Response (List UInt8)
  | 0, _ => ExceptT.lift .stop
  | rounds + 1, response => do
      let bytes ← readWorkerBytesWithTimeout
      if bytes = [] then pure response
      else if (response ++ bytes).length > maxResponseBytes then throw 502
      else readToEnd rounds (response ++ bytes)

/-! ## The response -/

def finishDrainedChunkedResponse (owed : Option ResponseHeader) :
    ExceptT UInt16 Response Unit := do
  writeOwedHeader owed
  writeResponseBody none true
  Response.completeDrained

/-- The end of the body, behind the size line of the last chunk. -/
def finishChunks (owed : Option ResponseHeader) (pending : List UInt8) :
    ExceptT UInt16 Response Unit := do
  match ← readUntilAvailableOrDrain pending 2 with
  | none => finishDrainedChunkedResponse owed
  | some pending =>
      if pending.take 2 ≠ [13, 10] then throw 502
      else
        writeOwedHeader owed
        writeResponseBody none true
        Response.complete

/-- The loop over the chunks. -/
def chunkLoop : (rounds : Nat) → (owed : Option ResponseHeader) → (pending : List UInt8) →
    (decoded : Nat) → ExceptT UInt16 Response Unit
  | 0, _, _, _ => ExceptT.lift .stop
  | rounds + 1, owed, pending, decoded => do
      match ← readUntilCrlfOrDrain pending with
      | none => finishDrainedChunkedResponse owed
      | some (lineEnd, pending) =>
          let size ← Response.settled (parseChunkSize (pending.take lineEnd))
          let pending := pending.drop (lineEnd + 2)
          if size = 0 then finishChunks owed pending
          else if decoded + size ≥ 2 ^ 64 then throw 502
          else if decoded + size > maxResponseBytes then throw 502
          else if ← Response.recordBytes size then
            let needed ← addUsize size 2
            match ← readUntilAvailableOrDrain pending needed with
            | none => finishDrainedChunkedResponse owed
            | some pending =>
                if (pending.drop size).take 2 ≠ [13, 10] then throw 502
                else
                  writeOwedHeader owed
                  writeResponseBody (some (pending.take size)) false
                  chunkLoop rounds none (pending.drop (size + 2)) (decoded + size)
          else throw 502

def streamChunkedWorkerResponse (header : ResponseHeader) (pending : List UInt8) :
    ExceptT UInt16 Response Unit := do
  if ← Response.tryAdmit then chunkLoop (maxResponseBytes + 1) (some header) pending 0
  else throw 503

def writeDownstreamResponse (response : WorkerResponse) : ExceptT UInt16 Response UInt16 := do
  writeResponseHeader response.header false
  writeResponseBody (some response.body) true
  pure response.status

def readWorkerResponseAndWrite (settings : HopSettings) : ExceptT UInt16 Response UInt16 := do
  let (headerEnd, response) ← readHead (maxResponseHeaderBytes + 1) []
  let chunked ← Response.settled (workerResponseIsChunked (response.take headerEnd))
  if chunked then
    let (header, status) ←
      Response.settled (parseChunkedWorkerResponseHead settings (response.take headerEnd))
    streamChunkedWorkerResponse header (response.drop (headerEnd + 4))
    pure status
  else
    let response ← readToEnd (maxResponseBytes + 1) response
    let workerResponse ← Response.settled (parseWorkerResponse settings response)
    writeDownstreamResponse workerResponse

end Oxo.Edge.HttpHop
