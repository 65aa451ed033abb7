import Oxo.Foundation.Outcome
import Oxo.Worker.AsyncWorker

/-!
Contract: the responses of the async Ruby worker
(`ruby/oxo_async_worker.rb`, `flatten_header_pairs`, `sanitize_response_headers` and
`encode_full_response`).

Owns: the strings of an application response with their encoding labels, the expansion of
header values into lines, the header rules and the frame that is written; the lines a
header set has, and when the expansion and the rules run through without raising.

Does not own: the call of the application, the body collector, or who reads the frame.
-/

namespace Oxo.Worker.AsyncWorker

open Oxo.Foundation

/-! ## Strings -/

/-- Encoding labels. A binary string is any bytes; a UTF-8 string may be broken. -/
inductive Encoding where
  | utf8
  | binary
deriving DecidableEq

structure RubyString where
  bytes : List UInt8
  encoding : Encoding
deriving DecidableEq

/-- The `ArgumentError` texts of string methods that meet a broken string. -/
inductive RubyError where
  | invalidByteSequence
  | inputStringInvalid
deriving DecidableEq

def RubyError.message : RubyError → String
  | .invalidByteSequence => "invalid byte sequence in UTF-8"
  | .inputStringInvalid => "input string invalid"

namespace RubyString

def validEncoding (text : RubyString) : Bool :=
  match text.encoding with
  | .utf8 => (fromUtf8 text.bytes).isSome
  | .binary => true

def asciiOnly (text : RubyString) : Bool :=
  text.bytes.all (· < 0x80)

/-- `split("\n")`: the pieces between the line feeds, without the empty ones at the end. -/
def splitLines (text : RubyString) : Except RubyError (List RubyString) :=
  if text.validEncoding then
    .ok (((text.bytes.splitOn 0x0a).rdropWhile List.isEmpty).map (⟨·, text.encoding⟩))
  else
    .error .invalidByteSequence

/-- `downcase`. A letter beyond ASCII is left alone here: a name that has one is dropped
whatever it folds to. -/
def downcase (text : RubyString) : Except RubyError (List UInt8) :=
  if text.validEncoding then .ok (text.bytes.map byteToAsciiLowercase)
  else .error .inputStringInvalid

end RubyString

/-! ## Response headers -/

/-- A header value: a string, or whatever else `Array(v)` has elements of, each as its
`to_s`. -/
inductive HeaderValue where
  | string (value : RubyString)
  | array (elements : List RubyString)
deriving DecidableEq

/-- The lines of one element. -/
def elementLines (element : RubyString) : Except RubyError (List RubyString) := do
  let segs ← element.splitLines
  let segs := if segs.isEmpty then segs ++ [⟨[], .utf8⟩] else segs
  return segs.filter fun seg => !(seg.bytes.isEmpty && segs.length > 1)

def arrayLines : List RubyString → Except RubyError (List RubyString)
  | [] => .ok []
  | element :: rest => do
      let lines ← elementLines element
      let restLines ← arrayLines rest
      return lines ++ restLines

def HeaderValue.lines : HeaderValue → Except RubyError (List RubyString)
  | .string value =>
      if value.bytes.contains 0x0a then arrayLines [value] else .ok [value]
  | .array elements => arrayLines elements

def flattenHeaderPairs :
    List (RubyString × HeaderValue) → Except RubyError (List (RubyString × RubyString))
  | [] => .ok []
  | (key, value) :: rest => do
      let lines ← value.lines
      let pairs ← flattenHeaderPairs rest
      return lines.map (key, ·) ++ pairs

def framingResponseHeaders : List String :=
  ["content-length", "transfer-encoding", "connection"]

def isFraming (lower : List UInt8) : Bool :=
  (framingResponseHeaders.map utf8).contains lower

def validName (name : RubyString) : Bool :=
  if name.asciiOnly then
    !name.bytes.isEmpty && name.bytes.all fun byte => 0x21 ≤ byte && byte ≤ 0x7e
  else
    !name.bytes.isEmpty && name.bytes.all fun byte => byte > 0x20 && byte < 0x7f

def validValue (value : RubyString) : Bool :=
  if value.asciiOnly then
    value.bytes.all fun byte => byte == 0x09 || (0x20 ≤ byte && byte ≤ 0x7e)
  else
    value.bytes.all fun byte => byte == 0x09 || (byte != 0x7f && byte ≥ 0x20)

def sanitizeResponseHeaders :
    List (RubyString × RubyString) → Except RubyError (List (RubyString × RubyString))
  | [] => .ok []
  | (name, value) :: rest => do
      let lower ← name.downcase
      let kept ← sanitizeResponseHeaders rest
      return if !isFraming lower && (validName name && validValue value) then
        (name, value) :: kept
      else
        kept

/-! ## Frame -/

/-- `[value].pack` at a little-endian width: the low bits of the integer. -/
def pack (width : Nat) (value : Int) : List UInt8 :=
  toLeBytes width (value % 256 ^ width).toNat

def headerBlock (headers : List (RubyString × RubyString)) : List UInt8 :=
  headers.flatMap fun (name, value) =>
    (pack 2 name.bytes.length ++ name.bytes) ++ (pack 4 value.bytes.length ++ value.bytes)

def encodeFullResponse (status : Int) (headers : List (RubyString × RubyString))
    (body : List UInt8) : List UInt8 :=
  let frame := [0xBF, 0x01] ++ [0x00, 0x00, 0x00, 0x00]
  let frame := frame ++ pack 1 0
  let frame := frame ++ pack 2 status
  let frame := frame ++ pack 2 headers.length
  let frame := frame ++ headerBlock headers
  let frame := frame ++ (pack 4 body.length ++ body)
  frame.take 2 ++ pack 4 (frame.length - 6) ++ frame.drop 6

/-- What the application returned, its body collected. -/
structure RackResponse where
  status : Int
  headers : List (RubyString × HeaderValue)
  body : List UInt8

/-- `respond_to_request` after the application returned. -/
def respondToRequest (response : RackResponse) : Except RubyError (List UInt8) := do
  let pairs ← flattenHeaderPairs response.headers
  let headers ← sanitizeResponseHeaders pairs
  return encodeFullResponse response.status headers response.body

/-! ## Layout -/

theorem pack_natCast (width value : Nat) : pack width (value : Int) = toLeBytes width value := by
  have low : ((value : Int) % 256 ^ width).toNat = value % 256 ^ width := by
    have base : ((256 : Int)) ^ width = ((256 ^ width : Nat) : Int) := by push_cast; rfl
    rw [base, ← Int.natCast_emod, Int.toNat_natCast]
  rw [pack, low, toLeBytes_mod]

def lineBytes (line : RubyString × RubyString) : List UInt8 × List UInt8 :=
  (line.1.bytes, line.2.bytes)

/-- A frame behind its prefix. -/
def responseLayout (status : Int) (headers : List (RubyString × RubyString))
    (body : List UInt8) : List UInt8 :=
  toLeBytes 1 0 ++ (pack 2 status ++ (toLeBytes 2 headers.length ++
    (headerPairsLayout (headers.map lineBytes) ++ ByteCursor.blockImage 4 body)))

private theorem headerBlock_eq (headers : List (RubyString × RubyString)) :
    headerBlock headers = headerPairsLayout (headers.map lineBytes) := by
  rw [headerPairsLayout, List.flatMap_map, headerBlock]
  simp only [pack_natCast]
  rfl

/-- The frame is its layout behind magic, version and the layout's length. -/
theorem encodeFullResponse_eq (status : Int) (headers : List (RubyString × RubyString))
    (body : List UInt8) :
    encodeFullResponse status headers body =
      [0xBF, 0x01] ++ toLeBytes 4 (responseLayout status headers body).length ++
        responseLayout status headers body := by
  have opened : [0xBF, 0x01] ++ [0x00, 0x00, 0x00, 0x00] ++ pack 1 0 ++ pack 2 status ++
      pack 2 headers.length ++ headerBlock headers ++ (pack 4 body.length ++ body) =
        [0xBF, 0x01, 0x00, 0x00, 0x00, 0x00] ++ responseLayout status headers body := by
    rw [headerBlock_eq, pack_natCast, pack_natCast]
    simp only [responseLayout, ByteCursor.blockImage, List.append_assoc]
    rfl
  have length : ((([0xBF, 0x01, 0x00, 0x00, 0x00, 0x00] : List UInt8) ++
      responseLayout status headers body).length : Int) - 6 =
        ((responseLayout status headers body).length : Nat) := by
    rw [List.length_append]
    simp
  unfold encodeFullResponse
  dsimp only
  rw [opened, length, pack_natCast]
  rfl

/-! ## Lines of a header set -/

/-- The pieces of an element that are not empty, or one empty line when there are none. -/
def RubyString.segments (element : RubyString) : List RubyString :=
  match (element.bytes.splitOn 0x0a).filter (!·.isEmpty) with
  | [] => [⟨[], .utf8⟩]
  | piece :: rest => (piece :: rest).map (⟨·, element.encoding⟩)

def HeaderValue.wireLines : HeaderValue → List RubyString
  | .string value => if value.bytes.contains 0x0a then value.segments else [value]
  | .array elements => elements.flatMap RubyString.segments

/-- No string that is split is broken. -/
def HeaderValue.Splits : HeaderValue → Prop
  | .string value => value.bytes.contains 0x0a = true → value.validEncoding = true
  | .array elements => ∀ element ∈ elements, element.validEncoding = true

def headerLines (headers : List (RubyString × HeaderValue)) : List (RubyString × RubyString) :=
  headers.flatMap fun header => header.2.wireLines.map (header.1, ·)

/-- The header rules on one line whose name is not broken. -/
def keepsLine (line : RubyString × RubyString) : Bool :=
  !isFraming (line.1.bytes.map byteToAsciiLowercase) && (validName line.1 && validValue line.2)

/-! ## Expansion and rules that run through -/

/-- Dropping the empty pieces at the end, then all of them, is dropping all of them. -/
private theorem filter_rdropWhile_isEmpty (pieces : List (List UInt8)) :
    (pieces.rdropWhile List.isEmpty).filter (!·.isEmpty) = pieces.filter (!·.isEmpty) := by
  induction pieces using List.reverseRecOn with
  | nil => rfl
  | append_singleton pieces piece inductionHypothesis =>
      by_cases empty : piece.isEmpty = true
      · rw [List.rdropWhile_concat_pos _ _ _ empty, inductionHypothesis, List.filter_append,
          List.filter_singleton, empty]
        simp
      · rw [List.rdropWhile_concat_neg _ _ _ empty]

/-- The empty lines that are dropped are the empty pieces, unless nothing else is there. -/
private theorem keptSegments (encoding : Encoding) {pieces : List (List UInt8)}
    (trimmed : ∀ nonempty : pieces ≠ [], pieces.getLast nonempty ≠ []) :
    (let segs : List RubyString := pieces.map (⟨·, encoding⟩)
     let segs := if segs.isEmpty then segs ++ [⟨[], .utf8⟩] else segs
     segs.filter fun seg => !(seg.bytes.isEmpty && segs.length > 1)) =
      match pieces.filter (!·.isEmpty) with
      | [] => [⟨[], .utf8⟩]
      | piece :: rest => (piece :: rest).map (⟨·, encoding⟩) := by
  match pieces with
  | [] => rfl
  | [piece] =>
      have nonempty : piece.isEmpty = false := by
        simpa using trimmed (List.cons_ne_nil piece [])
      simp [nonempty]
  | first :: second :: rest =>
      have nonempty : first :: second :: rest ≠ [] := List.cons_ne_nil _ _
      have lastKept : (first :: second :: rest).getLast nonempty ∈
          (first :: second :: rest).filter (!·.isEmpty) := by
        rw [List.mem_filter]
        exact ⟨List.getLast_mem nonempty, by simpa using trimmed nonempty⟩
      have many : ((first :: second :: rest).map (RubyString.mk · encoding)).length > 1 := by
        simp
      have notEmpty : ((first :: second :: rest).map (RubyString.mk · encoding)).isEmpty = false :=
        rfl
      dsimp only
      simp only [notEmpty, Bool.false_eq_true, if_false, many, decide_true, Bool.and_true]
      rw [List.filter_map]
      cases found : (first :: second :: rest).filter (!·.isEmpty) with
      | nil =>
          rw [found] at lastKept
          cases lastKept
      | cons piece others =>
          show ((first :: second :: rest).filter (!·.isEmpty)).map _ = _
          rw [found]

private theorem elementLines_eq_ok {element : RubyString} {lines : List RubyString} :
    elementLines element = .ok lines ↔
      element.validEncoding = true ∧ element.segments = lines := by
  unfold elementLines RubyString.splitLines
  by_cases valid : element.validEncoding = true
  · have trimmed : ∀ nonempty : (element.bytes.splitOn 0x0a).rdropWhile List.isEmpty ≠ [],
        ((element.bytes.splitOn 0x0a).rdropWhile List.isEmpty).getLast nonempty ≠ [] := by
      intro nonempty
      simpa using List.rdropWhile_last_not List.isEmpty _ nonempty
    have kept := keptSegments element.encoding trimmed
    rw [filter_rdropWhile_isEmpty] at kept
    rw [if_pos valid, ok_bind, and_iff_right valid, RubyString.segments, ← kept]
    exact ⟨Except.ok.inj, congrArg Except.ok⟩
  · rw [if_neg valid]
    constructor
    · intro built
      cases built
    · intro built
      exact absurd built.1 valid

private theorem arrayLines_eq_ok {elements lines : List RubyString} :
    arrayLines elements = .ok lines ↔
      (∀ element ∈ elements, element.validEncoding = true) ∧
        elements.flatMap RubyString.segments = lines := by
  induction elements generalizing lines with
  | nil => simp [arrayLines]
  | cons element rest inductionHypothesis =>
      simp only [arrayLines, bind_eq_ok, elementLines_eq_ok, inductionHypothesis,
        List.forall_mem_cons, List.flatMap_cons]
      constructor
      · rintro ⟨_, ⟨valid, rfl⟩, _, ⟨restValid, rfl⟩, built⟩
        exact ⟨⟨valid, restValid⟩, Except.ok.inj built⟩
      · rintro ⟨⟨valid, restValid⟩, rfl⟩
        exact ⟨_, ⟨valid, rfl⟩, _, ⟨restValid, rfl⟩, rfl⟩

private theorem lines_eq_ok {value : HeaderValue} {lines : List RubyString} :
    value.lines = .ok lines ↔ value.Splits ∧ value.wireLines = lines := by
  cases value with
  | array elements => exact arrayLines_eq_ok
  | string text =>
      by_cases breaks : 0x0a ∈ text.bytes
      · simp [HeaderValue.lines, HeaderValue.wireLines, HeaderValue.Splits, breaks,
          arrayLines_eq_ok]
      · simp [HeaderValue.lines, HeaderValue.wireLines, HeaderValue.Splits, breaks]

/-- The expansion runs through exactly when no string that is split is broken. -/
theorem flattenHeaderPairs_eq_ok {headers : List (RubyString × HeaderValue)}
    {pairs : List (RubyString × RubyString)} :
    flattenHeaderPairs headers = .ok pairs ↔
      (∀ header ∈ headers, header.2.Splits) ∧ headerLines headers = pairs := by
  induction headers generalizing pairs with
  | nil => simp [flattenHeaderPairs, headerLines]
  | cons header rest inductionHypothesis =>
      simp only [flattenHeaderPairs, bind_eq_ok, lines_eq_ok, inductionHypothesis,
        List.forall_mem_cons]
      constructor
      · rintro ⟨_, ⟨splits, rfl⟩, _, ⟨restSplits, rfl⟩, built⟩
        exact ⟨⟨splits, restSplits⟩, Except.ok.inj built⟩
      · rintro ⟨⟨splits, restSplits⟩, rfl⟩
        exact ⟨_, ⟨splits, rfl⟩, _, ⟨restSplits, rfl⟩, rfl⟩

/-- The rules run through exactly when no name is broken, and then filter the lines. -/
theorem sanitizeResponseHeaders_eq_ok {pairs kept : List (RubyString × RubyString)} :
    sanitizeResponseHeaders pairs = .ok kept ↔
      (∀ pair ∈ pairs, pair.1.validEncoding = true) ∧ pairs.filter keepsLine = kept := by
  induction pairs generalizing kept with
  | nil => simp [sanitizeResponseHeaders]
  | cons pair rest inductionHypothesis =>
      have lower {name : RubyString} {bytes : List UInt8} : name.downcase = .ok bytes ↔
          name.validEncoding = true ∧ name.bytes.map byteToAsciiLowercase = bytes := by
        unfold RubyString.downcase
        split
        · rename_i valid
          simp [valid]
        · rename_i broken
          simp [broken]
      simp only [sanitizeResponseHeaders, bind_eq_ok, lower, inductionHypothesis,
        List.forall_mem_cons, List.filter_cons]
      constructor
      · rintro ⟨_, ⟨valid, rfl⟩, _, ⟨restValid, rfl⟩, built⟩
        exact ⟨⟨valid, restValid⟩, Except.ok.inj built⟩
      · rintro ⟨⟨valid, restValid⟩, rfl⟩
        exact ⟨_, ⟨valid, rfl⟩, _, ⟨restValid, rfl⟩, rfl⟩

/-- A response frame is built exactly when nothing is broken; it holds the lines kept. -/
theorem respondToRequest_eq_ok {response : RackResponse} {frame : List UInt8} :
    respondToRequest response = .ok frame ↔
      (∀ header ∈ response.headers, header.2.Splits) ∧
        (∀ line ∈ headerLines response.headers, line.1.validEncoding = true) ∧
          encodeFullResponse response.status ((headerLines response.headers).filter keepsLine)
            response.body = frame := by
  simp only [respondToRequest, bind_eq_ok, flattenHeaderPairs_eq_ok, sanitizeResponseHeaders_eq_ok]
  constructor
  · rintro ⟨_, ⟨splits, rfl⟩, _, ⟨valid, rfl⟩, built⟩
    exact ⟨splits, valid, Except.ok.inj built⟩
  · rintro ⟨splits, valid, rfl⟩
    exact ⟨_, ⟨splits, rfl⟩, _, ⟨valid, rfl⟩, rfl⟩

end Oxo.Worker.AsyncWorker
