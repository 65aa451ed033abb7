import Oxo.Edge.FrameHop.Streaming
import Oxo.Edge.HttpHop.Response

/-!
Contract: the head a worker writes is the head the edge reads
(`oxo-worker/src/native/serve.rs`, `oxo-pingora-edge/src/platform/worker_wire.rs`).

Owns: the lines of a written head, where the edge finds its end, and what the edge makes of its
status line and of its header lines.

Does not own: the body, or how the bytes arrive.
-/

namespace Oxo.Edge.HttpHop

open Oxo.Foundation Oxo.Worker Oxo.Edge.FrameHop

/-! ## Lines on the wire -/

/-- A line that no line end and no head end can be seen in. -/
structure WireLine (line : List UInt8) : Prop where
  nonempty : line ≠ []
  noReturn : (13 : UInt8) ∉ line
  noFeed : (10 : UInt8) ∉ line

/-- Lines with a line end between them. -/
def joined (first : List UInt8) (rest : List (List UInt8)) : List UInt8 :=
  first ++ rest.flatMap fun line => [13, 10] ++ line

@[simp] theorem joined_nil (first : List UInt8) : joined first [] = first := by
  simp [joined]

theorem joined_cons (first next : List UInt8) (rest : List (List UInt8)) :
    joined first (next :: rest) = first ++ ([13, 10] ++ joined next rest) := by
  simp [joined]

/-- The pieces at the line feeds: every line but the last keeps its carriage return. -/
def rawLines (first : List UInt8) : List (List UInt8) → List (List UInt8)
  | [] => [first]
  | next :: rest => (first ++ [13]) :: rawLines next rest

theorem splitOn_joined {first : List UInt8} {rest : List (List UInt8)}
    (wire : ∀ line ∈ first :: rest, WireLine line) :
    (joined first rest).splitOn 10 = rawLines first rest := by
  induction rest generalizing first with
  | nil =>
      rw [joined_nil, rawLines, List.splitOn_eq_singleton (wire first List.mem_cons_self).noFeed]
  | cons next rest inductionHypothesis =>
      have plain : (10 : UInt8) ∉ first ++ [13] := by
        intro member
        rcases List.mem_append.mp member with inFirst | isReturn
        · exact (wire first List.mem_cons_self).noFeed inFirst
        · exact absurd isReturn (by decide)
      have shape : joined first (next :: rest) = (first ++ [13]) ++ 10 :: joined next rest := by
        rw [joined_cons]
        simp
      rw [shape, List.splitOn_append_cons_self_of_not_mem plain, rawLines,
        inductionHypothesis fun line member => wire line (List.mem_cons_of_mem _ member)]

theorem stripTrailingCr_return (line : List UInt8) : stripTrailingCr (line ++ [13]) = line := by
  simp [stripTrailingCr]

theorem stripTrailingCr_wire {line : List UInt8} (wire : WireLine line) :
    stripTrailingCr line = line := by
  have last : line.getLast? ≠ some 13 := by
    intro ends
    exact wire.noReturn (List.mem_of_getLast? ends)
  rw [stripTrailingCr, if_neg last]

/-- Without their carriage returns the pieces are the lines. -/
theorem rawLines_stripped {first : List UInt8} {rest : List (List UInt8)}
    (wire : ∀ line ∈ first :: rest, WireLine line) :
    (rawLines first rest).map stripTrailingCr = first :: rest := by
  induction rest generalizing first with
  | nil =>
      rw [rawLines, List.map_singleton, stripTrailingCr_wire (wire first List.mem_cons_self)]
  | cons next rest inductionHypothesis =>
      rw [rawLines, List.map_cons, stripTrailingCr_return,
        inductionHypothesis fun line member => wire line (List.mem_cons_of_mem _ member)]

/-- A line end with a line behind it is not the end of a head. -/
private theorem findHeaderEnd_line {line next : List UInt8} (plain : (13 : UInt8) ∉ line)
    (wire : WireLine next) (behind : List UInt8) :
    findHeaderEnd (line ++ ([13, 10] ++ (next ++ behind))) =
      (findHeaderEnd (next ++ behind)).map (· + (line.length + 2)) := by
  obtain ⟨byte, tail, opened⟩ := List.exists_cons_of_ne_nil wire.nonempty
  have notReturn : byte ≠ 13 := by
    intro isReturn
    apply wire.noReturn
    rw [opened, isReturn]
    exact List.mem_cons_self
  have inside : findHeaderEnd ([13, 10] ++ (next ++ behind)) =
      (findHeaderEnd (next ++ behind)).map (· + 2) := by
    unfold findHeaderEnd
    rw [opened, List.cons_append, List.cons_append, windowPosition, if_neg (by
      rw [List.isPrefixOf_iff_prefix]
      intro opens
      have third := (List.cons_prefix_cons.mp (List.cons_prefix_cons.mp
        (List.cons_prefix_cons.mp opens).2).2).1
      exact notReturn third.symm), List.cons_append, windowPosition, if_neg (by
      rw [List.isPrefixOf_iff_prefix]
      intro opens
      exact absurd (List.cons_prefix_cons.mp opens).1 (by decide)), Option.map_map]
    rfl
  unfold findHeaderEnd at inside ⊢
  rw [windowPosition_skip plain, inside, Option.map_map]
  congr 1
  funext position
  simp only [Function.comp_apply]
  omega

/-- The end of a head is found behind its last line. -/
theorem findHeaderEnd_joined {first : List UInt8} {rest : List (List UInt8)}
    (wire : ∀ line ∈ first :: rest, WireLine line) (behind : List UInt8) :
    findHeaderEnd (joined first rest ++ ([13, 10, 13, 10] ++ behind)) =
      some (joined first rest).length := by
  induction rest generalizing first with
  | nil =>
      have plain := (wire first List.mem_cons_self).noReturn
      unfold findHeaderEnd
      rw [joined_nil, windowPosition_skip plain, windowPosition_of_prefix, Option.map_some,
        Nat.zero_add]
  | cons next rest inductionHypothesis =>
      have plain := (wire first List.mem_cons_self).noReturn
      have nextWire := wire next (List.mem_cons_of_mem _ List.mem_cons_self)
      have later := inductionHypothesis fun line member =>
        wire line (List.mem_cons_of_mem _ member)
      have shape : joined first (next :: rest) ++ ([13, 10, 13, 10] ++ behind) =
          first ++ ([13, 10] ++ (next ++ ((rest.flatMap fun line => [13, 10] ++ line) ++
            ([13, 10, 13, 10] ++ behind)))) := by
        rw [joined_cons, joined]
        simp
      have nextShape : next ++ ((rest.flatMap fun line => [13, 10] ++ line) ++
          ([13, 10, 13, 10] ++ behind)) = joined next rest ++ ([13, 10, 13, 10] ++ behind) := by
        rw [joined, List.append_assoc]
      rw [shape, findHeaderEnd_line plain nextWire, nextShape, later, Option.map_some, joined_cons]
      simp only [List.length_append, List.length_cons, List.length_nil]
      congr 1
      omega

/-! ## Header lines -/

/-- A header that can stand on a line of its own. -/
structure WireField (header : String × String) : Prop where
  name : validToken header.1 = true
  value : validResponseHeaderValue header.2 = true

def fieldLine (header : String × String) : List UInt8 :=
  utf8 header.1 ++ ([58, 32] ++ utf8 header.2)

theorem token_not_mem {name : String} (token : validToken name = true) {byte : UInt8}
    (notToken : isTokenByte byte = false) : byte ∉ utf8 name := by
  intro member
  have valid := List.all_eq_true.mp (Bool.and_eq_true_iff.mp token).2 byte member
  rw [notToken] at valid
  cases valid

theorem value_not_mem {value : String} (valid : validResponseHeaderValue value = true)
    {byte : UInt8} (control : byte < 32) : byte ∉ utf8 value := by
  intro member
  have allowed := List.all_eq_true.mp valid byte member
  simp only [Bool.and_eq_true, decide_eq_true_eq, ge_iff_le] at allowed
  exact absurd control (UInt8.not_lt.mpr allowed.1)

theorem token_nonempty {name : String} (token : validToken name = true) : utf8 name ≠ [] := by
  intro empty
  have named := (Bool.and_eq_true_iff.mp token).1
  have isEmpty : name = "" := utf8_injective empty
  rw [isEmpty] at named
  cases named

theorem fieldLine_wire {header : String × String} (field : WireField header) :
    WireLine (fieldLine header) := by
  have absent : ∀ byte : UInt8, isTokenByte byte = false → byte < 32 → byte ∉ [58, 32] →
      byte ∉ fieldLine header := by
    intro byte notToken control notMark member
    rcases List.mem_append.mp member with inName | inRest
    · exact token_not_mem field.name notToken inName
    · rcases List.mem_append.mp inRest with isMark | inValue
      · exact notMark isMark
      · exact value_not_mem field.value control inValue
  refine ⟨?_, absent 13 (by decide) (by decide) (by decide),
    absent 10 (by decide) (by decide) (by decide)⟩
  intro empty
  exact token_nonempty field.name (List.append_eq_nil_iff.mp empty).1

/-- The value as the edge reads it. -/
def readField (header : String × String) : String × String :=
  (header.1, trimMatches isBlank header.2)

theorem utf8_trimBlank (value : String) :
    utf8 (trimMatches isBlank value) = trimOptionalWhitespace (utf8 value) := by
  apply utf8_trimMatches
  · intro byte blank
    simp only [isOptionalWhitespace, Bool.or_eq_true, beq_iff_eq] at blank
    rcases blank with rfl | rfl <;> decide
  · intro char
    simp only [isBlank, isOptionalWhitespace, Bool.or_eq_true, beq_iff_eq]
    constructor
    · intro blank
      rcases blank with rfl | rfl
      · exact ⟨32, .inl rfl, rfl⟩
      · exact ⟨9, .inr rfl, rfl⟩
    · intro blank
      obtain ⟨byte, rfl | rfl, code⟩ := blank
      · exact .inl (Char.toNat_inj.mp code)
      · exact .inr (Char.toNat_inj.mp code)

theorem readField_value {header : String × String} (field : WireField header) :
    isHeaderValue (readField header).2 = true ∧
      hasInvalidHeaderValueBytes (utf8 (readField header).2) = false := by
  have allowed : ∀ byte ∈ utf8 (readField header).2, byte ≥ 32 ∧ byte ≠ 127 := by
    intro byte member
    have inValue : byte ∈ utf8 header.2 := by
      rw [readField, utf8_trimBlank] at member
      exact List.dropWhile_subset _ ((List.rdropWhile_prefix _ _).subset member)
    have valid := List.all_eq_true.mp field.value byte inValue
    simpa using valid
  constructor
  · apply List.all_eq_true.mpr
    intro byte member
    obtain ⟨high, notDelete⟩ := allowed byte member
    simp [high, notDelete]
  · apply List.any_eq_false.mpr
    intro byte member invalid
    obtain ⟨high, notDelete⟩ := allowed byte member
    have highNat := UInt8.le_iff_toNat_le.mp high
    simp only [Bool.or_eq_true, Bool.and_eq_true, decide_eq_true_eq, beq_iff_eq,
      UInt8.le_iff_toNat_le] at invalid
    rcases invalid with (low | middle) | delete
    · exact absurd (Nat.le_trans highNat low) (by decide)
    · exact absurd (Nat.le_trans highNat middle.2) (by decide)
    · exact notDelete delete

/-- A header line is read as its name and its trimmed value. -/
theorem headerFields_line {header : String × String} (field : WireField header)
    {rawLine : List UInt8} (stripped : stripTrailingCr rawLine = fieldLine header) :
    headerFields rawLine = .ok (header.1, utf8 (readField header).2) := by
  obtain ⟨byte, tail, opened⟩ := List.exists_cons_of_ne_nil (token_nonempty field.name)
  have unopened : ∀ mark : UInt8, isTokenByte mark = false →
      [mark].isPrefixOf (fieldLine header) = false := by
    intro mark notToken
    rw [Bool.eq_false_iff]
    intro opens
    rw [List.isPrefixOf_iff_prefix, fieldLine, opened, List.cons_append,
      List.cons_prefix_cons] at opens
    apply token_not_mem field.name notToken
    rw [opened, opens.1]
    exact List.mem_cons_self
  have nonempty : (fieldLine header).isEmpty = false := by
    rw [List.isEmpty_eq_false_iff]
    exact (fieldLine_wire field).nonempty
  have colon : (fieldLine header).idxOf? 58 = some (utf8 header.1).length := by
    exact idxOf?_append_cons (token_not_mem field.name (by decide)) _
  have name : (fieldLine header).take (utf8 header.1).length = utf8 header.1 := by
    rw [fieldLine, List.take_left]
  have value : trimOptionalWhitespace ((fieldLine header).drop ((utf8 header.1).length + 1)) =
      utf8 (readField header).2 := by
    have behind : (fieldLine header).drop ((utf8 header.1).length + 1) = 32 :: utf8 header.2 := by
      rw [fieldLine, ← List.drop_drop, List.drop_left]
      rfl
    rw [behind, readField, utf8_trimBlank, trimOptionalWhitespace, List.dropWhile_cons,
      if_pos (by decide)]
    rfl
  have validName : isValidHeaderName (utf8 header.1) = true := by
    have token := (Bool.and_eq_true_iff.mp field.name).2
    rw [isValidHeaderName, token, Bool.and_true, Bool.not_eq_true', List.isEmpty_eq_false_iff]
    exact token_nonempty field.name
  unfold headerFields
  simp only [stripped, nonempty, unopened 32 (by decide), unopened 9 (by decide), Bool.or_self,
    Bool.false_eq_true, if_false, colon, name, value, validName, (readField_value field).2,
    Bool.not_true, fromUtf8_utf8]

/-! ## The status line -/

def statusLine (status : UInt16) : List UInt8 :=
  utf8 ("HTTP/1.1" ++ " " ++
    (numeral 10 (writtenStatus status).toNat ++ " " ++ reason (writtenStatus status)))

theorem writtenStatus_range (status : UInt16) :
    100 ≤ (writtenStatus status).toNat ∧ (writtenStatus status).toNat ≤ 999 := by
  unfold writtenStatus
  by_cases inRange : 100 ≤ status ∧ status ≤ 999
  · rw [if_pos inRange]
    exact ⟨UInt16.le_iff_toNat_le.mp inRange.1, UInt16.le_iff_toNat_le.mp inRange.2⟩
  · rw [if_neg inRange]
    decide

private theorem reason_plain (status : UInt16) :
    (13 : UInt8) ∉ utf8 (reason status) ∧ (10 : UInt8) ∉ utf8 (reason status) := by
  unfold reason
  split <;> decide +kernel

private theorem numeral_not_mem (value : Nat) {byte : UInt8} (control : byte.toNat < 48) :
    byte ∉ utf8 (numeral 10 value) := by
  have ascii : byte < 0x80 := by
    rw [UInt8.lt_iff_toNat_lt]
    change byte.toNat < 128
    omega
  rw [ascii_mem_utf8 ascii]
  rintro ⟨char, member, code⟩
  have bounds := isDigit_iff.mp (numeral_digits member)
  omega

theorem statusLine_wire (status : UInt16) : WireLine (statusLine status) := by
  have absent : ∀ byte : UInt8, byte.toNat < 32 → byte ∉ utf8 "HTTP/1.1" → byte ∉ utf8 " " →
      byte ∉ utf8 (reason (writtenStatus status)) → byte ∉ statusLine status := by
    intro byte control notVersion notSpace notReason member
    simp only [statusLine, utf8_append, List.mem_append] at member
    rcases member with (inVersion | isSpace) | (inCode | isSpace) | inReason
    · exact notVersion inVersion
    · exact notSpace isSpace
    · exact numeral_not_mem _ (by omega) inCode
    · exact notSpace isSpace
    · exact notReason inReason
  refine ⟨?_, absent 13 (by decide) (by decide) (by decide) (reason_plain _).1,
    absent 10 (by decide) (by decide) (by decide) (reason_plain _).2⟩
  intro empty
  have lengths := congrArg List.length empty
  simp [statusLine] at lengths

/-- The edge takes a written status up to 599. -/
theorem parseStatusLine_statusLine (status : UInt16) :
    parseStatusLine (statusLine status) =
      if writtenStatus status ≤ 599 then .ok (writtenStatus status) else .error 502 := by
  have range := writtenStatus_range status
  have notEmpty : numeral 10 (writtenStatus status).toNat ≠ "" := by
    intro empty
    have digits := congrArg String.toList empty
    rw [numeral, String.toList_ofList] at digits
    exact Nat.toDigits_ne_nil digits
  have digitsPlain : ∀ char ∈ (numeral 10 (writtenStatus status).toNat).toList,
      isWhitespace char = false := fun _ member =>
    isWhitespace_of_isDigit (numeral_digits member)
  have below : (writtenStatus status).toNat < 2 ^ 16 := by omega
  have same : UInt16.ofNat (writtenStatus status).toNat = writtenStatus status :=
    UInt16.ofNat_toNat
  have inRange : (100 ≤ (writtenStatus status).toNat ∧ (writtenStatus status).toNat ≤ 599) ↔
      writtenStatus status ≤ 599 := by
    rw [UInt16.le_iff_toNat_le]
    exact ⟨fun both => both.2, fun high => ⟨range.1, high⟩⟩
  have version : ∀ rest, splitWhitespace ("HTTP/1.1" ++ " " ++ rest) =
      "HTTP/1.1" :: splitWhitespace rest :=
    splitWhitespace_word (by decide) (by decide)
  unfold parseStatusLine statusLine
  rw [fromUtf8_utf8]
  simp only [version, splitWhitespace_word notEmpty digitsPlain, bne_self_eq_false,
    Bool.false_eq_true, if_false, parseUnsigned_numeral below, same, inRange]

/-! ## Header lists -/

section

variable {rawLines : List (List UInt8)} {fields : List (String × String)}

theorem chunkedAmong_lines (wire : ∀ field ∈ fields, WireField field)
    (stripped : rawLines.map stripTrailingCr = fields.map fieldLine)
    (framing : ∀ field ∈ fields, eqIgnoreAsciiCase field.1 "transfer-encoding" = true →
      eqIgnoreAsciiCase (readField field).2 "chunked" = true) (chunked : Bool) :
    chunkedAmong rawLines chunked =
      .ok (chunked || fields.any fun field => eqIgnoreAsciiCase field.1 "transfer-encoding") := by
  induction fields generalizing rawLines chunked with
  | nil =>
      rw [List.map_nil, List.map_eq_nil_iff] at stripped
      rw [stripped, chunkedAmong, List.any_nil, Bool.or_false]
  | cons field fields inductionHypothesis =>
      obtain ⟨rawLine, rest, rfl, line, restLines⟩ := List.map_eq_cons_iff.mp stripped
      obtain ⟨fieldWire, fieldsWire⟩ := List.forall_mem_cons.mp wire
      obtain ⟨fieldFraming, fieldsFraming⟩ := List.forall_mem_cons.mp framing
      rw [chunkedAmong, headerFields_line fieldWire line, ok_bind, List.any_cons]
      simp only
      cases isFraming : eqIgnoreAsciiCase field.1 "transfer-encoding" with
      | true =>
          simp only [if_true, fromUtf8_utf8, fieldFraming isFraming, Bool.true_or, Bool.or_true]
          rw [inductionHypothesis fieldsWire restLines fieldsFraming true, Bool.true_or]
      | false =>
          simp only [Bool.false_eq_true, if_false, Bool.false_or]
          exact inductionHypothesis fieldsWire restLines fieldsFraming chunked

private theorem framing_names (name : String) :
    ["connection", "content-length", "transfer-encoding"].contains (toAsciiLowercase name) =
      isHostFraming name := by
  unfold isHostFraming
  simp only [List.contains_cons, List.contains_nil, Bool.or_false]
  rw [Bool.or_left_comm, Bool.or_comm (toAsciiLowercase name == "connection")]

/-- The library takes every line that is not framing. -/
theorem appendHeaderFields_lines {settings : HopSettings} (library : LibraryAccepts settings)
    (wire : ∀ field ∈ fields, WireField field)
    (stripped : rawLines.map stripTrailingCr = fields.map fieldLine)
    (short : ∀ field ∈ fields, field.1.utf8ByteSize < 2 ^ 16) (header : ResponseHeader) :
    appendHeaderFields settings rawLines header = .ok { header with
      headers := header.headers ++
        (fields.filter fun field => !isHostFraming field.1).map readField } := by
  induction fields generalizing rawLines header with
  | nil =>
      rw [List.map_nil, List.map_eq_nil_iff] at stripped
      rw [stripped, appendHeaderFields, List.filter_nil, List.map_nil, List.append_nil]
  | cons field fields inductionHypothesis =>
      obtain ⟨rawLine, rest, rfl, line, restLines⟩ := List.map_eq_cons_iff.mp stripped
      obtain ⟨fieldWire, fieldsWire⟩ := List.forall_mem_cons.mp wire
      obtain ⟨fieldShort, fieldsShort⟩ := List.forall_mem_cons.mp short
      rw [appendHeaderFields, headerFields_line fieldWire line, ok_bind]
      simp only [framing_names]
      cases framing : isHostFraming field.1 with
      | true =>
          rw [if_pos rfl, inductionHypothesis fieldsWire restLines fieldsShort,
            List.filter_cons, framing, Bool.not_true, if_neg Bool.false_ne_true]
      | false =>
          have token := Bool.and_eq_true_iff.mp fieldWire.name
          have named : isHeaderName field.1 = true := by
            rw [isHeaderName, isValidHeaderName, token.2, decide_eq_true fieldShort,
              Bool.and_true, Bool.and_true, Bool.not_eq_true', List.isEmpty_eq_false_iff]
            exact token_nonempty fieldWire.name
          have accepted : settings.acceptsHeader field.1 (readField field).2 = true := by
            rw [library.header, named, (readField_value fieldWire).1]
            rfl
          rw [if_neg Bool.false_ne_true]
          simp only [fromUtf8_utf8, accepted, if_true]
          rw [inductionHypothesis fieldsWire restLines fieldsShort, List.filter_cons, framing,
            Bool.not_false, if_pos rfl, List.map_cons, List.append_assoc]
          rfl

end

/-! ## The head of a streamed response -/

/-- The header lines of a streamed response. -/
def headFields (head : WorkerResponseHead) : List (String × String) :=
  emittedHeaders head.headers ++ [("transfer-encoding", "chunked"), ("connection", "close")]

/-- The head in front of its blank line. -/
def headBytes (head : WorkerResponseHead) : List UInt8 :=
  joined (statusLine head.status) ((headFields head).map fieldLine)

private theorem flatMap_rotate {α β : Type} (separator : List β) (line : α → List β)
    (items : List α) :
    separator ++ items.flatMap (fun item => line item ++ separator) =
      items.flatMap (fun item => separator ++ line item) ++ separator := by
  induction items with
  | nil => simp
  | cons item rest inductionHypothesis =>
      rw [List.flatMap_cons, List.flatMap_cons, List.append_assoc, List.append_assoc,
        List.append_assoc, ← inductionHypothesis]

theorem writeResponseHead_chunked (head : WorkerResponseHead) :
    writeResponseHead head.status head.headers .chunked = headBytes head ++ [13, 10, 13, 10] := by
  have lines : (emittedHeaders head.headers).flatMap (fun header =>
      utf8 (header.1 ++ ": " ++ header.2 ++ "\r\n")) =
      (emittedHeaders head.headers).flatMap (fun header => fieldLine header ++ [13, 10]) := by
    congr 1
    funext header
    simp only [utf8_append, fieldLine, List.append_assoc]
    rfl
  have opening : utf8 ("HTTP/1.1 " ++ numeral 10 (writtenStatus head.status).toNat ++ " " ++
      reason (writtenStatus head.status) ++ "\r\n") = statusLine head.status ++ [13, 10] := by
    have version : utf8 "HTTP/1.1 " = utf8 "HTTP/1.1" ++ utf8 " " := by decide
    have feed : utf8 "\r\n" = [13, 10] := by decide
    simp only [statusLine, utf8_append, version, feed, List.append_assoc]
  have closing : utf8 ResponseBodyMode.chunked.line ++ utf8 "connection: close\r\n\r\n" =
      fieldLine ("transfer-encoding", "chunked") ++ ([13, 10] ++
        (fieldLine ("connection", "close") ++ [13, 10, 13, 10])) := by
    decide +kernel
  have rotated := flatMap_rotate [13, 10] fieldLine (emittedHeaders head.headers)
  unfold writeResponseHead headBytes headFields joined
  simp only [lines, opening]
  rw [List.append_assoc, closing, List.append_assoc, List.append_assoc, ← List.append_assoc [13, 10],
    rotated]
  simp [List.flatMap_map]

theorem headFields_wire (head : WorkerResponseHead) :
    ∀ field ∈ headFields head, WireField field := by
  intro field member
  rcases List.mem_append.mp member with emitted | own
  · have kept := (List.mem_filter.mp emitted).2
    simp only [Bool.and_eq_true] at kept
    exact ⟨kept.2.1, kept.2.2⟩
  · have ownWire : ∀ field ∈ [("transfer-encoding", "chunked"), ("connection", "close")],
        validToken field.1 = true ∧ validResponseHeaderValue field.2 = true := by
      decide +kernel
    exact ⟨(ownWire field own).1, (ownWire field own).2⟩

theorem headLines_wire (head : WorkerResponseHead) :
    ∀ line ∈ statusLine head.status :: (headFields head).map fieldLine, WireLine line := by
  intro line member
  rcases List.mem_cons.mp member with rfl | inFields
  · exact statusLine_wire head.status
  · obtain ⟨field, fieldMember, rfl⟩ := List.mem_map.mp inFields
    exact fieldLine_wire (headFields_wire head field fieldMember)

/-- The edge finds the end of the head where the worker put it. -/
theorem findHeaderEnd_headBytes (head : WorkerResponseHead) (behind : List UInt8) :
    findHeaderEnd (headBytes head ++ ([13, 10, 13, 10] ++ behind)) =
      some (headBytes head).length :=
  findHeaderEnd_joined (headLines_wire head) behind

private theorem emitted_not_framing {head : WorkerResponseHead} {field : String × String}
    (member : field ∈ emittedHeaders head.headers) : isHostFraming field.1 = false := by
  have kept := (List.mem_filter.mp member).2
  simp only [Bool.and_eq_true, Bool.not_eq_true'] at kept
  exact kept.1

/-- The lines behind the status line, as the edge splits them. -/
private theorem headLines_stripped (head : WorkerResponseHead) :
    ((headBytes head).splitOn 10).tail.map stripTrailingCr = (headFields head).map fieldLine ∧
      stripTrailingCr (((headBytes head).splitOn 10).headD []) = statusLine head.status := by
  have wire := headLines_wire head
  have stripped := rawLines_stripped wire
  rw [headBytes, splitOn_joined wire]
  cases raw : rawLines (statusLine head.status) ((headFields head).map fieldLine) with
  | nil =>
      rw [raw] at stripped
      cases stripped
  | cons first rest =>
      rw [raw, List.map_cons, List.cons.injEq] at stripped
      exact ⟨stripped.2, stripped.1⟩

/-- The head of a streamed response is recognised as chunked. -/
theorem workerResponseIsChunked_headBytes (head : WorkerResponseHead) :
    workerResponseIsChunked (headBytes head) = .ok true := by
  have framing : ∀ field ∈ headFields head,
      eqIgnoreAsciiCase field.1 "transfer-encoding" = true →
        eqIgnoreAsciiCase (readField field).2 "chunked" = true := by
    intro field member isEncoding
    rcases List.mem_append.mp member with emitted | own
    · have notFraming := emitted_not_framing emitted
      rw [← isFramingHeader_eq, isFramingHeader, isEncoding, Bool.or_true, Bool.true_or] at notFraming
      cases notFraming
    · have ownFraming : ∀ field ∈ [("transfer-encoding", "chunked"), ("connection", "close")],
          eqIgnoreAsciiCase field.1 "transfer-encoding" = true →
            eqIgnoreAsciiCase (readField field).2 "chunked" = true := by
        decide +kernel
      exact ownFraming field own isEncoding
  unfold workerResponseIsChunked
  rw [chunkedAmong_lines (headFields_wire head) (headLines_stripped head).1 framing]
  have encoded : eqIgnoreAsciiCase "transfer-encoding" "transfer-encoding" = true := by decide
  simp [headFields, encoded]

/-- A name in a head is shorter than the head. -/
theorem name_lt_headBytes {head : WorkerResponseHead} {field : String × String}
    (member : field ∈ headFields head) : field.1.utf8ByteSize < (headBytes head).length := by
  obtain ⟨before, after, split⟩ := List.append_of_mem member
  have nonempty := List.length_pos_of_ne_nil (statusLine_wire head.status).nonempty
  rw [headBytes, split, joined]
  simp only [List.map_append, List.map_cons, List.flatMap_append, List.flatMap_cons,
    List.length_append, fieldLine, List.length_cons, List.length_nil, utf8_length]
  omega

/-- The header the edge makes of a streamed head. -/
def relayedHeader (settings : HopSettings) (head : WorkerResponseHead) : ResponseHeader where
  status := writtenStatus head.status
  headers := (emittedHeaders head.headers).map readField ++ closeHeader settings

/-- What the edge makes of a streamed head: its header, when it takes the status. -/
theorem parseChunkedWorkerResponseHead_headBytes {settings : HopSettings}
    (library : LibraryAccepts settings) {head : WorkerResponseHead}
    (capped : (headBytes head).length ≤ maxResponseHeaderBytes) :
    parseChunkedWorkerResponseHead settings (headBytes head) =
      if writtenStatus head.status ≤ 599 then
        .ok (relayedHeader settings head, writtenStatus head.status)
      else .error 502 := by
  have range := writtenStatus_range head.status
  have short : ∀ field ∈ headFields head, field.1.utf8ByteSize < 2 ^ 16 := by
    intro field member
    exact Nat.lt_of_lt_of_le (name_lt_headBytes member) capped
  have kept : ((headFields head).filter fun field => !isHostFraming field.1) =
      emittedHeaders head.headers := by
    have own : ([("transfer-encoding", "chunked"), ("connection", "close")].filter
        fun field : String × String => !isHostFraming field.1) = [] := by
      decide +kernel
    rw [headFields, List.filter_append, own, List.append_nil, List.filter_eq_self]
    intro field member
    rw [emitted_not_framing member]
    rfl
  have accepted : settings.acceptsStatus (writtenStatus head.status) = true := by
    rw [library.status, decide_eq_true_eq, UInt16.le_iff_toNat_le, UInt16.le_iff_toNat_le]
    exact range
  unfold parseChunkedWorkerResponseHead parseHead
  simp only [(headLines_stripped head).2, parseStatusLine_statusLine]
  by_cases taken : writtenStatus head.status ≤ 599
  · rw [if_pos taken, if_pos taken, ok_bind, accepted, if_pos rfl,
      appendHeaderFields_lines library (headFields_wire head) (headLines_stripped head).1 short,
      kept, List.nil_append]
    rfl
  · rw [if_neg taken, if_neg taken]
    rfl

end Oxo.Edge.HttpHop
