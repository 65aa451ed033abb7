import Oxo.HyperEdge.Handle
import Oxo.HyperEdge.Respond
import Oxo.HyperEdge.ShimHead

/-!
Contract: response messages of HTTP/1.1 between a worker and its client.

Owns: what a message is, when its head says where its body ends, what a client may make of its
bytes, and a strict client that is sound for them.

Does not own: who writes a message, or how lenient the HTTP library is with other bytes.
-/

namespace Oxo.HyperEdge

open Oxo.Foundation Shim

/-! ## Messages -/

def integerText (value : Int) : Bytes :=
  if value < 0 then 45 :: utf8 (numeral 10 value.natAbs) else utf8 (numeral 10 value.natAbs)

structure HttpMessage where
  status : Int
  reason : Bytes
  lines : List (Bytes × Bytes)
  body : Bytes

def HttpMessage.statusLine (message : HttpMessage) : Bytes :=
  utf8 "HTTP/1.1 " ++ (integerText message.status ++ 32 :: message.reason)

def HttpMessage.bytes (message : HttpMessage) : Bytes :=
  message.statusLine ++ crlf ++ (message.lines.flatMap fieldLine ++ (crlf ++ message.body))

/-- The responses that end with their head: `head` is the method of the request. -/
def isBodiless (head : Bool) (status : Int) : Bool :=
  head || (100 ≤ status && status ≤ 199) || status == 204 || status == 304

/-- The head has no lines but its own, and its one content length is that of the body. -/
structure HttpMessage.Framed (message : HttpMessage) : Prop where
  reason : (10 : UInt8) ∉ message.reason
  names : ∀ line ∈ message.lines, (10 : UInt8) ∉ line.1 ∧ (58 : UInt8) ∉ line.1
  values : ∀ line ∈ message.lines, (10 : UInt8) ∉ line.2
  sized : (message.lines.filter fun line => downcase line.1 == utf8 "content-length").map
    Prod.snd = [utf8 (numeral 10 message.body.length)]
  uncoded : ∀ line ∈ message.lines, downcase line.1 ≠ utf8 "transfer-encoding"
  interim : 100 ≤ message.status ∧ message.status ≤ 199 → message.body = []

/-- The body that a client sees. -/
def HttpMessage.visibleBody (head : Bool) (message : HttpMessage) : Bytes :=
  if isBodiless head message.status then [] else message.body

/-- A name as the HTTP library has it. -/
def validName (name : String) : Bool :=
  (name != "" && (utf8 name).all isTokenByte) && decide ((utf8 name).length < 2 ^ 16)

/-- What the client of the HTTP library makes of the bytes of a connection, if it does not refuse
them. A message whose head says where the body ends is delivered as it is or not at all, also when
the connection ends early. -/
structure HttpClient where
  read : (head : Bool) → Bytes → Option WireResponse
  valid : ∀ {head input response}, read head input = some response →
    validStatus response.status = true ∧ response.headers.length ≤ 100 ∧
      ∀ header ∈ response.headers, validName header.1 = true
  sound : ∀ {head} {message : HttpMessage} {input response}, message.Framed →
    input <+: message.bytes → read head input = some response →
      (response.status.toNat : Int) = message.status ∧ response.body = message.visibleBody head

/-! ## A strict client -/

/-- Three digits. -/
def parseCode (text : Bytes) : Option UInt16 :=
  if text.length = 3 ∧ text.head? ≠ some 45 ∧ text.head? ≠ some 48 then
    (parseInteger text).map UInt16.ofInt
  else none

/-- The lines in front of a blank one, and what is behind it. -/
def linesUntilBlank : (left : Nat) → Bytes → Option (List Bytes × Bytes)
  | 0, _ => none
  | left + 1, input => do
      let (line, rest) ← splitFirst 10 input
      if line = [13] then return ([], rest)
      else do
        let (lines, body) ← linesUntilBlank left rest
        return (line :: lines, body)

/-- A line with one blank in front of its value. -/
def readField (line : Bytes) : Option (Bytes × Bytes) := do
  let (name, value) ← splitFirst 58 line
  if value.head? = some 32 ∧ value.getLast? = some 13 then return (name, value.tail.dropLast)
  else none

def contentLength (fields : List (Bytes × Bytes)) : Option Nat :=
  match (fields.filter fun field => downcase field.1 == utf8 "content-length").map Prod.snd with
  | [text] => (parseInteger text).map Int.toNat
  | _ => none

/-- No control bytes other than tabs. -/
def isValue (value : Bytes) : Bool :=
  value.all fun byte => (32 ≤ byte && byte != 127) || byte == 9

def readName (field : Bytes × Bytes) : Option (String × Bytes) := do
  let name ← fromUtf8 field.1
  if validName name = true ∧ isValue field.2 = true then return (name, field.2) else none

/-- It reads messages with a content length only, and no interim responses. -/
def strictRead (head : Bool) (input : Bytes) : Option WireResponse := do
  let (statusLine, rest) ← splitFirst 10 input
  let (code, _) ← splitFirst 32 (statusLine.drop (utf8 "HTTP/1.1 ").length)
  let status ← parseCode code
  let (lines, behind) ← linesUntilBlank 101 rest
  let fields ← lines.mapM readField
  let headers ← fields.mapM readName
  let length ← contentLength fields
  let body := if isBodiless head status.toNat then [] else behind.take length
  if statusLine.take (utf8 "HTTP/1.1 ").length = utf8 "HTTP/1.1 " ∧
      (validStatus status && 200 ≤ status) = true ∧
      (fields.all fun field => downcase field.1 != utf8 "transfer-encoding") = true ∧
      (isBodiless head status.toNat = true ∨ length ≤ behind.length) then
    return ⟨status, headers, body⟩
  else none

section

variable {head : Bool} {message : HttpMessage} {text other rest more input : Bytes}

private theorem splitFirst_eq_some {separator : UInt8}
    (found : splitFirst separator input = some (text, rest)) :
    input = text ++ separator :: rest ∧ separator ∉ text := by
  unfold splitFirst at found
  split at found
  · cases found
  · rename_i first behind shape
    obtain ⟨rfl, rfl⟩ := Prod.mk.inj (Option.some.inj found)
    have stops : first = separator := by
      have isFirst := List.head?_dropWhile_not (fun byte => byte != separator) input
      rw [shape] at isFirst
      simpa using isFirst
    refine ⟨?_, fun member => ?_⟩
    · calc input = input.takeWhile (· != separator) ++ input.dropWhile (· != separator) :=
            List.takeWhile_append_dropWhile.symm
        _ = input.takeWhile (· != separator) ++ separator :: behind := by rw [shape, stops]
    · have passes := List.mem_takeWhile_imp member
      simp at passes

/-- The first line of a prefix. -/
private theorem line_of_prefix {separator : UInt8} (absent : separator ∉ other)
    (found : splitFirst separator input = some (text, rest))
    (isPrefix : input <+: other ++ separator :: more) : text = other ∧ rest <+: more := by
  obtain ⟨rfl, textAbsent⟩ := splitFirst_eq_some found
  obtain ⟨behind, whole⟩ := isPrefix
  rw [List.append_assoc, List.cons_append] at whole
  have same := (splitFirst_append textAbsent (rest ++ behind)).symm.trans
    (whole ▸ splitFirst_append absent more)
  obtain ⟨sameText, sameRest⟩ := Prod.mk.inj (Option.some.inj same)
  exact ⟨sameText, behind, sameRest⟩

/-- A line as it stands in front of its line feed. -/
private def rawLine (line : Bytes × Bytes) : Bytes :=
  line.1 ++ 58 :: (32 :: line.2 ++ [13])

private theorem lines_of_prefix {lines : List (Bytes × Bytes)} {body behind : Bytes}
    {read : List Bytes} {left : Nat}
    (plain : ∀ line ∈ lines, (10 : UInt8) ∉ line.1 ∧ (10 : UInt8) ∉ line.2)
    (isPrefix : input <+: lines.flatMap fieldLine ++ (crlf ++ body))
    (found : linesUntilBlank left input = some (read, behind)) :
    read = lines.map rawLine ∧ behind <+: body := by
  induction lines generalizing left input read with
  | nil =>
      cases left with
      | zero => cases found
      | succ left =>
          simp only [linesUntilBlank, Option.bind_eq_bind, Option.bind_eq_some_iff] at found
          obtain ⟨⟨line, rest⟩, isFirst, rest_found⟩ := found
          have blank : (10 : UInt8) ∉ ([13] : Bytes) := by decide
          obtain ⟨rfl, behindPrefix⟩ := line_of_prefix blank isFirst isPrefix
          cases rest_found
          exact ⟨rfl, behindPrefix⟩
  | cons line others inductionHypothesis =>
      obtain ⟨⟨plainName, plainValue⟩, restPlain⟩ := List.forall_mem_cons.mp plain
      have noFeed : (10 : UInt8) ∉ rawLine line := by
        simp [rawLine, plainName, plainValue]
      have opens : (line :: others).flatMap fieldLine ++ (crlf ++ body) =
          rawLine line ++ 10 :: (others.flatMap fieldLine ++ (crlf ++ body)) := by
        simp [fieldLine, rawLine, crlf]
      rw [opens] at isPrefix
      cases left with
      | zero => cases found
      | succ left =>
          simp only [linesUntilBlank, Option.bind_eq_bind, Option.bind_eq_some_iff] at found
          obtain ⟨⟨first, rest⟩, isFirst, restFound⟩ := found
          obtain ⟨rfl, restPrefix⟩ := line_of_prefix noFeed isFirst isPrefix
          have notBlank : rawLine line ≠ [13] := by
            intro blank
            have long := congrArg List.length blank
            simp [rawLine] at long
            omega
          rw [if_neg notBlank, Option.bind_eq_some_iff] at restFound
          obtain ⟨⟨laterLines, laterBody⟩, later, isRead⟩ := restFound
          cases isRead
          obtain ⟨rfl, bodyPrefix⟩ := inductionHypothesis restPlain restPrefix later
          exact ⟨rfl, bodyPrefix⟩

private theorem readField_rawLine {line : Bytes × Bytes} (plain : (58 : UInt8) ∉ line.1) :
    readField (rawLine line) = some line := by
  have ends : (32 :: line.2 ++ [13]).getLast? = some 13 := List.getLast?_concat
  have inside : (32 :: line.2 ++ [13]).tail.dropLast = line.2 := List.dropLast_concat
  rw [readField, rawLine, splitFirst_append plain, Option.bind_eq_bind, Option.bind_some]
  have spaced : (32 :: line.2 ++ [13]).head? = some 32 ∧ (32 :: line.2 ++ [13]).getLast? = some 13 :=
    ⟨rfl, ends⟩
  refine (if_pos spaced).trans ?_
  rw [inside]
  rfl

private theorem readFields_rawLines {lines : List (Bytes × Bytes)}
    (plain : ∀ line ∈ lines, (58 : UInt8) ∉ line.1) :
    (lines.map rawLine).mapM readField = some lines := by
  induction lines with
  | nil => rfl
  | cons line others inductionHypothesis =>
      obtain ⟨isPlain, restPlain⟩ := List.forall_mem_cons.mp plain
      rw [List.map_cons, List.mapM_cons, readField_rawLine isPlain,
        inductionHypothesis restPlain]
      rfl

/-! ### The status -/

private theorem integerText_plain {value : Int} {byte : UInt8} (member : byte ∈ integerText value) :
    byte ≠ 10 ∧ byte ≠ 32 := by
  have digits : ∀ byte ∈ utf8 (numeral 10 value.natAbs), byte ≠ 10 ∧ byte ≠ 32 := by
    intro byte member
    have digit := numeral_bytes member
    refine ⟨?_, ?_⟩ <;> rintro rfl <;> exact absurd digit (by decide)
  unfold integerText at member
  split at member
  · rcases List.mem_cons.mp member with rfl | behind
    · decide
    · exact digits byte behind
  · exact digits byte member

private theorem parseCode_integerText {value : Int} {status : UInt16}
    (parsed : parseCode (integerText value) = some status) : (status.toNat : Int) = value := by
  unfold parseCode at parsed
  split at parsed
  · rename_i shape
    unfold integerText at shape parsed
    split at shape
    · exact absurd rfl shape.2.1
    · rename_i nonnegative
      have short : value.natAbs < 1000 := by
        rw [utf8_numeral, List.length_map] at shape
        exact (Nat.length_toDigits_le_iff (by decide) (by decide)).mp (Nat.le_of_eq shape.1)
      rw [if_neg nonnegative, parseInteger_numeral, Option.map_some] at parsed
      cases parsed
      rw [UInt16.ofInt, UInt16.toNat_ofNat']
      omega
  · cases parsed

/-! ### Soundness -/

theorem strictRead_sound {response : WireResponse} (framed : message.Framed)
    (isPrefix : input <+: message.bytes) (isRead : strictRead head input = some response) :
    (response.status.toNat : Int) = message.status ∧
      response.body = message.visibleBody head := by
  simp only [strictRead, Option.bind_eq_bind, Option.bind_eq_some_iff] at isRead
  obtain ⟨⟨statusLine, rest⟩, isFirst, ⟨code, reason⟩, isCode, status, isStatus,
    ⟨lines, behind⟩, areLines, fields, areFields, headers, areHeaders, length, isLength, final⟩ :=
    isRead
  split at final
  · rename_i checks
    cases final
    have noFeed : (10 : UInt8) ∉ message.statusLine ++ [13] := by
      have version : (10 : UInt8) ∉ utf8 "HTTP/1.1 " := by decide
      have code : (10 : UInt8) ∉ integerText message.status := fun member =>
        (integerText_plain member).1 rfl
      simp [HttpMessage.statusLine, version, code, framed.reason]
    have opens : message.bytes = (message.statusLine ++ [13]) ++ 10 ::
        (message.lines.flatMap fieldLine ++ (crlf ++ message.body)) := by
      simp [HttpMessage.bytes, crlf]
    rw [opens] at isPrefix
    obtain ⟨rfl, restPrefix⟩ := line_of_prefix noFeed isFirst isPrefix
    have sameStatus : (status.toNat : Int) = message.status := by
      have behindVersion : (message.statusLine ++ [13]).drop (utf8 "HTTP/1.1 ").length =
          integerText message.status ++ 32 :: (message.reason ++ [13]) := by
        rw [HttpMessage.statusLine, List.append_assoc, List.drop_left, List.append_assoc]
        rfl
      have noBlank : (32 : UInt8) ∉ integerText message.status := fun member =>
        (integerText_plain member).2 rfl
      rw [behindVersion, splitFirst_append noBlank] at isCode
      cases isCode
      exact parseCode_integerText isStatus
    obtain ⟨rfl, behindPrefix⟩ := lines_of_prefix
      (fun line member => ⟨(framed.names line member).1, framed.values line member⟩)
      restPrefix areLines
    rw [readFields_rawLines fun line member => (framed.names line member).2] at areFields
    cases areFields
    refine ⟨sameStatus, ?_⟩
    have sameLength : length = message.body.length := by
      rw [contentLength, framed.sized] at isLength
      simp only [parseInteger_numeral] at isLength
      exact (Option.some.inj isLength).symm
    rw [sameStatus] at checks ⊢
    obtain ⟨_, _, _, ends⟩ := checks
    rw [HttpMessage.visibleBody]
    cases bodiless : isBodiless head message.status with
    | true => rfl
    | false =>
        rw [bodiless] at ends
        have long : length ≤ behind.length := ends.resolve_left Bool.false_ne_true
        have whole : behind = message.body :=
          behindPrefix.eq_of_length_le (sameLength ▸ long)
        exact (congrArg (List.take length) whole).trans (sameLength ▸ List.take_length)
  · cases final

/-! ### What it delivers -/

private theorem mapM_some {α β : Type} {convert : α → Option β} {items : List α} {results : List β}
    (converted : items.mapM convert = some results) :
    results.length = items.length ∧ ∀ result ∈ results, ∃ item, convert item = some result := by
  induction items generalizing results with
  | nil =>
      cases converted
      exact ⟨rfl, fun result member => nomatch member⟩
  | cons item rest inductionHypothesis =>
      simp only [List.mapM_cons, Option.bind_eq_bind, Option.bind_eq_some_iff] at converted
      obtain ⟨first, isFirst, others, areOthers, isResult⟩ := converted
      cases isResult
      obtain ⟨sameLength, each⟩ := inductionHypothesis areOthers
      refine ⟨congrArg Nat.succ sameLength, ?_⟩
      exact List.forall_mem_cons.mpr ⟨⟨item, isFirst⟩, each⟩

private theorem linesUntilBlank_length {left : Nat} {lines : List Bytes} {behind : Bytes}
    (found : linesUntilBlank left input = some (lines, behind)) : lines.length < left := by
  induction left generalizing input lines with
  | zero => cases found
  | succ left inductionHypothesis =>
      simp only [linesUntilBlank, Option.bind_eq_bind, Option.bind_eq_some_iff] at found
      obtain ⟨⟨line, rest⟩, _, restFound⟩ := found
      split at restFound
      · cases restFound
        exact Nat.succ_pos left
      · obtain ⟨⟨later, body⟩, isLater, isRead⟩ := Option.bind_eq_some_iff.mp restFound
        cases isRead
        exact Nat.succ_lt_succ (inductionHypothesis isLater)

theorem strictRead_valid {response : WireResponse} (isRead : strictRead head input = some response) :
    validStatus response.status = true ∧ response.headers.length ≤ 100 ∧
      ∀ header ∈ response.headers, validName header.1 = true := by
  simp only [strictRead, Option.bind_eq_bind, Option.bind_eq_some_iff] at isRead
  obtain ⟨_, _, _, _, status, _, ⟨lines, behind⟩, areLines, fields, areFields, headers, areHeaders,
    length, _, final⟩ := isRead
  split at final
  · rename_i checks
    cases final
    have few := linesUntilBlank_length areLines
    obtain ⟨sameFields, _⟩ := mapM_some areFields
    obtain ⟨sameHeaders, each⟩ := mapM_some areHeaders
    have short : headers.length ≤ 100 :=
      (sameHeaders.trans sameFields).le.trans (Nat.le_of_lt_succ few)
    refine ⟨(Bool.and_eq_true_iff.mp checks.2.1).1, short, fun header member => ?_⟩
    obtain ⟨field, isNamed⟩ := each header member
    simp only [readName, Option.bind_eq_bind, Option.bind_eq_some_iff] at isNamed
    obtain ⟨name, _, isHeader⟩ := isNamed
    split at isHeader
    · rename_i isValid
      cases isHeader
      exact isValid.1
    · cases isHeader
  · cases final

end

def strictClient : HttpClient where
  read := strictRead
  valid := strictRead_valid
  sound := strictRead_sound

end Oxo.HyperEdge
