import Oxo.Foundation.Splitting
import Oxo.Worker.HttpHead
import Oxo.Worker.SegmentedParser

/-!
Contract: what the worker's parser accepts (`parse_request` in
`oxo-worker/src/native/parser.rs`).

Owns: the well-formed requests at the front of a stream, the demand on the request target that
the parser does not make, and the equivalence between the two for everything it accepts.

Does not own: the parser, the pieces a stream arrives in, or the walk over the headers.
-/

namespace Oxo.Worker

open Oxo.Foundation Oxo.Core Oxo.Core.HopFrame

/-! ## Well-formed requests -/

/-- A header line as it was received. -/
def fieldLine (field : String × String) : String :=
  field.1 ++ ":" ++ field.2

/-- The lines of a request head. -/
def requestLines (method target : String) (fields : List (String × String)) : List String :=
  requestLine method target :: fields.map fieldLine

/-- The length that a field declares is the length of the body. -/
structure DeclaresLength (field : String × String) (body : List UInt8) : Prop where
  nonempty : trimMatches isBlank field.2 ≠ ""
  digits : ∀ char ∈ (trimMatches isBlank field.2).toList, char.isDigit = true
  value : digitsValue 10 (trimMatches isBlank field.2).toList = body.length

/-- A request at the front of a stream: its head, its body, and what follows. -/
structure RequestAt (pending : List UInt8) (maxBody : Nat) (request : WorkerRequest)
    (method target : String) (fields : List (String × String)) (after : List UInt8) : Prop where
  whole : pending = utf8 (headText (requestLines method target fields)) ++ request.body ++ after
  methodToken : validToken method = true
  originForm : isOriginForm target = true
  noSpace : ' ' ∉ target.toList
  controlFree : ControlFree target
  names : ∀ field ∈ fields, validToken field.1 = true
  once : (fields.map fun field => toAsciiLowercase field.1).Nodup
  lines : ∀ line ∈ requestLines method target fields, '\r' ∉ line.toList ∧ '\n' ∉ line.toList
  body : ∀ field ∈ fields, toAsciiLowercase field.1 = "content-length" →
    DeclaresLength field request.body
  noBody : (∀ field ∈ fields, toAsciiLowercase field.1 ≠ "content-length") → request.body = []
  built : ∃ host, headerValue (fields.map parsedHeader) "host" = some host ∧
    request = walkedRequest method target host (fields.map parsedHeader) request.body
  alone : ∀ (reader : BufReader UInt8) (other : List UInt8),
    reader.pending = utf8 (headText (requestLines method target fields)) ++ request.body ++ other →
      parseRequestVia reader maxBody = .ok request

def WellFormed (pending : List UInt8) (maxBody : Nat) (request : WorkerRequest) : Prop :=
  ∃ method target fields after, RequestAt pending maxBody request method target fields after

/-- Between the first two spaces of the request line there is no control character. -/
def PlainTarget (pending : List UInt8) : Prop :=
  ∀ method target after, pending = utf8 (requestLine method target ++ "\r\n") ++ after →
    validToken method = true → ' ' ∉ target.toList → ControlFree target

/-! ## The head -/

/-- What the read loop takes: up to the first blank line, with no bare line feed, whatever
follows. -/
structure HeadTaken (before : List UInt8) (prev : UInt8) (stream whole rest : List UInt8) :
    Prop where
  taken : ∃ used, whole = before ++ used ∧ stream = used ++ rest ∧
    ∀ other, readHeadFrom (used ++ other) before prev = .ok (whole, other)
  ends : headEnd <:+ whole
  first : ∀ front, front <+: whole → front ≠ whole → ¬ headEnd <:+ front
  feeds : ∀ front back, whole = front ++ 10 :: back → front.getLast? = some 13

private theorem readHeadFrom_taken {stream before whole rest : List UInt8} {prev : UInt8}
    (none : ∀ front, front <+: before → ¬ headEnd <:+ front)
    (feeds : ∀ front back, before = front ++ 10 :: back → front.getLast? = some 13)
    (last : prev = before.getLastD 0)
    (read : readHeadFrom stream before prev = .ok (whole, rest)) :
    HeadTaken before prev stream whole rest := by
  induction stream generalizing before prev with
  | nil => cases read
  | cons byte stream inductionHypothesis =>
      rw [readHeadFrom] at read
      split at read
      · cases read
      · rename_i notBare
        have grownFeeds : ∀ front back, before ++ [byte] = front ++ 10 :: back →
            front.getLast? = some 13 := by
          intro front back same
          rcases List.eq_nil_or_concat back with empty | ⟨init, final, ends⟩
          · rw [empty] at same
            obtain ⟨sameFront, sameByte⟩ := List.append_inj' same rfl
            rw [(List.cons.inj sameByte).1, last, sameFront] at notBare
            cases ends : front.getLast? with
            | none => simp [List.getLast?_eq_none_iff.mp ends] at notBare
            | some final => simpa [List.getLastD_eq_getLast?, ends] using notBare
          · rw [ends, List.concat_eq_append, ← List.cons_append, ← List.append_assoc] at same
            exact feeds front init (List.append_inj' same rfl).1
        simp only at read
        split at read
        · cases read
        · rename_i within
          split at read
          · rename_i ended
            cases read
            refine ⟨⟨[byte], rfl, rfl, fun other => ?_⟩, List.isSuffixOf_iff_suffix.mp ended, ?_,
              grownFeeds⟩
            · rw [List.singleton_append, readHeadFrom, if_neg notBare]
              simp only [if_neg within, if_pos ended]
            · intro front isPrefix shorter
              exact none front ((List.prefix_concat_iff.mp isPrefix).resolve_left shorter)
          · rename_i goesOn
            have grownNone : ∀ front, front <+: before ++ [byte] → ¬ headEnd <:+ front := by
              intro front isPrefix
              rcases List.prefix_concat_iff.mp isPrefix with same | shorter
              · rw [same, ← List.isSuffixOf_iff_suffix]
                exact goesOn
              · exact none front shorter
            have grown := inductionHypothesis grownNone grownFeeds (by simp) read
            obtain ⟨used, same, split, again⟩ := grown.taken
            refine ⟨⟨byte :: used, by simp [same], by rw [split]; rfl, fun other => ?_⟩,
              grown.ends, grown.first, grown.feeds⟩
            rw [List.cons_append, readHeadFrom, if_neg notBare]
            simp only [if_neg within, if_neg goesOn]
            exact again other

private theorem readHead_taken {stream head rest : List UInt8}
    (read : readHead stream = .ok (head, rest)) : HeadTaken [] 0 stream head rest := by
  refine readHeadFrom_taken (fun front isPrefix ends => ?_) (fun front back same => ?_) rfl read
  · rw [List.prefix_nil.mp isPrefix] at ends
    exact absurd (List.suffix_nil.mp ends) (by decide)
  · exact absurd (List.append_eq_nil_iff.mp same.symm).2 (List.cons_ne_nil _ _)

/-! ## The text of the head -/

/-- An ASCII byte at the end of a text is the text's last character. -/
private theorem utf8_eq_concat {chars : List Char} {bytes : List UInt8} {byte : UInt8}
    (char : Char) (ascii : byte < 0x80) (code : char.toNat = byte.toNat)
    (same : utf8 (String.ofList chars) = bytes ++ [byte]) :
    ∃ front, chars = front ++ [char] ∧ utf8 (String.ofList front) = bytes := by
  rcases List.eq_nil_or_concat chars with empty | ⟨front, last, ends⟩
  · rw [empty] at same
    exact absurd (List.append_eq_nil_iff.mp same.symm).2 (List.cons_ne_nil _ _)
  · rw [List.concat_eq_append] at ends
    rw [ends, utf8_eq_flatMap, String.toList_ofList, List.flatMap_append, List.flatMap_singleton]
      at same
    have encoded : ∃ init final, String.utf8EncodeChar last = init ++ [final] := by
      rcases List.eq_nil_or_concat (String.utf8EncodeChar last) with empty | ⟨init, final, split⟩
      · have size := congrArg List.length empty
        rw [String.length_utf8EncodeChar] at size
        exact absurd size (Nat.ne_of_gt last.utf8Size_pos)
      · exact ⟨init, final, split.trans List.concat_eq_append⟩
    have isChar : last = char := by
      obtain ⟨init, final, split⟩ := encoded
      rw [split, ← List.append_assoc] at same
      have inLast : byte ∈ String.utf8EncodeChar last := by
        rw [split, (List.cons.inj (List.append_inj' same rfl).2).1]
        exact List.mem_append_right _ List.mem_cons_self
      rw [← Char.toNat_inj, code]
      exact (ascii_mem_encodeChar ascii last).mp inLast
    have small : char.toNat < 128 := by
      rw [code]
      exact UInt8.lt_iff_toNat_lt.mp ascii
    have oneByte : String.utf8EncodeChar last = [byte] := by
      rw [isChar, ← UInt8.ofNat_toNat (x := byte), ← code]
      exact if_pos (Nat.le_of_lt_succ small)
    rw [oneByte] at same
    refine ⟨front, by rw [ends, isChar], ?_⟩
    rw [utf8_eq_flatMap, String.toList_ofList]
    exact (List.append_inj' same rfl).1

private theorem feedsFollowReturns_of_taken {text : String} {stream rest : List UInt8}
    (taken : HeadTaken [] 0 stream (utf8 text) rest) : FeedsFollowReturns text.toList := by
  intro front back same
  have bytes : utf8 text = utf8 (String.ofList front) ++ 10 :: utf8 (String.ofList back) := by
    rw [utf8_eq_flatMap, same, List.flatMap_append, List.flatMap_cons, utf8_eq_flatMap,
      utf8_eq_flatMap, String.toList_ofList, String.toList_ofList]
    rfl
  have behind := taken.feeds _ _ bytes
  obtain ⟨init, split⟩ := List.getLast?_eq_some_iff.mp behind
  obtain ⟨frontInit, ends, -⟩ := utf8_eq_concat '\r' (by decide) (by decide) split
  rw [ends, List.getLast?_concat]

private theorem headText_chars (lines : List (List Char)) :
    (headText (lines.map String.ofList)).toList =
      lines.flatMap (· ++ ['\r', '\n']) ++ ['\r', '\n'] := by
  induction lines with
  | nil => rfl
  | cons line rest inductionHypothesis =>
      have chars : (headText (String.ofList line :: rest.map String.ofList)).toList =
          line ++ '\r' :: '\n' :: (headText (rest.map String.ofList)).toList := by
        simp [headText, String.join_cons]
      rw [List.map_cons, chars, inductionHypothesis]
      simp

/-- A blank line in front of the last one would have ended the head. -/
private theorem not_blank_of_taken {text : String} {stream rest : List UInt8}
    (taken : HeadTaken [] 0 stream (utf8 text) rest) {first : List Char} {later : List (List Char)}
    (whole : text.toList = (first :: later).flatMap (· ++ ['\r', '\n']) ++ ['\r', '\n']) :
    [] ∉ later := by
  intro blank
  obtain ⟨front, back, split⟩ := List.append_of_mem blank
  obtain ⟨init, final, ends⟩ : ∃ init final, first :: front = init ++ [final] :=
    ⟨_, _, (List.dropLast_append_getLast (List.cons_ne_nil first front)).symm⟩
  have regrouped : text.toList = init.flatMap (· ++ ['\r', '\n']) ++ final ++
      ['\r', '\n', '\r', '\n'] ++ (back.flatMap (· ++ ['\r', '\n']) ++ ['\r', '\n']) := by
    rw [whole, split, ← List.cons_append, ends, List.flatMap_append, List.flatMap_append]
    simp
  have bytes : utf8 text = utf8 (String.ofList (init.flatMap (· ++ ['\r', '\n']) ++ final)) ++
      headEnd ++ utf8 (String.ofList (back.flatMap (· ++ ['\r', '\n']) ++ ['\r', '\n'])) := by
    have text_eq : text = String.ofList (init.flatMap (· ++ ['\r', '\n']) ++ final) ++
        "\r\n\r\n" ++ String.ofList (back.flatMap (· ++ ['\r', '\n']) ++ ['\r', '\n']) := by
      apply String.toList_inj.mp
      rw [regrouped]
      simp
    conv_lhs => rw [text_eq]
    rw [utf8_append, utf8_append]
    rfl
  refine taken.first _ ⟨_, bytes.symm⟩ (fun same => ?_) (List.suffix_append _ _)
  have tail : utf8 (String.ofList (back.flatMap (· ++ ['\r', '\n']) ++ ['\r', '\n'])) = [] := by
    rw [same] at bytes
    exact List.append_cancel_left (bytes.symm.trans (List.append_nil _).symm)
  have empty := congrArg String.toList (utf8_injective (tail.trans utf8_empty.symm))
  rw [String.toList_ofList] at empty
  exact absurd (List.append_eq_nil_iff.mp empty).2 (List.cons_ne_nil _ _)

/-- The lines of a head that was taken: only the first can be empty, none has a line feed. -/
private theorem headText_of_taken {text : String} {stream rest : List UInt8}
    (taken : HeadTaken [] 0 stream (utf8 text) rest) :
    ∃ first later, (splitLines text.toList).map String.ofList = first :: later ++ ["", ""] ∧
      text = headText (first :: later) ∧ (∀ line ∈ later, line ≠ "") ∧
      ∀ line ∈ first :: later, '\n' ∉ line.toList := by
  obtain ⟨bytes, ends⟩ := taken.ends
  obtain ⟨chars, whole⟩ : ∃ chars, text.toList = chars ++ ['\r', '\n', '\r', '\n'] := by
    have four : utf8 (String.ofList text.toList) = bytes ++ [13] ++ [10] ++ [13] ++ [10] := by
      rw [String.ofList_toList, ← ends]
      simp [headEnd]
    obtain ⟨front, split, four⟩ := utf8_eq_concat '\n' (by decide) (by decide) four
    obtain ⟨front, next, four⟩ := utf8_eq_concat '\r' (by decide) (by decide) four
    obtain ⟨front, then', four⟩ := utf8_eq_concat '\n' (by decide) (by decide) four
    obtain ⟨front, last, -⟩ := utf8_eq_concat '\r' (by decide) (by decide) four
    exact ⟨front, by rw [split, next, then', last]; simp⟩
  have lines : splitLines text.toList = splitLines chars ++ [[], []] := by
    rw [whole, splitLines_append]
    rfl
  have noFeed := feed_not_mem_splitLines (feedsFollowReturns_of_taken taken)
  have joined := flatMap_splitLines chars
  rw [lines] at noFeed
  cases split : splitLines chars with
  | nil =>
      rw [split] at joined
      exact absurd joined.symm (by simp)
  | cons first later =>
      rw [split] at lines joined noFeed
      have chars_eq : text.toList =
          (first :: later).flatMap (· ++ ['\r', '\n']) ++ ['\r', '\n'] := by
        rw [joined, whole]
        simp
      refine ⟨String.ofList first, later.map String.ofList, by rw [lines]; simp, ?_, ?_, ?_⟩
      · apply String.toList_inj.mp
        rw [← List.map_cons, headText_chars, chars_eq]
      · intro line member empty
        obtain ⟨chars, inLater, rfl⟩ := List.mem_map.mp member
        have none : chars = [] := by
          simpa using congrArg String.toList empty
        exact not_blank_of_taken taken chars_eq (none ▸ inLater)
      · rw [← List.map_cons]
        intro line member
        obtain ⟨chars, inLines, rfl⟩ := List.mem_map.mp member
        rw [String.toList_ofList]
        exact noFeed chars (List.mem_append_left _ inLines)

/-! ## Header lines -/

/-- What an accepted header line is made of. -/
private theorem field_of_parsed {headers : List (String × String)} {line : String}
    {header : String × String} (parsed : parseHeaderLine headers line = .ok header) :
    ∃ field, line = fieldLine field ∧ validToken field.1 = true ∧ header = parsedHeader field ∧
      toAsciiLowercase field.1 ∉ headers.map Prod.fst ∧ ControlFree (trimMatches isBlank field.2) := by
  unfold parseHeaderLine at parsed
  rw [refuseIf_bind_eq_ok] at parsed
  obtain ⟨-, parsed⟩ := parsed
  split at parsed
  · cases parsed
  · rename_i name rawValue found
    simp only [refuseIf_bind_eq_ok] at parsed
    obtain ⟨token, fresh, controlFree, -, -, built⟩ := parsed
    obtain ⟨parts, -⟩ := splitOnce_eq_some.mp found
    rw [Bool.or_eq_false_iff, Bool.not_eq_false'] at token
    refine ⟨(name, rawValue), ?_, token.2, (Except.ok.inj built).symm, ?_, ?_⟩
    · apply String.toList_inj.mp
      rw [parts]
      simp [fieldLine]
    · intro member
      obtain ⟨other, inHeaders, sameName⟩ := List.mem_map.mp member
      exact absurd (beq_iff_eq.mpr sameName) (List.any_eq_false.mp fresh other inHeaders)
    · exact controlFree

private theorem fields_of_parsed {lines tail : List String} (nonempty : ∀ line ∈ lines, line ≠ "")
    {count : Nat} {headers result : List (String × String)}
    (parsed : parseHeaderLines (lines ++ "" :: tail) count headers = .ok result)
    (distinct : (headers.map Prod.fst).Nodup) :
    ∃ fields : List (String × String), lines = fields.map fieldLine ∧ result = headers ++ fields.map parsedHeader ∧
      (∀ field ∈ fields, validToken field.1 = true ∧
        ControlFree (trimMatches isBlank field.2)) ∧ (result.map Prod.fst).Nodup := by
  induction lines generalizing count headers with
  | nil =>
      rw [List.nil_append, parseHeaderLines, if_pos rfl] at parsed
      cases parsed
      exact ⟨[], rfl, (List.append_nil _).symm,
        (fun _ member => absurd member List.not_mem_nil), distinct⟩
  | cons line rest inductionHypothesis =>
      rw [List.forall_mem_cons] at nonempty
      rw [List.cons_append, parseHeaderLines, if_neg nonempty.1, refuseIf_bind_eq_ok,
        bind_eq_ok] at parsed
      obtain ⟨-, header, first, parsed⟩ := parsed
      obtain ⟨field, sameLine, token, sameHeader, fresh, controlFree⟩ := field_of_parsed first
      have stillDistinct : ((headers ++ [header]).map Prod.fst).Nodup := by
        rw [List.map_append, List.nodup_append_comm, sameHeader]
        exact List.nodup_cons.mpr ⟨fresh, distinct⟩
      obtain ⟨fields, lines, same, each, once⟩ :=
        inductionHypothesis nonempty.2 parsed stillDistinct
      refine ⟨field :: fields, by rw [sameLine, lines]; rfl, ?_,
        List.forall_mem_cons.mpr ⟨⟨token, controlFree⟩, each⟩, once⟩
      rw [same, sameHeader]
      simp

/-- A field line with a token for a name and a plain value has no line break. -/
private theorem fieldLine_plain {field : String × String} (token : validToken field.1 = true)
    (controlFree : ControlFree (trimMatches isBlank field.2)) : '\r' ∉ (fieldLine field).toList := by
  intro isReturn
  simp only [fieldLine, String.toList_append, List.mem_append] at isReturn
  rcases isReturn with (inName | isColon) | inValue
  · have tokenBytes := (Bool.and_eq_true_iff.mp token).2
    exact not_mem_token tokenBytes (fun _ => by decide) inName
  · exact absurd (List.mem_singleton.mp isColon) (by decide)
  · obtain ⟨front, back, parts, frontBlank, backBlank, -⟩ := trimMatches_parts isBlank field.2
    rw [parts, List.mem_append, List.mem_append] at inValue
    rcases inValue with (inFront | inTrimmed) | inBack
    · exact absurd (frontBlank _ inFront) (by decide)
    · exact (controlFree_iff _).mp controlFree '\r' inTrimmed (.inl (by decide))
    · exact absurd (backBlank _ inBack) (by decide)

/-- Nor has a request line with a plain target. -/
private theorem requestLine_plain {method target : String} (token : validToken method = true)
    (controlFree : ControlFree target) : '\r' ∉ (requestLine method target).toList := by
  intro isReturn
  simp only [requestLine, String.toList_append, List.mem_append] at isReturn
  rcases isReturn with ((inMethod | isSpace) | inTarget) | inVersion
  · exact not_mem_token (Bool.and_eq_true_iff.mp token).2 (fun _ => by decide) inMethod
  · exact absurd isSpace (by decide)
  · exact (controlFree_iff _).mp controlFree '\r' inTarget (.inl (by decide))
  · exact absurd inVersion (by decide)

/-! ## The whole request -/

/-- What a head that was taken and parsed is made of. -/
structure HeadParts (head : List UInt8) (parsed : RequestHead) (fields : List (String × String)) :
    Prop where
  whole : head = utf8 (headText (requestLines parsed.method parsed.target fields))
  methodToken : validToken parsed.method = true
  noSpace : ' ' ∉ parsed.target.toList
  noFeed : ∀ line ∈ requestLines parsed.method parsed.target fields, '\n' ∉ line.toList
  headers : parsed.headers = fields.map parsedHeader
  names : ∀ field ∈ fields, validToken field.1 = true
  values : ∀ field ∈ fields, ControlFree (trimMatches isBlank field.2)
  once : (fields.map fun field => toAsciiLowercase field.1).Nodup

private theorem headParts_of_parsed {stream head rest : List UInt8} {parsed : RequestHead}
    (taken : HeadTaken [] 0 stream head rest) (headParsed : parseHead head = .ok parsed)
    (version : parsed.version = "HTTP/1.1") : ∃ fields, HeadParts head parsed fields := by
  unfold parseHead at headParsed
  split at headParsed
  · cases headParsed
  · rename_i text decoded
    rw [← utf8_of_fromUtf8 decoded] at taken ⊢
    obtain ⟨first, later, lines, whole, nonempty, noFeed⟩ := headText_of_taken taken
    rw [lines, List.cons_append] at headParsed
    simp only at headParsed
    split at headParsed
    · rename_i method target written three
      rw [refuseIf_bind_eq_ok, refuseIf_bind_eq_ok, bind_eq_ok] at headParsed
      obtain ⟨-, token, headers, headersParsed, built⟩ := headParsed
      obtain rfl := Except.ok.inj built
      obtain ⟨fields, sameLines, sameHeaders, each, once⟩ :=
        fields_of_parsed nonempty headersParsed List.nodup_nil
      have firstLine : first = requestLine method target := by
        apply String.toList_inj.mp
        rw [eq_of_split_three three, show written = "HTTP/1.1" from version]
        simp [requestLine]
      have targetPiece : target ∈ split first ' ' := by
        rw [three]
        exact List.mem_cons_of_mem _ List.mem_cons_self
      have sameRequestLines : first :: later = requestLines method target fields := by
        rw [firstLine, sameLines]
        rfl
      refine ⟨fields, ?_, by simpa using token, separator_not_mem_split target targetPiece, ?_, ?_,
        fun field member => (each field member).1, fun field member => (each field member).2, ?_⟩
      · rw [whole, sameRequestLines]
      · rw [← sameRequestLines]
        exact noFeed
      · exact sameHeaders
      · rw [sameHeaders, List.nil_append, parsedHeader_names] at once
        exact once
    · cases headParsed

/-- The length the headers declare. -/
def DeclaredLength (headers : List (String × String)) (length : Nat) : Prop :=
  match headerValue headers "content-length" with
  | some value => parseContentLength value = .ok length
  | none => length = 0

/-- What the parser checks of a head, and what it builds with a body. -/
structure Parses (maxBody : Nat) (head : List UInt8) (body : List UInt8) (request : WorkerRequest)
    (parsed : RequestHead) (host : String) : Prop where
  headParsed : parseHead head = .ok parsed
  version : parsed.version = "HTTP/1.1"
  origin : isOriginForm parsed.target = true
  hosted : headerValue parsed.headers "host" = some host
  length : DeclaredLength parsed.headers body.length
  notGrpc : ((headerValue parsed.headers "content-type").any fun value =>
    startsWith (toAsciiLowercase value) "application/grpc") = false
  fits : body.length ≤ maxBody
  built : request = walkedRequest parsed.method parsed.target host parsed.headers body

theorem parseRequest_iff {stream : List UInt8} {maxBody : Nat} {request : WorkerRequest} :
    parseRequest stream maxBody = .ok request ↔
      ∃ head body after parsed host, readHead stream = .ok (head, body ++ after) ∧
        Parses maxBody head body request parsed host := by
  have tails : ∀ (rest : List UInt8) (parsed : RequestHead) (host : String) (length : Nat),
      (refuseIf ((headerValue parsed.headers "content-type").any fun value =>
          startsWith (toAsciiLowercase value) "application/grpc")
          (ParseError.bad "gRPC is not supported by the Rack worker") >>= fun _ =>
        refuseIf (decide (length > maxBody)) (.large "payload too large") >>= fun _ =>
        refuseIf (decide (rest.length < length)) (.bad "short body") >>= fun _ =>
        .ok (walkedRequest parsed.method parsed.target host parsed.headers (rest.take length))) =
          .ok request ↔
      ((headerValue parsed.headers "content-type").any fun value =>
        startsWith (toAsciiLowercase value) "application/grpc") = false ∧ length ≤ maxBody ∧
        length ≤ rest.length ∧
        request = walkedRequest parsed.method parsed.target host parsed.headers
          (rest.take length) := by
    intro rest parsed host length
    rw [refuseIf_bind_eq_ok, refuseIf_bind_eq_ok, refuseIf_bind_eq_ok, decide_eq_false_iff_not,
      decide_eq_false_iff_not, Nat.not_lt, Nat.not_lt, Except.ok.injEq, eq_comm (b := request)]
  unfold parseRequest
  rw [bind_eq_ok]
  constructor
  · rintro ⟨⟨head, rest⟩, read, parsed⟩
    rw [bind_eq_ok] at parsed
    obtain ⟨requestHead, headParsed, parsed⟩ := parsed
    rw [refuseIf_bind_eq_ok, refuseIf_bind_eq_ok] at parsed
    obtain ⟨version, origin, parsed⟩ := parsed
    cases hosted : headerValue requestHead.headers "host" with
    | none =>
        rw [hosted] at parsed
        cases parsed
    | some host =>
        rw [hosted] at parsed
        have lengths : ∃ length, DeclaredLength requestHead.headers length ∧
            ((headerValue requestHead.headers "content-type").any fun value =>
              startsWith (toAsciiLowercase value) "application/grpc") = false ∧
            length ≤ maxBody ∧ length ≤ rest.length ∧
            request = walkedRequest requestHead.method requestHead.target host requestHead.headers
              (rest.take length) := by
          unfold DeclaredLength
          cases declared : headerValue requestHead.headers "content-length" with
          | none =>
              rw [declared] at parsed
              exact ⟨0, rfl, (tails rest requestHead host 0).mp parsed⟩
          | some value =>
              rw [declared] at parsed
              obtain ⟨length, lengthParsed, parsed⟩ := bind_eq_ok.mp parsed
              exact ⟨length, lengthParsed, (tails rest requestHead host length).mp parsed⟩
        obtain ⟨length, declared, notGrpc, fits, enough, built⟩ := lengths
        have size : (rest.take length).length = length := List.length_take_of_le enough
        refine ⟨head, rest.take length, rest.drop length, requestHead, host, ?_, ?_⟩
        · rw [List.take_append_drop]
          exact read
        · exact ⟨headParsed, by simpa using version, by simpa using origin, hosted,
            size.symm ▸ declared, notGrpc, size.symm ▸ fits, built⟩
  · rintro ⟨head, body, after, requestHead, host, read, parses⟩
    refine ⟨(head, body ++ after), read, ?_⟩
    rw [bind_eq_ok]
    refine ⟨requestHead, parses.headParsed, ?_⟩
    rw [refuseIf_bind_eq_ok, refuseIf_bind_eq_ok]
    refine ⟨by simpa using parses.version, by simpa using parses.origin, ?_⟩
    have declared := parses.length
    have tail := (tails (body ++ after) requestHead host body.length).mpr
      ⟨parses.notGrpc, parses.fits, by simp, by rw [List.take_left]; exact parses.built⟩
    unfold DeclaredLength at declared
    rw [parses.hosted]
    cases found : headerValue requestHead.headers "content-length" with
    | none =>
        rw [found] at declared
        simp only at declared
        rw [declared] at tail
        exact tail
    | some value =>
        rw [found] at declared
        exact bind_eq_ok.mpr ⟨body.length, declared, tail⟩

private theorem declaresLength_of_parsed {field : String × String} {body : List UInt8}
    (parsed : parseContentLength (trimMatches isBlank field.2) = .ok body.length) :
    DeclaresLength field body := by
  unfold parseContentLength at parsed
  rw [refuseIf_bind_eq_ok, Bool.or_eq_false_iff, beq_eq_false_iff_ne, Bool.not_eq_false',
    List.all_eq_true] at parsed
  obtain ⟨⟨nonempty, digits⟩, parsed⟩ := parsed
  split at parsed
  · rename_i length found
    cases parsed
    obtain ⟨⟨written, plain | plus, -, -, value⟩, -⟩ := parseUnsigned_eq_some.mp found
    · exact ⟨nonempty, digits, plain ▸ value⟩
    · refine absurd (digits '+' ?_) (by decide)
      rw [plus, String.toList_append]
      exact List.mem_append_left _ List.mem_cons_self
  · cases parsed

section

variable {pending : List UInt8} {maxBody : Nat} {request : WorkerRequest}

/-- Everything but the demand on the target. -/
private theorem requestAt_of_parsed (parsed : parseRequest pending maxBody = .ok request) :
    ∃ method target fields after,
      pending = utf8 (headText (requestLines method target fields)) ++ request.body ++ after ∧
      validToken method = true ∧ ' ' ∉ target.toList ∧
      (ControlFree target → RequestAt pending maxBody request method target fields after) := by
  obtain ⟨head, body, after, requestHead, host, read, parses⟩ := parseRequest_iff.mp parsed
  have taken := readHead_taken read
  obtain ⟨fields, parts⟩ := headParts_of_parsed taken parses.headParsed parses.version
  obtain ⟨used, same, split, again⟩ := taken.taken
  rw [List.nil_append] at same
  rw [← same] at split again
  have sameBody : request.body = body := by rw [parses.built]; rfl
  have declared := parses.length
  have hosted := parses.hosted
  have built := parses.built
  rw [parts.headers] at declared hosted built
  have distinct : ((fields.map parsedHeader).map Prod.fst).Nodup := by
    rw [parsedHeader_names]
    exact parts.once
  refine ⟨requestHead.method, requestHead.target, fields, after, ?_, parts.methodToken,
    parts.noSpace, fun controlFree => ?_⟩
  · rw [← parts.whole, sameBody, List.append_assoc]
    exact split
  · refine
      { whole := by rw [← parts.whole, sameBody, List.append_assoc]; exact split
        methodToken := parts.methodToken
        originForm := parses.origin
        noSpace := parts.noSpace
        controlFree := controlFree
        names := parts.names
        once := parts.once
        lines := fun line member => ⟨?_, parts.noFeed line member⟩
        body := fun field member isLength => ?_
        noBody := fun absent => ?_
        built := ⟨host, hosted, by rw [sameBody]; exact built⟩
        alone := fun reader other same => ?_ }
    · rcases List.mem_cons.mp member with isRequest | isField
      · rw [isRequest]
        exact requestLine_plain parts.methodToken controlFree
      · obtain ⟨field, inFields, rfl⟩ := List.mem_map.mp isField
        exact fieldLine_plain (parts.names field inFields) (parts.values field inFields)
    · have inHeaders : ("content-length", trimMatches isBlank field.2) ∈ fields.map parsedHeader :=
        List.mem_map.mpr ⟨field, member, by rw [parsedHeader, isLength]⟩
      rw [DeclaredLength, headerValue_of_mem distinct inHeaders] at declared
      rw [sameBody]
      exact declaresLength_of_parsed declared
    · have none : headerValue (fields.map parsedHeader) "content-length" = none := by
        rw [← Option.not_isSome_iff_eq_none, Option.isSome_iff_exists]
        rintro ⟨value, found⟩
        obtain ⟨field, member, sameField⟩ := List.mem_map.mp (headerValue_eq_some found)
        exact absent field member (congrArg Prod.fst sameField)
      rw [DeclaredLength, none] at declared
      rw [sameBody]
      exact List.eq_nil_of_length_eq_zero declared
    · rw [parseRequestVia_eq_ok, same, ← parts.whole, sameBody, List.append_assoc,
        parseRequest_iff]
      exact ⟨head, body, other, requestHead, host, again _, parses⟩

/-- The request line at the front of a stream says what its target is. -/
private theorem target_unique {method target otherMethod otherTarget : String}
    {after other : List UInt8}
    (same : utf8 (requestLine method target) ++ after =
      utf8 (requestLine otherMethod otherTarget) ++ other)
    (token : validToken method = true) (otherToken : validToken otherMethod = true)
    (noSpace : ' ' ∉ target.toList) (otherNoSpace : ' ' ∉ otherTarget.toList) :
    target = otherTarget := by
  have spaceFree : ∀ {text : String}, ' ' ∉ text.toList → 32 ∉ utf8 text := by
    intro text absent member
    obtain ⟨char, inText, code⟩ := (ascii_mem_utf8 (by decide) text).mp member
    have isSpace : char = ' ' := Char.toNat_inj.mp code
    exact absent (isSpace ▸ inText)
  have tokenFree : ∀ {text : String}, validToken text = true → 32 ∉ utf8 text := fun token =>
    spaceFree (not_mem_token (Bool.and_eq_true_iff.mp token).2 fun _ => by decide)
  have bytes : ∀ (method target : String) (after : List UInt8),
      utf8 (requestLine method target) ++ after =
        utf8 method ++ 32 :: (utf8 target ++ 32 :: (utf8 "HTTP/1.1" ++ after)) := by
    intro method target after
    have space : utf8 " HTTP/1.1" = 32 :: utf8 "HTTP/1.1" := by decide +kernel
    rw [requestLine, utf8_append, utf8_append, utf8_append, space]
    simp only [List.append_assoc, List.cons_append]
    rfl
  rw [bytes, bytes] at same
  obtain ⟨-, behind⟩ := append_cons_unique (tokenFree token) (tokenFree otherToken) same
  obtain ⟨sameTarget, -⟩ :=
    append_cons_unique (spaceFree noSpace) (spaceFree otherNoSpace) behind
  exact utf8_injective sameTarget

/-- The head begins with the request line. -/
private theorem requestLine_first (method target : String) (fields : List (String × String)) :
    ∃ later, utf8 (headText (requestLines method target fields)) =
      utf8 (requestLine method target ++ "\r\n") ++ later := by
  refine ⟨utf8 (headText (fields.map fieldLine)), ?_⟩
  rw [← utf8_append]
  apply congrArg utf8
  rw [requestLines, headText, headText, List.map_cons, String.join_cons, String.append_assoc]

/-- What the parser accepts is one well-formed request exactly when its target has no control
character. -/
theorem accepted_wellFormed_iff {reader : BufReader UInt8}
    (accepted : parseRequestVia reader maxBody = .ok request) :
    WellFormed reader.pending maxBody request ↔ PlainTarget reader.pending := by
  constructor
  · rintro ⟨method, target, fields, after, requestAt⟩ otherMethod otherTarget other same token
      noSpace
    obtain ⟨later, front⟩ := requestLine_first method target fields
    have whole := requestAt.whole
    rw [same, front, utf8_append, utf8_append] at whole
    simp only [List.append_assoc] at whole
    rw [target_unique whole token requestAt.methodToken noSpace requestAt.noSpace]
    exact requestAt.controlFree
  · intro plain
    obtain ⟨method, target, fields, after, whole, token, noSpace, requestAt⟩ :=
      requestAt_of_parsed (parseRequestVia_eq_ok.mp accepted)
    obtain ⟨later, front⟩ := requestLine_first method target fields
    have controlFree := plain method target (later ++ request.body ++ after)
      (by rw [whole, front]; simp) token noSpace
    exact ⟨method, target, fields, after, requestAt controlFree⟩

end

/-! ## Samples -/

/-- A stream that arrives in the given pieces. -/
private def arriving (pieces : List (List UInt8)) (nonempty : ∀ piece ∈ pieces, piece ≠ []) :
    BufReader UInt8 where
  capacity := 8 * 1024
  roomy := by decide
  buffer := []
  source := { pieces := pieces, nonempty := nonempty, fails := false }

/-- A request in two pieces. -/
private def plainReader : BufReader UInt8 :=
  arriving [utf8 "GET /a HTTP/1.1\r\nHo", utf8 "st: a\r\n\r\n"] (by decide +kernel)

/-- A request with a bare carriage return in its target. -/
private def returnReader : BufReader UInt8 :=
  arriving [utf8 "GET /a\rb HTTP/1.1\r\nHost: a\r\n\r\n"] (by decide +kernel)

private theorem exists_ok {ε α : Type} {result : Except ε α} {holds : α → Bool}
    (found : result.toOption.any holds = true) :
    ∃ value, result = .ok value ∧ holds value = true := by
  cases result with
  | error failure => cases found
  | ok value => exact ⟨value, rfl, found⟩

theorem plain_request_wellFormed :
    ∃ request, parseRequestVia plainReader 1024 = .ok request ∧
      WellFormed plainReader.pending 1024 request := by
  have found : (parseRequest plainReader.pending 1024).toOption.any (fun _ => true) = true := by
    decide +kernel
  obtain ⟨request, parsed, -⟩ := exists_ok found
  have accepted := parseRequestVia_eq_ok.mpr parsed
  refine ⟨request, accepted, (accepted_wellFormed_iff accepted).mpr ?_⟩
  intro method target after same token noSpace
  have front : plainReader.pending =
      utf8 (requestLine "GET" "/a") ++ utf8 "\r\nHost: a\r\n\r\n" := by
    decide +kernel
  rw [front, utf8_append, List.append_assoc] at same
  rw [← target_unique same (by decide +kernel) token (by decide) noSpace]
  decide +kernel

/-- The carriage return in the target reaches the application. -/
theorem bare_return_in_target_accepted :
    ∃ request, parseRequestVia returnReader 1024 = .ok request ∧ '\r' ∈ request.path.toList ∧
      ¬ WellFormed returnReader.pending 1024 request := by
  have found : (parseRequest returnReader.pending 1024).toOption.any
      (fun request => decide ('\r' ∈ request.path.toList)) = true := by
    decide +kernel
  obtain ⟨request, parsed, inPath⟩ := exists_ok found
  refine ⟨request, parseRequestVia_eq_ok.mpr parsed, of_decide_eq_true inPath, ?_⟩
  rintro ⟨method, target, fields, after, requestAt⟩
  have front : returnReader.pending =
      utf8 (requestLine "GET" "/a\rb") ++ utf8 "\r\nHost: a\r\n\r\n" := by
    decide +kernel
  have whole := requestAt.whole
  obtain ⟨later, first⟩ := requestLine_first method target fields
  rw [front, first, utf8_append, List.append_assoc, List.append_assoc, List.append_assoc] at whole
  have sameTarget := target_unique whole (by decide +kernel) requestAt.methodToken (by decide)
    requestAt.noSpace
  have notFree : ¬ ControlFree "/a\rb" := by decide +kernel
  exact notFree (sameTarget ▸ requestAt.controlFree)

end Oxo.Worker
