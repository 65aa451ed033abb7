import Oxo.Core.HopFrame.Fields
import Oxo.Worker.Parser

/-!
Contract: what the native worker's parser makes of a written HTTP/1.1 head.

Owns: the text of a head, when the byte-wise reader takes it whole, and when its
header lines are accepted, with what they parse to.

Does not own: which lines a peer writes.
-/

namespace Oxo.Worker

open Oxo.Foundation Oxo.Core Oxo.Core.HopFrame

/-! ## Written heads -/

/-- A header as one line of text. -/
def headerLine (header : String × String) : String :=
  header.1 ++ ": " ++ header.2

/-- Lines, each with its line break, and the empty line. -/
def headText (lines : List String) : String :=
  String.join (lines.map (· ++ "\r\n")) ++ "\r\n"

/-- A line that the line breaks around it delimit. -/
structure PlainLine (line : String) : Prop where
  nonempty : line ≠ ""
  noReturn : '\r' ∉ line.toList
  noFeed : '\n' ∉ line.toList

/-! ## Reading -/

/-- Without a line feed no byte of the run ends the head, and only the cap can
stop it. -/
private theorem readHeadFrom_run {bytes : List UInt8} (plain : 10 ∉ bytes)
    (rest head : List UInt8) (prev : UInt8) (within : head.length ≤ maxHeaderBytes) :
    readHeadFrom (bytes ++ rest) head prev =
      if head.length + bytes.length ≤ maxHeaderBytes then
        readHeadFrom rest (head ++ bytes) (bytes.getLastD prev)
      else .error (.headers "headers too large") := by
  induction bytes generalizing head prev with
  | nil =>
      rw [if_pos (by simpa using within)]
      simp
  | cons byte bytes inductionHypothesis =>
      rw [List.mem_cons, not_or] at plain
      have notFeed : (byte == 10) = false := beq_eq_false_iff_ne.mpr (Ne.symm plain.1)
      have notEnd : headEnd.isSuffixOf (head ++ [byte]) = false := by
        rw [Bool.eq_false_iff, ne_eq, List.isSuffixOf_iff_suffix]
        intro ends
        obtain ⟨before, same⟩ := ends
        have last := congrArg List.getLast? same
        simp only [headEnd, List.getLast?_append, List.getLast?_cons_cons, List.getLast?_singleton,
          Option.some_or, Option.some.injEq] at last
        exact plain.1 last
      rw [List.cons_append, readHeadFrom, notFeed, Bool.false_and, if_neg Bool.false_ne_true]
      simp only [notEnd, List.length_append, List.length_nil, List.length_cons,
        Bool.false_eq_true, ↓reduceIte]
      by_cases room : head.length + 1 ≤ maxHeaderBytes
      · rw [if_neg (by omega), inductionHypothesis plain.2 (head ++ [byte]) byte (by simpa using room)]
        have sameCap : head.length + 1 + bytes.length = head.length + (bytes.length + 1) := by omega
        rw [List.length_append, List.length_singleton, sameCap, List.append_assoc,
          List.singleton_append, List.getLastD_cons]
      · rw [if_pos (by omega), if_neg (by omega)]

/-- A nonempty line and its line break. -/
private theorem readHeadFrom_line {line : List UInt8} (nonempty : line ≠ []) (plain : 10 ∉ line)
    (rest head : List UInt8) (prev : UInt8) (within : head.length ≤ maxHeaderBytes) :
    readHeadFrom (line ++ 13 :: 10 :: rest) head prev =
      if head.length + line.length + 2 ≤ maxHeaderBytes then
        readHeadFrom rest (head ++ line ++ [13, 10]) 10
      else .error (.headers "headers too large") := by
  have split : line ++ 13 :: 10 :: rest = (line ++ [13]) ++ 10 :: rest := by simp
  have plainReturn : (10 : UInt8) ∉ line ++ [13] := by simp [plain]
  have lastReturn : (line ++ [13]).getLastD prev = 13 := by simp
  rw [split, readHeadFrom_run plainReturn (10 :: rest) head prev within, lastReturn]
  simp only [List.length_append, List.length_singleton]
  by_cases room : head.length + (line.length + 1) ≤ maxHeaderBytes
  · have notEnd : headEnd.isSuffixOf (head ++ (line ++ [13]) ++ [10]) = false := by
      rw [Bool.eq_false_iff, ne_eq, List.isSuffixOf_iff_suffix]
      intro ends
      obtain ⟨before, same⟩ := ends
      have regrouped : (before ++ [13, 10]) ++ [13, 10] = (head ++ line) ++ [13, 10] := by
        simpa [headEnd] using same
      have last := congrArg List.getLast? (List.append_cancel_right regrouped)
      obtain ⟨front, final, lineEq⟩ : ∃ front final, line = front ++ [final] :=
        ⟨line.dropLast, line.getLast nonempty, (List.dropLast_append_getLast nonempty).symm⟩
      rw [lineEq, ← List.append_assoc] at last
      simp only [List.getLast?_append, List.getLast?_cons_cons, List.getLast?_singleton,
        Option.some_or, Option.some.injEq] at last
      apply plain
      rw [lineEq, last]
      simp
    rw [if_pos room, readHeadFrom]
    simp only [notEnd, List.length_append, List.length_singleton, bne_self_eq_false, Bool.and_false,
      Bool.false_eq_true, ↓reduceIte, gt_iff_lt]
    by_cases fits : head.length + line.length + 2 ≤ maxHeaderBytes
    · rw [if_neg (by omega), if_pos fits]
      simp
    · rw [if_pos (by omega), if_neg fits]
  · rw [if_neg room, if_neg (by omega)]

/-- The lines after a line break, and the empty line that ends the head. -/
private theorem readHeadFrom_lines {lines : List (List UInt8)}
    (plain : ∀ line ∈ lines, line ≠ [] ∧ 10 ∉ line) (body head : List UInt8)
    (within : head.length + 2 ≤ maxHeaderBytes) :
    readHeadFrom (lines.flatMap (· ++ [13, 10]) ++ 13 :: 10 :: body) (head ++ [13, 10]) 10 =
      if (head ++ [13, 10] ++ lines.flatMap (· ++ [13, 10]) ++ [13, 10]).length ≤
          maxHeaderBytes then
        .ok (head ++ [13, 10] ++ lines.flatMap (· ++ [13, 10]) ++ [13, 10], body)
      else .error (.headers "headers too large") := by
  induction lines generalizing head with
  | nil =>
      have returned := readHeadFrom_run (show (10 : UInt8) ∉ [13] by decide) (10 :: body)
        (head ++ [13, 10]) 10 (by simpa using within)
      have ends : headEnd.isSuffixOf (head ++ [13, 10] ++ [13] ++ [10]) = true := by
        rw [List.isSuffixOf_iff_suffix]
        exact ⟨head, by simp [headEnd]⟩
      simp only [List.flatMap_nil, List.nil_append, List.append_nil]
      rw [List.singleton_append] at returned
      rw [returned]
      simp only [List.length_append, List.length_cons, List.length_nil]
      by_cases room : head.length + 2 + 1 ≤ maxHeaderBytes
      · rw [if_pos (by simpa using room), readHeadFrom]
        simp only [ends, List.length_append, List.length_cons, List.length_nil, List.getLastD_cons,
          List.getLastD_nil, bne_self_eq_false, Bool.and_false, Bool.false_eq_true, ↓reduceIte,
          gt_iff_lt]
        by_cases fits : head.length + (0 + 1 + 1) + (0 + 1 + 1) ≤ maxHeaderBytes
        · rw [if_neg (by omega), if_pos fits]
          simp
        · rw [if_pos (by omega), if_neg fits]
      · rw [if_neg (by omega), if_neg (by omega)]
  | cons line lines inductionHypothesis =>
      obtain ⟨linePlain, restPlain⟩ := List.forall_mem_cons.mp plain
      have regrouped : (line :: lines).flatMap (· ++ [13, 10]) ++ 13 :: 10 :: body =
          line ++ 13 :: 10 :: (lines.flatMap (· ++ [13, 10]) ++ 13 :: 10 :: body) := by
        simp
      have whole : head ++ [13, 10] ++ (line :: lines).flatMap (· ++ [13, 10]) ++ [13, 10] =
          (head ++ [13, 10] ++ line) ++ [13, 10] ++ lines.flatMap (· ++ [13, 10]) ++ [13, 10] := by
        simp
      rw [regrouped, whole, readHeadFrom_line linePlain.1 linePlain.2 _ _ _ (by simpa using within)]
      by_cases room : (head ++ [13, 10]).length + line.length + 2 ≤ maxHeaderBytes
      · have roomAfter : (head ++ [13, 10] ++ line).length + 2 ≤ maxHeaderBytes := by
          rw [List.length_append]
          exact room
        rw [if_pos room, inductionHypothesis restPlain _ roomAfter]
      · rw [if_neg room, if_neg]
        intro fits
        apply room
        simp only [List.length_append, List.length_cons, List.length_nil] at fits ⊢
        omega

/-- The reader takes a written head whole exactly when it is within the cap. -/
theorem readHead_headText {requestLine : String} {lines : List String}
    (plainRequest : PlainLine requestLine) (plain : ∀ line ∈ lines, PlainLine line)
    (body : List UInt8) :
    readHead (utf8 (headText (requestLine :: lines)) ++ body) =
      if (headText (requestLine :: lines)).utf8ByteSize ≤ maxHeaderBytes then
        .ok (utf8 (headText (requestLine :: lines)), body)
      else .error (.headers "headers too large") := by
  have lineBytes : ∀ line, PlainLine line → utf8 line ≠ [] ∧ 10 ∉ utf8 line := by
    intro line plainLine
    constructor
    · intro empty
      exact plainLine.nonempty (utf8_injective empty)
    · intro feed
      rw [ascii_mem_utf8 (by decide)] at feed
      obtain ⟨char, member, code⟩ := feed
      have isFeed : char = '\n' := Char.toNat_inj.mp code
      exact plainLine.noFeed (isFeed ▸ member)
  have bytesEq : utf8 (headText (requestLine :: lines)) =
      utf8 requestLine ++ [13, 10] ++ (lines.map utf8).flatMap (· ++ [13, 10]) ++ [13, 10] := by
    have joined : ∀ lines : List String, utf8 (String.join (lines.map (· ++ "\r\n"))) =
        (lines.map utf8).flatMap (· ++ [13, 10]) := by
      intro lines
      induction lines with
      | nil => rfl
      | cons line lines inductionHypothesis =>
          rw [List.map_cons, String.join_cons, utf8_append, inductionHypothesis, utf8_append]
          rfl
    rw [headText, utf8_append, joined, List.map_cons, List.flatMap_cons]
    rfl
  rw [← utf8_length, bytesEq, readHead]
  have regrouped : utf8 requestLine ++ [13, 10] ++ (lines.map utf8).flatMap (· ++ [13, 10]) ++
      [13, 10] ++ body = utf8 requestLine ++ 13 :: 10 ::
        ((lines.map utf8).flatMap (· ++ [13, 10]) ++ 13 :: 10 :: body) := by
    simp
  obtain ⟨nonempty, noFeed⟩ := lineBytes requestLine plainRequest
  rw [regrouped, readHeadFrom_line nonempty noFeed _ [] 0 (Nat.zero_le _), List.length_nil,
    Nat.zero_add, List.nil_append]
  by_cases room : (utf8 requestLine).length + 2 ≤ maxHeaderBytes
  · rw [if_pos room, readHeadFrom_lines ?_ body (utf8 requestLine) room]
    intro bytes member
    obtain ⟨line, lineMember, lineEq⟩ := List.mem_map.mp member
    rw [← lineEq]
    exact lineBytes line (plain line lineMember)
  · rw [if_neg room, if_neg]
    intro fits
    apply room
    simp only [List.length_append, List.length_cons, List.length_nil] at fits
    omega

/-! ## Header lines -/

/-- What a header line parses to. -/
def parsedHeader (header : String × String) : String × String :=
  (toAsciiLowercase header.1, trimMatches isBlank header.2)

/-- What the parser demands of one header line by itself. -/
structure LineAccepted (header : String × String) : Prop where
  value : ControlFree (trimMatches isBlank header.2)
  allowed : toAsciiLowercase header.1 ∉ forbiddenNames
  connection : toAsciiLowercase header.1 = "connection" →
    ∀ token ∈ split (trimMatches isBlank header.2) ',',
      eqIgnoreAsciiCase (trim token) "close" = true

theorem trimMatches_numeral (value : Nat) :
    trimMatches isBlank (numeral 10 value) = numeral 10 value := by
  apply trimMatches_eq_self
  intro char member
  have digit := numeral_digits member
  by_contra blank
  rw [Bool.not_eq_false, isBlank, Bool.or_eq_true, beq_iff_eq, beq_iff_eq] at blank
  rcases blank with space | tab
  · rw [space] at digit
    exact absurd digit (by decide)
  · rw [tab] at digit
    exact absurd digit (by decide)

/-- A name that is a token stands before the first colon. -/
private theorem splitOnce_headerLine {header : String × String}
    (token : validToken header.1 = true) :
    splitOnce (headerLine header) ':' = some (header.1, " " ++ header.2) := by
  have tokenBytes : (utf8 header.1).all isTokenByte = true := (Bool.and_eq_true_iff.mp token).2
  have chars : (headerLine header).toList = header.1.toList ++ ':' :: (" " ++ header.2).toList := by
    simp [headerLine]
  exact splitOnce_eq_some.mpr ⟨chars, not_mem_token tokenBytes fun _ => by decide⟩

private theorem headerLine_unfolded {header : String × String}
    (token : validToken header.1 = true) :
    (startsWith (headerLine header) " " || startsWith (headerLine header) "\t") = false := by
  have tokenBytes : (utf8 header.1).all isTokenByte = true := (Bool.and_eq_true_iff.mp token).2
  have nonempty : header.1.toList ≠ [] := by
    intro empty
    have isEmpty : header.1 = "" := by simpa using empty
    rw [isEmpty] at token
    exact absurd token (by decide)
  obtain ⟨char, chars, nameEq⟩ := List.exists_cons_of_ne_nil nonempty
  have member : char ∈ header.1.toList := by simp [nameEq]
  have notBlank := isWhitespace_of_token tokenBytes member
  have chars : (headerLine header).toList = char :: (chars ++ ": ".toList ++ header.2.toList) := by
    simp [headerLine, nameEq]
  have notSpace : (' ' == char) = false := by
    rw [beq_eq_false_iff_ne]
    intro isSpace
    rw [← isSpace] at notBlank
    exact absurd notBlank (by decide)
  have notTab : ('\t' == char) = false := by
    rw [beq_eq_false_iff_ne]
    intro isTab
    rw [← isTab] at notBlank
    exact absurd notBlank (by decide)
  simp [startsWith, chars, notSpace, notTab, List.isPrefixOf]

/-- One line with a token for a name: refused as a duplicate or for what it says. -/
theorem parseHeaderLine_headerLine {header : String × String}
    (token : validToken header.1 = true) (headers : List (String × String))
    {result : String × String} :
    parseHeaderLine headers (headerLine header) = .ok result ↔
      toAsciiLowercase header.1 ∉ headers.map Prod.fst ∧ LineAccepted header ∧
        result = parsedHeader header := by
  have tokenBytes : (utf8 header.1).all isTokenByte = true := (Bool.and_eq_true_iff.mp token).2
  have named : (header.1 == "" ||
      String.ofList (header.1.toList.rdropWhile isWhitespace) != header.1 ||
      !validToken header.1) = false := by
    have notEmpty : (header.1 == "") = false := by
      have nonempty := (Bool.and_eq_true_iff.mp token).1
      simpa using nonempty
    have untrimmed : header.1.toList.rdropWhile isWhitespace = header.1.toList := by
      rw [List.rdropWhile_eq_self_iff]
      intro nonempty
      rw [isWhitespace_of_token tokenBytes (List.getLast_mem nonempty)]
      exact Bool.false_ne_true
    rw [notEmpty, untrimmed, String.ofList_toList, token]
    simp
  have valueEq : trimMatches isBlank (" " ++ header.2) = trimMatches isBlank header.2 := by
    have chars : " " ++ header.2 = String.ofList (' ' :: header.2.toList) := by
      rw [← String.toList_inj]
      simp
    rw [chars, trimMatches_cons (by decide), String.ofList_toList]
  unfold parseHeaderLine
  rw [headerLine_unfolded token, refuseIf_bind_eq_ok, splitOnce_headerLine token]
  simp only [refuseIf_bind_eq_ok, named, valueEq, true_and]
  constructor
  · intro accepted
    obtain ⟨fresh, controlFree, allowed, tokens, same⟩ := accepted
    refine ⟨?_, ⟨controlFree, by simpa using allowed, ?_⟩, (Except.ok.inj same).symm⟩
    · intro duplicate
      obtain ⟨other, member, sameName⟩ := List.mem_map.mp duplicate
      have found := List.any_eq_false.mp fresh other member
      rw [sameName, beq_self_eq_true] at found
      exact found rfl
    · intro isConnection token member
      rw [isConnection, beq_self_eq_true, Bool.true_and, List.any_eq_false] at tokens
      simpa using tokens token member
  · intro accepted
    obtain ⟨fresh, line, same⟩ := accepted
    refine ⟨?_, line.value, by simpa using line.allowed, ?_, by rw [same]; rfl⟩
    · rw [List.any_eq_false]
      intro other member
      rw [beq_iff_eq]
      intro sameName
      exact fresh (List.mem_map.mpr ⟨other, member, sameName⟩)
    · by_cases isConnection : toAsciiLowercase header.1 = "connection"
      · rw [List.any_eq_false.mpr, Bool.and_false]
        intro token member
        simp [line.connection isConnection token member]
      · rw [beq_eq_false_iff_ne.mpr isConnection, Bool.false_and]

/-- The header lines up to the empty line: few enough, distinct, each accepted. -/
theorem parseHeaderLines_headerLines {lines : List (String × String)}
    (tokens : ∀ header ∈ lines, validToken header.1 = true) (rest : List String)
    {count : Nat} (within : count ≤ maxHeaders) {headers result : List (String × String)}
    (distinct : (headers.map Prod.fst).Nodup) :
    parseHeaderLines (lines.map headerLine ++ "" :: rest) count headers = .ok result ↔
      count + lines.length ≤ maxHeaders ∧
        (headers.map Prod.fst ++ lines.map fun header => toAsciiLowercase header.1).Nodup ∧
        (∀ header ∈ lines, LineAccepted header) ∧
        result = headers ++ lines.map parsedHeader := by
  induction lines generalizing count headers with
  | nil =>
      simp only [List.map_nil, List.nil_append, parseHeaderLines, ↓reduceIte, Except.ok.injEq,
        List.length_nil, Nat.add_zero, within, List.append_nil, distinct, List.not_mem_nil,
        IsEmpty.forall_iff, implies_true, true_and]
      exact eq_comm
  | cons header lines inductionHypothesis =>
      obtain ⟨token, restTokens⟩ := List.forall_mem_cons.mp tokens
      have nonempty : headerLine header ≠ "" := by
        intro empty
        have size := congrArg String.length empty
        simp [headerLine] at size
      rw [List.map_cons, List.cons_append, parseHeaderLines, if_neg nonempty,
        refuseIf_bind_eq_ok, bind_eq_ok]
      simp only [parseHeaderLine_headerLine token]
      constructor
      · intro accepted
        obtain ⟨room, parsed, ⟨fresh, line, parsedEq⟩, later⟩ := accepted
        rw [decide_eq_false_iff_not] at room
        have stillDistinct : ((headers ++ [parsed]).map Prod.fst).Nodup := by
          rw [List.map_append, List.nodup_append_comm, parsedEq]
          exact List.nodup_cons.mpr ⟨fresh, distinct⟩
        rw [inductionHypothesis restTokens (by omega) stillDistinct] at later
        obtain ⟨few, names, lineRest, same⟩ := later
        refine ⟨by rw [List.length_cons]; omega, ?_, ?_, ?_⟩
        · rw [parsedEq] at names
          simpa [parsedHeader] using names
        · exact List.forall_mem_cons.mpr ⟨line, lineRest⟩
        · rw [same, parsedEq]
          simp
      · intro accepted
        obtain ⟨few, names, accept, same⟩ := accepted
        obtain ⟨line, lineRest⟩ := List.forall_mem_cons.mp accept
        rw [List.length_cons] at few
        have fresh : toAsciiLowercase header.1 ∉ headers.map Prod.fst := by
          intro member
          have disjoint := List.disjoint_of_nodup_append names member
          apply disjoint
          simp
        have stillDistinct : ((headers ++ [parsedHeader header]).map Prod.fst).Nodup := by
          rw [List.map_append, List.nodup_append_comm]
          exact List.nodup_cons.mpr ⟨fresh, distinct⟩
        refine ⟨by simp; omega, parsedHeader header, ⟨fresh, line, rfl⟩, ?_⟩
        rw [inductionHypothesis restTokens (by omega) stillDistinct]
        refine ⟨by omega, by simpa [parsedHeader] using names, lineRest, ?_⟩
        rw [same]
        simp

/-! ## The head as a whole -/

def requestLine (method target : String) : String :=
  method ++ " " ++ target ++ " HTTP/1.1"

private theorem splitLines_headText {lines : List String}
    (plain : ∀ line ∈ lines, '\r' ∉ line.toList) :
    (splitLines (headText lines).toList).map String.ofList = lines ++ ["", ""] := by
  induction lines with
  | nil => rfl
  | cons line lines inductionHypothesis =>
      obtain ⟨linePlain, restPlain⟩ := List.forall_mem_cons.mp plain
      have chars : (headText (line :: lines)).toList =
          line.toList ++ '\r' :: '\n' :: (headText lines).toList := by
        simp [headText, String.join_cons]
      rw [chars, splitLines_line linePlain, List.map_cons, inductionHypothesis restPlain,
        String.ofList_toList]
      rfl

private theorem split_requestLine {method target : String} (methodPlain : ' ' ∉ method.toList)
    (targetPlain : ' ' ∉ target.toList) :
    split (requestLine method target) ' ' = [method, target, "HTTP/1.1"] := by
  have chars : (requestLine method target).toList =
      method.toList ++ ' ' :: (target.toList ++ ' ' :: "HTTP/1.1".toList) := by
    simp [requestLine]
  unfold split
  rw [chars, List.splitOn_append_cons_self_of_not_mem methodPlain,
    List.splitOn_append_cons_self_of_not_mem targetPlain,
    List.splitOn_eq_singleton (by decide)]
  simp

/-- A request line the parser can take apart, in front of well-named headers. -/
structure WrittenHead (method target : String) (lines : List (String × String)) : Prop where
  methodToken : validToken method = true
  targetNonempty : target ≠ ""
  targetVisible : ∀ char ∈ target.toList, ' ' < char
  names : ∀ header ∈ lines, validToken header.1 = true
  values : ∀ header ∈ lines, '\r' ∉ header.2.toList ∧ '\n' ∉ header.2.toList

namespace WrittenHead

variable {method target : String} {lines : List (String × String)}

private theorem token_plain {text : String} (token : validToken text = true) :
    ' ' ∉ text.toList ∧ '\r' ∉ text.toList ∧ '\n' ∉ text.toList := by
  have tokenBytes : (utf8 text).all isTokenByte = true := (Bool.and_eq_true_iff.mp token).2
  exact ⟨not_mem_token tokenBytes fun _ => by decide, not_mem_token tokenBytes fun _ => by decide,
    not_mem_token tokenBytes fun _ => by decide⟩

theorem plainRequestLine (written : WrittenHead method target lines) :
    PlainLine (requestLine method target) := by
  obtain ⟨_, methodReturn, methodFeed⟩ := token_plain written.methodToken
  have targetReturn : '\r' ∉ target.toList :=
    fun member => absurd (written.targetVisible _ member) (by decide)
  have targetFeed : '\n' ∉ target.toList :=
    fun member => absurd (written.targetVisible _ member) (by decide)
  refine ⟨?_, ?_, ?_⟩
  · intro empty
    have size := congrArg String.length empty
    simp [requestLine] at size
  · simp [requestLine, methodReturn, targetReturn]
  · simp [requestLine, methodFeed, targetFeed]

theorem plainHeaderLines (written : WrittenHead method target lines) :
    ∀ line ∈ lines.map headerLine, PlainLine line := by
  intro line member
  obtain ⟨header, headerMember, lineEq⟩ := List.mem_map.mp member
  obtain ⟨_, nameReturn, nameFeed⟩ := token_plain (written.names header headerMember)
  obtain ⟨valueReturn, valueFeed⟩ := written.values header headerMember
  rw [← lineEq]
  refine ⟨?_, ?_, ?_⟩
  · intro empty
    have size := congrArg String.length empty
    simp [headerLine] at size
  · simp [headerLine, nameReturn, valueReturn]
  · simp [headerLine, nameFeed, valueFeed]

/-- The parser's demands on the headers of a written head. -/
structure Accepted (lines : List (String × String)) : Prop where
  count : lines.length ≤ maxHeaders
  distinct : (lines.map fun header => toAsciiLowercase header.1).Nodup
  each : ∀ header ∈ lines, LineAccepted header

theorem parseHead_eq_ok (written : WrittenHead method target lines) {head : RequestHead} :
    parseHead (utf8 (headText (requestLine method target :: lines.map headerLine))) = .ok head ↔
      Accepted lines ∧ head = ⟨method, target, "HTTP/1.1", lines.map parsedHeader⟩ := by
  have plain : ∀ line ∈ requestLine method target :: lines.map headerLine, '\r' ∉ line.toList := by
    intro line member
    rcases List.mem_cons.mp member with same | later
    · rw [same]
      exact written.plainRequestLine.noReturn
    · exact (written.plainHeaderLines line later).noReturn
  have targetPlain : ' ' ∉ target.toList :=
    fun member => absurd (written.targetVisible _ member) (by decide)
  have notEmpty : (method == "" || target == "" || "HTTP/1.1" == "") = false := by
    have methodNonempty := (Bool.and_eq_true_iff.mp written.methodToken).1
    simp only [bne_iff_ne] at methodNonempty
    simp [methodNonempty, written.targetNonempty]
  unfold parseHead
  rw [fromUtf8_utf8]
  simp only [splitLines_headText plain, List.cons_append,
    split_requestLine (token_plain written.methodToken).1 targetPlain, refuseIf_bind_eq_ok, notEmpty,
    written.methodToken, Bool.not_true, true_and]
  rw [bind_eq_ok]
  constructor
  · intro parsed
    obtain ⟨headers, accepted, same⟩ := parsed
    rw [parseHeaderLines_headerLines written.names [""] (Nat.zero_le _) (by simp)] at accepted
    obtain ⟨count, distinct, each, headersEq⟩ := accepted
    refine ⟨⟨by simpa using count, by simpa using distinct, each⟩, ?_⟩
    rw [← Except.ok.inj same, headersEq]
    rfl
  · intro accepted
    obtain ⟨accepted, same⟩ := accepted
    refine ⟨lines.map parsedHeader, ?_, by rw [same]; rfl⟩
    rw [parseHeaderLines_headerLines written.names [""] (Nat.zero_le _) (by simp)]
    exact ⟨by simpa using accepted.count, by simpa using accepted.distinct, accepted.each, rfl⟩

end WrittenHead

/-! ## The request -/

/-- The request the header walk ends with. -/
def walkedRequest (method target host : String) (headers : List (String × String))
    (body : List UInt8) : WorkerRequest :=
  let parts := headers.foldl RequestParts.apply
    { serverName := parseHostName host
      serverPort := (parseHostPort host).getD 80
      urlScheme := "http"
      remoteAddr := "127.0.0.1"
      appHeaders := [] }
  { method := method
    path := (splitTarget target).1
    query := (splitTarget target).2
    serverName := parts.serverName
    serverPort := parts.serverPort
    urlScheme := parts.urlScheme
    remoteAddr := parts.remoteAddr
    headers := parts.appHeaders
    body := body }

/-- What the parser demands of a written request besides its body. -/
structure RequestAccepted (method target : String) (lines : List (String × String)) : Prop where
  size : (headText (requestLine method target :: lines.map headerLine)).utf8ByteSize ≤
    maxHeaderBytes
  headers : WrittenHead.Accepted lines
  origin : isOriginForm target = true
  contentType : ∀ value, headerValue (lines.map parsedHeader) "content-type" = some value →
    startsWith (toAsciiLowercase value) "application/grpc" = false

theorem parseContentLength_numeral {length : Nat} (small : length < 2 ^ 64) :
    parseContentLength (numeral 10 length) = .ok length := by
  have nonempty : numeral 10 length ≠ "" := by
    intro empty
    have chars := congrArg String.toList empty
    rw [numeral, String.toList_ofList] at chars
    exact Nat.toDigits_ne_nil chars
  have digits : (numeral 10 length).toList.all Char.isDigit = true := by
    rw [List.all_eq_true]
    intro char member
    exact numeral_digits member
  unfold parseContentLength
  rw [beq_eq_false_iff_ne.mpr nonempty, digits, parseUnsigned_numeral small]
  rfl

/-- A written request with a host and its body's length is accepted exactly under
the demands above, and then the walk decides the result. -/
theorem parseRequest_eq_ok {method target host : String} {lines : List (String × String)}
    (written : WrittenHead method target lines) {body : List UInt8} {maxBody : Nat}
    (hostFound : headerValue (lines.map parsedHeader) "host" = some host)
    (lengthFound : headerValue (lines.map parsedHeader) "content-length" =
      some (numeral 10 body.length))
    (small : body.length < 2 ^ 64) (bodyFits : body.length ≤ maxBody) {request : WorkerRequest} :
    parseRequest (utf8 (headText (requestLine method target :: lines.map headerLine)) ++ body)
        maxBody = .ok request ↔
      RequestAccepted method target lines ∧
        request = walkedRequest method target host (lines.map parsedHeader) body := by
  unfold parseRequest
  rw [readHead_headText written.plainRequestLine written.plainHeaderLines, bind_eq_ok]
  constructor
  · intro parsed
    obtain ⟨pieces, read, parsed⟩ := parsed
    by_cases size : (headText (requestLine method target :: lines.map headerLine)).utf8ByteSize ≤
        maxHeaderBytes
    · rw [if_pos size] at read
      cases read
      rw [bind_eq_ok] at parsed
      obtain ⟨head, headParsed, parsed⟩ := parsed
      rw [written.parseHead_eq_ok] at headParsed
      obtain ⟨accepted, headEq⟩ := headParsed
      subst headEq
      simp only [refuseIf_bind_eq_ok, hostFound, lengthFound, parseContentLength_numeral small,
        ok_bind] at parsed
      obtain ⟨_, origin, grpc, _, _, same⟩ := parsed
      rw [List.take_length] at same
      refine ⟨⟨size, accepted, by simpa using origin, ?_⟩, (Except.ok.inj same).symm⟩
      intro value found
      rw [found] at grpc
      simpa using grpc
    · rw [if_neg size] at read
      cases read
  · intro accepted
    obtain ⟨accepted, same⟩ := accepted
    refine ⟨_, if_pos accepted.size, ?_⟩
    rw [bind_eq_ok]
    refine ⟨_, written.parseHead_eq_ok.mpr ⟨accepted.headers, rfl⟩, ?_⟩
    simp only [refuseIf_bind_eq_ok, hostFound, lengthFound, parseContentLength_numeral small,
      ok_bind]
    refine ⟨rfl, by simp [accepted.origin], ?_, by simpa using bodyFits,
      by simp, ?_⟩
    · cases found : headerValue (lines.map parsedHeader) "content-type" with
      | none => rfl
      | some value => simpa using accepted.contentType value found
    · rw [List.take_length, same]
      rfl

/-! ## Looking up a header -/

theorem headerValue_append_of_absent {before after : List (String × String)} {name : String}
    (absent : name ∉ before.map Prod.fst) :
    headerValue (before ++ after) name = headerValue after name := by
  have none : before.find? (fun header => header.1 == name) = none := by
    rw [List.find?_eq_none]
    intro header member
    rw [beq_iff_eq]
    intro same
    exact absent (List.mem_map.mpr ⟨header, member, same⟩)
  unfold headerValue
  rw [List.find?_append, none, Option.none_or]

theorem headerValue_eq_some {headers : List (String × String)} {name value : String}
    (found : headerValue headers name = some value) : (name, value) ∈ headers := by
  unfold headerValue at found
  obtain ⟨header, headerFound, valueEq⟩ := Option.map_eq_some_iff.mp found
  have nameEq := List.find?_some headerFound
  rw [beq_iff_eq] at nameEq
  rw [← nameEq, ← valueEq]
  exact List.mem_of_find?_eq_some headerFound

theorem headerValue_of_mem {headers : List (String × String)} {name value : String}
    (distinct : (headers.map Prod.fst).Nodup) (member : (name, value) ∈ headers) :
    headerValue headers name = some value := by
  cases found : headerValue headers name with
  | none =>
      unfold headerValue at found
      rw [Option.map_eq_none_iff, List.find?_eq_none] at found
      exact absurd (beq_self_eq_true name) (found _ member)
  | some other =>
      have same := List.inj_on_of_nodup_map distinct (headerValue_eq_some found) member rfl
      rw [(Prod.mk.inj same).2]

theorem parsedHeader_names (lines : List (String × String)) :
    (lines.map parsedHeader).map Prod.fst = lines.map fun header => toAsciiLowercase header.1 := by
  rw [List.map_map]
  rfl

end Oxo.Worker
