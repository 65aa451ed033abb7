import Oxo.Edge.Acme.ChallengeHost

/-!
Contract: the replies of the HTTP-01 responder to well-formed requests
(`oxo-pingora-edge/src/acme/challenge.rs`, `handle_http01_connection`).

Owns: well-formed requests, what the responder makes of the part of one that its read returns, and
for which parts its reply is the one to the whole and answers exactly the provisioned challenges.

Does not own: the comparison of one host value.
-/

namespace Oxo.Edge.Acme

open Oxo.Foundation

/-! ## Requests -/

/-- The bytes of a field value: visible ones, those of other than ASCII text, blanks and tabs. -/
def isFieldByte (byte : UInt8) : Bool :=
  byte == 0x09 || (0x20 ≤ byte && byte != 0x7f)

/-- A well-formed HTTP/1.1 request. -/
structure HttpRequest where
  method : String
  target : String
  fields : List (String × List UInt8)
  body : List UInt8
  methodToken : method ≠ "" ∧ (utf8 method).all isTokenByte = true
  visibleTarget : target ≠ "" ∧ (utf8 target).all (fun byte => 0x21 ≤ byte && byte ≤ 0x7e) = true
  nameTokens : ∀ field ∈ fields, field.1 ≠ "" ∧ (utf8 field.1).all isTokenByte = true
  fieldValues : ∀ field ∈ fields, field.2.all isFieldByte = true

namespace HttpRequest

def requestLine (request : HttpRequest) : String :=
  request.method ++ " " ++ (request.target ++ " " ++ "HTTP/1.1")

/-- A field with its line break. -/
def fieldBytes (field : String × List UInt8) : List UInt8 :=
  utf8 field.1 ++ 0x3a :: (field.2 ++ [0x0d, 0x0a])

def bytes (request : HttpRequest) : List UInt8 :=
  utf8 request.requestLine ++ 0x0d :: 0x0a ::
    (request.fields.flatMap fieldBytes ++ 0x0d :: 0x0a :: request.body)

/-- The values of the fields named host. -/
def hosts (request : HttpRequest) : List (List UInt8) :=
  (request.fields.filter fun field => eqIgnoreAsciiCase field.1 "host").map Prod.snd

theorem bytes_ne_nil (request : HttpRequest) : request.bytes ≠ [] := by
  simp [bytes]

/-- The stream of a request that arrives at once. -/
def inOnePiece (request : HttpRequest) : Segments UInt8 where
  pieces := [request.bytes]
  nonempty piece member := by
    rw [List.mem_singleton.mp member]
    exact request.bytes_ne_nil
  fails := false

end HttpRequest

/-! ## Replies as they should be -/

/-- The target names a provisioned token. -/
def Provisioned (store : Http01ChallengeStore) (target key : String) : Prop :=
  ∃ token, target = http01Prefix ++ token ∧ store.inner.lookup token = some key

/-- A GET of a provisioned challenge, for the one host that is served. -/
def Asks (store : Http01ChallengeStore) (fqdn : String) (request : HttpRequest) (key : String) :
    Prop :=
  request.method = "GET" ∧ Provisioned store request.target key ∧
    ∃ value, request.hosts = [value] ∧ NamesHost fqdn value

/-- The key authorization is replied to exactly these requests, and the reply is that to the
request in one piece. -/
def Answered (store : Http01ChallengeStore) (fqdn : String) (request : HttpRequest)
    (stream : Segments UInt8) : Prop :=
  (∀ key, handleHttp01Connection stream fqdn store =
      some (Http01Reply.response ⟨"200 OK", key⟩) ↔ Asks store fqdn request key) ∧
    handleHttp01Connection stream fqdn store =
      handleHttp01Connection request.inOnePiece fqdn store

/-! ## What a read shows -/

/-- Whether a host is found in some lines and passes. -/
def accepts (fqdn : String) (lines : List String) : Bool :=
  (hostOf lines).any fun host => hostMatchesFqdn host fqdn

/-- The lines that are searched for a host. -/
def shownLines (read : List UInt8) : List String :=
  (lines (fromUtf8Lossy read)).tail

/-- The host is judged right: no line of a body is accepted for a missing one, a single one is not
misread, and the first of several is not accepted. -/
def Judged (fqdn : String) (request : HttpRequest) : Prop :=
  match request.hosts with
  | [] => accepts fqdn (lines (fromUtf8Lossy request.body)) = false
  | [value] => ¬ Misread fqdn value
  | first :: _ :: _ => hostMatchesFqdn (seenHost first) fqdn = false

/-- The read has the request line; for a GET its host is accepted as that of the whole request is,
and for one of a provisioned challenge that is right. -/
structure Heard (store : Http01ChallengeStore) (fqdn : String) (request : HttpRequest)
    (read : List UInt8) : Prop where
  opens : utf8 request.requestLine <+: read
  sameHost : request.method = "GET" →
    accepts fqdn (shownLines read) = accepts fqdn (shownLines request.bytes)
  judged : request.method = "GET" → (∃ key, Provisioned store request.target key) →
    Judged fqdn request

/-! ## Lines of a request -/

section

variable {request : HttpRequest} {fqdn : String} {store : Http01ChallengeStore}

private theorem target_char {char : Char} (member : char ∈ request.target.toList) :
    char.toNat < 128 ∧ isWhitespace char = false := by
  have visible := List.all_eq_true.mp request.visibleTarget.2
  have range : ∀ byte : UInt8, (0x21 ≤ byte && byte ≤ 0x7e) = true → byte < 0x80 := by
    decide +kernel
  have small := ascii_of_utf8 (fun byte inText => range byte (visible byte inText)) member
  have bounds := visible _ (asciiByte_mem_utf8 member small)
  simp only [Bool.and_eq_true, decide_eq_true_eq, UInt8.le_iff_toNat_le, toNat_asciiByte small,
    UInt8.reduceToNat] at bounds
  refine ⟨small, ?_⟩
  simp only [isWhitespace, Bool.or_eq_false_iff, Bool.and_eq_false_iff, decide_eq_false_iff_not,
    beq_eq_false_iff_ne]
  omega

private theorem method_char {char : Char} (member : char ∈ request.method.toList) :
    char.toNat < 128 ∧ isWhitespace char = false :=
  ⟨(token_char request.methodToken.2 member).1, isWhitespace_of_token request.methodToken.2 member⟩

/-- The request line is ASCII and one line. -/
private theorem requestLine_char {char : Char} (member : char ∈ request.requestLine.toList) :
    char.toNat < 128 ∧ char ≠ '\n' := by
  have visible {char : Char} (plain : char.toNat < 128 ∧ isWhitespace char = false) :
      char.toNat < 128 ∧ char ≠ '\n' := by
    refine ⟨plain.1, ?_⟩
    rintro rfl
    exact absurd plain.2 (by decide)
  simp only [HttpRequest.requestLine, String.toList_append, List.mem_append] at member
  rcases member with (inMethod | space) | ((inTarget | space) | inVersion)
  · exact visible (method_char inMethod)
  · rw [List.mem_singleton.mp space]
    decide
  · exact visible (target_char inTarget)
  · rw [List.mem_singleton.mp space]
    decide
  · have all : ∀ char ∈ "HTTP/1.1".toList, char.toNat < 128 ∧ char ≠ '\n' := by decide
    exact all char inVersion

/-- The words of a request line, whatever its version is written as. -/
private theorem words_version (version : String) :
    splitWhitespace (request.method ++ " " ++ (request.target ++ " " ++ version)) =
      request.method :: request.target :: splitWhitespace version := by
  rw [splitWhitespace_word request.methodToken.1 (fun char member => (method_char member).2),
    splitWhitespace_word request.visibleTarget.1 fun char member => (target_char member).2]

/-- What is read of a request from its request line on. -/
private theorem lines_of_opens {read : List UInt8} (opens : utf8 request.requestLine <+: read)
    (isPart : read <+: request.bytes) :
    ∃ line, lines (fromUtf8Lossy read) = line :: (lines (fromUtf8Lossy read)).tail ∧
      splitWhitespace line = [request.method, request.target, "HTTP/1.1"] := by
  obtain ⟨rest, rfl⟩ := opens
  have isRest : rest <+: 0x0d :: 0x0a ::
      (request.fields.flatMap HttpRequest.fieldBytes ++ 0x0d :: 0x0a :: request.body) :=
    (List.prefix_append_right_inj _).mp isPart
  have oneLine : '\n' ∉ request.requestLine.toList :=
    fun member => (requestLine_char member).2 rfl
  have ascii : ∀ char ∈ request.requestLine.toList, char.toNat < 128 :=
    fun char member => (requestLine_char member).1
  have nonempty : request.requestLine ≠ "" := by
    intro empty
    have words := @words_version request "HTTP/1.1"
    rw [← HttpRequest.requestLine, empty] at words
    cases words
  rw [fromUtf8Lossy_ascii ascii]
  match rest, isRest with
  | [], _ =>
      have whole : request.requestLine ++ fromUtf8Lossy [] = request.requestLine :=
        String.append_empty
      rw [whole, lines_last oneLine nonempty]
      exact ⟨_, rfl, words_version "HTTP/1.1"⟩
  | [first], isRest =>
      rw [(List.cons_prefix_cons.mp isRest).1]
      have whole : request.requestLine ++ fromUtf8Lossy [0x0d] = request.method ++ " " ++
          (request.target ++ " " ++ "HTTP/1.1\r") := by
        have return_ : fromUtf8Lossy [0x0d] = "\r" := fromUtf8Lossy_utf8 "\r"
        have version : "HTTP/1.1\r" = "HTTP/1.1" ++ "\r" := by decide
        rw [return_, HttpRequest.requestLine, version]
        simp only [String.append_assoc]
      have oneReturned : '\n' ∉ (request.requestLine ++ fromUtf8Lossy [0x0d]).toList := by
        have return_ : fromUtf8Lossy [0x0d] = "\r" := fromUtf8Lossy_utf8 "\r"
        rw [return_, String.toList_append, List.mem_append, not_or]
        exact ⟨oneLine, by decide⟩
      have some : request.requestLine ++ fromUtf8Lossy [0x0d] ≠ "" := by
        intro empty
        have words := @words_version request "HTTP/1.1\r"
        rw [← whole, empty] at words
        cases words
      rw [lines_last oneReturned some]
      refine ⟨_, rfl, ?_⟩
      rw [whole]
      exact words_version "HTTP/1.1\r"
  | first :: second :: later, isRest =>
      obtain ⟨isReturn, isRest⟩ := List.cons_prefix_cons.mp isRest
      rw [isReturn, (List.cons_prefix_cons.mp isRest).1, ← List.nil_append (0x0d :: 0x0a :: later),
        fromUtf8Lossy_break, show fromUtf8Lossy [] = "" from fromUtf8Lossy_utf8 "",
        String.empty_append, ← String.append_assoc, lines_line oneLine]
      exact ⟨_, rfl, words_version "HTTP/1.1"⟩

/-- The words of a part of the request line. -/
private theorem words_short {part : String} (isPart : part.toList <+: request.requestLine.toList)
    (short : part ≠ request.requestLine) :
    (∃ words, splitWhitespace part = words ∧ words.length ≤ 2) ∨
      ∃ version, splitWhitespace part = [request.method, request.target, version] ∧
        version ≠ "HTTP/1.1" := by
  have within {word front : List Char} (plain : ∀ char ∈ word, isWhitespace char = false)
      (isFront : front <+: word) : (splitWhitespace (String.ofList front)).length ≤ 1 := by
    rw [splitWhitespace_plain fun char member => plain char (isFront.subset
      (by rwa [String.toList_ofList] at member))]
    split_ifs <;> simp
  have methodPlain : ∀ char ∈ request.method.toList, isWhitespace char = false :=
    fun char member => (method_char member).2
  have targetPlain : ∀ char ∈ request.target.toList, isWhitespace char = false :=
    fun char member => (target_char member).2
  have parts : request.requestLine.toList = request.method.toList ++ ' ' ::
      (request.target.toList ++ ' ' :: "HTTP/1.1".toList) := by
    simp [HttpRequest.requestLine, String.toList_append]
  have part_ : part = String.ofList part.toList := (String.ofList_toList).symm
  rw [parts] at isPart
  rcases prefix_separated isPart with inMethod | ⟨later, opened, isLater⟩
  · have few := within methodPlain inMethod
    rw [← part_] at few
    exact .inl ⟨_, rfl, few.trans (by decide)⟩
  have methodRead : part = request.method ++ " " ++ String.ofList later := by
    rw [← String.toList_inj, opened]
    simp [String.toList_append]
  rcases prefix_separated isLater with inTarget | ⟨last, openedLater, isLast⟩
  · have few := within targetPlain inTarget
    refine .inl ⟨_, rfl, ?_⟩
    rw [methodRead, splitWhitespace_word request.methodToken.1 methodPlain, List.length_cons]
    exact Nat.succ_le_succ few
  have bothRead : part = request.method ++ " " ++ (request.target ++ " " ++ String.ofList last) := by
    rw [methodRead, openedLater, ← String.toList_inj]
    simp [String.toList_append]
  have versionPlain : ∀ char ∈ "HTTP/1.1".toList, isWhitespace char = false := by decide
  have lastWords : splitWhitespace (String.ofList last) =
      if String.ofList last = "" then [] else [String.ofList last] :=
    splitWhitespace_plain fun char member => versionPlain char (isLast.subset
      (by rwa [String.toList_ofList] at member))
  rw [bothRead, words_version, lastWords]
  split_ifs with empty
  · exact .inl ⟨_, rfl, Nat.le_refl 2⟩
  · refine .inr ⟨_, rfl, fun whole => short ?_⟩
    rw [bothRead, whole, HttpRequest.requestLine]

/-- A part of the request line is not a request line. -/
private theorem parse_short {read : List UInt8} (isPart : read <+: utf8 request.requestLine)
    (short : read ≠ utf8 request.requestLine) :
    parseHttp01Request (fromUtf8Lossy read) fqdn = .error .malformed := by
  have ascii : ∀ char ∈ request.requestLine.toList, char.toNat < 128 :=
    fun char member => (requestLine_char member).1
  obtain ⟨part, isText, partOf⟩ : ∃ part : String, utf8 part = read ∧
      part.toList <+: request.requestLine.toList := by
    rw [utf8_of_ascii ascii] at isPart
    obtain ⟨chars, isChars, isRead⟩ := List.prefix_map_iff.mp isPart
    refine ⟨String.ofList chars, ?_, by rwa [String.toList_ofList]⟩
    rw [isRead, utf8_of_ascii, String.toList_ofList]
    rw [String.toList_ofList]
    exact fun char member => ascii char (isChars.subset member)
  have oneLine : '\n' ∉ part.toList :=
    fun member => (requestLine_char (partOf.subset member)).2 rfl
  have partShort : part ≠ request.requestLine := by
    rintro rfl
    exact short isText.symm
  rw [← isText, fromUtf8Lossy_utf8]
  unfold parseHttp01Request
  by_cases empty : part = ""
  · rw [empty, lines_empty]
  rw [lines_last oneLine empty]
  dsimp only
  rcases words_short partOf partShort with ⟨words, isWords, few⟩ | ⟨version, isWords, isOther⟩
  · rw [isWords]
    match words, few with
    | [], _ => rfl
    | [_], _ => rfl
    | [_, _], _ => rfl
  · rw [isWords]
    exact if_pos (.inr isOther)

/-! ## Fields of a request -/

/-- A field as a line. -/
private def fieldLine (field : String × List UInt8) : String :=
  field.1 ++ ":" ++ fromUtf8Lossy field.2

private theorem splitOnce_fieldLine {field : String × List UInt8}
    (token : (utf8 field.1).all isTokenByte = true) :
    splitOnce (fieldLine field) ':' = some (field.1, fromUtf8Lossy field.2) := by
  rw [splitOnce_eq_some]
  refine ⟨?_, not_mem_token token fun _ => by decide⟩
  rw [fieldLine, String.toList_append, String.toList_append, List.append_assoc]
  rfl

private theorem lines_fields {fields : List (String × List UInt8)}
    (names : ∀ field ∈ fields, (utf8 field.1).all isTokenByte = true)
    (values : ∀ field ∈ fields, field.2.all isFieldByte = true) (rest : List UInt8) :
    lines (fromUtf8Lossy (fields.flatMap HttpRequest.fieldBytes ++ rest)) =
      fields.map fieldLine ++ lines (fromUtf8Lossy rest) := by
  induction fields with
  | nil => rfl
  | cons field fields inductionHypothesis =>
      obtain ⟨name, names⟩ := List.forall_mem_cons.mp names
      obtain ⟨value, values⟩ := List.forall_mem_cons.mp values
      have opened : (field :: fields).flatMap HttpRequest.fieldBytes ++ rest =
          (utf8 (field.1 ++ ":") ++ field.2) ++ 0x0d :: 0x0a ::
            (fields.flatMap HttpRequest.fieldBytes ++ rest) := by
        rw [utf8_append, List.flatMap_cons, HttpRequest.fieldBytes]
        simp
        rfl
      have ascii : ∀ char ∈ (field.1 ++ ":").toList, char.toNat < 128 := by
        intro char member
        rw [String.toList_append, List.mem_append] at member
        rcases member with inName | colon
        · exact (token_char name inName).1
        · rw [List.mem_singleton.mp colon]
          decide
      have oneLine : '\n' ∉ (fieldLine field).toList := by
        intro member
        rw [fieldLine, String.toList_append, String.toList_append, List.mem_append,
          List.mem_append] at member
        rcases member with (inName | colon) | inValue
        · exact not_mem_token name (fun _ => by decide) inName
        · exact absurd (List.mem_singleton.mp colon) (by decide)
        · have feed := List.all_eq_true.mp value _
            (mem_of_mem_fromUtf8Lossy (by decide) inValue)
          exact absurd feed (by decide)
      rw [opened, fromUtf8Lossy_break, fromUtf8Lossy_ascii ascii, ← fieldLine, lines_line oneLine,
        inductionHypothesis names values]
      rfl

/-- The first field named host, or what the lines behind the fields give. -/
private theorem hostOf_fields {fields : List (String × List UInt8)}
    (names : ∀ field ∈ fields, (utf8 field.1).all isTokenByte = true) (more : List String) :
    hostOf (fields.map fieldLine ++ more) =
      match fields.filter fun field => eqIgnoreAsciiCase field.1 "host" with
      | [] => hostOf more
      | first :: _ => some (seenHost first.2) := by
  induction fields with
  | nil => rfl
  | cons field fields inductionHypothesis =>
      obtain ⟨name, names⟩ := List.forall_mem_cons.mp names
      have tail := inductionHypothesis names
      unfold hostOf at tail ⊢
      rw [List.map_cons, List.cons_append, List.filterMap_cons, splitOnce_fieldLine name,
        List.filter_cons]
      dsimp only
      rw [List.find?_cons]
      cases isHost : eqIgnoreAsciiCase field.1 "host" with
      | true => rfl
      | false => exact tail

/-! ## What is made of a read -/

/-- The token of a challenge target. -/
private def targetToken (target : String) : Except Http01RequestError String :=
  match stripPrefix target http01Prefix with
  | none => .error .path
  | some token =>
      if token.toList.contains '?' || token.toList.contains '/' ||
          validateHttp01Token token != .ok () then
        .error .path
      else .ok token

/-- A read with the request line is judged by the host it shows. -/
private theorem parse_read {read : List UInt8} (opens : utf8 request.requestLine <+: read)
    (isPart : read <+: request.bytes) :
    parseHttp01Request (fromUtf8Lossy read) fqdn =
      if request.method ≠ "GET" then .error .method
      else if accepts fqdn (shownLines read) then targetToken request.target
      else .error .host := by
  obtain ⟨line, isLines, words⟩ := lines_of_opens opens isPart
  unfold parseHttp01Request
  rw [isLines]
  dsimp only
  rw [words]
  dsimp only
  rw [if_neg (fun odd => odd.elim (fun more => more rfl) fun version => version rfl)]
  by_cases other : request.method ≠ "GET"
  · rw [if_pos other, if_pos other]
  rw [if_neg other, if_neg other]
  unfold accepts shownLines
  cases hostOf (lines (fromUtf8Lossy read)).tail with
  | none => rfl
  | some host =>
      dsimp only
      rw [Option.any_some]
      split_ifs
      · unfold targetToken
        cases stripPrefix request.target http01Prefix with
        | none => rfl
        | some token => rfl
      · rfl

private theorem token_valid {token : String} (valid : validateHttp01Token token = .ok ()) :
    '?' ∉ token.toList ∧ '/' ∉ token.toList := by
  unfold validateHttp01Token at valid
  split_ifs at valid with refused
  rw [not_or, not_or, Bool.not_eq_false] at refused
  have all := List.all_eq_true.mp refused.2.2
  constructor
  · intro member
    have byte := all _ (asciiByte_mem_utf8 member (by decide))
    exact absurd byte (by decide)
  · intro member
    have byte := all _ (asciiByte_mem_utf8 member (by decide))
    exact absurd byte (by decide)

private theorem targetToken_eq_ok {target token : String} :
    targetToken target = .ok token ↔
      target = http01Prefix ++ token ∧ validateHttp01Token token = .ok () := by
  unfold targetToken
  constructor
  · intro found
    split at found
    · cases found
    · rename_i rest opened
      split_ifs at found with odd
      cases found
      rw [Bool.or_eq_true, Bool.or_eq_true, not_or, bne_iff_ne, not_not] at odd
      exact ⟨stripPrefix_eq_some.mp opened, odd.2⟩
  · rintro ⟨opened, valid⟩
    rw [stripPrefix_eq_some.mpr opened]
    obtain ⟨noQuestion, noSlash⟩ := token_valid valid
    dsimp only
    rw [if_neg]
    rw [Bool.or_eq_true, Bool.or_eq_true, List.contains_iff_mem, List.contains_iff_mem,
      bne_iff_ne, not_or, not_or, not_not]
    exact ⟨⟨noQuestion, noSlash⟩, valid⟩

private theorem targetToken_error {target : String} {failure : Http01RequestError}
    (failed : targetToken target = .error failure) : failure = .path := by
  unfold targetToken at failed
  split at failed
  · cases failed
    rfl
  · split_ifs at failed
    cases failed
    rfl

/-! ## Replies -/

/-- A status and a body can be read back from a response. -/
private theorem response_injective {reply other : Http01Reply}
    (plain : '\r' ∉ reply.status.toList) (otherPlain : '\r' ∉ other.status.toList)
    (same : reply.response = other.response) : reply = other := by
  have digits (length : Nat) : '\r' ∉ (numeral 10 length).toList := by
    intro member
    exact absurd (numeral_digits member) (by decide)
  have text := utf8_injective same
  simp only [← String.toList_inj, String.toList_append, List.append_assoc] at text
  have afterStatus := append_cons_unique plain otherPlain (List.append_cancel_left text)
  have lengths := List.append_cancel_left afterStatus.2
  have afterLength := append_cons_unique (digits _) (digits _) lengths
  have bodies := List.append_cancel_left afterLength.2
  cases reply
  cases other
  rw [Http01Reply.mk.injEq]
  exact ⟨String.toList_inj.mp afterStatus.1, String.toList_inj.mp bodies⟩

private theorem reply_plain (text : String) :
    '\r' ∉ (http01Reply text fqdn store).status.toList := by
  have all : ∀ status ∈ ["200 OK", "400 Bad Request", "403 Forbidden", "404 Not Found",
      "405 Method Not Allowed"], '\r' ∉ status.toList := by decide
  apply all
  unfold http01Reply
  split
  · split <;> simp
  all_goals simp

private theorem reply_short {read : List UInt8} (isPart : read <+: utf8 request.requestLine)
    (short : read ≠ utf8 request.requestLine) :
    http01Reply (fromUtf8Lossy read) fqdn store = ⟨"400 Bad Request", "bad request\n"⟩ := by
  rw [http01Reply, parse_short isPart short]

section

variable {read : List UInt8} (opens : utf8 request.requestLine <+: read)
  (isPart : read <+: request.bytes)

include opens isPart

/-- The reply to a read with the request line. -/
private theorem reply_read :
    http01Reply (fromUtf8Lossy read) fqdn store =
      if request.method ≠ "GET" then ⟨"405 Method Not Allowed", "method not allowed\n"⟩
      else if accepts fqdn (shownLines read) then
        match targetToken request.target with
        | .error _ => ⟨"404 Not Found", "not found\n"⟩
        | .ok token =>
            match store.inner.lookup token with
            | some key => ⟨"200 OK", key⟩
            | none => ⟨"404 Not Found", "not found\n"⟩
      else ⟨"403 Forbidden", "forbidden\n"⟩ := by
  rw [http01Reply, parse_read opens isPart]
  split_ifs with other accepted
  · rfl
  · cases found : targetToken request.target with
    | error failure => rw [targetToken_error found]
    | ok token =>
        have valid := (targetToken_eq_ok.mp found).2
        dsimp only
        rw [Http01ChallengeStore.answer, valid]
        cases store.inner.lookup token <;> rfl
  · rfl

private theorem reply_ok_iff {key : String} :
    http01Reply (fromUtf8Lossy read) fqdn store = ⟨"200 OK", key⟩ ↔
      request.method = "GET" ∧ accepts fqdn (shownLines read) = true ∧
        Provisioned store request.target key := by
  rw [reply_read opens isPart]
  constructor
  · intro ok
    split_ifs at ok with other accepted
    · exact absurd (Http01Reply.mk.inj ok).1 (by decide)
    · refine ⟨not_not.mp other, accepted, ?_⟩
      split at ok
      · exact absurd (Http01Reply.mk.inj ok).1 (by decide)
      · rename_i token found
        split at ok
        · rename_i answer known
          cases ok
          exact ⟨token, (targetToken_eq_ok.mp found).1, known⟩
        · exact absurd (Http01Reply.mk.inj ok).1 (by decide)
    · exact absurd (Http01Reply.mk.inj ok).1 (by decide)
  · rintro ⟨isGet, accepted, token, isTarget, known⟩
    have isKey : token ∈ store.inner := by
      rw [← AList.lookup_isSome, known]
      rfl
    have valid := store.tokens token (AList.mem_keys.mp isKey)
    rw [if_neg (not_not.mpr isGet), if_pos accepted, targetToken_eq_ok.mpr ⟨isTarget, valid⟩]
    dsimp only
    rw [known]

private theorem reply_not_bad :
    http01Reply (fromUtf8Lossy read) fqdn store ≠ ⟨"400 Bad Request", "bad request\n"⟩ := by
  rw [reply_read opens isPart]
  intro bad
  split_ifs at bad
  · exact absurd (Http01Reply.mk.inj bad).1 (by decide)
  · split at bad
    · exact absurd (Http01Reply.mk.inj bad).1 (by decide)
    · split at bad
      · exact absurd (Http01Reply.mk.inj bad).1 (by decide)
      · exact absurd (Http01Reply.mk.inj bad).1 (by decide)
  · exact absurd (Http01Reply.mk.inj bad).1 (by decide)

private theorem reply_forbidden_iff (isGet : request.method = "GET") :
    http01Reply (fromUtf8Lossy read) fqdn store = ⟨"403 Forbidden", "forbidden\n"⟩ ↔
      accepts fqdn (shownLines read) = false := by
  rw [reply_read opens isPart, if_neg (not_not.mpr isGet)]
  cases accepts fqdn (shownLines read) with
  | false => exact iff_of_true rfl rfl
  | true =>
      refine iff_of_false (fun forbidden => ?_) Bool.true_eq_false.mp
      rw [if_pos rfl] at forbidden
      split at forbidden
      · exact absurd (Http01Reply.mk.inj forbidden).1 (by decide)
      · split at forbidden
        · exact absurd (Http01Reply.mk.inj forbidden).1 (by decide)
        · exact absurd (Http01Reply.mk.inj forbidden).1 (by decide)

end

/-! ## The whole request -/

private theorem opens_bytes : utf8 request.requestLine <+: request.bytes :=
  List.prefix_append _ _

/-- The host of a request, or what its body gives for a missing one. -/
private theorem accepts_bytes :
    accepts fqdn (shownLines request.bytes) =
      match request.hosts with
      | [] => accepts fqdn (lines (fromUtf8Lossy request.body))
      | first :: _ => hostMatchesFqdn (seenHost first) fqdn := by
  have oneLine : '\n' ∉ request.requestLine.toList :=
    fun member => (requestLine_char member).2 rfl
  have shown : shownLines request.bytes =
      request.fields.map fieldLine ++ "" :: lines (fromUtf8Lossy request.body) := by
    have last : lines (fromUtf8Lossy (0x0d :: 0x0a :: request.body)) =
        "" :: lines (fromUtf8Lossy request.body) := by
      rw [← List.nil_append (0x0d :: 0x0a :: request.body), fromUtf8Lossy_break,
        show fromUtf8Lossy [] = "" from fromUtf8Lossy_utf8 ""]
      exact lines_line List.not_mem_nil _
    rw [shownLines, HttpRequest.bytes, fromUtf8Lossy_break, fromUtf8Lossy_utf8, lines_line oneLine,
      List.tail_cons, lines_fields (fun field member => (request.nameTokens field member).2)
        request.fieldValues, last]
  have skipped (more : List String) : hostOf ("" :: more) = hostOf more := by
    have noField : splitOnce "" ':' = none := by decide
    rw [hostOf, List.filterMap_cons, noField]
    rfl
  rw [accepts, shown, hostOf_fields fun field member => (request.nameTokens field member).2,
    HttpRequest.hosts]
  cases request.fields.filter fun field => eqIgnoreAsciiCase field.1 "host" with
  | nil => exact congrArg _ (skipped _)
  | cons first others => exact Option.any_some

/-- The host of a whole request is judged right. -/
private theorem judged_iff (served : ServedName fqdn) :
    (accepts fqdn (shownLines request.bytes) = true ↔
      ∃ value, request.hosts = [value] ∧ NamesHost fqdn value) ↔ Judged fqdn request := by
  rw [accepts_bytes, Judged]
  match request.hosts with
  | [] =>
      have none : ¬ ∃ value, ([] : List (List UInt8)) = [value] ∧ NamesHost fqdn value := by
        rintro ⟨value, same, -⟩
        cases same
      rw [iff_false_intro none, iff_false, Bool.not_eq_true]
  | [value] =>
      have one : (∃ other, [value] = [other] ∧ NamesHost fqdn other) ↔ NamesHost fqdn value := by
        constructor
        · rintro ⟨other, same, named⟩
          cases same
          exact named
        · exact fun named => ⟨value, rfl, named⟩
      rw [one]
      exact host_judged_iff served
  | first :: second :: others =>
      have none : ¬ ∃ value, first :: second :: others = [value] ∧ NamesHost fqdn value := by
        rintro ⟨value, same, -⟩
        cases same
      rw [iff_false_intro none, iff_false, Bool.not_eq_true]

/-! ## Connections -/

/-- The first piece of a short request is what is read of it. -/
private theorem handle_sent {stream : Segments UInt8} (sent : stream.bytes = request.bytes)
    (short : request.bytes.length ≤ 4096) :
    stream.pieces.headD [] <+: request.bytes ∧
      handleHttp01Connection stream fqdn store =
        some (http01Reply (fromUtf8Lossy (stream.pieces.headD [])) fqdn store).response := by
  rw [← sent] at short ⊢
  have nonempty : stream.bytes ≠ [] := by
    rw [sent]
    exact request.bytes_ne_nil
  cases found : stream.pieces with
  | nil =>
      rw [Segments.bytes, found] at nonempty
      exact absurd rfl nonempty
  | cons piece rest =>
      have whole : stream.bytes = piece ++ rest.flatten := by
        rw [Segments.bytes, found]
        rfl
      have fits : piece.length ≤ 4096 := by
        rw [whole, List.length_append] at short
        omega
      have filled : piece ≠ [] := stream.nonempty piece (by rw [found]; exact List.mem_cons_self)
      obtain ⟨next, answered⟩ := Segments.read_piece found fits
      rw [whole, List.headD_cons, handleHttp01Connection, answered]
      refine ⟨List.prefix_append _ _, ?_⟩
      cases piece with
      | nil => exact absurd rfl filled
      | cons first others => rfl

/-- For a request of at most 4096 bytes that arrives in some pieces, the responder answers exactly
the provisioned challenges, and as it answers the request in one piece, exactly when it hears the
request in the first piece. -/
theorem answered_iff_heard {libraries : Libraries} {value : String}
    (validated : validateSingleAsciiFqdn libraries value = .ok fqdn) {stream : Segments UInt8}
    (sent : stream.bytes = request.bytes) (short : request.bytes.length ≤ 4096) :
    Answered store fqdn request stream ↔ Heard store fqdn request (stream.pieces.headD []) := by
  have served := servedName_of_validated validated
  obtain ⟨isPart, replied⟩ := @handle_sent request fqdn store _ sent short
  obtain ⟨-, whole⟩ := @handle_sent request fqdn store request.inOnePiece
    (by simp [HttpRequest.inOnePiece, Segments.bytes]) short
  have wholePart : request.bytes <+: request.bytes := List.prefix_refl _
  have same (reply other : String) :
      some (http01Reply reply fqdn store).response = some (http01Reply other fqdn store).response ↔
        http01Reply reply fqdn store = http01Reply other fqdn store := by
    refine ⟨fun same => ?_, fun same => by rw [same]⟩
    exact response_injective (reply_plain reply) (reply_plain other) (Option.some.inj same)
  have ok (key : String) :
      some (http01Reply (fromUtf8Lossy (stream.pieces.headD [])) fqdn store).response =
          some (Http01Reply.response ⟨"200 OK", key⟩) ↔
        http01Reply (fromUtf8Lossy (stream.pieces.headD [])) fqdn store = ⟨"200 OK", key⟩ := by
    refine ⟨fun same => ?_, fun same => by rw [same]⟩
    have plain : '\r' ∉ (Http01Reply.mk "200 OK" key).status.toList := by
      change '\r' ∉ "200 OK".toList
      decide
    exact response_injective (reply_plain _) plain (Option.some.inj same)
  have wholeHead : request.inOnePiece.pieces.headD [] = request.bytes := rfl
  rw [wholeHead] at whole
  unfold Answered
  rw [replied, whole, same]
  simp only [ok]
  constructor
  · rintro ⟨answers, alike⟩
    have opens : utf8 request.requestLine <+: stream.pieces.headD [] := by
      by_contra notOpen
      have inLine := (List.prefix_or_prefix_of_prefix opens_bytes isPart).resolve_left notOpen
      have different : stream.pieces.headD [] ≠ utf8 request.requestLine := by
        intro equal
        rw [equal] at notOpen
        exact notOpen (List.prefix_refl _)
      rw [reply_short inLine different] at alike
      exact reply_not_bad opens_bytes wholePart alike.symm
    have sameHost (isGet : request.method = "GET") :
        accepts fqdn (shownLines (stream.pieces.headD [])) =
          accepts fqdn (shownLines request.bytes) := by
      have both := @reply_forbidden_iff request fqdn store _ opens isPart isGet
      rw [alike, reply_forbidden_iff opens_bytes wholePart isGet] at both
      rw [Bool.eq_iff_iff, ← not_iff_not, Bool.not_eq_true, Bool.not_eq_true]
      exact both.symm
    refine ⟨opens, sameHost, fun isGet provisioned => ?_⟩
    obtain ⟨key, isKey⟩ := provisioned
    have answer := answers key
    rw [reply_ok_iff opens isPart, sameHost isGet] at answer
    rw [← judged_iff served]
    constructor
    · exact fun accepted => (answer.mp ⟨isGet, accepted, isKey⟩).2.2
    · exact fun named => (answer.mpr ⟨isGet, isKey, named⟩).2.1
  · rintro ⟨opens, sameHost, judged⟩
    constructor
    · intro key
      rw [reply_ok_iff opens isPart]
      constructor
      · rintro ⟨isGet, accepted, isKey⟩
        rw [sameHost isGet] at accepted
        exact ⟨isGet, isKey, ((judged_iff served).mpr (judged isGet ⟨key, isKey⟩)).mp accepted⟩
      · rintro ⟨isGet, isKey, named⟩
        have accepted := ((judged_iff served).mpr (judged isGet ⟨key, isKey⟩)).mpr named
        exact ⟨isGet, (sameHost isGet).trans accepted, isKey⟩
    · rw [reply_read opens isPart, reply_read opens_bytes wholePart]
      by_cases isGet : request.method = "GET"
      · rw [sameHost isGet]
      · rw [if_pos isGet, if_pos isGet]

end

namespace Sample

/-- A store with one challenge. -/
def oneChallenge : Http01ChallengeStore where
  inner := AList.singleton "abc" "abc.key"
  tokens token member := by
    rw [List.mem_singleton.mp member]
    decide +kernel

example : Http01ChallengeStore.empty.provision "abc" "abc.key" = .ok oneChallenge := rfl

/-- The request for it. -/
def challengeRequest : HttpRequest where
  method := "GET"
  target := "/.well-known/acme-challenge/abc"
  fields := [("Host", utf8 " app.example")]
  body := []
  methodToken := getToken
  visibleTarget := by decide +kernel
  nameTokens := by decide +kernel
  fieldValues := by decide +kernel

/-- The request line first, and the rest in another piece. -/
def lineFirst : Segments UInt8 where
  pieces := [utf8 challengeRequest.requestLine ++ [0x0d, 0x0a],
    utf8 "Host: app.example\r\n\r\n"]
  nonempty := by decide +kernel
  fails := false

/-- The blank line in a piece of its own. -/
def blankLast : Segments UInt8 where
  pieces := [utf8 challengeRequest.requestLine ++ [0x0d, 0x0a] ++ utf8 "Host: app.example\r\n",
    utf8 "\r\n"]
  nonempty := by decide +kernel
  fails := false

private theorem names_host : NamesHost "app.example" (utf8 " app.example") :=
  ⟨"", "", .inl rfl, .inl rfl, by decide +kernel⟩

private theorem validated_host :
    validateSingleAsciiFqdn serving "app.example" = .ok "app.example" :=
  validateSingleAsciiFqdn_eq_ok.mpr
    ⟨isSingleAsciiFqdn_bareName.mp (by decide +kernel), by decide +kernel, by decide +kernel⟩

end Sample

/-- The host is in the first piece: the challenge is answered, though the request is cut. -/
theorem answered_in_two_pieces :
    Answered Sample.oneChallenge "app.example" Sample.challengeRequest Sample.blankLast := by
  have sent : Sample.blankLast.bytes = Sample.challengeRequest.bytes := by decide +kernel
  have opens : utf8 Sample.challengeRequest.requestLine <+: Sample.blankLast.pieces.headD [] :=
    (List.prefix_append _ _).trans (List.prefix_append _ _)
  have alike : accepts "app.example" (shownLines (Sample.blankLast.pieces.headD [])) =
      accepts "app.example" (shownLines Sample.challengeRequest.bytes) := by
    decide +kernel
  have judged : Judged "app.example" Sample.challengeRequest := by
    have served := servedName_of_validated Sample.validated_host
    have named := Sample.names_host
    have accepted : hostMatchesFqdn (seenHost (utf8 " app.example")) "app.example" = true := by
      decide +kernel
    exact (host_judged_iff served).mp (iff_of_true accepted named)
  exact (answered_iff_heard Sample.validated_host sent (by decide +kernel)).mpr
    ⟨opens, fun _ => alike, fun _ _ => judged⟩

/-- The request line in a piece of its own: a provisioned challenge is refused. -/
theorem refused_in_two_pieces :
    Asks Sample.oneChallenge "app.example" Sample.challengeRequest "abc.key" ∧
      Sample.lineFirst.bytes = Sample.challengeRequest.bytes ∧
      Sample.challengeRequest.bytes.length ≤ 4096 ∧
      handleHttp01Connection Sample.lineFirst "app.example" Sample.oneChallenge =
        some (Http01Reply.response ⟨"403 Forbidden", "forbidden\n"⟩) ∧
      ¬ Answered Sample.oneChallenge "app.example" Sample.challengeRequest Sample.lineFirst := by
  have asks : Asks Sample.oneChallenge "app.example" Sample.challengeRequest "abc.key" :=
    ⟨rfl, ⟨"abc", by decide +kernel, rfl⟩, utf8 " app.example", by decide +kernel,
      Sample.names_host⟩
  have refused : handleHttp01Connection Sample.lineFirst "app.example" Sample.oneChallenge =
      some (Http01Reply.response ⟨"403 Forbidden", "forbidden\n"⟩) := by decide +kernel
  refine ⟨asks, by decide +kernel, by decide +kernel, refused, fun answered => ?_⟩
  have replied := (answered.1 "abc.key").mpr asks
  rw [refused] at replied
  have different : Http01Reply.response ⟨"403 Forbidden", "forbidden\n"⟩ ≠
      Http01Reply.response ⟨"200 OK", "abc.key"⟩ := by decide +kernel
  exact different (Option.some.inj replied)

end Oxo.Edge.Acme
