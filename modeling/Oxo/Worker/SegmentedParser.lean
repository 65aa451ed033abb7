import Oxo.Foundation.BufReader
import Oxo.Worker.Parser

/-!
Contract: the worker's parser on a stream that arrives in pieces (`parse_request` and `read_head`
in `oxo-worker/src/native/parser.rs`).

Owns: the parser over a buffered reader, and its agreement with the parser over the bytes.

Does not own: the grammar. A read of the head that a signal interrupts is a failing read; the
`read_exact` of the body tries again, so an interruption there does not show.
-/

namespace Oxo.Worker

open Oxo.Foundation Oxo.Core

/-! ## Reading -/

/-- The read loop over a reader. -/
def readHeadVia (reader : BufReader UInt8) (head : List UInt8) (prev : UInt8) :
    Except ParseError (List UInt8 × BufReader UInt8) :=
  match _answered : reader.read 1 with
  | none => .error (.bad "read error")
  | some ([], _) => .error (.bad "unterminated headers")
  | some (byte :: _, next) =>
      if byte == 10 && prev != 13 then
        .error (.bad "bare LF in request head")
      else
        let head := head ++ [byte]
        if head.length > maxHeaderBytes then .error (.headers "headers too large")
        else if headEnd.isSuffixOf head then .ok (head, next)
        else readHeadVia next head byte
termination_by reader.pending.length
decreasing_by
  have parts := (BufReader.read_front (by decide) _answered).parts
  rw [parts, List.length_append, List.length_cons]
  omega

/-- The body, through the reader that read the head. -/
def readBody (reader : BufReader UInt8) (length : Nat) : Except ParseError (List UInt8) :=
  if length > 0 then
    match reader.readExact length with
    | some (body, _) => .ok body
    | none => .error (.bad "short body")
  else .ok []

def parseRequestVia (reader : BufReader UInt8) (maxBody : Nat) :
    Except ParseError WorkerRequest := do
  let (head, rest) ← readHeadVia reader [] 0
  let parsed ← parseHead head
  refuseIf (parsed.version != "HTTP/1.1") (.bad "only HTTP/1.1 is supported")
  refuseIf (!isOriginForm parsed.target) (.bad "only origin-form targets are supported")
  match headerValue parsed.headers "host" with
  | none => .error (.bad "host header is required")
  | some host => do
      let length ← match headerValue parsed.headers "content-length" with
        | some value => parseContentLength value
        | none => .ok 0
      refuseIf ((headerValue parsed.headers "content-type").any fun value =>
        startsWith (toAsciiLowercase value) "application/grpc")
        (.bad "gRPC is not supported by the Rack worker")
      refuseIf (decide (length > maxBody)) (.large "payload too large")
      let body ← readBody rest length
      let parts := parsed.headers.foldl RequestParts.apply
        { serverName := parseHostName host
          serverPort := (parseHostPort host).getD 80
          urlScheme := "http"
          remoteAddr := "127.0.0.1"
          appHeaders := [] }
      return {
        method := parsed.method
        path := (splitTarget parsed.target).1
        query := (splitTarget parsed.target).2
        serverName := parts.serverName
        serverPort := parts.serverPort
        urlScheme := parts.urlScheme
        remoteAddr := parts.remoteAddr
        headers := parts.appHeaders
        body := body }

/-! ## The pieces do not show -/

/-- A stream that fails where another one ends is reported as a read error. -/
def endError (fails : Bool) (error : ParseError) : ParseError :=
  if fails ∧ error = .bad "unterminated headers" then .bad "read error" else error

private theorem endError_other {fails : Bool} {error : ParseError}
    (other : error ≠ .bad "unterminated headers") : endError fails error = error :=
  if_neg fun both => other both.2

theorem readHeadVia_eq (reader : BufReader UInt8) (head : List UInt8) (prev : UInt8) :
    (readHeadVia reader head prev).map (fun answer => (answer.1, answer.2.pending)) =
      (readHeadFrom reader.pending head prev).mapError (endError reader.source.fails) := by
  -- one byte is what a read with room for one can bring
  have single : ∀ {reader next : BufReader UInt8} {byte : UInt8} {others : List UInt8},
      reader.read 1 = some (byte :: others, next) →
        reader.pending = byte :: next.pending ∧ next.source.fails = reader.source.fails := by
    intro reader next byte others answered
    have facts := BufReader.read_front (by decide) answered
    have within := facts.within
    rw [List.length_cons] at within
    have alone : others = [] := List.eq_nil_of_length_eq_zero (by omega)
    exact ⟨by rw [facts.parts, alone]; rfl, facts.sameEnd⟩
  fun_induction readHeadVia reader head prev with
  | case1 reader head prev failed =>
      obtain ⟨ended, fails⟩ := BufReader.read_eq_none.mp failed
      rw [ended, fails]
      rfl
  | case2 reader head prev next ended =>
      have nothing := (BufReader.read_front (by decide) ended).progress rfl
      have notFailed : reader.source.fails = false := by
        by_contra fails
        rw [Bool.not_eq_false] at fails
        rw [BufReader.read_eq_none.mpr ⟨nothing, fails⟩] at ended
        cases ended
      rw [nothing, notFailed]
      rfl
  | case3 reader head prev byte others next answered bareFeed =>
      rw [(single answered).1, readHeadFrom, if_pos bareFeed]
      exact congrArg Except.error (endError_other (by decide)).symm
  | case4 reader head prev byte others next answered plain grown tooLarge =>
      rw [(single answered).1, readHeadFrom, if_neg plain, if_pos tooLarge]
      exact congrArg Except.error (endError_other (by decide)).symm
  | case5 reader head prev byte others next answered plain grown within ends =>
      rw [(single answered).1, readHeadFrom, if_neg plain, if_neg within, if_pos ends]
      rfl
  | case6 reader head prev byte others next answered plain grown within goesOn inductionHypothesis =>
      obtain ⟨pending, sameEnd⟩ := single answered
      rw [pending, readHeadFrom, if_neg plain, if_neg within, if_neg goesOn, ← sameEnd]
      exact inductionHypothesis

theorem readBody_eq (reader : BufReader UInt8) (length : Nat) :
    readBody reader length =
      if reader.pending.length < length then .error (.bad "short body")
      else .ok (reader.pending.take length) := by
  have exact := BufReader.readExact_eq reader length
  unfold readBody
  split
  · by_cases enough : length ≤ reader.pending.length
    · rw [if_pos enough] at exact
      obtain ⟨answer, read, same⟩ := Option.map_eq_some_iff.mp exact
      rw [read, if_neg (by omega)]
      exact congrArg (fun parts => Except.ok parts.1) same
    · rw [if_neg enough] at exact
      rw [Option.map_eq_none_iff.mp exact, if_pos (by omega)]
  · rename_i none
    have zero : length = 0 := by omega
    rw [if_neg (by omega), zero]
    rfl

private theorem readHeadVia_eq_ok {reader : BufReader UInt8} {head rest : List UInt8} :
    (∃ next : BufReader UInt8, readHeadVia reader [] 0 = .ok (head, next) ∧ next.pending = rest) ↔
      readHead reader.pending = .ok (head, rest) := by
  have same := readHeadVia_eq reader [] 0
  rw [readHead, ← mapError_eq_ok, ← same]
  cases readHeadVia reader [] 0 with
  | error failure => simp [Except.map]
  | ok answer =>
      simp only [Except.map, Except.ok.injEq, Prod.ext_iff]
      constructor
      · rintro ⟨next, ⟨rfl, rfl⟩, rfl⟩
        exact ⟨rfl, rfl⟩
      · rintro ⟨rfl, rfl⟩
        exact ⟨answer.2, ⟨rfl, rfl⟩, rfl⟩

/-- A request is parsed from the pieces exactly when it is parsed from the bytes. -/
theorem parseRequestVia_eq_ok {reader : BufReader UInt8} {maxBody : Nat} {request : WorkerRequest} :
    parseRequestVia reader maxBody = .ok request ↔
      parseRequest reader.pending maxBody = .ok request := by
  have heads : ∀ tail : List UInt8 × List UInt8 → Prop,
      (∃ answer, readHeadVia reader [] 0 = .ok answer ∧ tail (answer.1, answer.2.pending)) ↔
        ∃ answer, readHead reader.pending = .ok answer ∧ tail answer := by
    intro tail
    constructor
    · rintro ⟨⟨head, next⟩, read, holds⟩
      exact ⟨(head, next.pending), readHeadVia_eq_ok.mp ⟨next, read, rfl⟩, holds⟩
    · rintro ⟨⟨head, rest⟩, read, holds⟩
      obtain ⟨next, readNext, rfl⟩ := readHeadVia_eq_ok.mpr read
      exact ⟨(head, next), readNext, holds⟩
  unfold parseRequestVia parseRequest
  rw [bind_eq_ok, bind_eq_ok, ← heads]
  refine exists_congr fun answer => and_congr_right fun _ => ?_
  obtain ⟨head, next⟩ := answer
  have bodies : ∀ (length : Nat) (after : List UInt8 → Except ParseError WorkerRequest),
      (readBody next length >>= after) = .ok request ↔
        (refuseIf (decide (next.pending.length < length)) (.bad "short body") >>= fun _ =>
          after (next.pending.take length)) = .ok request := by
    intro length after
    rw [readBody_eq, refuseIf_bind_eq_ok, decide_eq_false_iff_not]
    split
    · rename_i short
      exact iff_of_false (fun parsed => nomatch parsed) fun both => both.1 short
    · rename_i enough
      exact (and_iff_right enough).symm
  rw [bind_eq_ok, bind_eq_ok]
  refine exists_congr fun parsed => and_congr_right fun _ => ?_
  rw [refuseIf_bind_eq_ok, refuseIf_bind_eq_ok, refuseIf_bind_eq_ok, refuseIf_bind_eq_ok]
  refine and_congr_right fun _ => and_congr_right fun _ => ?_
  cases headerValue parsed.headers "host" with
  | none => exact Iff.rfl
  | some host =>
      cases headerValue parsed.headers "content-length" with
      | none =>
          simp only [ok_bind]
          rw [refuseIf_bind_eq_ok, refuseIf_bind_eq_ok, refuseIf_bind_eq_ok, refuseIf_bind_eq_ok]
          exact and_congr_right fun _ => and_congr_right fun _ => bodies _ _
      | some value =>
          rw [bind_eq_ok, bind_eq_ok]
          refine exists_congr fun length => and_congr_right fun _ => ?_
          rw [refuseIf_bind_eq_ok, refuseIf_bind_eq_ok, refuseIf_bind_eq_ok, refuseIf_bind_eq_ok]
          exact and_congr_right fun _ => and_congr_right fun _ => bodies _ _

/-- Two readers with the same bytes ahead and the same end give the same result, errors
included. -/
theorem parseRequestVia_congr {reader other : BufReader UInt8}
    (samePending : reader.pending = other.pending)
    (sameEnd : reader.source.fails = other.source.fails) (maxBody : Nat) :
    parseRequestVia reader maxBody = parseRequestVia other maxBody := by
  have heads := readHeadVia_eq reader [] 0
  rw [samePending, sameEnd, ← readHeadVia_eq other [] 0] at heads
  unfold parseRequestVia
  cases first : readHeadVia reader [] 0 with
  | error failure =>
      cases second : readHeadVia other [] 0 with
      | error otherFailure =>
          rw [first, second] at heads
          cases heads
          rfl
      | ok answer =>
          rw [first, second] at heads
          cases heads
  | ok answer =>
      cases second : readHeadVia other [] 0 with
      | error failure =>
          rw [first, second] at heads
          cases heads
      | ok otherAnswer =>
          rw [first, second] at heads
          obtain ⟨head, next⟩ := answer
          obtain ⟨otherHead, otherNext⟩ := otherAnswer
          obtain ⟨sameHead, sameRest⟩ : head = otherHead ∧ next.pending = otherNext.pending :=
            Prod.mk.inj (Except.ok.inj heads)
          have sameBody : readBody next = readBody otherNext := by
            funext length
            rw [readBody_eq, readBody_eq, sameRest]
          simp only [ok_bind, sameHead, sameBody]

end Oxo.Worker
