import Oxo.Foundation.Splitting
import Oxo.HyperEdge.Embedded
import Oxo.HyperEdge.Message

/-!
Contract: how the TCP Rack worker writes a response (`write_response` and `simple_response` in
`oxo-edge/ruby/oxo_worker.rb`).

Owns: the bytes of a response and of the worker's own errors, and when they are a message whose
head says where the body ends.

Does not own: what raises an exception on the way.
-/

namespace Oxo.HyperEdge.Shim

open Oxo.Foundation

/-- `Rack::Utils::HTTP_STATUS_CODES`. -/
structure StatusTexts where
  text : Int → Option Bytes
  plain : ∀ status phrase, text status = some phrase → (10 : UInt8) ∉ phrase

def statusText (codes : StatusTexts) (status : Int) : Bytes :=
  (codes.text status).getD (utf8 "Status")

def framingNames : List Bytes :=
  (["content-length", "transfer-encoding", "connection"] : List String).map utf8

/-- The lines of the application; a value has a line for each of its own. -/
def responseLines (app : AppResponse) : List (Bytes × Bytes) :=
  app.pairs.flatMap fun pair =>
    if framingNames.contains (downcase pair.1.bytes) then []
    else (splitAll 10 pair.2.bytes).map fun seg => (pair.1.bytes, seg)

def writeResponse (codes : StatusTexts) (app : AppResponse) : Bytes :=
  let payload := app.body
  utf8 "HTTP/1.1 " ++ (integerText app.status ++ 32 :: statusText codes app.status) ++ crlf ++
    (responseLines app).flatMap fieldLine ++
    (utf8 "content-length: " ++ utf8 (numeral 10 payload.length) ++ crlf) ++
    (utf8 "connection: close" ++ crlf) ++ crlf ++ payload

/-- `simple_response`. -/
def simpleResponse (status : Int) (text : Bytes) : AppResponse where
  status := status
  headers := [(⟨utf8 "content-type", some "content-type"⟩,
    [⟨utf8 "text/plain; charset=utf-8", some "text/plain; charset=utf-8"⟩])]
  parts := [text]

/-- What the worker writes for the application's response; an exception on the way leaves the
worker's own error. -/
def written (codes : StatusTexts) (app : AppResponse) : (raised : Option Bytes) → Bytes
  | none => writeResponse codes app
  | some detail => writeResponse codes (simpleResponse 500 (utf8 "worker error: " ++ detail))

/-! ## Framing -/

def responseMessage (codes : StatusTexts) (app : AppResponse) : HttpMessage where
  status := app.status
  reason := statusText codes app.status
  lines := responseLines app ++
    [(utf8 "content-length", utf8 (numeral 10 app.body.length)),
      (utf8 "connection", utf8 "close")]
  body := app.body

theorem writeResponse_eq (codes : StatusTexts) (app : AppResponse) :
    writeResponse codes app = (responseMessage codes app).bytes := by
  have parts : utf8 "content-length: " = utf8 "content-length" ++ [58, 32] ∧
      utf8 "connection: close" = utf8 "connection" ++ 58 :: 32 :: utf8 "close" := by
    decide
  simp only [writeResponse, HttpMessage.bytes, HttpMessage.statusLine, responseMessage, parts.1,
    parts.2, List.flatMap_append, List.flatMap_cons, List.flatMap_nil, fieldLine,
    List.append_assoc, List.cons_append, List.nil_append, List.append_nil]

/-- No name of a header has a line feed or a colon, and an interim response has no body. -/
structure PlainResponse (app : AppResponse) : Prop where
  names : ∀ pair ∈ app.pairs, (10 : UInt8) ∉ pair.1.bytes ∧ (58 : UInt8) ∉ pair.1.bytes
  interim : 100 ≤ app.status ∧ app.status ≤ 199 → app.body = []

section

variable {codes : StatusTexts} {app : AppResponse}

private theorem statusText_plain (status : Int) : (10 : UInt8) ∉ statusText codes status := by
  unfold statusText
  cases found : codes.text status with
  | none => decide
  | some phrase => exact codes.plain _ _ found

theorem mem_responseLines {line : Bytes × Bytes} (member : line ∈ responseLines app) :
    (∃ pair ∈ app.pairs, line.1 = pair.1.bytes) ∧ (10 : UInt8) ∉ line.2 ∧
      downcase line.1 ∉ framingNames := by
  obtain ⟨pair, isPair, isLine⟩ := List.mem_flatMap.mp member
  split at isLine
  · cases isLine
  · rename_i notFraming
    obtain ⟨seg, isSegment, rfl⟩ := List.mem_map.mp isLine
    refine ⟨⟨pair, isPair, rfl⟩, ?_, fun framing => notFraming (List.contains_iff_mem.mpr framing)⟩
    exact separator_not_mem_splitOn _ seg
      ((List.rdropWhile_prefix List.isEmpty _).subset isSegment)

theorem framed_responseMessage (plain : PlainResponse app) :
    (responseMessage codes app).Framed := by
  have own : ∀ line ∈ ([(utf8 "content-length", utf8 (numeral 10 app.body.length)),
      (utf8 "connection", utf8 "close")] : List (Bytes × Bytes)),
      (10 : UInt8) ∉ line.1 ∧ (58 : UInt8) ∉ line.1 ∧ (10 : UInt8) ∉ line.2 ∧
        downcase line.1 ≠ utf8 "transfer-encoding" := by
    have digits : (10 : UInt8) ∉ utf8 (numeral 10 app.body.length) := fun member =>
      absurd (numeral_bytes member) (by decide)
    have names : ∀ name ∈ [utf8 "content-length", utf8 "connection"], (10 : UInt8) ∉ name ∧
        (58 : UInt8) ∉ name ∧ downcase name ≠ utf8 "transfer-encoding" := by
      decide
    obtain ⟨ofLength, others⟩ := List.forall_mem_cons.mp names
    have ofConnection := others _ List.mem_cons_self
    refine List.forall_mem_cons.mpr ⟨?_, List.forall_mem_singleton.mpr ?_⟩
    · exact ⟨ofLength.1, ofLength.2.1, digits, ofLength.2.2⟩
    · exact ⟨ofConnection.1, ofConnection.2.1, by decide, ofConnection.2.2⟩
  refine ⟨?_, fun line member => ?_, fun line member => ?_, ?_, fun line member => ?_,
    plain.interim⟩
  · exact statusText_plain app.status
  · rcases List.mem_append.mp member with ofApp | isOwn
    · obtain ⟨⟨pair, isPair, same⟩, _⟩ := mem_responseLines ofApp
      rw [same]
      exact plain.names pair isPair
    · exact ⟨(own line isOwn).1, (own line isOwn).2.1⟩
  · rcases List.mem_append.mp member with ofApp | isOwn
    · exact (mem_responseLines ofApp).2.1
    · exact (own line isOwn).2.2.1
  · have ofApp : (responseLines app).filter
        (fun line => downcase line.1 == utf8 "content-length") = [] := by
      rw [List.filter_eq_nil_iff]
      intro line member isLength
      refine (mem_responseLines member).2.2 ?_
      rw [beq_iff_eq.mp isLength]
      decide
    have names : (downcase (utf8 "content-length") == utf8 "content-length") = true ∧
        (downcase (utf8 "connection") == utf8 "content-length") = false := by
      decide
    rw [responseMessage, List.filter_append, ofApp, List.nil_append, List.filter_cons,
      List.filter_cons, names.1, names.2]
    rfl
  · rcases List.mem_append.mp member with ofApp | isOwn
    · intro coded
      refine (mem_responseLines ofApp).2.2 ?_
      rw [coded]
      decide
    · exact (own line isOwn).2.2.2

end

theorem plain_simpleResponse (status : Int) (final : 200 ≤ status) (text : Bytes) :
    PlainResponse (simpleResponse status text) := by
  refine ⟨fun pair member => ?_, fun interim => ?_⟩
  · rw [List.mem_singleton.mp member]
    decide
  · have below : status ≤ 199 := interim.2
    omega

end Oxo.HyperEdge.Shim
