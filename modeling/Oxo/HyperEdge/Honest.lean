import Oxo.HyperEdge.Agreement
import Oxo.HyperEdge.ShimResponse

/-!
Contract: invalid responses of the application, through either handler of the Hyper edge.

Owns: what is sent for a response that a worker's connection delivers, what a worker's bytes may
come to, and when a response of the application is sent as its own or as a server error.

Does not own: what other workers than the shim write.
-/

namespace Oxo.HyperEdge

open Oxo.Foundation Shim

/-! ## Responses of a connection -/

/-- The response of a connection is the application's own, or a server error. -/
def WireResponse.Honest (app : AppResponse) (response : WireResponse) : Prop :=
  ((response.status.toNat : Int) = app.status ∧ response.body = app.body) ∨
    (500 ≤ response.status && response.status ≤ 599) = true

instance (app : AppResponse) (response : WireResponse) : Decidable (response.Honest app) :=
  inferInstanceAs (Decidable (_ ∨ _))

/-- What a connection comes to when a worker writes `writes` for the response of the application,
whatever the application raises: it fails, or what arrives of the bytes is delivered. -/
def FromApp (client : HttpClient) (writes : Option Bytes → Bytes) (head : Bool) :
    Exchange → Prop
  | .responds _ response =>
      ∃ raised input, input <+: writes raised ∧ client.read head input = some response
  | _ => True

/-- If the request is built at all, whatever the client delivers of what the worker writes is the
application's own or a server error. -/
def SupervisedHonest (requests : Builder) (client : HttpClient) (writes : Option Bytes → Bytes)
    (req : RackRequest) (app : AppResponse) : Prop :=
  (∃ port secret, requests (workerRequest req port secret) = none) →
    ∀ raised input response, input <+: writes raised →
      client.read (req.method == "HEAD") input = some response → response.Honest app

section

variable {builder : ResponseBuilder} {requests : Builder} {client : HttpClient}
  {req : RackRequest} {app : AppResponse} {moments : Nat → Moment} {left attempt : Nat}

private theorem mem_visible {headers : List (String × List UInt8)} {header : String × String}
    (member : header ∈ headers.filterMap fun header =>
      (Edge.visibleText header.2).map fun value => (toAsciiLowercase header.1, value)) :
    ∃ original ∈ headers, header.1 = toAsciiLowercase original.1 ∧
      Edge.visibleText original.2 = some header.2 := by
  obtain ⟨original, isOriginal, converted⟩ := List.mem_filterMap.mp member
  obtain ⟨value, isValue, rfl⟩ := Option.map_eq_some_iff.mp converted
  exact ⟨original, isOriginal, rfl, isValue⟩

/-- Visible text under a valid name in lower case. -/
private theorem validHeader_visible {name value : String} {bytes : List UInt8}
    (isName : validName name = true) (visible : Edge.visibleText bytes = some value) :
    validHeader (toAsciiLowercase name, value) = true ∧
      (utf8 (toAsciiLowercase name)).length < 2 ^ 16 := by
  obtain ⟨token, short⟩ := Bool.and_eq_true_iff.mp isName
  obtain ⟨nonempty, isToken⟩ := Bool.and_eq_true_iff.mp token
  obtain ⟨same, plain⟩ := utf8_of_visibleText visible
  have lowerToken : ∀ byte : UInt8, isTokenByte byte = true →
      isTokenByte (byteToAsciiLowercase byte) = true := by
    decide +kernel
  have allowed : ∀ byte : UInt8, ((32 ≤ byte && byte < 127) || byte == 9) = true →
      ((32 ≤ byte && byte != 127) || byte == 9) = true := by
    decide +kernel
  have sameLength : (utf8 (toAsciiLowercase name)).length = (utf8 name).length := by
    rw [utf8_toAsciiLowercase, List.length_map]
  refine ⟨?_, sameLength ▸ of_decide_eq_true short⟩
  refine Bool.and_eq_true_iff.mpr ⟨Bool.and_eq_true_iff.mpr ⟨bne_iff_ne.mpr fun empty => ?_, ?_⟩, ?_⟩
  · change toAsciiLowercase name = "" at empty
    rw [empty] at sameLength
    have isEmpty : utf8 name = utf8 "" := List.eq_nil_of_length_eq_zero sameLength.symm
    exact bne_iff_ne.mp nonempty (utf8_injective isEmpty)
  · rw [utf8_toAsciiLowercase, List.all_map, List.all_eq_true]
    exact fun byte member => lowerToken byte (List.all_eq_true.mp isToken byte member)
  · rw [List.all_eq_true]
    intro byte member
    rw [same] at member
    exact allowed byte (plain byte member)

/-- What the client delivers is sent as it is. -/
theorem toHyper_toRack (builder : ResponseBuilder) {head : Bool} {input : Bytes} {response : WireResponse}
    (isRead : client.read head input = some response) :
    (toHyper builder response.toRack).status = response.status ∧
      (toHyper builder response.toRack).body = response.body := by
  obtain ⟨validStatus, few, names⟩ := client.valid isRead
  refine toHyper_accepted (builder.takes validStatus (fun header member => ?_) ?_)
  · obtain ⟨original, isOriginal, sameName, visible⟩ := mem_visible (List.mem_filter.mp member).1
    have valid := validHeader_visible (names original isOriginal) visible
    rw [← sameName] at valid
    exact valid
  · calc (sentHeaders response.toRack.headers).length
        ≤ response.toRack.headers.length := List.length_filter_le _ _
      _ ≤ response.headers.length := List.length_filterMap_le _ _
      _ ≤ 100 := few

private theorem honest_toRack {head : Bool} {input : Bytes} {response : WireResponse}
    (isRead : client.read head input = some response) :
    Honest app (toHyper builder response.toRack) ↔ response.Honest app := by
  obtain ⟨status, body⟩ := toHyper_toRack builder isRead
  rw [Honest, HyperResponse.serverError, status, body, WireResponse.Honest]

/-! ## The loop -/

variable (requests req moments) in
/-- The loop ends in an error of its own, or in the response of a connection. -/
private def Ends (result : Except HandlerError RackResponse) : Prop :=
  (∃ failure, failure ≠ .bodyTooLarge ∧ result = .error failure) ∨
    ∃ later received response, (moments later).exchange = .responds received response ∧
      (∃ port secret, requests (workerRequest req port secret) = none) ∧
      result = .ok response.toRack

private theorem ends_handleFrom (requests : Builder) (req : RackRequest)
    (moments : Nat → Moment) (left attempt : Nat) :
    Ends requests req moments (handleFrom requests req moments left attempt).result := by
  induction left generalizing attempt with
  | zero => exact .inl ⟨.workerUnavailable, by decide, rfl⟩
  | succ left inductionHypothesis =>
      rw [handleFrom]
      cases (moments attempt).state with
      | restarting =>
          dsimp only
          split
          · exact .inl ⟨.workerUnavailable, by decide, rfl⟩
          · exact inductionHypothesis (attempt + 1)
      | live port secret =>
          dsimp only [proxyOnce]
          cases built : requests (workerRequest req port secret) with
          | some detail =>
              refine .inl ⟨.worker ("building worker request: " ++ detail), ?_, rfl⟩
              intro same
              cases same
          | none =>
              cases comes : (moments attempt).exchange with
              | responds received response =>
                  dsimp only
                  split
                  · exact inductionHypothesis (attempt + 1)
                  · exact .inr ⟨attempt, received, response, comes, ⟨port, secret, built⟩, rfl⟩
              | connectFails detail | handshakeFails detail | sendFails _ detail
              | bodyFails _ detail =>
                  dsimp only
                  split
                  · exact inductionHypothesis (attempt + 1)
                  · refine .inl ⟨.workerUnreachable detail, ?_, rfl⟩
                    intro same
                    cases same

/-- The same response on every attempt is the result. -/
private theorem handle_constant {port : UInt16} {secret : String} {received : Option Peer}
    {response : WireResponse} (built : requests (workerRequest req port secret) = none) :
    (handle requests req fun _ => ⟨.live port secret, .responds received response⟩).result =
      .ok response.toRack := by
  have each : ∀ left attempt, (handleFrom requests req
      (fun _ => ⟨.live port secret, .responds received response⟩) (left + 1) attempt).result =
        .ok response.toRack := by
    intro left
    induction left with
    | zero =>
        intro attempt
        simp [handleFrom, proxyOnce, built]
    | succ left inductionHypothesis =>
        intro attempt
        rw [handleFrom]
        simp only [proxyOnce, built]
        split
        · exact inductionHypothesis (attempt + 1)
        · rfl
  exact each 2 0

/-! ## Both handlers -/

private theorem handleOneTimed_iff {requestTimeoutSecs : Nat} {response : HyperResponse} :
    (∀ elapsed, Honest app (handleOneTimed builder requestTimeoutSecs elapsed response)) ↔
      Honest app response := by
  constructor
  · intro honest
    have inTime := honest false
    rw [handleOneTimed, if_neg (fun both => Bool.false_ne_true both.2)] at inTime
    exact inTime
  · intro honest elapsed
    unfold handleOneTimed
    split
    · exact .inr toHyper_gatewayTimeout
    · exact honest

/-- Through a supervised worker every response is honest exactly when what the client makes of the
worker's bytes is. -/
theorem supervised_honest_iff {writes : Option Bytes → Bytes} :
    (∀ moments, (∀ attempt, FromApp client writes (req.method == "HEAD")
        (moments attempt).exchange) →
      Honest app (answer builder (handle requests req moments).result)) ↔
      SupervisedHonest requests client writes req app := by
  constructor
  · rintro honest ⟨port, secret, built⟩ raised input response isPrefix isRead
    have isHonest := honest (fun _ => ⟨.live port secret, .responds none response⟩)
      fun _ => ⟨raised, input, isPrefix, isRead⟩
    rw [handle_constant built] at isHonest
    exact (honest_toRack isRead).mp isHonest
  · intro honest moments fromApp
    rcases ends_handleFrom requests req moments handleAttempts 0 with
      ⟨failure, fits, failed⟩ | ⟨later, received, response, comes, built, delivered⟩
    · rw [handle, failed]
      exact .inr (answer_error fits)
    · have isFromApp := fromApp later
      rw [comes] at isFromApp
      obtain ⟨raised, input, isPrefix, isRead⟩ := isFromApp
      rw [handle, delivered]
      exact (honest_toRack isRead).mpr (honest built raised input response isPrefix isRead)

/-- A plain response of the application comes back from the shim as its own. -/
theorem supervised_honest_of_plain {codes : StatusTexts} (plain : PlainResponse app)
    (visible : isBodiless (req.method == "HEAD") app.status = true → app.body = []) :
    SupervisedHonest requests client (written codes app) req app := by
  intro _ raised input response isPrefix isRead
  cases raised with
  | none =>
      rw [written, writeResponse_eq] at isPrefix
      obtain ⟨status, body⟩ := client.sound (framed_responseMessage plain) isPrefix isRead
      refine .inl ⟨status, body.trans ?_⟩
      unfold HttpMessage.visibleBody
      split
      · rename_i bodiless
        exact (visible bodiless).symm
      · rfl
  | some detail =>
      have plainError := plain_simpleResponse 500 (by decide)
        (utf8 "worker error: " ++ detail)
      rw [written, writeResponse_eq] at isPrefix
      have status := (client.sound (framed_responseMessage plainError) isPrefix isRead).1
      have isError : response.status = 500 := UInt16.toNat.inj (Int.ofNat.inj status)
      refine .inr ?_
      rw [isError]
      decide

end

/-! ## The library at work -/

/-- The builder of the HTTP library, with its limits on names and on their number. -/
def httpBuilder : ResponseBuilder where
  accepts status headers :=
    validStatus status &&
      (headers.all fun header => validHeader header && decide ((utf8 header.1).length < 2 ^ 16)) &&
      decide (headers.length ≤ 24576)
  valid := by
    intro status headers accepted
    obtain ⟨both, _⟩ := Bool.and_eq_true_iff.mp accepted
    obtain ⟨isStatus, areHeaders⟩ := Bool.and_eq_true_iff.mp both
    exact ⟨isStatus, fun header member =>
      (Bool.and_eq_true_iff.mp (List.all_eq_true.mp areHeaders header member)).1⟩
  takes := by
    intro status headers isStatus areHeaders few
    have all : (headers.all fun header =>
        validHeader header && decide ((utf8 header.1).length < 2 ^ 16)) = true := by
      rw [List.all_eq_true]
      intro header member
      obtain ⟨isHeader, short⟩ := areHeaders header member
      exact Bool.and_eq_true_iff.mpr ⟨isHeader, decide_eq_true short⟩
    rw [isStatus, all, decide_eq_true (few.trans (by decide))]
    rfl

/-- An application that answers with one header. -/
def appWith (status : Int) (name value body : String) : AppResponse where
  status := status
  headers := [(⟨utf8 name, some name⟩, [⟨utf8 value, some value⟩])]
  parts := [utf8 body]

/-- The exceptions of Ruby on conversions. -/
def rubyMessages : Magnus where
  rangeError value := "bignum too big to convert into 'long long': " ++ toString value
  encodingError _ := "invalid byte sequence in UTF-8"

def reasons : StatusTexts where
  text
    | 200 => some (utf8 "OK")
    | 404 => some (utf8 "Not Found")
    | _ => none
  plain := by
    intro status phrase found
    split at found
    · cases found
      decide
    · cases found
      decide
    · cases found

/-! ## Both handlers, whatever happens -/

/-- What is sent for a response of the application, by either handler and in time or not, is the
application's own or a server error exactly as `EmbeddedHonest` and `SupervisedHonest` say; behind
the shim a plain response is enough. -/
theorem application_response_honest_iff (builder : ResponseBuilder) (magnus : Magnus)
    (requests : Builder) (client : HttpClient) (codes : StatusTexts) {incoming : Incoming}
    {maxBody : Nat} {listener : Local} {req : RackRequest}
    (kept : toRackRequest incoming maxBody listener = .ok req) (requestTimeoutSecs : Nat)
    (writes : Option Bytes → Bytes) (app : AppResponse) :
    ((∀ elapsed reply, Honest app (handleOneTimed builder requestTimeoutSecs elapsed
        (handleOne builder incoming maxBody listener fun _ =>
          embeddedHandle magnus reply (.ok app)))) ↔ EmbeddedHonest builder app) ∧
    ((∀ elapsed moments, (∀ attempt, FromApp client writes (req.method == "HEAD")
        (moments attempt).exchange) →
      Honest app (handleOneTimed builder requestTimeoutSecs elapsed
        (handleOne builder incoming maxBody listener fun req =>
          (handle requests req moments).result))) ↔
        SupervisedHonest requests client writes req app) ∧
    (PlainResponse app →
      (isBodiless (req.method == "HEAD") app.status = true → app.body = []) →
        SupervisedHonest requests client (written codes app) req app) := by
  have answered : ∀ handler, handleOne builder incoming maxBody listener handler =
      answer builder (handler req) := by
    intro handler
    rw [handleOne, kept]
  refine ⟨?_, ?_, supervised_honest_of_plain⟩
  · rw [forall_comm, ← embedded_honest_iff magnus]
    refine forall_congr' fun reply => ?_
    rw [answered, handleOneTimed_iff]
  · rw [forall_comm, ← supervised_honest_iff]
    refine forall_congr' fun moments => ?_
    rw [forall_comm, answered]
    exact forall_congr' fun _ => handleOneTimed_iff

/-- A response that is sent as it is, by either handler. -/
theorem application_response_honest_not_found :
    (∀ elapsed reply, Honest (appWith 404 "x-a" "b" "no") (handleOneTimed httpBuilder 30 elapsed
      (handleOne httpBuilder (getWith [] (by decide)) 16 loopback fun _ =>
        embeddedHandle rubyMessages reply (.ok (appWith 404 "x-a" "b" "no"))))) ∧
    (∀ elapsed moments, (∀ attempt, FromApp strictClient
        (written reasons (appWith 404 "x-a" "b" "no")) false (moments attempt).exchange) →
      Honest (appWith 404 "x-a" "b" "no") (handleOneTimed httpBuilder 30 elapsed
        (handleOne httpBuilder (getWith [] (by decide)) 16 loopback fun req =>
          (handle (fun _ => none) req moments).result))) := by
  have kept : toRackRequest (getWith [] (by decide)) 16 loopback = .ok (keptGet []) := by
    decide +kernel
  obtain ⟨embedded, supervised, plain⟩ := application_response_honest_iff httpBuilder
    rubyMessages (fun _ => none) strictClient reasons kept 30
    (written reasons (appWith 404 "x-a" "b" "no")) (appWith 404 "x-a" "b" "no")
  refine ⟨embedded.mpr ?_, supervised.mpr (plain ⟨by decide +kernel, ?_⟩ ?_)⟩
  · rintro headers ⟨_, _, texts⟩
    have copied : headerTexts (appWith 404 "x-a" "b" "no").pairs = some [("x-a", "b")] := by
      decide
    rw [copied] at texts
    cases texts
    rw [if_pos (by decide +kernel)]
    exact .inl (by decide)
  · exact fun interim => absurd interim.2 (by decide)
  · exact fun bodiless => absurd bodiless (by decide)

/-- What is sent for an embedded application that answers `GET /`. -/
def embeddedAnswer (app : AppResponse) : HyperResponse :=
  handleOneTimed httpBuilder 30 false
    (handleOne httpBuilder (getWith [] (by decide)) 16 loopback fun _ =>
      embeddedHandle rubyMessages .fulfilled (.ok app))

/-- A name that brings a head of its own. -/
def appWithHead : AppResponse :=
  appWith 200 "x-a: b\r\ncontent-length: 2\r\n\r\nok" "c" "no"

/-- A status that is none, one that is narrowed, and a header value with a line break become
successes; behind the shim, a name with a head of its own replaces the body. -/
theorem invalid_responses_become_successes :
    (embeddedAnswer (appWith 99 "x-a" "b" "no") = fallback ∧
      ¬ Honest (appWith 99 "x-a" "b" "no") fallback) ∧
    (embeddedAnswer (appWith 65736 "x-a" "b" "no") = ⟨200, [("x-a", "b")], utf8 "no"⟩ ∧
      ¬ Honest (appWith 65736 "x-a" "b" "no") ⟨200, [("x-a", "b")], utf8 "no"⟩) ∧
    (embeddedAnswer (appWith 422 "x-a" "b\r\nc" "no") = fallback ∧
      ¬ Honest (appWith 422 "x-a" "b\r\nc" "no") fallback) ∧
    (strictClient.read false (written reasons appWithHead none) =
        some ⟨200, [("x-a", utf8 "b"), ("content-length", utf8 "2")], utf8 "ok"⟩ ∧
      ¬ Honest appWithHead (answer httpBuilder (handle (fun _ => none) (keptGet []) fun _ =>
        ⟨.live 4001 "5e1f", .responds none
          ⟨200, [("x-a", utf8 "b"), ("content-length", utf8 "2")], utf8 "ok"⟩⟩).result)) := by
  refine ⟨⟨by decide, by decide +kernel⟩, ⟨by decide, by decide⟩,
    ⟨by decide +kernel, by decide +kernel⟩, by decide, by decide⟩

end Oxo.HyperEdge
