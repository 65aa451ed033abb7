import Oxo.HyperEdge.Request

/-!
Contract: how the Hyper edge answers a request (`handle_one_timed`, `handle_one` and `to_hyper` in
`oxo-edge/src/lib.rs`, the canned responses of `oxo-core/src/lib.rs`).

Owns: what is sent for a handler's result, and when the fallback of `to_hyper` takes its place.

Does not own: the response builder of the HTTP library beyond what it takes and refuses.
-/

namespace Oxo.HyperEdge

open Oxo.Foundation

/-! ## Canned responses -/

def RackResponse.internalError : RackResponse :=
  .text 500 "Internal Server Error"

def RackResponse.badGateway : RackResponse :=
  .text 502 "Bad Gateway (worker unreachable)"

def RackResponse.serviceUnavailable : RackResponse :=
  let resp := RackResponse.text 503 "Service Unavailable (worker restarting)"
  { resp with headers := resp.headers ++ [("retry-after", "1")] }

def RackResponse.gatewayTimeout : RackResponse :=
  .text 504 "Gateway Timeout (worker too slow)"

/-! ## The response builder -/

def validStatus (status : UInt16) : Bool :=
  100 ≤ status && status ≤ 999

/-- A token, and a value without control bytes other than tabs. -/
def validHeader (header : String × String) : Bool :=
  (header.1 != "" && (utf8 header.1).all isTokenByte) &&
    (utf8 header.2).all fun byte => (32 ≤ byte && byte != 127) || byte == 9

/-- Whether the builder of the HTTP library takes a status and headers. It may refuse long names
and many headers. -/
structure ResponseBuilder where
  accepts : UInt16 → List (String × String) → Bool
  valid : ∀ {status headers}, accepts status headers = true →
    validStatus status = true ∧ ∀ header ∈ headers, validHeader header = true
  takes : ∀ {status headers}, validStatus status = true →
    (∀ header ∈ headers, validHeader header = true ∧ (utf8 header.1).length < 2 ^ 16) →
    headers.length ≤ 100 → accepts status headers = true

/-- A response that the HTTP library sends. -/
structure HyperResponse where
  status : UInt16
  headers : List (String × String)
  body : List UInt8
deriving DecidableEq

def HyperResponse.serverError (sent : HyperResponse) : Bool :=
  500 ≤ sent.status && sent.status ≤ 599

/-- The headers that the HTTP library sets itself. -/
def isFramingHeader (name : String) : Bool :=
  eqIgnoreAsciiCase name "content-length" || eqIgnoreAsciiCase name "transfer-encoding" ||
    eqIgnoreAsciiCase name "connection"

def sentHeaders (headers : List (String × String)) : List (String × String) :=
  headers.filter fun header => !isFramingHeader header.1

/-- `Response::new` has the status 200. -/
def fallback : HyperResponse :=
  ⟨200, [], utf8 "Internal Server Error"⟩

def toHyper (builder : ResponseBuilder) (resp : RackResponse) : HyperResponse :=
  let headers := sentHeaders resp.headers
  if builder.accepts resp.status headers then
    ⟨resp.status, headers.map fun header => (toAsciiLowercase header.1, header.2), resp.body⟩
  else fallback

/-! ## Answers -/

/-- What is sent for the result of the handler. -/
def answer (builder : ResponseBuilder) : Except HandlerError RackResponse → HyperResponse
  | .ok resp => toHyper builder resp
  | .error .bodyTooLarge => toHyper builder .payloadTooLarge
  | .error .workerUnavailable => toHyper builder .serviceUnavailable
  | .error (.workerUnreachable _) => toHyper builder .badGateway
  | .error _ => toHyper builder .internalError

def handleOne (builder : ResponseBuilder) (incoming : Incoming) (maxBody : Nat) (listener : Local)
    (handler : RackRequest → Except HandlerError RackResponse) : HyperResponse :=
  match toRackRequest incoming maxBody listener with
  | .error resp => toHyper builder resp
  | .ok req => answer builder (handler req)

/-- `elapsed` says that the timeout comes first. -/
def handleOneTimed (builder : ResponseBuilder) (requestTimeoutSecs : Nat) (elapsed : Bool)
    (response : HyperResponse) : HyperResponse :=
  if requestTimeoutSecs ≠ 0 ∧ elapsed = true then toHyper builder .gatewayTimeout else response

/-! ## What is sent -/

section

variable {builder : ResponseBuilder} {resp : RackResponse}

theorem toHyper_accepted (accepted : builder.accepts resp.status (sentHeaders resp.headers) = true) :
    (toHyper builder resp).status = resp.status ∧ (toHyper builder resp).body = resp.body := by
  rw [toHyper, if_pos accepted]
  exact ⟨rfl, rfl⟩

theorem toHyper_refused (refused : builder.accepts resp.status (sentHeaders resp.headers) = false) :
    toHyper builder resp = fallback := by
  rw [toHyper, refused]
  rfl

/-- The headers of a canned response that are sent. -/
private theorem accepts_canned {status : UInt16} {headers : List (String × String)}
    (valid : validStatus status = true)
    (plain : ∀ header ∈ sentHeaders headers, header ∈
      [("content-type", "text/plain; charset=utf-8"), ("retry-after", "1")])
    (few : headers.length ≤ 100) : builder.accepts status (sentHeaders headers) = true := by
  have all : ∀ header ∈ [("content-type", "text/plain; charset=utf-8"), ("retry-after", "1")],
      validHeader header = true ∧ (utf8 header.1).length < 2 ^ 16 := by
    decide
  refine builder.takes valid (fun header member => all header (plain header member)) ?_
  exact (List.length_filter_le _ _).trans few

theorem toHyper_text {status : UInt16} (valid : validStatus status = true) (body : String) :
    (toHyper builder (.text status body)).status = status := by
  have few : (RackResponse.text status body).headers.length ≤ 100 := Nat.le_of_ble_eq_true rfl
  refine (toHyper_accepted (accepts_canned valid (fun header member => ?_) few)).1
  obtain ⟨isHeader, isKept⟩ := List.mem_filter.mp member
  rcases List.mem_cons.mp isHeader with rfl | behind
  · exact List.mem_cons_self
  · rw [List.mem_singleton.mp behind] at isKept
    exact absurd isKept (by decide : (!isFramingHeader "content-length") ≠ true)

theorem toHyper_serviceUnavailable : (toHyper builder .serviceUnavailable).status = 503 := by
  refine (toHyper_accepted (accepts_canned (by decide) ?_ (by decide))).1
  decide

/-- Only a request that is too large is answered with less than a server error. -/
theorem answer_error {failure : HandlerError} (fits : failure ≠ .bodyTooLarge) :
    (answer builder (.error failure)).serverError = true := by
  have canned : ∀ {resp : RackResponse} {status : UInt16},
      (toHyper builder resp).status = status → (500 ≤ status && status ≤ 599) = true →
      (toHyper builder resp).serverError = true := by
    rintro resp status rfl inRange
    exact inRange
  cases failure with
  | bodyTooLarge => exact absurd rfl fits
  | workerUnavailable => exact canned toHyper_serviceUnavailable (by decide)
  | workerUnreachable detail => exact canned (toHyper_text (by decide) _) (by decide)
  | rubyError | worker | io => exact canned (toHyper_text (by decide) _) (by decide)

theorem toHyper_internalError : (toHyper builder .internalError).serverError = true := by
  have answered : (answer builder (.error (.rubyError ""))).serverError = true :=
    answer_error (by decide)
  exact answered

theorem toHyper_gatewayTimeout : (toHyper builder .gatewayTimeout).serverError = true := by
  rw [HyperResponse.serverError, RackResponse.gatewayTimeout, toHyper_text (by decide)]
  decide

end

end Oxo.HyperEdge
