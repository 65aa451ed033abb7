import Oxo.HyperEdge.Request

/-!
Contract: the attempts of the supervised handler (`SupervisedRubyHandler::handle` and
`proxy_once` in `oxo-edge/src/supervised.rs`).

Owns: the retry loop over whatever the worker state and the connections are, what an attempt
leaves on a worker, and when no request that may have run is sent again.

Does not own: the supervisor that changes the worker state, or the delays between attempts.
-/

namespace Oxo.HyperEdge

open Oxo.Foundation

/-! ## Workers and attempts -/

/-- The worker target; a worker listens on the loopback address. -/
inductive WorkerState where
  | live (port : UInt16) (secret : String)
  | restarting
deriving DecidableEq

inductive WorkerKind where
  | puma
  | shim
deriving DecidableEq

/-- The process behind a connection, with the secret it was started with. -/
structure Peer where
  kind : WorkerKind
  secret : String
deriving DecidableEq

/-- The secret gate of either worker. -/
def Peer.accepts (peer : Peer) (provided : String) : Bool :=
  match peer.kind with
  | .shim => provided == peer.secret
  | .puma => provided != "" && provided == peer.secret

/-- A response as it comes from the connection. -/
structure WireResponse where
  status : UInt16
  headers : List (String × List UInt8)
  body : List UInt8
deriving DecidableEq

/-- What a connection comes to. From the first byte of the request on, `received` is the worker
that has the whole request when the attempt is over, if any. -/
inductive Exchange where
  | connectFails (detail : String)
  | handshakeFails (detail : String)
  | sendFails (received : Option Peer) (detail : String)
  | bodyFails (received : Option Peer) (detail : String)
  | responds (received : Option Peer) (response : WireResponse)
deriving DecidableEq

def Exchange.received : Exchange → Option Peer
  | .connectFails _ | .handshakeFails _ => none
  | .sendFails received _ | .bodyFails received _ | .responds received _ => received

/-- The request was given to the connection. -/
def Exchange.sends : Exchange → Bool
  | .connectFails _ | .handshakeFails _ => false
  | .sendFails _ _ | .bodyFails _ _ | .responds _ _ => true

/-- Header values that are not visible text are dropped. -/
def WireResponse.toRack (response : WireResponse) : RackResponse where
  status := response.status
  headers := response.headers.filterMap fun header =>
    (Edge.visibleText header.2).map fun value => (toAsciiLowercase header.1, value)
  body := response.body

/-- What the HTTP library says of a request that it cannot build. -/
abbrev Builder := WorkerRequest → Option String

/-- `proxy_once` on a connection that comes to `exchange`. -/
def proxyOnce (builder : Builder) (req : RackRequest) (port : UInt16) (secret : String)
    (exchange : Exchange) : Except HandlerError RackResponse :=
  match builder (workerRequest req port secret) with
  | some detail => .error (.worker ("building worker request: " ++ detail))
  | none =>
      match exchange with
      | .connectFails detail => .error (.workerUnreachable detail)
      | .handshakeFails detail => .error (.workerUnreachable detail)
      | .sendFails _ detail => .error (.workerUnreachable detail)
      | .bodyFails _ detail => .error (.workerUnreachable detail)
      | .responds _ response => .ok response.toRack

/-! ## The loop -/

/-- What one attempt finds. -/
structure Moment where
  state : WorkerState
  exchange : Exchange

/-- One call of `proxy_once`. -/
structure Attempt where
  built : Bool
  secret : String
  exchange : Exchange
deriving DecidableEq

def Attempt.sends (attempt : Attempt) : Bool :=
  attempt.built && attempt.exchange.sends

/-- A worker whose gate accepts the secret has the whole request. -/
def Attempt.executed (attempt : Attempt) : Bool :=
  attempt.built && attempt.exchange.received.any fun peer => peer.accepts attempt.secret

/-- The attempts that were made and the answer. -/
structure HandleRun where
  attempts : List Attempt
  result : Except HandlerError RackResponse

def HandleRun.after (run : HandleRun) (attempt : Attempt) : HandleRun :=
  { run with attempts := attempt :: run.attempts }

/-- The response of a gate whose worker has another secret. -/
def gateDenied (resp : RackResponse) : Bool :=
  resp.status == 403 && resp.headers.any fun header => header.1 == "x-oxo-gate" &&
    header.2 == "denied"

def handleAttempts : Nat := 3

/-- The loop from an attempt on, with `left` attempts left. -/
def handleFrom (builder : Builder) (req : RackRequest) (moments : Nat → Moment) :
    (left attempt : Nat) → HandleRun
  | 0, _ => ⟨[], .error .workerUnavailable⟩
  | left + 1, attempt =>
      let last := left == 0
      match (moments attempt).state with
      | .restarting =>
          if last then ⟨[], .error .workerUnavailable⟩
          else handleFrom builder req moments left (attempt + 1)
      | .live port secret =>
          let exchange := (moments attempt).exchange
          let tried : Attempt :=
            ⟨(builder (workerRequest req port secret)).isNone, secret, exchange⟩
          match proxyOnce builder req port secret exchange with
          | .ok resp =>
              if gateDenied resp && !last then
                (handleFrom builder req moments left (attempt + 1)).after tried
              else ⟨[tried], .ok resp⟩
          | .error (.workerUnreachable detail) =>
              if !last then (handleFrom builder req moments left (attempt + 1)).after tried
              else ⟨[tried], .error (.workerUnreachable detail)⟩
          | .error failure => ⟨[tried], .error failure⟩

def handle (builder : Builder) (req : RackRequest) (moments : Nat → Moment) : HandleRun :=
  handleFrom builder req moments handleAttempts 0

/-! ## Replays -/

/-- Behind an attempt that left the whole request with a worker, none sends it again. -/
def NoReplay (attempts : List Attempt) : Prop :=
  ∀ before attempt after, attempts = before ++ attempt :: after → attempt.executed = true →
    ∀ later ∈ after, later.sends = false

/-- The exchange ends in a response that no gate gives. -/
def Exchange.answered : Exchange → Bool
  | .responds _ response => !gateDenied response.toRack
  | _ => false

/-- If the attempt leaves the whole request with a worker, it is answered. -/
def ToldApart (builder : Builder) (req : RackRequest) (moment : Moment) : Prop :=
  ∀ port secret, moment.state = .live port secret →
    builder (workerRequest req port secret) = none →
    (moment.exchange.received.any fun peer => peer.accepts secret) = true →
    moment.exchange.answered = true

section

variable {builder : Builder} {req : RackRequest} {moments : Nat → Moment}
  {left attempt : Nat}

private theorem noReplay_nil : NoReplay [] := by
  intro before attempt after split
  cases before with
  | nil => cases split
  | cons first rest => cases split

private theorem noReplay_singleton (attempt : Attempt) : NoReplay [attempt] := by
  intro before other after split _ later member
  cases before with
  | nil =>
      cases split
      cases member
  | cons first rest =>
      rw [List.cons_append, List.cons.injEq] at split
      exact absurd split.2.symm (by simp)

/-- An attempt that left nothing on a worker may come first. -/
private theorem NoReplay.cons {attempts : List Attempt} (noReplay : NoReplay attempts)
    {first : Attempt} (harmless : first.executed = false) : NoReplay (first :: attempts) := by
  intro before other after split executed
  cases before with
  | nil =>
      cases split
      rw [harmless] at executed
      cases executed
  | cons head rest =>
      rw [List.cons_append, List.cons.injEq] at split
      exact noReplay rest other after split.2 executed

/-- The loop goes on behind an attempt that was built and not answered, unless it was the last. -/
private theorem handleFrom_live {port : UInt16} {secret : String}
    (live : (moments attempt).state = .live port secret) :
    (handleFrom builder req moments (left + 1) attempt).attempts =
      ⟨(builder (workerRequest req port secret)).isNone, secret, (moments attempt).exchange⟩ ::
        if left ≠ 0 ∧ builder (workerRequest req port secret) = none ∧
            (moments attempt).exchange.answered = false then
          (handleFrom builder req moments left (attempt + 1)).attempts
        else [] := by
  have last : (left == 0) = decide (left = 0) := rfl
  rw [handleFrom, live]
  simp only [proxyOnce, last]
  cases builder (workerRequest req port secret) with
  | some detail => simp
  | none =>
      cases (moments attempt).exchange with
      | connectFails | handshakeFails | sendFails | bodyFails =>
          by_cases isLast : left = 0
          · simp [isLast]
          · simp [isLast, Exchange.answered, HandleRun.after]
      | responds received response =>
          by_cases isLast : left = 0
          · simp [isLast]
          · cases denied : gateDenied response.toRack with
            | false => simp [denied, Exchange.answered]
            | true => simp [isLast, denied, Exchange.answered, HandleRun.after]

private theorem handleFrom_restarting (restarting : (moments attempt).state = .restarting) :
    (handleFrom builder req moments (left + 1) attempt).attempts =
      if left = 0 then [] else (handleFrom builder req moments left (attempt + 1)).attempts := by
  rw [handleFrom, restarting]
  by_cases isLast : left = 0
  · simp [isLast]
  · simp [isLast]

/-- If every attempt that runs the request is answered, nothing is replayed. -/
private theorem handleFrom_noReplay (told : ∀ attempt, ToldApart builder req (moments attempt)) :
    NoReplay (handleFrom builder req moments left attempt).attempts := by
  induction left generalizing attempt with
  | zero => exact noReplay_nil
  | succ left inductionHypothesis =>
      cases state : (moments attempt).state with
      | restarting =>
          rw [handleFrom_restarting state]
          split
          · exact noReplay_nil
          · exact inductionHypothesis
      | live port secret =>
          rw [handleFrom_live state]
          split
          · rename_i goesOn
            refine inductionHypothesis.cons ?_
            rw [Bool.eq_false_iff]
            intro executed
            -- it was built, so it was answered
            obtain ⟨_, received⟩ := Bool.and_eq_true_iff.mp executed
            have answered := told attempt port secret state goesOn.2.1 received
            rw [goesOn.2.2] at answered
            cases answered
          · exact noReplay_singleton _

private theorem sends_of_received {exchange : Exchange} {peer : Peer}
    (received : exchange.received = some peer) : exchange.sends = true := by
  cases exchange with
  | connectFails | handshakeFails => cases received
  | sendFails | bodyFails | responds => rfl

/-- No request is replayed, whatever of what is possible happens, exactly when every possible
attempt that leaves the whole request with a worker is answered. -/
theorem never_replayed_iff (possible : Moment → Prop) :
    (∀ moments, (∀ attempt, possible (moments attempt)) →
        NoReplay (handle builder req moments).attempts) ↔
      ∀ moment, possible moment → ToldApart builder req moment := by
  constructor
  · intro noReplay moment isPossible port secret live built received
    by_contra unanswered
    rw [Bool.not_eq_true] at unanswered
    -- the same thing happens to every attempt
    have replayed := noReplay (fun _ => moment) fun _ => isPossible
    have goesOn : ∀ left : Nat, left ≠ 0 → left ≠ 0 ∧ builder (workerRequest req port secret) =
        none ∧ moment.exchange.answered = false := fun _ notLast => ⟨notLast, built, unanswered⟩
    rw [handle, handleAttempts, handleFrom_live live, if_pos (goesOn 2 (by decide)),
      handleFrom_live live, built] at replayed
    obtain ⟨peer, isReceived, _⟩ := (Option.any_eq_true ..).mp received
    have executed : (Attempt.mk true secret moment.exchange).executed = true := received
    have notSent := replayed [] _ _ rfl executed _ List.mem_cons_self
    have sent : (Attempt.mk true secret moment.exchange).sends = true :=
      sends_of_received isReceived
    rw [Option.isNone_none, sent] at notSent
    cases notSent
  · intro told moments drawn
    exact handleFrom_noReplay fun attempt => told _ (drawn attempt)

end

/-- A request that must not run twice. -/
def chargeRequest : RackRequest where
  method := "POST"
  path := "/charge"
  queryString := ""
  serverName := "localhost"
  serverPort := 9292
  urlScheme := "http"
  headers := []
  body := utf8 "amount=5"

/-- The worker dies with the whole request, and another one is ready for the next attempt. -/
def workerDies : Nat → Moment
  | 0 => ⟨.live 4001 "5e1f", .sendFails (some ⟨.shim, "5e1f"⟩)
      "connection closed before message completed"⟩
  | _ => ⟨.live 4002 "09ab", .responds (some ⟨.shim, "09ab"⟩) ⟨200, [], []⟩⟩

/-- The application answers 403 with a header that the gate also sets. -/
def applicationDenies (_ : Nat) : Moment :=
  ⟨.live 4001 "5e1f", .responds (some ⟨.puma, "5e1f"⟩)
    ⟨403, [("x-oxo-gate", utf8 "denied")], []⟩⟩

/-- Either request runs again. -/
theorem executed_request_sent_again :
    ¬ NoReplay (handle (fun _ => none) chargeRequest workerDies).attempts ∧
      ¬ NoReplay (handle (fun _ => none) chargeRequest applicationDenies).attempts := by
  have first : (handle (fun _ => none) chargeRequest workerDies).attempts =
      [⟨true, "5e1f", (workerDies 0).exchange⟩, ⟨true, "09ab", (workerDies 1).exchange⟩] := by
    decide
  have second : (handle (fun _ => none) chargeRequest applicationDenies).attempts =
      List.replicate 3 ⟨true, "5e1f", (applicationDenies 0).exchange⟩ := by
    decide
  rw [first, second]
  constructor
  · intro noReplay
    have notSent := noReplay [] _ _ rfl (by decide) _ List.mem_cons_self
    exact absurd notSent (by decide)
  · intro noReplay
    have notSent := noReplay [] _ _ rfl (by decide) _ List.mem_cons_self
    exact absurd notSent (by decide)

end Oxo.HyperEdge
