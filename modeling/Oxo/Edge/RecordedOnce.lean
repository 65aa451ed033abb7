import Oxo.Edge.RequestFilter

/-!
Contract: every request is counted exactly once
(`oxo-pingora-edge/src/platform/proxy.rs`, `telemetry.rs`).

Owns: what each callback records, what a finished request has added to the counters, and the
counters after any interleaving of finished requests.

Does not own: requests whose future is cancelled.
-/

namespace Oxo.Edge

open Oxo.Foundation

/-! ## Counting -/

def RequestOp.entry : RequestOp → Ledger
  | .telemetry op => op.entry
  | _ => 0

/-- The watch adds up what a request does to the counters. -/
def counting : Contract RequestOp RequestAnswer Ledger where
  allows _ _ := True
  after ledger op _ := ledger + op.entry

/-- From a number of recorded outcomes, on top of anything else, a program ends with a number of
recorded outcomes. -/
def Counts {α : Type} (program : Handler α) (recorded : Nat) (post : α → Nat → Prop) : Prop :=
  ∀ base added : Ledger, added.Records recorded →
    counting.Meets program (base + added) fun value after =>
      ∃ total : Ledger, ∃ count, after = base + total ∧ total.Records count ∧ post value count

section

variable {α β : Type} {recorded : Nat} {post : β → Nat → Prop}

theorem Counts.pure {value : β} (holds : post value recorded) :
    Counts (Pure.pure value : Handler β) recorded post :=
  fun _ added records => ⟨added, recorded, rfl, records, holds⟩

theorem Counts.mono {weak : β → Nat → Prop} {program : Handler β}
    (counts : Counts program recorded post)
    (weaker : ∀ value count, post value count → weak value count) :
    Counts program recorded weak := by
  intro base added records
  refine (counts base added records).mono ?_
  rintro value after ⟨total, count, sum, isRecord, holds⟩
  exact ⟨total, count, sum, isRecord, weaker value count holds⟩

theorem Counts.bind {program : Handler α} {continuation : α → Handler β}
    (counts : Counts program recorded fun value count => Counts (continuation value) count post) :
    Counts (program >>= continuation) recorded post := by
  intro base added records
  apply Contract.Meets.bind
  refine (counts base added records).mono ?_
  rintro value after ⟨total, count, rfl, isRecord, continues⟩
  exact continues base total isRecord

/-- What does not touch the counters. -/
theorem Counts.ask {op : RequestOp} (silent : op.entry = 0)
    {continuation : RequestAnswer op → Handler β}
    (counts : ∀ answer, Counts (continuation answer) recorded post) :
    Counts (Oxo.Edge.ask op >>= continuation) recorded post := by
  intro base added records
  refine ⟨trivial, fun answer => ?_⟩
  have same : counting.after (base + added) op answer = base + added := by
    change base + added + op.entry = base + added
    rw [silent, add_zero]
  rw [same]
  exact counts answer base added records

theorem meets_record {ops : List TelemetryOp} {ledger : Ledger} {continuation : Unit → Handler β}
    {post : β → Ledger → Prop}
    (meets : counting.Meets (continuation ()) (ledger + ledgerOf ops) post) :
    counting.Meets (record ops >>= continuation) ledger post := by
  induction ops generalizing ledger with
  | nil =>
      have empty : ledger + ledgerOf [] = ledger := add_zero ledger
      rwa [empty] at meets
  | cons op rest inductionHypothesis =>
      refine ⟨trivial, fun _ => inductionHypothesis ?_⟩
      have sum : ledger + ledgerOf (op :: rest) = ledger + op.entry + ledgerOf rest := by
        rw [add_assoc]
        rfl
      rw [sum] at meets
      exact meets

theorem Counts.record {ops : List TelemetryOp} {count : Nat} (records : (ledgerOf ops).Records count)
    {continuation : Unit → Handler β}
    (counts : Counts (continuation ()) (recorded + count) post) :
    Counts (Oxo.Edge.record ops >>= continuation) recorded post := by
  intro base added already
  apply meets_record
  rw [add_assoc]
  exact counts base _ (already.add records)

end

/-! ## The callbacks -/

section

variable (edge : EdgeProxy) (client : ClientSession) (requestId : String) {recorded : Nat}

/-- The request is over, with one outcome. -/
def Settled (result : Except PingoraError Bool) (count : Nat) : Prop :=
  count = 1 ∧ result ≠ .ok false

theorem reject_counts (status : UInt16) : Counts (reject edge requestId status) 0 Settled := by
  refine .record (records_recordRejection ..) (.ask rfl fun written => .pure ⟨rfl, ?_⟩)
  cases written <;> simp [Except.map]

/-- An admission that is refused is recorded, one that is granted is not. -/
theorem admitRequest_counts (rawHeaders : List LoweredHeader) (wantLongLived : Bool) :
    Counts (admitRequest edge client requestId rawHeaders wantLongLived) 0 fun result count =>
      match result with
      | .ok (some _) => count = 0
      | _ => count = 1 := by
  have refused : ∀ status, Counts (refuseAdmission status) 1 fun result count =>
      match result with
      | .ok (some _) => count = 0
      | _ => count = 1 := by
    intro status
    refine .ask rfl fun written => .pure ?_
    cases written <;> rfl
  refine .ask rfl fun global => ?_
  cases global with
  | false => exact .record (records_recordOverloaded ..) (refused 503)
  | true =>
      simp only [↓reduceIte]
      cases admittedRemoteAddr edge.config.publicIdentity client.clientAddr rawHeaders with
      | error rejection => exact .record (records_recordRejection ..) (refused _)
      | ok remoteAddr =>
          refine .ask rfl fun identity => ?_
          cases identity with
          | false => exact .record (records_recordRateLimited ..) (refused 503)
          | true =>
              cases wantLongLived with
              | false => exact .pure rfl
              | true =>
                  refine .ask rfl fun longLived => ?_
                  cases longLived with
                  | false => exact .record (records_recordRejection ..) (refused 503)
                  | true => exact .pure rfl

private theorem respond_counts (status : UInt16) :
    Counts (do
      record (recordResponse edge.requestLog requestId status)
      return .ok true) 0 Settled :=
  .record (records_recordResponse ..) (.pure ⟨rfl, nofun⟩)

private theorem sendToWorker_counts (frameBuf : List UInt8) (rawHeaders : List LoweredHeader)
    (remoteAddr : String) (prep : HopPrep) (body : List UInt8) :
    Counts (sendToWorker edge client frameBuf rawHeaders remoteAddr prep body) 0
      fun _ count => count = 0 := by
  cases prep with
  | frame plan =>
      rw [sendToWorker]
      split
      · exact .pure rfl
      · exact .ask rfl fun _ => .pure rfl
  | http headers =>
      rw [sendToWorker]
      split
      · exact .pure rfl
      · exact .ask rfl fun _ => .pure rfl

theorem proxyToWorker_counts (frameBuf : List UInt8) (rawHeaders : List LoweredHeader)
    (contentLength : Option Nat) (remoteAddr : String) :
    Counts (proxyToWorker edge client requestId frameBuf rawHeaders contentLength remoteAddr) 0
      Settled := by
  unfold proxyToWorker
  cases hopPrep edge requestId rawHeaders remoteAddr with
  | error rejection => exact reject_counts _ _ _
  | ok prep =>
      refine .ask rfl fun read => ?_
      cases read with
      | error status => exact reject_counts _ _ _
      | ok body =>
          apply Counts.bind
          refine (sendToWorker_counts edge client frameBuf rawHeaders remoteAddr prep body).mono ?_
          intro hop count unrecorded
          subst unrecorded
          cases hop with
          | error status => exact reject_counts _ _ _
          | ok status => exact respond_counts _ _ _

theorem serveWorkerRoute_counts (frameBuf : List UInt8) (rawHeaders : List LoweredHeader)
    (contentLength : Option Nat) (remoteAddr : String) :
    Counts (serveWorkerRoute edge client requestId frameBuf rawHeaders contentLength remoteAddr) 0
      Settled := by
  simp only [serveWorkerRoute]
  split
  · refine .ask rfl fun served => ?_
    cases served with
    | none => exact proxyToWorker_counts _ _ _ _ _ _ _
    | some status => exact respond_counts _ _ _
  · exact proxyToWorker_counts _ _ _ _ _ _ _

theorem workerRoute_counts (frameBuf : List UInt8) (rawHeaders : List LoweredHeader) :
    Counts (workerRoute edge client requestId frameBuf rawHeaders) 0 Settled := by
  unfold workerRoute
  cases validateClientRequest client.session rawHeaders edge.config.maxBodyBytes
    edge.config.publicServerName with
  | error status => exact reject_counts _ _ _
  | ok contentLength =>
      apply Counts.bind
      refine (admitRequest_counts edge client requestId rawHeaders false).mono ?_
      intro result count counted
      match result, counted with
      | .error error, counted => exact .pure ⟨counted, nofun⟩
      | .ok none, counted => exact .pure ⟨counted, nofun⟩
      | .ok (some admission), counted =>
          subst counted
          simp only
          split
          · refine .ask rfl fun written => ?_
            cases written with
            | ok _ => exact respond_counts _ _ _
            | error status => exact reject_counts _ _ _
          · exact serveWorkerRoute_counts _ _ _ _ _ _ _

/-- A context of the proxy loop: a sidecar route, and a count that follows the flag. -/
structure EdgeRequestContext.Proxied (ctx : EdgeRequestContext) (count : Nat) : Prop where
  sidecar : ctx.route.isSidecar = true
  known : ctx.requestId.isSome = true
  counted : count = if ctx.outcomeRecorded then 1 else 0

/-- What `request_filter` leaves: an outcome and no request id, or a request for the proxy loop
without an outcome. -/
def Filtered (result : Except PingoraError Bool × EdgeRequestContext) (count : Nat) : Prop :=
  match result.1 with
  | .ok false => result.2.Proxied count
  | _ => count = 1 ∧ result.2.requestId = none

private theorem filtered_of_settled {result : Except PingoraError Bool} {count : Nat}
    (settled : Settled result count) : Filtered (result, .new) count := by
  match result, settled.2 with
  | .error _, _ => exact ⟨settled.1, rfl⟩
  | .ok true, _ => exact ⟨settled.1, rfl⟩
  | .ok false, settled => exact absurd rfl settled

theorem filterRequest_counts (frameBuf : List UInt8) :
    Counts (filterRequest edge client requestId frameBuf) 0 Filtered := by
  have settles : ∀ program : Handler (Except PingoraError Bool),
      Counts program 0 Settled →
        Counts (do return (← program, .new)) 0 Filtered := by
    intro program counts
    apply Counts.bind
    exact counts.mono fun result count settled => .pure (filtered_of_settled settled)
  unfold filterRequest
  cases collectRequestHeaders visibleText client.session with
  | error status => exact settles _ (reject_counts _ _ _)
  | ok rawHeaders =>
      refine .ask rfl fun draining => ?_
      cases draining with
      | true => exact settles _ (reject_counts _ _ _)
      | false =>
          simp only [Bool.false_eq_true, ↓reduceIte]
          cases requestRoute edge.settings client.session rawHeaders with
          | error status => exact settles _ (reject_counts _ _ _)
          | ok route =>
              simp only
              split
              · rename_i isSidecar
                apply Counts.bind
                refine (admitRequest_counts edge client requestId rawHeaders true).mono ?_
                intro result count counted
                match result, counted with
                | .error error, counted => exact .pure ⟨counted, rfl⟩
                | .ok none, counted => exact .pure ⟨counted, rfl⟩
                | .ok (some admission), counted => exact .pure ⟨isSidecar, rfl, counted⟩
              · exact settles _ (workerRoute_counts _ _ _ _ _)

/-! ## The proxy loop -/

variable {ctx : EdgeRequestContext}

/-- The first callback of a proxied request records, the others do not. -/
private theorem recordOnce_counts (proxied : ctx.Proxied recorded)
    {outcome : String → List TelemetryOp}
    (records : ∀ requestId, (ledgerOf (outcome requestId)).Records 1) :
    Counts (recordOnce ctx outcome) recorded fun after count =>
      after.Proxied count ∧ after.outcomeRecorded = true := by
  have counted := proxied.counted
  unfold recordOnce
  split
  · rename_i already
    exact .pure ⟨proxied, already⟩
  · rename_i fresh
    rw [if_neg fresh] at counted
    subst counted
    obtain ⟨requestId, known⟩ := Option.isSome_iff_exists.mp proxied.known
    rw [known]
    exact .record (records requestId) (.pure ⟨⟨proxied.sidecar, rfl, rfl⟩, rfl⟩)

private theorem callback_counts (proxied : ctx.Proxied recorded) (first : Callback) :
    Counts (callback edge ctx first) recorded fun after count =>
      after.Proxied count ∧ after.outcomeRecorded = true := by
  cases first with
  | responseFilter status =>
      rw [callback, responseFilter, if_pos proxied.sidecar]
      exact recordOnce_counts proxied fun requestId => records_recordResponse ..
  | failToProxy error =>
      rw [callback, failToProxy]
      apply Counts.bind
      refine (recordOnce_counts proxied fun requestId => records_recordRejection ..).mono ?_
      intro after count settled
      exact .ask rfl fun _ => .pure settled

/-- However many callbacks fire, they record once. -/
private theorem callbacks_counts (proxied : ctx.Proxied recorded) {fired : List Callback}
    (once : ctx.outcomeRecorded = true ∨ fired ≠ []) :
    Counts (callbacks edge ctx fired) recorded fun _ count => count = 1 := by
  induction fired generalizing ctx recorded with
  | nil =>
      have already := once.resolve_right fun differs => differs rfl
      have counted := proxied.counted
      rw [if_pos already] at counted
      exact .pure counted
  | cons first rest inductionHypothesis =>
      apply Counts.bind
      refine (callback_counts edge proxied first).mono ?_
      intro after count settled
      exact inductionHypothesis settled.1 (.inl settled.2)

/-- A failure outside the proxy loop has no id to record under. -/
private theorem failToProxy_unknown (unknown : ctx.requestId = none) (error : PingoraError) :
    Counts (failToProxy edge ctx error) recorded fun _ count => count = recorded := by
  have records : Counts (recordOnce ctx fun requestId =>
      recordRejection edge.requestLog requestId (failCode error)) recorded
        fun _ count => count = recorded := by
    unfold recordOnce
    split
    · exact .pure rfl
    · rw [unknown]
      exact .pure rfl
  apply Counts.bind
  refine records.mono ?_
  intro after count unrecorded
  exact .ask rfl fun _ => .pure unrecorded

/-- After `request_filter` the proxy library brings a request to its end. -/
private theorem afterFilter_counts {result : Except PingoraError Bool × EdgeRequestContext}
    (filtered : Filtered result recorded) :
    Counts (match result.1 with
      | .error error => do
          let _ ← failToProxy edge result.2 error
      | .ok true => Pure.pure ()
      | .ok false => do
          let loop : ProxyLoop ← ask (.proxy result.2.route)
          callbacks edge result.2 loop.callbacks) recorded fun _ count => count = 1 := by
  obtain ⟨outcome, ctx⟩ := result
  match outcome, filtered with
  | .ok true, filtered => exact .pure filtered.1
  | .error error, filtered =>
      apply Counts.bind
      refine (failToProxy_unknown edge filtered.2 error).mono ?_
      intro _ count unrecorded
      exact .pure (unrecorded.trans filtered.1)
  | .ok false, filtered =>
      exact .ask rfl fun loop => callbacks_counts edge filtered (.inr loop.fires)

end

/-! ## A request -/

/-- What a finished request has done to the counters. -/
structure Ledger.CountedOnce (ledger : Ledger) : Prop where
  outcomes : ledger.outcomes = 1
  classes : ledger.classes = 1
  requests : ledger.1 .requestsTotal = 1
  entered : ledger.1 .inFlight = 1
  left : ledger.2 = Pi.single .inFlight 1

private theorem countedOnce_of_records {sequence : UInt64} {added : Ledger}
    (records : added.Records 1) :
    (ledgerOf (startRequest sequence) + ledgerOf dropObservation + added).CountedOnce where
  outcomes := by
    rw [Ledger.outcomes_add, records.outcomes]
    simp [Ledger.outcomes, ledgerOf, startRequest, dropObservation, TelemetryOp.entry]
  classes := by
    rw [Ledger.classes_add, records.classes]
    simp [Ledger.classes, ledgerOf, startRequest, dropObservation, TelemetryOp.entry]
  requests := by
    rw [Prod.fst_add, Pi.add_apply, records.requests]
    simp [ledgerOf, startRequest, dropObservation, TelemetryOp.entry]
  entered := by
    rw [Prod.fst_add, Pi.add_apply, records.entered]
    simp [ledgerOf, startRequest, dropObservation, TelemetryOp.entry]
  left := by
    rw [Prod.snd_add, records.left]
    simp [ledgerOf, startRequest, dropObservation, TelemetryOp.entry]

theorem serveRequest_counted (edge : EdgeProxy) (client : ClientSession) :
    counting.Meets (serveRequest edge client) 0 fun _ after => after.CountedOnce := by
  apply Contract.Meets.bind
  refine ⟨trivial, fun frameBuf => ⟨trivial, fun named => ?_⟩⟩
  have silent : counting.after (counting.after 0 .checkoutScratch frameBuf) .nextRequestId named =
      0 := by
    change (0 : Ledger) + 0 + 0 = 0
    rw [add_zero, add_zero]
  rw [silent]
  apply meets_record
  apply Contract.Meets.bind
  refine (filterRequest_counts edge client named.1 frameBuf (0 + ledgerOf (startRequest named.2))
    0 .zero).mono ?_
  rintro result after ⟨total, count, rfl, records, filtered⟩
  apply meets_record
  have order : 0 + ledgerOf (startRequest named.2) + total + ledgerOf dropObservation =
      ledgerOf (startRequest named.2) + ledgerOf dropObservation + total := by
    rw [zero_add, add_right_comm]
  rw [order]
  refine (afterFilter_counts edge filtered _ total records).mono ?_
  rintro _ after ⟨total, count, rfl, records, rfl⟩
  exact countedOnce_of_records records

/-! ## Any number of requests -/

abbrev RequestEvent := Program.Event RequestOp RequestAnswer

def EdgeTelemetry.observe (telemetry : EdgeTelemetry) (event : RequestEvent) : EdgeTelemetry :=
  match event.op with
  | .telemetry op => telemetry.after op
  | _ => telemetry

/-- The counters after the events of any number of requests. -/
def telemetryAfter (log : List (Nat × RequestEvent)) : EdgeTelemetry :=
  log.foldl (fun telemetry entry => telemetry.observe entry.2) .new

/-- How often events add to a counter. -/
def addsTo (counter : Counter) (events : List RequestEvent) : Nat :=
  events.countP fun event =>
    match event.op with
    | .telemetry (.fetchAdd other) => other == counter
    | _ => false

def eventEntry (event : RequestEvent) : Ledger :=
  event.op.entry

private theorem counters_observe (telemetry : EdgeTelemetry) (event : RequestEvent)
    (counter : Counter) :
    (telemetry.observe event).counters counter =
      telemetry.counters counter + UInt64.ofNat ((eventEntry event).1 counter) -
        UInt64.ofNat ((eventEntry event).2 counter) := by
  obtain ⟨op, answer⟩ := event
  cases op with
  | telemetry op => exact counters_after telemetry op counter
  | _ => simp [EdgeTelemetry.observe, eventEntry, RequestOp.entry]

private theorem counters_foldl (log : List (Nat × RequestEvent)) (telemetry : EdgeTelemetry)
    (counter : Counter) :
    (log.foldl (fun telemetry entry => telemetry.observe entry.2) telemetry).counters counter =
      telemetry.counters counter +
        UInt64.ofNat ((log.map fun entry => eventEntry entry.2).sum.1 counter) -
        UInt64.ofNat ((log.map fun entry => eventEntry entry.2).sum.2 counter) := by
  induction log generalizing telemetry with
  | nil => simp
  | cons entry rest inductionHypothesis =>
      rw [List.foldl_cons, inductionHypothesis, counters_observe, List.map_cons, List.sum_cons,
        Prod.fst_add, Prod.snd_add, Pi.add_apply, Pi.add_apply, UInt64.ofNat_add,
        UInt64.ofNat_add]
      grind

private theorem watch_eq_sum (ledger : Ledger) (events : List RequestEvent) :
    counting.watch ledger events = ledger + (events.map eventEntry).sum := by
  induction events generalizing ledger with
  | nil => exact (add_zero ledger).symm
  | cons event rest inductionHypothesis =>
      rw [List.map_cons, List.sum_cons, ← add_assoc]
      exact inductionHypothesis (ledger + eventEntry event)

theorem addsTo_eq (counter : Counter) (events : List RequestEvent) :
    addsTo counter events = (events.map eventEntry).sum.1 counter := by
  induction events with
  | nil => rfl
  | cons event rest inductionHypothesis =>
      rw [addsTo, List.countP_cons, ← addsTo, inductionHypothesis, List.map_cons, List.sum_cons,
        Prod.fst_add, Pi.add_apply, Nat.add_comm]
      congr 1
      obtain ⟨op, answer⟩ := event
      cases op with
      | telemetry op =>
          cases op with
          | fetchAdd other =>
              by_cases same : other = counter
              · subst same
                simp [eventEntry, RequestOp.entry, TelemetryOp.entry]
              · simp [eventEntry, RequestOp.entry, TelemetryOp.entry, same, Ne.symm same]
          | _ => rfl
      | _ => rfl

/-- A quantity that adds up, and is the same in every request. -/
private theorem sum_const {measure : Ledger → Nat} (zero : measure 0 = 0)
    (add : ∀ first second, measure (first + second) = measure first + measure second)
    {requests : Finset Nat} {ledgers : Nat → Ledger} {each : Nat}
    (same : ∀ request ∈ requests, measure (ledgers request) = each) :
    measure (∑ request ∈ requests, ledgers request) = requests.card * each := by
  induction requests using Finset.induction_on with
  | empty => simpa using zero
  | insert request requests fresh inductionHypothesis =>
      rw [Finset.sum_insert fresh, add, same request (Finset.mem_insert_self _ _),
        inductionHypothesis fun other member => same other (Finset.mem_insert_of_mem member),
        Finset.card_insert_of_notMem fresh, Nat.succ_mul, Nat.add_comm]

/-- The counters when a number of requests has been counted, in words. -/
structure EdgeTelemetry.Counted (telemetry : EdgeTelemetry) (requests : Nat) : Prop where
  requests : telemetry.counters .requestsTotal = UInt64.ofNat requests
  outcomes : telemetry.counters .requestsTotal =
    telemetry.counters .responsesTotal + telemetry.counters .rejectionsTotal
  classes : telemetry.counters .requestsTotal =
    telemetry.counters .status2xxTotal + telemetry.counters .status4xxTotal +
      telemetry.counters .status5xxTotal + telemetry.counters .statusOtherTotal
  idle : telemetry.counters .inFlight = 0

private theorem counted_of_each {log : List (Nat × RequestEvent)}
    (each : ∀ request ∈ tasksOf log,
      (((eventsOf request log).map eventEntry).sum : Ledger).CountedOnce) :
    (telemetryAfter log).Counted (tasksOf log).card := by
  have value : ∀ counter, (telemetryAfter log).counters counter =
      UInt64.ofNat ((log.map fun entry => eventEntry entry.2).sum.1 counter) -
        UInt64.ofNat ((log.map fun entry => eventEntry entry.2).sum.2 counter) := by
    intro counter
    rw [telemetryAfter, counters_foldl, EdgeTelemetry.new, UInt64.zero_add]
  have sums : ∀ {measure : Ledger → Nat} {count : Nat}, measure 0 = 0 →
      (∀ first second, measure (first + second) = measure first + measure second) →
      (∀ ledger : Ledger, ledger.CountedOnce → measure ledger = count) →
      measure (log.map fun entry => eventEntry entry.2).sum = (tasksOf log).card * count := by
    intro measure count zero add once
    rw [← sum_eventsOf eventEntry log]
    exact sum_const zero add fun request member => once _ (each request member)
  have added : ∀ counter count, (∀ ledger : Ledger, ledger.CountedOnce → ledger.1 counter = count) →
      (log.map fun entry => eventEntry entry.2).sum.1 counter = (tasksOf log).card * count :=
    fun counter _ once => sums rfl (fun _ _ => rfl) once
  have left : ∀ counter, (log.map fun entry => eventEntry entry.2).sum.2 counter =
      (tasksOf log).card * (Pi.single Counter.inFlight 1 : Counter → Nat) counter :=
    fun counter => sums rfl (fun _ _ => rfl) fun ledger once => congrFun once.left counter
  have outcomes := sums rfl Ledger.outcomes_add fun ledger once => once.outcomes
  have classes := sums rfl Ledger.classes_add fun ledger once => once.classes
  have requests := added .requestsTotal 1 fun ledger once => once.requests
  have entered := added .inFlight 1 fun ledger once => once.entered
  have kept : ∀ counter, counter ≠ .inFlight → (telemetryAfter log).counters counter =
      UInt64.ofNat ((log.map fun entry => eventEntry entry.2).sum.1 counter) := by
    intro counter differs
    rw [value, left, Pi.single_eq_of_ne differs, Nat.mul_zero, UInt64.sub_eq_add_neg]
    simp
  refine ⟨?_, ?_, ?_, ?_⟩
  · rw [kept _ (by decide), requests, Nat.mul_one]
  · rw [kept _ (by decide), kept _ (by decide), kept _ (by decide), requests, ← outcomes,
      Ledger.outcomes, UInt64.ofNat_add]
  · rw [kept _ (by decide), kept _ (by decide), kept _ (by decide), kept _ (by decide),
      kept _ (by decide), requests, ← classes, Ledger.classes, UInt64.ofNat_add, UInt64.ofNat_add,
      UInt64.ofNat_add]
  · rw [value, left, entered, Pi.single_eq_same, UInt64.sub_self]

/-- However the events of any number of requests interleave, when all have finished each has
added to exactly one of responses and rejections, and the counters agree. -/
theorem requests_counted_once (edge : EdgeProxy) (clients : Nat → ClientSession)
    {log : List (Nat × RequestEvent)}
    (finished : ∀ request ∈ tasksOf log,
      (serveRequest edge (clients request)).Completes (eventsOf request log) ()) :
    (telemetryAfter log).Counted (tasksOf log).card ∧
      ∀ request ∈ tasksOf log, addsTo .responsesTotal (eventsOf request log) +
        addsTo .rejectionsTotal (eventsOf request log) = 1 := by
  have each : ∀ request ∈ tasksOf log,
      (((eventsOf request log).map eventEntry).sum : Ledger).CountedOnce := by
    intro request member
    have counted := (serveRequest_counted edge (clients request)).of_completes
      (finished request member)
    rwa [watch_eq_sum, zero_add] at counted
  refine ⟨counted_of_each each, fun request member => ?_⟩
  rw [addsTo_eq, addsTo_eq]
  exact (each request member).outcomes

/-! ## Two requests of a draining edge -/

def drainingEdge : EdgeProxy where
  config :=
    { publicIdentity := .directPublic
      publicServerName := none
      maxBodyBytes := 16
      protocols := ⟨false⟩
      urlScheme := "http"
      serverName := "app"
      serverPort := 80 }
  actionCableBind := none
  grpcBind := none
  nativeBenchEnabled := false
  staticServer := false
  prodPin := none
  workerHop := .frame
  requestLog := .off

def bareClient : ClientSession where
  session :=
    { method := "GET"
      methodToken := getToken
      isHttp2 := false
      uriScheme := none
      uriAuthority := none
      pathAndQuery := none
      headers := [] }
  clientAddr := none

/-- The rejection of a request, up to its response. -/
def drainedEvents (sequence : UInt64) : List RequestEvent :=
  [⟨.checkoutScratch, ([] : List UInt8)⟩, ⟨.nextRequestId, (("oxo-1-1", sequence) : String × UInt64)⟩,
    ⟨.telemetry (.fetchAdd .requestsTotal), ()⟩, ⟨.telemetry (.fetchAdd .inFlight), ()⟩,
    ⟨.telemetry (.store .lastRequestSeq sequence), ()⟩, ⟨.isDraining, true⟩,
    ⟨.telemetry (.fetchAdd .rejectionsTotal), ()⟩,
    ⟨.telemetry (.store .lastRejectionStatus 503), ()⟩,
    ⟨.telemetry (.fetchAdd .status5xxTotal), ()⟩]

/-- The response is written. -/
def writtenEvents (sequence : UInt64) : List RequestEvent :=
  drainedEvents sequence ++
    [⟨.respondError 503, (.ok () : Except PingoraError Unit)⟩, ⟨.telemetry (.fetchSub .inFlight), ()⟩]

/-- The client is gone, and `fail_to_proxy` is called. -/
def failedEvents (sequence : UInt64) : List RequestEvent :=
  drainedEvents sequence ++
    [⟨.respondError 503, (.error ⟨none, .downstream⟩ : Except PingoraError Unit)⟩,
      ⟨.telemetry (.fetchSub .inFlight), ()⟩,
      ⟨.respondError 400, (.error ⟨none, .downstream⟩ : Except PingoraError Unit)⟩]

private theorem writtenEvents_complete (sequence : UInt64) :
    (serveRequest drainingEdge bareClient).Completes (writtenEvents sequence) () := by
  iterate 11 refine .step _ ?_
  exact .pure ()

private theorem failedEvents_complete (sequence : UInt64) :
    (serveRequest drainingEdge bareClient).Completes (failedEvents sequence) () := by
  iterate 12 refine .step _ ?_
  exact .pure ()

/-- Both at once. -/
def drainedLog : List (Nat × RequestEvent) :=
  ((writtenEvents 1).zip (failedEvents 2)).flatMap (fun pair => [(0, pair.1), (1, pair.2)]) ++
    ((failedEvents 2).drop 11).map fun event => (1, event)

theorem drained_requests_counted_once :
    (telemetryAfter drainedLog).Counted 2 ∧ ∀ request ∈ tasksOf drainedLog,
      addsTo .responsesTotal (eventsOf request drainedLog) +
        addsTo .rejectionsTotal (eventsOf request drainedLog) = 1 := by
  have tasks : tasksOf drainedLog = {0, 1} := rfl
  have finished : ∀ request ∈ tasksOf drainedLog,
      (serveRequest drainingEdge bareClient).Completes (eventsOf request drainedLog) () := by
    intro request member
    rw [tasks, Finset.mem_insert, Finset.mem_singleton] at member
    rcases member with rfl | rfl
    · exact writtenEvents_complete 1
    · exact failedEvents_complete 2
  exact requests_counted_once drainingEdge (fun _ => bareClient) finished

end Oxo.Edge
