import Mathlib.Data.UInt
import Oxo.Foundation.Interleaving

/-!
Contract: the request counters of the edge
(`oxo-pingora-edge/src/platform/telemetry.rs`).

Owns: the atomic counters and gauges, what a sequence of atomic operations leaves in them, and
the recording functions, each as the atomic operations it performs.

Does not own: when a request is recorded, the readiness and metrics texts, or the counters that
other components keep.
-/

namespace Oxo.Edge

open Oxo.Foundation

/-! ## Atomics -/

inductive Counter where
  | inFlight
  | requestsTotal
  | responsesTotal
  | rejectionsTotal
  | status2xxTotal
  | status4xxTotal
  | status5xxTotal
  | statusOtherTotal
  | rateLimitedTotal
deriving DecidableEq

/-- Atomics that are only stored to. -/
inductive Gauge where
  | lastResponseStatus
  | lastRejectionStatus
  | lastRequestSeq
deriving DecidableEq

structure EdgeTelemetry where
  counters : Counter → UInt64
  gauges : Gauge → UInt64

/-- `EdgeTelemetry::new`. -/
def EdgeTelemetry.new : EdgeTelemetry where
  counters _ := 0
  gauges _ := 0

/-- One atomic operation, or one line of the log. -/
inductive TelemetryOp where
  | fetchAdd (counter : Counter)
  | fetchSub (counter : Counter)
  | store (gauge : Gauge) (value : UInt64)
  | log (requestId outcome : String) (status : UInt16)
deriving DecidableEq

def EdgeTelemetry.after (telemetry : EdgeTelemetry) : TelemetryOp → EdgeTelemetry
  | .fetchAdd counter =>
      { telemetry with
        counters := Function.update telemetry.counters counter (telemetry.counters counter + 1) }
  | .fetchSub counter =>
      { telemetry with
        counters := Function.update telemetry.counters counter (telemetry.counters counter - 1) }
  | .store gauge value =>
      { telemetry with gauges := Function.update telemetry.gauges gauge value }
  | .log _ _ _ => telemetry

/-- How often each counter is added to and subtracted from. -/
abbrev Ledger := (Counter → Nat) × (Counter → Nat)

def TelemetryOp.entry : TelemetryOp → Ledger
  | .fetchAdd counter => (Pi.single counter 1, 0)
  | .fetchSub counter => (0, Pi.single counter 1)
  | .store _ _ => 0
  | .log _ _ _ => 0

/-- An operation moves a counter by its entry, in words. -/
theorem counters_after (telemetry : EdgeTelemetry) (op : TelemetryOp) (counter : Counter) :
    (telemetry.after op).counters counter =
      telemetry.counters counter + UInt64.ofNat (op.entry.1 counter) -
        UInt64.ofNat (op.entry.2 counter) := by
  cases op with
  | fetchAdd other =>
      by_cases same : counter = other
      · subst same
        simp [EdgeTelemetry.after, TelemetryOp.entry]
      · simp [EdgeTelemetry.after, TelemetryOp.entry, same]
  | fetchSub other =>
      by_cases same : counter = other
      · subst same
        simp [EdgeTelemetry.after, TelemetryOp.entry]
      · simp [EdgeTelemetry.after, TelemetryOp.entry, same]
  | store gauge value => simp [EdgeTelemetry.after, TelemetryOp.entry]
  | log requestId outcome status => simp [EdgeTelemetry.after, TelemetryOp.entry]

/-! ## Recording -/

inductive RequestLogMode where
  | off
  | rejections
  | all
deriving DecidableEq

def RequestLogMode.logsResponses (mode : RequestLogMode) : Bool :=
  mode == .all

def RequestLogMode.logsRejections (mode : RequestLogMode) : Bool :=
  mode != .off

def statusClass (status : UInt16) : Counter :=
  if 200 ≤ status && status ≤ 299 then .status2xxTotal
  else if 400 ≤ status && status ≤ 499 then .status4xxTotal
  else if 500 ≤ status && status ≤ 599 then .status5xxTotal
  else .statusOtherTotal

def recordStatusClass (status : UInt16) : List TelemetryOp :=
  [.fetchAdd (statusClass status)]

def logIf (logs : Bool) (requestId outcome : String) (status : UInt16) : List TelemetryOp :=
  if logs then [.log requestId outcome status] else []

def startRequest (requestSequence : UInt64) : List TelemetryOp :=
  [.fetchAdd .requestsTotal, .fetchAdd .inFlight, .store .lastRequestSeq requestSequence]

/-- The drop of a `RequestObservation`. -/
def dropObservation : List TelemetryOp :=
  [.fetchSub .inFlight]

def recordResponse (mode : RequestLogMode) (requestId : String) (status : UInt16) :
    List TelemetryOp :=
  [.fetchAdd .responsesTotal, .store .lastResponseStatus status.toUInt64] ++
    recordStatusClass status ++ logIf mode.logsResponses requestId "response" status

def recordRejection (mode : RequestLogMode) (requestId : String) (status : UInt16) :
    List TelemetryOp :=
  [.fetchAdd .rejectionsTotal, .store .lastRejectionStatus status.toUInt64] ++
    recordStatusClass status ++ logIf mode.logsRejections requestId "rejection" status

def recordRateLimited (mode : RequestLogMode) (requestId : String) : List TelemetryOp :=
  [.fetchAdd .rateLimitedTotal, .fetchAdd .rejectionsTotal, .store .lastRejectionStatus 503] ++
    recordStatusClass 503 ++ logIf mode.logsRejections requestId "rate_limited" 503

def recordOverloaded (mode : RequestLogMode) (requestId : String) : List TelemetryOp :=
  [.fetchAdd .rejectionsTotal, .store .lastRejectionStatus 503] ++
    recordStatusClass 503 ++ logIf mode.logsRejections requestId "overloaded" 503

/-! ## What recording adds -/

def Ledger.outcomes (ledger : Ledger) : Nat :=
  ledger.1 .responsesTotal + ledger.1 .rejectionsTotal

def Ledger.classes (ledger : Ledger) : Nat :=
  ledger.1 .status2xxTotal + ledger.1 .status4xxTotal + ledger.1 .status5xxTotal +
    ledger.1 .statusOtherTotal

def ledgerOf (ops : List TelemetryOp) : Ledger :=
  (ops.map TelemetryOp.entry).sum

/-- A number of outcomes, each with its class, and nothing else of a request. -/
structure Ledger.Records (ledger : Ledger) (count : Nat) : Prop where
  outcomes : ledger.outcomes = count
  classes : ledger.classes = count
  requests : ledger.1 .requestsTotal = 0
  entered : ledger.1 .inFlight = 0
  left : ledger.2 = 0

theorem Ledger.Records.zero : (0 : Ledger).Records 0 :=
  ⟨rfl, rfl, rfl, rfl, rfl⟩

theorem Ledger.outcomes_add (first second : Ledger) :
    (first + second).outcomes = first.outcomes + second.outcomes := by
  simp only [Ledger.outcomes, Prod.fst_add, Pi.add_apply]
  omega

theorem Ledger.classes_add (first second : Ledger) :
    (first + second).classes = first.classes + second.classes := by
  simp only [Ledger.classes, Prod.fst_add, Pi.add_apply]
  omega

theorem Ledger.Records.add {first second : Ledger} {few more : Nat} (records : first.Records few)
    (others : second.Records more) : (first + second).Records (few + more) where
  outcomes := by
    rw [Ledger.outcomes_add, records.outcomes, others.outcomes]
  classes := by
    rw [Ledger.classes_add, records.classes, others.classes]
  requests := by
    rw [Prod.fst_add, Pi.add_apply, records.requests, others.requests]
  entered := by
    rw [Prod.fst_add, Pi.add_apply, records.entered, others.entered]
  left := by
    rw [Prod.snd_add, records.left, others.left, add_zero]

theorem ledgerOf_append (first second : List TelemetryOp) :
    ledgerOf (first ++ second) = ledgerOf first + ledgerOf second := by
  rw [ledgerOf, List.map_append, List.sum_append]
  rfl

private theorem records_logIf (logs : Bool) (requestId outcome : String) (status : UInt16) :
    (ledgerOf (logIf logs requestId outcome status)).Records 0 := by
  cases logs <;> exact .zero

/-- Any status falls in one class. -/
private theorem statusClass_cases (status : UInt16) :
    statusClass status ∈ ([.status2xxTotal, .status4xxTotal, .status5xxTotal, .statusOtherTotal] :
      List Counter) := by
  unfold statusClass
  split_ifs <;> decide

private theorem records_pair {outcome : Counter}
    (isOutcome : outcome ∈ ([.responsesTotal, .rejectionsTotal] : List Counter))
    (status : UInt16) :
    (ledgerOf [.fetchAdd outcome, .fetchAdd (statusClass status)]).Records 1 := by
  have isClass := statusClass_cases status
  generalize statusClass status = statusClass at isClass ⊢
  have left : (ledgerOf [.fetchAdd outcome, .fetchAdd statusClass]).2 = 0 := by
    simp [ledgerOf, TelemetryOp.entry]
  have numbers : ∀ outcome ∈ ([.responsesTotal, .rejectionsTotal] : List Counter),
      ∀ statusClass ∈ ([.status2xxTotal, .status4xxTotal, .status5xxTotal, .statusOtherTotal] :
        List Counter),
      (ledgerOf [.fetchAdd outcome, .fetchAdd statusClass]).outcomes = 1 ∧
      (ledgerOf [.fetchAdd outcome, .fetchAdd statusClass]).classes = 1 ∧
      (ledgerOf [.fetchAdd outcome, .fetchAdd statusClass]).1 .requestsTotal = 0 ∧
      (ledgerOf [.fetchAdd outcome, .fetchAdd statusClass]).1 .inFlight = 0 := by
    decide
  obtain ⟨outcomes, classes, requests, entered⟩ := numbers outcome isOutcome statusClass isClass
  exact ⟨outcomes, classes, requests, entered, left⟩

/-- Stores and log lines add nothing. -/
private theorem records_outcome (outcome : Counter)
    (isOutcome : outcome ∈ ([.responsesTotal, .rejectionsTotal] : List Counter)) (gauge : Gauge)
    (value : UInt64) (status : UInt16) (logs : Bool) (requestId text : String) :
    (ledgerOf ([.fetchAdd outcome, .store gauge value] ++ recordStatusClass status ++
      logIf logs requestId text status)).Records 1 := by
  have same : ledgerOf ([.fetchAdd outcome, .store gauge value] ++ recordStatusClass status) =
      ledgerOf [.fetchAdd outcome, .fetchAdd (statusClass status)] := by
    simp [ledgerOf, recordStatusClass, TelemetryOp.entry]
  rw [ledgerOf_append, same]
  exact (records_pair isOutcome status).add (records_logIf logs requestId text status)

theorem records_recordResponse (mode : RequestLogMode) (requestId : String) (status : UInt16) :
    (ledgerOf (recordResponse mode requestId status)).Records 1 :=
  records_outcome .responsesTotal (by decide) ..

theorem records_recordRejection (mode : RequestLogMode) (requestId : String) (status : UInt16) :
    (ledgerOf (recordRejection mode requestId status)).Records 1 :=
  records_outcome .rejectionsTotal (by decide) ..

theorem records_recordOverloaded (mode : RequestLogMode) (requestId : String) :
    (ledgerOf (recordOverloaded mode requestId)).Records 1 :=
  records_outcome .rejectionsTotal (by decide) ..

/-- A rate limit counts as a rejection. -/
theorem records_recordRateLimited (mode : RequestLogMode) (requestId : String) :
    (ledgerOf (recordRateLimited mode requestId)).Records 1 := by
  have limited : (ledgerOf [.fetchAdd .rateLimitedTotal]).Records 0 := by
    refine ⟨by decide, by decide, by decide, by decide, ?_⟩
    simp [ledgerOf, TelemetryOp.entry]
  have both := limited.add (records_outcome .rejectionsTotal (by decide) .lastRejectionStatus 503
    503 mode.logsRejections requestId "rate_limited")
  rwa [← ledgerOf_append] at both

end Oxo.Edge
