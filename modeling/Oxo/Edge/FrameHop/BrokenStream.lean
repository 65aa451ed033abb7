import Oxo.Edge.FrameHop.Discipline
import Oxo.Edge.FrameHop.Serving

/-!
Contract: a streamed response whose frames may break off
(`oxo-pingora-edge/src/platform/frame_hop.rs`, `stream_frames_downstream`, `exchange` and the end
of `send_to_worker`).

Owns: for which bytes behind a `Head` the client is shown the end of the response, and what comes
of the call and of its connection otherwise.

Does not own: a drain in the middle of the stream, refused admissions and failing downstream
writes.
-/

namespace Oxo.Edge.FrameHop

open Oxo.Foundation Oxo.Core.HopFrame

/-! ## Frames behind a head -/

/-- The payloads of the chunks among some frames. -/
def chunkBytes (frames : List ResponseFrame) : List UInt8 :=
  frames.flatMap fun
    | .chunk data => data
    | _ => []

/-- The frames that are decoded of the bytes behind a head: up to the one that ends or breaks the
response. -/
def decodedFrames (limit : Nat) (behind : List UInt8) : List ResponseFrame :=
  (serve limit (framesIn behind) 0 0).taken

/-- With some bytes counted already, an end is behind chunks only and the limits are kept. -/
def EndsFrom (limit before : Nat) (frames : List ResponseFrame) : Prop :=
  ∃ (chunks : List (List UInt8)) (behind : List ResponseFrame),
    frames = chunks.map .chunk ++ .endOfStream :: behind ∧
    before + chunks.flatten.length ≤ maxResponseBytes ∧ before + chunks.flatten.length ≤ limit

/-- An end is behind chunks only, and their bytes are within both limits. -/
def EndsWithin (limit : Nat) (frames : List ResponseFrame) : Prop :=
  ∃ (chunks : List (List UInt8)) (behind : List ResponseFrame),
    frames = chunks.map .chunk ++ .endOfStream :: behind ∧
    chunks.flatten.length ≤ maxResponseBytes ∧ chunks.flatten.length ≤ limit

private theorem endsFrom_zero (limit : Nat) (frames : List ResponseFrame) :
    EndsFrom limit 0 frames ↔ EndsWithin limit frames := by
  simp only [EndsFrom, EndsWithin, Nat.zero_add]

private theorem endsFrom_end {limit before : Nat} (room : before ≤ maxResponseBytes)
    (allowed : before ≤ limit) (behind : List ResponseFrame) :
    EndsFrom limit before (.endOfStream :: behind) :=
  ⟨[], behind, rfl, room, allowed⟩

private theorem endsFrom_chunk (limit before : Nat) (data : List UInt8)
    (rest : List ResponseFrame) :
    EndsFrom limit before (.chunk data :: rest) ↔ EndsFrom limit (before + data.length) rest := by
  constructor
  · rintro ⟨chunks, behind, same, room, allowed⟩
    cases chunks with
    | nil => cases same
    | cons chunk chunks =>
        simp only [List.map_cons, List.cons_append, List.cons.injEq,
          ResponseFrame.chunk.injEq] at same
        obtain ⟨rfl, same⟩ := same
        rw [List.flatten_cons, List.length_append, ← Nat.add_assoc] at room allowed
        exact ⟨chunks, behind, same, room, allowed⟩
  · rintro ⟨chunks, behind, rfl, room, allowed⟩
    refine ⟨data :: chunks, behind, rfl, ?_⟩
    rw [List.flatten_cons, List.length_append, ← Nat.add_assoc]
    exact ⟨room, allowed⟩

private theorem not_endsFrom_nil (limit before : Nat) : ¬ EndsFrom limit before [] := by
  rintro ⟨chunks, behind, same, -⟩
  cases chunks <;> cases same

private theorem not_endsFrom_other {limit before : Nat} {frame : ResponseFrame}
    (notChunk : ∀ data, frame ≠ .chunk data) (notEnd : frame ≠ .endOfStream)
    (rest : List ResponseFrame) : ¬ EndsFrom limit before (frame :: rest) := by
  rintro ⟨chunks, behind, same, -⟩
  cases chunks with
  | nil => exact notEnd (List.cons.inj same).1
  | cons chunk chunks => exact notChunk chunk (List.cons.inj same).1

/-- The stream comes to its end exactly then; neither count has saturated before a limit. -/
theorem serve_ended_iff {limit before : Nat} (room : before ≤ maxResponseBytes)
    (allowed : before ≤ limit) (frames : List ResponseFrame) :
    (serve limit frames before before).verdict = .ended ↔ EndsFrom limit before frames := by
  have bounded : maxResponseBytes < 2 ^ 64 - 1 := by decide
  induction frames generalizing before with
  | nil =>
      refine ⟨fun ended => ?_, fun ends => absurd ends (not_endsFrom_nil limit before)⟩
      cases ended
  | cons frame rest inductionHypothesis =>
      cases frame with
      | chunk data =>
          rw [endsFrom_chunk, serve]
          by_cases empty : data.isEmpty = true
          · rw [if_pos empty, List.isEmpty_iff.mp empty]
            exact inductionHypothesis room allowed
          · rw [if_neg empty]
            have beyond (past : ¬ (before + data.length ≤ maxResponseBytes ∧
                before + data.length ≤ limit)) : ¬ EndsFrom limit (before + data.length) rest := by
              rintro ⟨chunks, behind, -, within, kept⟩
              exact past ⟨(Nat.le_add_right _ _).trans within, (Nat.le_add_right _ _).trans kept⟩
            by_cases within : before + data.length ≤ maxResponseBytes
            · have unsaturated : min (before + data.length) (2 ^ 64 - 1) = before + data.length :=
                Nat.min_eq_left (within.trans (Nat.le_of_lt bounded))
              simp only [unsaturated]
              rw [if_neg (Nat.not_lt.mpr within)]
              by_cases kept : before + data.length ≤ limit
              · rw [if_pos kept]
                exact inductionHypothesis within kept
              · rw [if_neg kept]
                refine ⟨fun ended => ?_, fun ends => absurd ends (beyond fun both => kept both.2)⟩
                cases ended
            · have past : min (before + data.length) (2 ^ 64 - 1) > maxResponseBytes :=
                Nat.lt_min.mpr ⟨Nat.lt_of_not_le within, bounded⟩
              simp only
              rw [if_pos past]
              refine ⟨fun ended => ?_, fun ends => absurd ends (beyond fun both => within both.1)⟩
              cases ended
      | endOfStream => exact ⟨fun _ => endsFrom_end room allowed rest, fun _ => rfl⟩
      | head status headers =>
          refine ⟨fun ended => ?_, fun ends => absurd ends (not_endsFrom_other ?_ ?_ rest)⟩
          · cases ended
          · intro _ same
            cases same
          · intro same
            cases same
      | full status headers body =>
          refine ⟨fun ended => ?_, fun ends => absurd ends (not_endsFrom_other ?_ ?_ rest)⟩
          · cases ended
          · intro _ same
            cases same
          · intro same
            cases same

/-- Frames are taken from the front. -/
theorem serve_taken_isPrefix (limit : Nat) (frames : List ResponseFrame)
    (streamed counted : Nat) : (serve limit frames streamed counted).taken <+: frames := by
  have first (frame : ResponseFrame) (rest : List ResponseFrame) : [frame] <+: frame :: rest :=
    ⟨rest, rfl⟩
  induction frames generalizing streamed counted with
  | nil => exact List.prefix_refl []
  | cons frame rest inductionHypothesis =>
      cases frame with
      | chunk data =>
          rw [serve]
          split
          · exact (List.prefix_cons_inj _).mpr (inductionHypothesis streamed counted)
          · simp only
            split
            · exact first _ _
            · split
              · exact (List.prefix_cons_inj _).mpr (inductionHypothesis _ _)
              · exact first _ _
      | endOfStream | head | full => exact first _ _

/-- What is delivered opens the payloads of the frames that were taken. -/
theorem serve_parts_isPrefix (limit : Nat) (frames : List ResponseFrame)
    (streamed counted : Nat) : (serve limit frames streamed counted).parts.flatten <+:
      chunkBytes (serve limit frames streamed counted).taken := by
  induction frames generalizing streamed counted with
  | nil => exact List.prefix_refl []
  | cons frame rest inductionHypothesis =>
      cases frame with
      | chunk data =>
          rw [serve]
          split
          · next empty =>
              rw [List.isEmpty_iff.mp empty]
              exact inductionHypothesis streamed counted
          · simp only
            split
            · exact List.nil_prefix
            · split
              · exact List.prefix_append_right_inj data |>.mpr (inductionHypothesis _ _)
              · exact List.nil_prefix
      | endOfStream | head | full => exact List.nil_prefix

/-! ## The exchange -/

/-- What has been received of the bytes behind a head, and what has been written of it: an opening
of the chunks decoded so far, and the end exactly if it is there within the limits. -/
structure Written (around next : Interruptible) (behind received : List UInt8)
    (writes : List Downstream) : Prop where
  bytes : received ++ bytesOf next.segments = behind
  log : next.log = around.log ++ writes
  decoded : decodedFrames around.limit behind <+: framesIn received
  body : bodyOf writes <+: chunkBytes (decodedFrames around.limit behind)
  ends : .body none true ∈ writes ↔ EndsWithin around.limit (framesIn behind)

section

variable (around : Interruptible)

/-- The streaming loop behind a head, without a drain. -/
private theorem run_stream {rounds : Nat} {rbuf : FrameReadBuffer} {behind : List UInt8}
    (never : around.looks = none) (arrives : rbuf.pending ++ bytesOf around.segments = behind)
    (enough : behind.length < rounds) (stream : Nat) (header : ResponseHeader) (status : UInt16) :
    ∃ (result : Except UInt16 (UInt16 × FrameReadBuffer × Bool)) (next : Interruptible)
      (received : List UInt8) (writes : List Downstream),
      around.run (streamFramesDownstream rounds stream rbuf header status) = some (result, next) ∧
      Written around next behind received writes ∧ next.pooled = around.pooled ∧
      ((EndsWithin around.limit (framesIn behind) ∧ ∃ rest reusable,
          result = .ok (status, rest, reusable)) ∨
        (¬ EndsWithin around.limit (framesIn behind) ∧ result = .error 502)) := by
  have verdictIff := (serve_ended_iff (Nat.zero_le _) (Nat.zero_le around.limit)
    (framesIn behind)).trans (endsFrom_zero around.limit (framesIn behind))
  let top : Top := ⟨rbuf, some header, 0, { around with counted := 0 }⟩
  have remaining : top.remaining = behind := arrives
  obtain ⟨result, next, received, ran, whole, settled, pooled⟩ :=
    @Top.run_settled stream rounds top status never (by rwa [remaining])
  have written (ends : Bool)
      (all : top.serve (framesIn received) = top.serve (framesIn top.remaining))
      (log : next.log = around.log ++
        writesFor (some header) (top.serve (framesIn received)).parts ends)
      (shown : ends = true ↔ EndsWithin around.limit (framesIn behind)) :
      Written around next behind received
        (writesFor (some header) (top.serve (framesIn received)).parts ends) := by
    have decoded : decodedFrames around.limit behind = (top.serve (framesIn received)).taken := by
      rw [all, remaining]
      rfl
    refine ⟨whole.trans remaining, log, ?_, ?_, (end_mem_writesFor _ _ _).trans shown⟩
    · rw [decoded]
      exact serve_taken_isPrefix _ _ _ _
    · rw [bodyOf_writesFor, decoded]
      exact serve_parts_isPrefix _ _ _ _
  rw [streamFramesDownstream, Interruptible.run_tryAdmit, if_pos rfl]
  cases settled with
  | clean rest all verdict completion log =>
      rw [all, remaining] at verdict
      have ends := verdictIff.mp verdict
      exact ⟨_, next, received, _, ran, written true all log (iff_of_true rfl ends), pooled,
        .inl ⟨ends, rest, _, rfl⟩⟩
  | broken all verdict log =>
      rw [all, remaining] at verdict
      have broken := fun ends => verdict (verdictIff.mpr ends)
      exact ⟨_, next, received, _, ran,
        written false all log (iff_of_false Bool.false_ne_true broken), pooled,
        .inr ⟨broken, rfl⟩⟩
  | interrupted rest looks _ _ => exact absurd never looks

/-- The end of a successful exchange leaves all but the pool and the looks. -/
private theorem run_finishExchange (idx stream : Nat) (rbuf : FrameReadBuffer)
    (reusable : Bool) :
    ∃ looks pooled, Program.run Interruptible.answer (finishExchange idx stream rbuf reusable)
      around = some ((), { around with looks, pooled }) := by
  cases reusable with
  | false => exact ⟨around.looks, around.pooled, rfl⟩
  | true =>
      have looked : Program.run Interruptible.answer (finishExchange idx stream rbuf true) around =
          Program.run Interruptible.answer
            (if around.fired then pure () else checkin idx ⟨stream, rbuf⟩) around.afterLook :=
        rfl
      rw [looked]
      split
      · exact ⟨_, around.pooled, rfl⟩
      · unfold checkin
        split
        · exact ⟨_, _, rfl⟩
        · exact ⟨_, around.pooled, rfl⟩

end

/-- Behind a head, the client is shown the end of the response exactly if the end frame is behind
chunks only, within the limits. Everything else fails the call, and the connection is not put back
into the pool. -/
theorem broken_stream_not_ended {settings : HopSettings} {rounds idx : Nat}
    {request : List UInt8} {conn : PooledConn} {reused : Bool} {around : Interruptible}
    {status : UInt16} {headers : List (String × String)} {header : ResponseHeader}
    {behind : List UInt8} (never : around.looks = none)
    (head : cutFrame false (conn.rbuf.pending ++ bytesOf around.segments) =
      (.frame (.head status headers), behind))
    (built : buildResponseChunkedHeader settings status headers = .ok header)
    (enough : behind.length < rounds) :
    ∃ (result : Except FrameSendError UInt16) (next : Interruptible) (received : List UInt8)
      (writes : List Downstream),
      around.run (attempt settings rounds idx request conn reused) = some (result, next) ∧
      Written around next behind received writes ∧
      (EndsWithin around.limit (framesIn behind) → result = .ok status) ∧
      (¬ EndsWithin around.limit (framesIn behind) →
        (∃ code, result = .error (.afterWrite code)) ∧ next.pooled = around.pooled) := by
  obtain ⟨rest, segments, read, arrives⟩ := around.run_readFrame conn.stream head true
  obtain ⟨result, next, received, writes, streamed, written, pooled, outcome⟩ :=
    run_stream { around with segments } never arrives enough conn.stream header status
  have behindHead : Written around next behind received writes :=
    ⟨written.bytes, written.log, written.decoded, written.body, written.ends⟩
  have responded : Interruptible.run (exchange settings rounds conn request) around =
      some (result.mapError .status, next) := by
    unfold exchange
    rw [Interruptible.run_writeAll]
    simp only
    rw [Interruptible.run_bindOk (Interruptible.run_adapt read)]
    refine Interruptible.run_adapt ?_
    rw [respond, built, Interruptible.run_bindOk (Interruptible.run_settled _ _)]
    exact streamed
  unfold attempt
  rw [Interruptible.run_lift responded]
  obtain ⟨ends, rest, reusable, rfl⟩ | ⟨broken, rfl⟩ := outcome
  · obtain ⟨looks, put, finished⟩ := run_finishExchange next idx conn.stream rest reusable
    exact ⟨.ok status, _, received, writes, Interruptible.run_lift finished,
      ⟨behindHead.bytes, behindHead.log, behindHead.decoded, behindHead.body, behindHead.ends⟩,
      fun _ => rfl, fun broken => absurd ends broken⟩
  · exact ⟨_, next, received, writes, rfl, behindHead, fun ends => absurd ends broken,
      fun _ => ⟨⟨502, rfl⟩, pooled⟩⟩

/-- A worker that goes away behind a head and one chunk. -/
def cutOff : Interruptible :=
  { segments := [⟨191, (wire [.head 200 [], .chunk [97]]).tail⟩]
    closing := .eof
    looks := none
    limit := 2 ^ 20
    counted := 0
    log := []
    completion := none
    pooled := [] }

/-- Its response is broken, not ended. -/
theorem cut_off_stream_not_ended :
    ∃ (result : Except FrameSendError UInt16) (next : Interruptible) (received : List UInt8)
      (writes : List Downstream),
      cutOff.run (attempt documentedLibrary 20 0 [] ⟨1, .new⟩ false) = some (result, next) ∧
      Written cutOff next (wire [.chunk [97]]) received writes ∧
      (EndsWithin cutOff.limit (framesIn (wire [.chunk [97]])) → result = .ok 200) ∧
      (¬ EndsWithin cutOff.limit (framesIn (wire [.chunk [97]])) →
        (∃ code, result = .error (.afterWrite code)) ∧ next.pooled = cutOff.pooled) := by
  have head : cutFrame false (FrameReadBuffer.new.pending ++ bytesOf cutOff.segments) =
      (.frame (.head 200 []), wire [.chunk [97]]) := by
    decide +kernel
  exact broken_stream_not_ended rfl head rfl (by decide +kernel)

end Oxo.Edge.FrameHop
