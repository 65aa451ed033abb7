import Oxo.Edge.FrameHop.Interruptible
import Oxo.Edge.FrameHop.Streaming

/-!
Contract: what a streamed response delivers of the bytes a worker sends
(`oxo-pingora-edge/src/platform/frame_hop.rs`, `stream_frames_downstream`).

Owns: the frames that stand whole in some bytes, what of them is for the client, the rounds of the
streaming loop, and how the loop comes out whatever the bytes, their arrival and the drain
signal are.

Does not own: the exchange around the loop.
-/

namespace Oxo.Edge.FrameHop

open Oxo.Foundation Oxo.Core.HopFrame

/-! ## Whole frames in some bytes -/

def wholeFrames : (fuel : Nat) → List UInt8 → List ResponseFrame
  | 0, _ => []
  | fuel + 1, bytes =>
      match cutFrame false bytes with
      | (.frame frame, behind) => frame :: wholeFrames fuel behind
      | _ => []

/-- The frames in front of some bytes, up to the first place without a whole one. -/
def framesIn (bytes : List UInt8) : List ResponseFrame :=
  wholeFrames bytes.length bytes

theorem length_of_cutFrame {bytes behind : List UInt8} {frame : ResponseFrame}
    (cut : cutFrame false bytes = (.frame frame, behind)) : behind.length < bytes.length := by
  have front : 0 < frame.wireBytes.length := by
    rw [ResponseFrame.wireBytes, framed_length]
    exact Nat.add_pos_left (by decide) _
  rw [cutFrame_eq_frame cut, List.length_append]
  exact Nat.lt_add_of_pos_left front

private theorem wholeFrames_stable {fuel more : Nat} {bytes : List UInt8}
    (enough : bytes.length ≤ fuel) (alsoEnough : bytes.length ≤ more) :
    wholeFrames fuel bytes = wholeFrames more bytes := by
  induction fuel generalizing more bytes with
  | zero =>
      have empty : bytes = [] := List.eq_nil_of_length_eq_zero (Nat.le_zero.mp enough)
      rw [empty]
      cases more <;> rfl
  | succ fuel inductionHypothesis =>
      cases more with
      | zero =>
          have empty : bytes = [] := List.eq_nil_of_length_eq_zero (Nat.le_zero.mp alsoEnough)
          rw [empty]
          rfl
      | succ more =>
          rw [wholeFrames, wholeFrames]
          split
          · next frame behind cut =>
              have shorter := length_of_cutFrame cut
              rw [@inductionHypothesis more _ (by omega) (by omega)]
          · rfl

theorem framesIn_of_cut {bytes behind : List UInt8} {frame : ResponseFrame}
    (cut : cutFrame false bytes = (.frame frame, behind)) :
    framesIn bytes = frame :: framesIn behind := by
  have shorter := length_of_cutFrame cut
  obtain ⟨fuel, isSucc⟩ := Nat.exists_eq_succ_of_ne_zero (Nat.ne_of_gt (Nat.zero_lt_of_lt shorter))
  unfold framesIn
  rw [isSucc, wholeFrames, cut]
  simp only [List.cons.injEq, true_and]
  exact wholeFrames_stable (by omega) le_rfl

theorem framesIn_of_noFrame {bytes : List UInt8} (none : NoFrame bytes) : framesIn bytes = [] := by
  unfold framesIn
  cases bytes.length with
  | zero => rfl
  | succ fuel =>
      rw [wholeFrames]
      split
      · next frame behind cut => exact absurd cut (none frame behind)
      · rfl

theorem accepted_of_cutFrame {bytes behind : List UInt8} {frame : ResponseFrame}
    (cut : cutFrame false bytes = (.frame frame, behind)) :
    frame.Accepted responseFrameCaps := by
  unfold cutFrame at cut
  split at cut
  · cases cut
  · split at cut
    · cases cut
    · split at cut
      · cases cut
      · unfold cutEnvelope at cut
        simp only at cut
        split at cut
        · cases cut
        · split at cut
          · cases cut
          · next found decoded =>
              simp only [Prod.mk.injEq, FrameResult.frame.injEq] at cut
              obtain ⟨rfl, -⟩ := cut
              exact ((decodeResponse_eq_ok _ _ _).mp decoded).1

/-! ## What is for the client -/

/-- How the frames leave the stream: open for more, at its end, or broken. -/
inductive Verdict where
  | more
  | ended
  | refused
deriving DecidableEq, Repr

/-- The payloads that go downstream, the frames that were taken for them, and the verdict. -/
structure Served where
  parts : List (List UInt8)
  taken : List ResponseFrame
  verdict : Verdict

def Served.stop (verdict : Verdict) (taken : List ResponseFrame) : Served :=
  ⟨[], taken, verdict⟩

/-- A frame that has been taken in front of others, with the payload it gives. -/
def Served.behind (served : Served) (frame : ResponseFrame) (parts : List (List UInt8)) : Served :=
  ⟨parts ++ served.parts, frame :: served.taken, served.verdict⟩

/-- Chunks are delivered while they stay within the response limit and the admission's. -/
def serve (limit : Nat) : List ResponseFrame → (streamed counted : Nat) → Served
  | [], _, _ => .stop .more []
  | .chunk data :: rest, streamed, counted =>
      if data.isEmpty then (serve limit rest streamed counted).behind (.chunk data) []
      else
        let streamed := min (streamed + data.length) (2 ^ 64 - 1)
        let counted := min (counted + data.length) (2 ^ 64 - 1)
        if streamed > maxResponseBytes then .stop .refused [.chunk data]
        else if counted ≤ limit then
          (serve limit rest streamed counted).behind (.chunk data) [data]
        else .stop .refused [.chunk data]
  | .endOfStream :: _, _, _ => .stop .ended [.endOfStream]
  | .head status headers :: _, _, _ => .stop .refused [.head status headers]
  | .full status headers body :: _, _, _ => .stop .refused [.full status headers body]

/-! ## Rounds -/

/-- The streaming loop at its top. -/
structure Top where
  rbuf : FrameReadBuffer
  owed : Option ResponseHeader
  streamed : Nat
  around : Interruptible

/-- The writes of some payloads, behind the header if it is owed, and of the end. -/
def writesFor (owed : Option ResponseHeader) (parts : List (List UInt8)) (ends : Bool) :
    List Downstream :=
  if parts = [] ∧ ends = false then []
  else owed.toList.map (.header · false) ++ parts.map (fun part => .body (some part) false) ++
    if ends then [.body none true] else []

theorem bodyOf_writesFor (owed : Option ResponseHeader) (parts : List (List UInt8))
    (ends : Bool) : bodyOf (writesFor owed parts ends) = parts.flatten := by
  have headers : bodyOf (owed.toList.map (.header · false)) = [] := by
    cases owed <;> rfl
  have bodies : bodyOf (parts.map fun part => .body (some part) false) = parts.flatten := by
    induction parts with
    | nil => rfl
    | cons part rest inductionHypothesis => simp [bodyOf, inductionHypothesis]
  unfold writesFor
  split
  · next nothing => rw [nothing.1]; rfl
  · rw [bodyOf_append, bodyOf_append, headers, bodies]
    cases ends <;> simp [bodyOf]

theorem end_mem_writesFor (owed : Option ResponseHeader) (parts : List (List UInt8))
    (ends : Bool) : .body none true ∈ writesFor owed parts ends ↔ ends = true := by
  unfold writesFor
  split
  · next nothing => simp [nothing.2]
  · cases ends <;> simp

namespace Top

/-- The bytes of the worker that are not in a taken frame. -/
def remaining (top : Top) : List UInt8 :=
  top.rbuf.pending ++ bytesOf top.around.segments

def run (top : Top) (stream : Nat) (status : UInt16) (rounds : Nat) :
    Option (Except UInt16 (UInt16 × FrameReadBuffer × Bool) × Interruptible) :=
  top.around.run (streamLoop stream status rounds top.rbuf top.owed top.streamed)

def serve (top : Top) (frames : List ResponseFrame) : Served :=
  FrameHop.serve top.around.limit frames top.streamed top.around.counted

/-- The top of the next round, if the loop comes to it: the signal is not seen, and a chunk is read
that is empty or within the limits. -/
def step (stream : Nat) (top : Top) : Option Top :=
  if top.around.fired then none
  else match top.around.afterLook.run (top.rbuf.readFrameOrDrain stream) with
    | some (.ok (some (.chunk data, rest)), around) =>
        if data.isEmpty then some ⟨rest, top.owed, top.streamed, around⟩
        else
          let streamed := min (top.streamed + data.length) (2 ^ 64 - 1)
          let counted := min (around.counted + data.length) (2 ^ 64 - 1)
          if streamed > maxResponseBytes then none
          else if counted ≤ around.limit then
            some ⟨rest, none, streamed,
              { around with counted, log := around.log ++ writesFor top.owed [data] false }⟩
          else none
    | _ => none

/-- How the loop comes out of a top when it has received some bytes and taken all frames that
stand whole in them and are for it: at the end, broken, or interrupted in a wait. Unless it was
interrupted, more bytes would have made no difference. -/
inductive Settled (top : Top) (status : UInt16) (received : List UInt8) :
    Except UInt16 (UInt16 × FrameReadBuffer × Bool) → Interruptible → Prop
  | clean {next : Interruptible} (rest : FrameReadBuffer)
      (all : top.serve (framesIn received) = top.serve (framesIn top.remaining))
      (verdict : (top.serve (framesIn received)).verdict = .ended)
      (completion : next.completion = some .clean)
      (log : next.log = top.around.log ++
        writesFor top.owed (top.serve (framesIn received)).parts true) :
      Settled top status received (.ok (status, rest, !rest.hasSurplus)) next
  | broken {next : Interruptible}
      (all : top.serve (framesIn received) = top.serve (framesIn top.remaining))
      (verdict : (top.serve (framesIn received)).verdict ≠ .ended)
      (log : next.log = top.around.log ++
        writesFor top.owed (top.serve (framesIn received)).parts false) :
      Settled top status received (.error 502) next
  | interrupted {next : Interruptible} (rest : FrameReadBuffer) (looks : top.around.looks ≠ none)
      (verdict : (top.serve (framesIn received)).verdict = .more)
      (log : next.log = top.around.log ++
        writesFor top.owed (top.serve (framesIn received)).parts true) :
      Settled top status received (.ok (status, rest, false)) next

/-- A top that has seen the signal cuts the stream in front of what its buffer holds. -/
structure Cut (top : Top) (next : Interruptible) : Prop where
  segments : next.segments = top.around.segments
  completion : next.completion = some .drained
  log : next.log = top.around.log ++ writesFor top.owed [] true
  pooled : next.pooled = top.around.pooled

/-! ## One round -/

/-- What a round that comes to the next top has done. -/
structure Stepped (top next : Top) (data : List UInt8) : Prop where
  cut : cutFrame false top.remaining = (.frame (.chunk data), next.remaining)
  serve : ∀ frames, top.serve (.chunk data :: frames) =
    (next.serve frames).behind (.chunk data) (if data.isEmpty then [] else [data])
  log : ∀ parts ends, next.around.log ++ writesFor next.owed parts ends =
    top.around.log ++ writesFor top.owed ((if data.isEmpty then [] else [data]) ++ parts) ends
  looks : top.around.looks = none → next.around.looks = none
  pooled : next.around.pooled = top.around.pooled

private theorem run_writeOwedHeader (around : Interruptible) (owed : Option ResponseHeader) :
    around.run (writeOwedHeader owed) =
      some (.ok (), { around with log := around.log ++ owed.toList.map (.header · false) }) := by
  cases owed with
  | none => simp [writeOwedHeader, Interruptible.run]
  | some header => rfl

private theorem writesFor_cons (owed : Option ResponseHeader) (part : List UInt8)
    (parts : List (List UInt8)) (ends : Bool) :
    writesFor owed (part :: parts) ends = writesFor owed [part] false ++ writesFor none parts ends := by
  unfold writesFor
  cases parts with
  | nil => cases ends <;> simp
  | cons next rest => simp

/-- The read of a round, behind a look that has not seen the signal. -/
private theorem read_top (stream : Nat) (top : Top) :
    ∃ (result : Except UInt16 (Option (ResponseFrame × FrameReadBuffer)))
      (segments : List Segment) (looks : Option Nat) (held : List UInt8),
      top.around.afterLook.run (top.rbuf.readFrameOrDrain stream) =
        some (result, { top.around with segments, looks }) ∧
      (top.around.looks = none → looks = none) ∧ held ++ bytesOf segments = top.remaining ∧
      Takes (top.around.looks ≠ none) held (bytesOf segments) result := by
  obtain ⟨result, segments, looks, held, ran, never, whole, takes⟩ :=
    Interruptible.run_readFrameOrDrain top.around.afterLook stream top.rbuf
  have unset : top.around.looks = none → top.around.afterLook.looks = none := by
    intro never
    rw [Interruptible.afterLook, never]
    rfl
  exact ⟨result, segments, looks, held, ran, fun before => never (unset before), whole,
    Takes.mono takes fun set before => set (unset before)⟩

/-- A round with a chunk, up to what the limits say of it. -/
private theorem step_of_chunk {stream : Nat} {top : Top} {data : List UInt8}
    {rest : FrameReadBuffer} {around : Interruptible} (unfired : top.around.fired = false)
    (ran : top.around.afterLook.run (top.rbuf.readFrameOrDrain stream) =
      some (.ok (some (.chunk data, rest)), around)) :
    top.step stream =
      if data.isEmpty then some ⟨rest, top.owed, top.streamed, around⟩
      else if min (top.streamed + data.length) (2 ^ 64 - 1) > maxResponseBytes then none
      else if min (around.counted + data.length) (2 ^ 64 - 1) ≤ around.limit then
        some ⟨rest, none, min (top.streamed + data.length) (2 ^ 64 - 1),
          { around with
            counted := min (around.counted + data.length) (2 ^ 64 - 1)
            log := around.log ++ writesFor top.owed [data] false }⟩
      else none := by
  simp only [step, unfired, Bool.false_eq_true, if_false, ran]

/-- A top that is stepped from has not seen the signal and has read a chunk. -/
private theorem chunk_of_step {stream : Nat} {top next : Top}
    (steps : top.step stream = some next) :
    top.around.fired = false ∧ ∃ data rest around,
      top.around.afterLook.run (top.rbuf.readFrameOrDrain stream) =
        some (.ok (some (.chunk data, rest)), around) := by
  unfold step at steps
  split at steps
  · cases steps
  · next unfired =>
      refine ⟨Bool.eq_false_iff.mpr unfired, ?_⟩
      split at steps
      · next data rest around ran => exact ⟨data, rest, around, ran⟩
      · cases steps

theorem unfired_of_step {stream : Nat} {top next : Top} (steps : top.step stream = some next) :
    top.around.fired = false :=
  (chunk_of_step steps).1

theorem stepped_of_step {stream : Nat} {top next : Top} (steps : top.step stream = some next) :
    ∃ data, Stepped top next data := by
  obtain ⟨unfired, data, rest, around, ran⟩ := chunk_of_step steps
  obtain ⟨result, segments, looks, held, read, never, whole, takes⟩ := read_top stream top
  rw [read] at ran
  cases ran
  have cutHeld : cutFrame false held = (.frame (.chunk data), rest.pending) := takes
  have cut : cutFrame false top.remaining =
      (.frame (.chunk data), rest.pending ++ bytesOf segments) := by
    rw [← whole]
    exact cutFrame_append cutHeld _
  rw [step_of_chunk unfired read] at steps
  refine ⟨data, ?_⟩
  cases empty : data.isEmpty with
  | true =>
      rw [if_pos empty] at steps
      cases steps
      refine ⟨cut, fun frames => ?_, fun parts ends => ?_, never, rfl⟩
      · simp only [Top.serve, FrameHop.serve, empty, if_true]
      · rw [empty, if_pos rfl, List.nil_append]
  | false =>
      rw [if_neg (Bool.eq_false_iff.mp empty)] at steps
      split at steps
      · cases steps
      · next room =>
          split at steps
          · next allowed =>
              cases steps
              refine ⟨cut, fun frames => ?_, fun parts ends => ?_, never, rfl⟩
              · simp only [Top.serve, FrameHop.serve, empty, Bool.false_eq_true, if_false, room,
                  allowed, if_true]
              · rw [empty, if_neg Bool.false_ne_true, List.singleton_append,
                  writesFor_cons top.owed data parts, ← List.append_assoc]
          · cases steps

theorem run_step {stream : Nat} {top next : Top} (steps : top.step stream = some next)
    (status : UInt16) (rounds : Nat) :
    top.run stream status (rounds + 1) = next.run stream status rounds := by
  obtain ⟨unfired, data, rest, around, ran⟩ := chunk_of_step steps
  rw [step_of_chunk unfired ran] at steps
  rw [Top.run, streamLoop, Interruptible.run_drainBorrow, unfired]
  simp only [Bool.false_eq_true, if_false]
  rw [Interruptible.run_bindOk ran]
  cases empty : data.isEmpty with
  | true =>
      rw [if_pos empty] at steps
      cases steps
      simp only [empty, if_true]
      rfl
  | false =>
      rw [if_neg (Bool.eq_false_iff.mp empty)] at steps
      simp only [empty, Bool.false_eq_true, if_false]
      split at steps
      · cases steps
      · next room =>
          split at steps
          · next allowed =>
              cases steps
              rw [if_neg room, Interruptible.run_recordBytes]
              simp only [allowed, decide_true, if_true]
              rw [Interruptible.run_bindOk (run_writeOwedHeader _ _)]
              simp only [Top.run, writesFor, List.cons_ne_nil, false_and, if_false,
                Bool.false_eq_true, List.append_nil, List.map_cons, List.map_nil,
                ← List.append_assoc]
              rfl
          · cases steps

/-- A round that begins with the signal seen. -/
theorem run_cut (stream : Nat) {top : Top} (fired : top.around.fired = true) (status : UInt16)
    (rounds : Nat) :
    ∃ next, top.run stream status (rounds + 1) = some (.ok (status, top.rbuf, false), next) ∧
      Cut top next := by
  rw [Top.run, streamLoop, Interruptible.run_drainBorrow, fired]
  simp only [if_true]
  rw [Interruptible.run_bindOk (run_writeOwedHeader _ _)]
  refine ⟨_, rfl, rfl, rfl, ?_, rfl⟩
  simp [writesFor, Interruptible.afterLook]

/-- A last round that begins without. -/
theorem run_last {stream : Nat} {top : Top} (last : top.step stream = none)
    (unfired : top.around.fired = false) (status : UInt16) (rounds : Nat) :
    ∃ result next received, top.run stream status (rounds + 1) = some (result, next) ∧
      received ++ bytesOf next.segments = top.remaining ∧ Settled top status received result next ∧
      next.pooled = top.around.pooled := by
  rw [Top.run, streamLoop, Interruptible.run_drainBorrow, unfired]
  simp only [Bool.false_eq_true, if_false]
  obtain ⟨result, segments, looks, held, ran, never, whole, takes⟩ := read_top stream top
  have untouched : ∀ ends, top.around.log ++ writesFor top.owed [] ends =
      if ends then top.around.log ++ top.owed.toList.map (.header · false) ++ [.body none true]
      else top.around.log := by
    intro ends
    cases ends <;> simp [writesFor]
  rcases result with code | (_ | ⟨frame, rest⟩)
  · obtain ⟨isStatus, noFrame⟩ := takes
    subst isStatus
    refine ⟨_, _, held, Interruptible.run_bindError ran, whole, .broken ?_ ?_ ?_, rfl⟩
    · rw [← whole, framesIn_of_noFrame noFrame, framesIn_of_noFrame noFrame.of_append]
    · rw [framesIn_of_noFrame noFrame.of_append]
      intro same
      cases same
    · rw [framesIn_of_noFrame noFrame.of_append]
      exact (untouched false).symm
  · obtain ⟨seen, noFrame⟩ := takes
    rw [Interruptible.run_bindOk ran]
    simp only
    rw [Interruptible.run_bindOk (run_writeOwedHeader _ _)]
    refine ⟨_, _, held, rfl, whole, .interrupted top.rbuf seen ?_ ?_, rfl⟩
    · rw [framesIn_of_noFrame noFrame]
      rfl
    · rw [framesIn_of_noFrame noFrame]
      exact (untouched true).symm
  · have cutHeld : cutFrame false held = (.frame frame, rest.pending) := takes
    have frames : framesIn held = frame :: framesIn rest.pending := framesIn_of_cut cutHeld
    have allFrames : framesIn top.remaining =
        frame :: framesIn (rest.pending ++ bytesOf segments) := by
      rw [← whole]
      exact framesIn_of_cut (cutFrame_append cutHeld _)
    rw [Interruptible.run_bindOk ran]
    have refused : ∀ next : Interruptible, next.log = top.around.log →
        (∀ later, top.serve (frame :: later) = .stop .refused [frame]) →
        Settled top status held (.error 502) next := by
      intro next log served
      refine .broken ?_ ?_ ?_
      · rw [frames, allFrames, served, served]
      · rw [frames, served]
        intro same
        cases same
      · rw [frames, served, log]
        exact (untouched false).symm
    cases frame with
    | chunk data =>
        rw [step_of_chunk unfired ran] at last
        simp only
        cases empty : data.isEmpty with
        | true =>
            rw [if_pos empty] at last
            cases last
        | false =>
            rw [if_neg (Bool.eq_false_iff.mp empty)] at last
            simp only [Bool.false_eq_true, if_false]
            by_cases room : min (top.streamed + data.length) (2 ^ 64 - 1) > maxResponseBytes
            · rw [if_pos room]
              refine ⟨_, _, held, rfl, whole, refused _ rfl fun later => ?_, rfl⟩
              simp only [Top.serve, FrameHop.serve, empty, Bool.false_eq_true, if_false, room,
                if_true]
            · rw [if_neg room] at last ⊢
              rw [Interruptible.run_recordBytes]
              by_cases allowed : min (top.around.counted + data.length) (2 ^ 64 - 1) ≤
                  top.around.limit
              · rw [if_pos allowed] at last
                cases last
              · simp only [allowed, decide_false, Bool.false_eq_true, if_false]
                refine ⟨_, _, held, rfl, whole, refused _ rfl fun later => ?_, rfl⟩
                simp only [Top.serve, FrameHop.serve, empty, Bool.false_eq_true, if_false, room,
                  allowed]
    | endOfStream =>
        simp only
        rw [Interruptible.run_bindOk (run_writeOwedHeader _ _)]
        refine ⟨_, _, held, rfl, whole, .clean rest ?_ ?_ rfl ?_, rfl⟩
        · rw [frames, allFrames]
          rfl
        · rw [frames]
          rfl
        · rw [frames]
          exact (untouched true).symm
    | head code headers =>
        exact ⟨_, _, held, rfl, whole, refused _ rfl fun later => rfl, rfl⟩
    | full code headers body =>
        exact ⟨_, _, held, rfl, whole, refused _ rfl fun later => rfl, rfl⟩

/-! ## All rounds -/

theorem Stepped.frames {top next : Top} {data : List UInt8} (stepped : Stepped top next data)
    (received : List UInt8) :
    framesIn ((ResponseFrame.chunk data).wireBytes ++ received) =
      .chunk data :: framesIn received :=
  framesIn_of_cut (cutFrame_wireBytes (accepted_of_cutFrame stepped.cut) false received)

theorem Stepped.remaining {top next : Top} {data : List UInt8} (stepped : Stepped top next data) :
    top.remaining = (ResponseFrame.chunk data).wireBytes ++ next.remaining :=
  cutFrame_eq_frame stepped.cut

theorem Stepped.whole {top next : Top} {data received later : List UInt8}
    (stepped : Stepped top next data) (whole : received ++ later = next.remaining) :
    ((ResponseFrame.chunk data).wireBytes ++ received) ++ later = top.remaining := by
  rw [List.append_assoc, whole, stepped.remaining]

/-- What the loop comes to behind a round, it comes to in front of it. -/
theorem Settled.behind {top next : Top} {data : List UInt8} (stepped : Stepped top next data)
    {status : UInt16} {received : List UInt8}
    {result : Except UInt16 (UInt16 × FrameReadBuffer × Bool)} {final : Interruptible}
    (settled : Settled next status received result final) :
    Settled top status ((ResponseFrame.chunk data).wireBytes ++ received) result final := by
  have allOf (all : next.serve (framesIn received) = next.serve (framesIn next.remaining)) :
      top.serve (framesIn ((ResponseFrame.chunk data).wireBytes ++ received)) =
        top.serve (framesIn top.remaining) := by
    rw [stepped.remaining, stepped.frames, stepped.frames, stepped.serve, stepped.serve, all]
  cases settled with
  | clean rest all verdict completion log =>
      refine .clean rest (allOf all) ?_ completion ?_
      · rw [stepped.frames, stepped.serve]
        exact verdict
      · rw [stepped.frames, stepped.serve, log, stepped.log]
        rfl
  | broken all verdict log =>
      refine .broken (allOf all) ?_ ?_
      · rw [stepped.frames, stepped.serve]
        exact verdict
      · rw [stepped.frames, stepped.serve, log, stepped.log]
        rfl
  | interrupted rest looks verdict log =>
      refine .interrupted rest (fun never => looks (stepped.looks never)) ?_ ?_
      · rw [stepped.frames, stepped.serve]
        exact verdict
      · rw [stepped.frames, stepped.serve, log, stepped.log]
        rfl

/-- Without a signal, a round for each byte and one more settle the loop. -/
theorem run_settled {stream rounds : Nat} {top : Top} (status : UInt16)
    (never : top.around.looks = none) (enough : top.remaining.length < rounds) :
    ∃ result next received, top.run stream status rounds = some (result, next) ∧
      received ++ bytesOf next.segments = top.remaining ∧ Settled top status received result next ∧
      next.pooled = top.around.pooled := by
  induction rounds generalizing top with
  | zero => exact absurd enough (Nat.not_lt_zero _)
  | succ rounds inductionHypothesis =>
      cases steps : top.step stream with
      | none =>
          have unfired : top.around.fired = false := by
            rw [Interruptible.fired, never]
            rfl
          exact run_last steps unfired status rounds
      | some next =>
          obtain ⟨data, stepped⟩ := stepped_of_step steps
          have shorter := length_of_cutFrame stepped.cut
          obtain ⟨result, final, received, ran, whole, settled, pooled⟩ :=
            @inductionHypothesis next (stepped.looks never) (by omega)
          exact ⟨result, final, _, (run_step steps status rounds).trans ran, stepped.whole whole,
            settled.behind stepped, pooled.trans stepped.pooled⟩

end Top

end Oxo.Edge.FrameHop
