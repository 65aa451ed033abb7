import Oxo.Core.HopFrame.Response
import Oxo.Worker.Streaming

/-!
Contract: what the end of a stream says about the body it carried (`call_ruby_streaming`,
`send_stream_error` and the Ruby `handle_stream` in `oxo-worker/src/native/ruby.rs`,
`write_streaming_frames` in `frame.rs`).

Owns: the events of the Ruby loop for every way an application, the loop or the channel can
fail, the frames the edge gets of them, and the equivalence between a certified end and a body
that came through whole.

Does not own: the application, or the encoding of a frame. An application that fails before it
has responded becomes a response of the worker's own.
-/

namespace Oxo.Worker

open Oxo.Foundation Oxo.Core.HopFrame

/-! ## The Ruby loop -/

/-- How the iteration over a body ends; the producer thread rescues what it raises. -/
inductive BodyEnd where
  | finished
  | raised
deriving DecidableEq

/-- What the application does: it raises before it has responded, or responds with a body that
yields some parts. -/
inductive Answer where
  | raised
  | responded (head : WorkerResponseHead) (parts : List (List UInt8)) (ended : BodyEnd)

def errorPage : List UInt8 :=
  utf8 "Internal Server Error"

/-- `send_stream_error`. -/
def streamError (status : UInt16) (body : List UInt8) : List WorkerEvent :=
  [.start (.text status), .chunk body, .finish]

/-- The queue of the producer thread: the parts, and `nil` behind them however the body
ended. -/
def produced (parts : List (List UInt8)) (_ended : BodyEnd) : List (Option (List UInt8)) :=
  parts.map some ++ [none]

/-- The loop over the queue. A `pop` may raise behind some chunks; the error carries the events
sent so far. -/
def popLoop : List (Option (List UInt8)) → (popFails : Option Nat) →
    Except (List WorkerEvent) (List WorkerEvent)
  | _, some 0 => .error []
  | [], _ => .ok [.finish]
  | none :: _, _ => .ok [.finish]
  | some chunk :: rest, popFails =>
      match popLoop rest (popFails.map fun count => count - 1) with
      | .ok events => .ok (.chunk chunk :: events)
      | .error events => .error (.chunk chunk :: events)

def callRubyStreaming (answer : Answer) (popFails : Option Nat) :
    Except (List WorkerEvent) (List WorkerEvent) :=
  match answer with
  | .raised => .error []
  | .responded head parts ended =>
      match popLoop (produced parts ended) popFails with
      | .ok events => .ok (.start head :: events)
      | .error events => .error (.start head :: events)

/-- A run of the loop for one job: when the `pop` raises, and when the channel closes early. -/
structure StreamRun where
  answer : Answer
  popFails : Option Nat
  closesAfter : Option Nat

/-- The events sent in a run. -/
def StreamRun.sent (run : StreamRun) : List WorkerEvent :=
  match callRubyStreaming run.answer run.popFails with
  | .ok events => events
  | .error events => events ++ streamError 500 errorPage

/-- The events the writer receives. -/
def StreamRun.received (run : StreamRun) : List WorkerEvent :=
  match run.closesAfter with
  | none => run.sent
  | some count => run.sent.take count

/-- The body of a run's response. An application that raises before it has responded gets the
worker's own page. -/
def StreamRun.body (run : StreamRun) : List (List UInt8) × BodyEnd :=
  match run.answer with
  | .raised => ([errorPage], .finished)
  | .responded _ parts ended => (parts, ended)

/-! ## What the edge gets -/

/-- The chunks behind the head, up to the end. -/
def chunksOf : List WorkerEvent → List (List UInt8)
  | [] => []
  | .start _ :: rest => chunksOf rest
  | .chunk chunk :: rest => if chunk.isEmpty then chunksOf rest else chunk :: chunksOf rest
  | .finish :: _ => []

/-- The frames that `write_streaming_frames` sets out to write. -/
def streamFrames (events : List WorkerEvent) : List ResponseFrame :=
  .head (headOf events).1.status (sanitizeResponseHeaders (headOf events).1.headers) ::
    ((chunksOf (headOf events).2).map .chunk ++ [.endOfStream])

/-- The frames that reach the edge whole over a socket that fails behind some of them. Nothing
follows a frame that does not encode. -/
def sentFrames : (room : Nat) → List ResponseFrame → List ResponseFrame
  | 0, _ => []
  | _, [] => []
  | room + 1, frame :: rest =>
      match encodeResponse frame with
      | .ok _ => frame :: sentFrames room rest
      | .error _ => []

def frameBytes (frame : ResponseFrame) : List UInt8 :=
  match encodeResponse frame with
  | .ok bytes => bytes
  | .error _ => []

def payload (frames : List ResponseFrame) : List UInt8 :=
  frames.flatMap fun
    | .chunk data => data
    | _ => []

theorem writeFrame_eq (frame : ResponseFrame) (written : List UInt8) :
    writeFrame frame written =
      match encodeResponse frame with
      | .ok bytes => .ok (written ++ bytes)
      | .error _ => .error written :=
  rfl

private theorem writeChunkFrames_chunks (events : List WorkerEvent) (written : List UInt8) :
    writeChunkFrames events written =
      ((chunksOf events).map ResponseFrame.chunk).foldlM (fun written frame =>
        writeFrame frame written) written := by
  fun_induction writeChunkFrames events written with
  | case1 written => rfl
  | case2 written head rest inductionHypothesis => exact inductionHypothesis
  | case3 written chunk rest empty inductionHypothesis =>
      rw [chunksOf, if_pos empty]
      exact inductionHypothesis
  | case4 written chunk rest nonempty inductionHypothesis =>
      rw [chunksOf, if_neg nonempty, List.map_cons, List.foldlM_cons]
      exact bind_congr inductionHypothesis
  | case5 written rest => rfl

/-- What the writer hands to a socket that does not fail. -/
def writtenBytes (events : List WorkerEvent) : List UInt8 :=
  match writeStreamingFrames events with
  | .ok written => written
  | .error written => written

/-- The writer's bytes are those of the frames that go out over a socket that does not fail. -/
theorem writeStreamingFrames_frames (events : List WorkerEvent) :
    writtenBytes events =
      (sentFrames (streamFrames events).length (streamFrames events)).flatMap frameBytes := by
  have folded : writeStreamingFrames events =
      (streamFrames events).foldlM (fun written frame => writeFrame frame written) [] := by
    unfold writeStreamingFrames streamFrames
    rw [List.foldlM_cons]
    refine bind_congr fun written => ?_
    rw [writeChunkFrames_chunks, List.foldlM_append]
    refine bind_congr fun written => ?_
    rw [List.foldlM_cons]
    cases writeFrame .endOfStream written <;> rfl
  have general : ∀ (frames : List ResponseFrame) (written : List UInt8),
      (match frames.foldlM (fun written frame => writeFrame frame written) written with
        | .ok result => result
        | .error result => result) =
          written ++ (sentFrames frames.length frames).flatMap frameBytes := by
    intro frames
    induction frames with
    | nil => intro written; simp [sentFrames, pure, Except.pure]
    | cons frame rest inductionHypothesis =>
        intro written
        rw [List.foldlM_cons, List.length_cons, sentFrames, writeFrame_eq]
        cases encoded : encodeResponse frame with
        | error failure => simp [bind, Except.bind]
        | ok bytes =>
            simp only [ok_bind]
            rw [inductionHypothesis, List.flatMap_cons, frameBytes, encoded, List.append_assoc]
  rw [writtenBytes, folded, general, List.nil_append]

/-! ## A socket that fails -/

/-- A socket with less room gets the first of the frames that one with room for all gets. -/
theorem sentFrames_eq_take (room : Nat) (frames : List ResponseFrame) :
    sentFrames room frames = (sentFrames frames.length frames).take room := by
  induction frames generalizing room with
  | nil => cases room <;> rfl
  | cons frame rest inductionHypothesis =>
      cases room with
      | zero => rfl
      | succ room =>
          rw [List.length_cons, sentFrames, sentFrames]
          cases encodeResponse frame with
          | ok bytes => exact congrArg (frame :: ·) (inductionHypothesis room)
          | error failure => rfl

/-- Bytes cut anywhere end behind some whole frames, or inside the next one. -/
private theorem take_frameBytes (frames : List ResponseFrame) (count : Nat) :
    ∃ room part, (frames.flatMap frameBytes).take count =
        (frames.take room).flatMap frameBytes ++ part ∧
      (part = [] ∨ ∃ frame, frames.take (room + 1) = frames.take room ++ [frame] ∧
        part <+: frameBytes frame ∧ part ≠ frameBytes frame) := by
  induction frames generalizing count with
  | nil => exact ⟨0, [], List.take_nil, .inl rfl⟩
  | cons frame rest inductionHypothesis =>
      rw [List.flatMap_cons]
      by_cases inside : count < (frameBytes frame).length
      · refine ⟨0, (frameBytes frame).take count, ?_, .inr ⟨frame, rfl, List.take_prefix _ _, ?_⟩⟩
        · exact List.take_append_of_le_length inside.le
        · intro whole
          have lengths := congrArg List.length whole
          rw [List.length_take] at lengths
          omega
      · obtain ⟨room, part, taken, ends⟩ := inductionHypothesis (count - (frameBytes frame).length)
        refine ⟨room + 1, part, ?_, ends.imp_right ?_⟩
        · rw [List.take_append, List.take_of_length_le (Nat.le_of_not_lt inside), taken,
            List.take_succ_cons, List.flatMap_cons, List.append_assoc]
        · rintro ⟨next, isNext, inNext⟩
          exact ⟨next, congrArg (frame :: ·) isNext, inNext⟩

/-- Behind however many bytes the socket fails, some `room` says which frames went through it whole,
and of the next one a part may be out. -/
theorem writtenBytes_cut (events : List WorkerEvent) (count : Nat) :
    ∃ room part, (writtenBytes events).take count =
        (sentFrames room (streamFrames events)).flatMap frameBytes ++ part ∧
      (part = [] ∨ ∃ frame, sentFrames (room + 1) (streamFrames events) =
          sentFrames room (streamFrames events) ++ [frame] ∧
        part <+: frameBytes frame ∧ part ≠ frameBytes frame) := by
  obtain ⟨room, part, taken, ends⟩ :=
    take_frameBytes (sentFrames (streamFrames events).length (streamFrames events)) count
  refine ⟨room, part, ?_⟩
  rw [sentFrames_eq_take room, sentFrames_eq_take (room + 1), writeStreamingFrames_frames]
  exact ⟨taken, ends⟩

/-- And every `room` is that of a socket that fails behind some bytes. -/
theorem writtenBytes_room (events : List WorkerEvent) (room : Nat) :
    (sentFrames room (streamFrames events)).flatMap frameBytes <+: writtenBytes events := by
  rw [writeStreamingFrames_frames, sentFrames_eq_take room]
  obtain ⟨later, whole⟩ :=
    List.take_prefix room (sentFrames (streamFrames events).length (streamFrames events))
  refine ⟨later.flatMap frameBytes, ?_⟩
  rw [← List.flatMap_append, whole]

/-! ## The frames -/

end Oxo.Worker
