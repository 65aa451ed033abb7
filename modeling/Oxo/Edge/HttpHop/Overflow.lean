import Oxo.Edge.HttpHop.Response

/-!
Contract: reading a worker's response on the HTTP hop adds no two machine numbers that do not fit
(`oxo-pingora-edge/src/platform/worker_wire.rs`).

Owns: that no run of the read reaches an overflow, whatever the worker sends and however the
surroundings answer.

Does not own: what the read returns.
-/

namespace Oxo.Edge.HttpHop

open Oxo.Foundation Oxo.Edge.FrameHop

/-- No operation is an overflow. -/
def noOverflow : Contract ResponseOp ResponseOp.Answer Unit where
  allows _ op := op ≠ .overflow
  after _ _ _ := ()

/-- Whatever the surroundings answer, nothing overflows. -/
def Quiet {α : Type} (program : ExceptT UInt16 Response α) : Prop :=
  noOverflow.Meets program.run () fun _ _ => True

namespace Quiet

variable {α β : Type}

theorem pure (value : α) : Quiet (Pure.pure value) :=
  trivial

theorem throw (status : UInt16) : Quiet (MonadExcept.throw status : ExceptT UInt16 Response α) :=
  trivial

theorem settled (result : Except UInt16 α) : Quiet (Response.settled result) :=
  trivial

theorem stop : Quiet (ExceptT.lift Program.stop : ExceptT UInt16 Response α) :=
  trivial

theorem bind {program : ExceptT UInt16 Response α}
    {continuation : α → ExceptT UInt16 Response β} (first : Quiet program)
    (later : ∀ value, Quiet (continuation value)) : Quiet (program >>= continuation) := by
  apply Contract.Meets.bindExcept
  apply Contract.Meets.mono first
  intro result state _
  cases result with
  | ok value => exact later value
  | error status => trivial

/-- An operation that is no overflow. -/
theorem perform {op : ResponseOp} (allowed : op ≠ .overflow) :
    Quiet (monadLift (Program.perform op : Response op.Answer) :
      ExceptT UInt16 Response op.Answer) :=
  ⟨allowed, fun _ => trivial⟩

theorem ite {condition : Prop} [Decidable condition] {first second : ExceptT UInt16 Response α}
    (holds : condition → Quiet first) (fails : ¬ condition → Quiet second) :
    Quiet (if condition then first else second) := by
  by_cases met : condition
  · rw [if_pos met]
    exact holds met
  · rw [if_neg met]
    exact fails met

end Quiet

theorem quiet_addUsize {left right : Nat} (fits : left + right < 2 ^ 64) :
    Quiet (monadLift (addUsize left right) : ExceptT UInt16 Response Nat) := by
  unfold addUsize
  rw [if_pos fits]
  exact Quiet.pure (left + right)

/-! ## Downstream -/

theorem quiet_writeResponseHeader (header : ResponseHeader) (last : Bool) :
    Quiet (writeResponseHeader header last) := by
  unfold writeResponseHeader
  apply Quiet.bind (Quiet.perform (by simp))
  intro written
  cases written with
  | true => exact Quiet.pure ()
  | false => exact Quiet.throw 502

theorem quiet_writeResponseBody (body : Option (List UInt8)) (last : Bool) :
    Quiet (writeResponseBody body last) := by
  unfold writeResponseBody
  apply Quiet.bind (Quiet.perform (by simp))
  intro written
  cases written with
  | true => exact Quiet.pure ()
  | false => exact Quiet.throw 502

theorem quiet_writeOwedHeader (owed : Option ResponseHeader) : Quiet (writeOwedHeader owed) := by
  cases owed with
  | none => exact Quiet.pure ()
  | some header => exact quiet_writeResponseHeader header false

theorem quiet_finishDrainedChunkedResponse (owed : Option ResponseHeader) :
    Quiet (finishDrainedChunkedResponse owed) := by
  unfold finishDrainedChunkedResponse
  apply Quiet.bind (quiet_writeOwedHeader owed)
  intro _
  apply Quiet.bind (quiet_writeResponseBody none true)
  intro _
  exact Quiet.perform (by simp)

/-! ## Reading -/

theorem quiet_readWorkerBytesWithTimeout : Quiet readWorkerBytesWithTimeout := by
  unfold readWorkerBytesWithTimeout
  apply Quiet.bind (Quiet.perform (by simp))
  intro ended
  exact Quiet.settled _

theorem quiet_readMoreWorkerBytesOrDrain (pending : List UInt8) :
    Quiet (readMoreWorkerBytesOrDrain pending) := by
  have reads : Quiet readWorkerBytesWithTimeoutOrDrain := by
    unfold readWorkerBytesWithTimeoutOrDrain
    apply Quiet.bind (Quiet.perform (by simp))
    intro draining
    cases draining with
    | true => exact Quiet.pure none
    | false =>
        apply Quiet.bind (Quiet.perform (by simp))
        intro ended
        cases ended with
        | none => exact Quiet.pure none
        | some ended => exact Quiet.bind (Quiet.settled _) fun bytes => Quiet.pure (some bytes)
  unfold readMoreWorkerBytesOrDrain
  apply Quiet.bind reads
  intro bytes
  cases bytes with
  | none => exact Quiet.pure none
  | some bytes => exact Quiet.ite (fun _ => Quiet.throw 502) fun _ => Quiet.pure _

theorem quiet_readUntilCrlf (rounds : Nat) (pending : List UInt8) :
    Quiet (readUntilCrlf rounds pending) := by
  induction rounds generalizing pending with
  | zero => exact Quiet.stop
  | succ rounds inductionHypothesis =>
      rw [readUntilCrlf]
      cases windowPosition [13, 10] pending with
      | some position => exact Quiet.pure _
      | none =>
          apply Quiet.bind (quiet_readMoreWorkerBytesOrDrain pending)
          intro more
          cases more with
          | none => exact Quiet.pure none
          | some pending =>
              exact Quiet.ite (fun _ => Quiet.throw 502) fun _ => inductionHypothesis pending

theorem quiet_readUntilAvailable (length rounds : Nat) (pending : List UInt8) :
    Quiet (readUntilAvailable length rounds pending) := by
  induction rounds generalizing pending with
  | zero => exact Quiet.stop
  | succ rounds inductionHypothesis =>
      rw [readUntilAvailable]
      apply Quiet.ite
      · intro _
        apply Quiet.bind (quiet_readMoreWorkerBytesOrDrain pending)
        intro more
        cases more with
        | none => exact Quiet.pure none
        | some pending => exact inductionHypothesis pending
      · intro _
        exact Quiet.pure _

theorem quiet_readHead (rounds : Nat) (response : List UInt8) :
    Quiet (readHead rounds response) := by
  induction rounds generalizing response with
  | zero => exact Quiet.stop
  | succ rounds inductionHypothesis =>
      rw [readHead]
      apply Quiet.bind quiet_readWorkerBytesWithTimeout
      intro bytes
      refine Quiet.ite (fun _ => Quiet.throw 502) fun _ => ?_
      refine Quiet.ite (fun _ => Quiet.throw 502) fun _ => ?_
      cases findHeaderEnd (response ++ bytes) with
      | some headerEnd => exact Quiet.ite (fun _ => Quiet.throw 502) fun _ => Quiet.pure _
      | none => exact Quiet.ite (fun _ => Quiet.throw 502) fun _ => inductionHypothesis _

theorem quiet_readToEnd (rounds : Nat) (response : List UInt8) :
    Quiet (readToEnd rounds response) := by
  induction rounds generalizing response with
  | zero => exact Quiet.stop
  | succ rounds inductionHypothesis =>
      rw [readToEnd]
      apply Quiet.bind quiet_readWorkerBytesWithTimeout
      intro bytes
      refine Quiet.ite (fun _ => Quiet.pure response) fun _ => ?_
      exact Quiet.ite (fun _ => Quiet.throw 502) fun _ => inductionHypothesis _

/-! ## The response -/

theorem quiet_finishChunks (owed : Option ResponseHeader) (pending : List UInt8) :
    Quiet (finishChunks owed pending) := by
  unfold finishChunks
  apply Quiet.bind (quiet_readUntilAvailable 2 3 pending)
  intro filled
  cases filled with
  | none => exact quiet_finishDrainedChunkedResponse owed
  | some filled =>
      refine Quiet.ite (fun _ => Quiet.throw 502) fun _ => ?_
      apply Quiet.bind (quiet_writeOwedHeader owed)
      intro _
      apply Quiet.bind (quiet_writeResponseBody none true)
      intro _
      exact Quiet.perform (by simp)

/-- A size is added to only behind the cap on the whole body. -/
theorem quiet_chunkLoop (rounds : Nat) (owed : Option ResponseHeader) (pending : List UInt8)
    (decoded : Nat) : Quiet (chunkLoop rounds owed pending decoded) := by
  induction rounds generalizing owed pending decoded with
  | zero => exact Quiet.stop
  | succ rounds inductionHypothesis =>
      rw [chunkLoop]
      apply Quiet.bind (quiet_readUntilCrlf _ pending)
      intro line
      cases line with
      | none => exact quiet_finishDrainedChunkedResponse owed
      | some line =>
          apply Quiet.bind (Quiet.settled _)
          intro size
          refine Quiet.ite (fun _ => quiet_finishChunks owed _) fun _ => ?_
          refine Quiet.ite (fun _ => Quiet.throw 502) fun _ => ?_
          refine Quiet.ite (fun _ => Quiet.throw 502) fun within => ?_
          have fits : size + 2 < 2 ^ 64 := by
            unfold maxResponseBytes at within
            omega
          apply Quiet.bind (Quiet.perform (by simp))
          intro recorded
          cases recorded with
          | false => exact Quiet.throw 502
          | true =>
              apply Quiet.bind (quiet_addUsize fits)
              intro needed
              apply Quiet.bind (quiet_readUntilAvailable needed _ _)
              intro filled
              cases filled with
              | none => exact quiet_finishDrainedChunkedResponse owed
              | some filled =>
                  refine Quiet.ite (fun _ => Quiet.throw 502) fun _ => ?_
                  apply Quiet.bind (quiet_writeOwedHeader owed)
                  intro _
                  apply Quiet.bind (quiet_writeResponseBody _ false)
                  intro _
                  exact inductionHypothesis ..

theorem quiet_readWorkerResponseAndWrite (settings : HopSettings) :
    Quiet (readWorkerResponseAndWrite settings) := by
  unfold readWorkerResponseAndWrite
  apply Quiet.bind (quiet_readHead ..)
  intro head
  apply Quiet.bind (Quiet.settled _)
  intro chunked
  cases chunked with
  | true =>
      apply Quiet.bind (Quiet.settled _)
      intro parsed
      have streams : Quiet (streamChunkedWorkerResponse parsed.1 (head.2.drop (head.1 + 4))) := by
        unfold streamChunkedWorkerResponse
        apply Quiet.bind (Quiet.perform (by simp))
        intro admitted
        cases admitted with
        | true => exact quiet_chunkLoop ..
        | false => exact Quiet.throw 503
      exact Quiet.bind streams fun _ => Quiet.pure _
  | false =>
      apply Quiet.bind (quiet_readToEnd ..)
      intro response
      apply Quiet.bind (Quiet.settled _)
      intro workerResponse
      apply Quiet.bind (quiet_writeResponseHeader workerResponse.header false)
      intro _
      exact Quiet.bind (quiet_writeResponseBody _ true) fun _ => Quiet.pure _

end Oxo.Edge.HttpHop
