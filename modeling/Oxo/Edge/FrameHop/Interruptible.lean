import Oxo.Edge.FrameHop.Feed

/-!
Contract: a connection that is read while a drain signal may fire
(`oxo-pingora-edge/src/platform/frame_hop.rs`, `read_frame_or_drain`).

Owns: the surroundings of an exchange with every way a connection ends and every moment at which
the signal is first seen, the frames that are whole in some bytes, and what a read of a frame
leaves in the buffer.

Does not own: failing downstream writes and refused admissions.
-/

namespace Oxo.Edge.FrameHop

open Oxo.Foundation Oxo.Core.HopFrame

/-! ## Surroundings -/

/-- How a connection ends behind its bytes. -/
inductive Closing where
  | eof
  | reset
  | failed
deriving DecidableEq, Repr

def Closing.answer : Closing → ReadAnswer
  | .eof => .eof
  | .reset => .reset
  | .failed => .failed

inductive Completion where
  | clean
  | drained
deriving DecidableEq, Repr

def bytesOf (segments : List Segment) : List UInt8 :=
  segments.flatMap Segment.bytes

/-- The signal is looked at by a borrow, by the first poll of a wait and by each wait; `looks` says
how many of them come before it has fired, or that it never does. -/
structure Interruptible where
  segments : List Segment
  closing : Closing
  looks : Option Nat
  limit : Nat
  counted : Nat
  log : List Downstream
  completion : Option Completion
  pooled : List Nat

namespace Interruptible

def fired (around : Interruptible) : Bool :=
  around.looks == some 0

/-- One more look has gone by. -/
def afterLook (around : Interruptible) : Interruptible :=
  { around with looks := around.looks.map fun looks => looks - 1 }

/-- One read. -/
def next (around : Interruptible) : ReadAnswer :=
  match around.segments with
  | [] => around.closing.answer
  | segment :: _ => .data segment.first segment.rest

def afterRead (around : Interruptible) : Interruptible :=
  { around with segments := around.segments.tail }

/-- Admission is granted and downstream takes every write. -/
def answer (around : Interruptible) : (op : HopOp) → Option (op.Answer × Interruptible)
  | .drainBorrow | .drainChanged => some (around.fired, around.afterLook)
  | .writeAll _ _ => some (.done, around)
  | .read _ => some (around.next, around.afterRead)
  | .readOrDrain _ =>
      if around.fired then some (none, around.afterLook)
      else some (some around.next, around.afterLook.afterRead)
  | .tryAdmit => some (true, { around with counted := 0 })
  | .recordBytes count =>
      let counted := min (around.counted + count) (2 ^ 64 - 1)
      some (decide (counted ≤ around.limit), { around with counted })
  | .complete => some ((), { around with completion := some .clean })
  | .completeDrained => some ((), { around with completion := some .drained })
  | .writeHeader header last =>
      some (true, { around with log := around.log ++ [.header header last] })
  | .writeBody body last => some (true, { around with log := around.log ++ [.body body last] })
  | .poolPut _ idle => some ((), { around with pooled := around.pooled ++ [idle.conn.stream] })
  | _ => none

/-- What a program comes to. -/
def run {ε α : Type} (program : ExceptT ε Hop α) (around : Interruptible) :
    Option (Except ε α × Interruptible) :=
  Program.run answer program.run around

section

variable {ε α β : Type} {around later : Interruptible}

section

variable {program : ExceptT ε Hop α} {continuation : α → ExceptT ε Hop β}

theorem run_bindOk {value : α} (ran : around.run program = some (.ok value, later)) :
    around.run (program >>= continuation) = later.run (continuation value) :=
  Program.run_bindOk ran

theorem run_bindError {failure : ε} (ran : around.run program = some (.error failure, later)) :
    around.run (program >>= continuation) = some (.error failure, later) :=
  Program.run_bindError ran

theorem run_adapt {φ : Type} {rename : ε → φ} {result : Except ε α}
    (ran : around.run program = some (result, later)) :
    around.run (ExceptT.adapt rename program) = some (result.mapError rename, later) :=
  Program.run_adapt ran

theorem run_lift {inner : Hop α} {value : α}
    (ran : Program.run answer inner around = some (value, later)) :
    around.run (ExceptT.lift inner >>= continuation) = later.run (continuation value) :=
  Program.run_lift ran

end

theorem run_drainBorrow (continuation : Bool → ExceptT ε Hop β) :
    around.run (do
      let answer ← Hop.drainBorrow
      continuation answer) = around.afterLook.run (continuation around.fired) :=
  Program.run_callExcept rfl

theorem run_drainChanged (continuation : Bool → ExceptT ε Hop β) :
    around.run (do
      let answer ← Hop.drainChanged
      continuation answer) = around.afterLook.run (continuation around.fired) :=
  Program.run_callExcept rfl

theorem run_writeAll (stream : Nat) (bytes : List UInt8)
    (continuation : WriteAnswer bytes.length → ExceptT ε Hop β) :
    around.run (do
      let answer ← Hop.writeAll stream bytes
      continuation answer) = around.run (continuation .done) :=
  Program.run_callExcept rfl

theorem run_read (stream : Nat) (continuation : ReadAnswer → ExceptT ε Hop β) :
    around.run (do
      let answer ← Hop.read stream
      continuation answer) = around.afterRead.run (continuation around.next) :=
  Program.run_callExcept rfl

theorem run_readOrDrain_fired (stream : Nat) (continuation : Option ReadAnswer → ExceptT ε Hop β)
    (fired : around.fired = true) :
    around.run (do
      let answer ← Hop.readOrDrain stream
      continuation answer) = around.afterLook.run (continuation none) :=
  Program.run_callExcept (by simp only [answer, fired, if_true])

theorem run_readOrDrain (stream : Nat) (continuation : Option ReadAnswer → ExceptT ε Hop β)
    (unfired : around.fired = false) :
    around.run (do
      let answer ← Hop.readOrDrain stream
      continuation answer) = around.afterLook.afterRead.run (continuation (some around.next)) :=
  Program.run_callExcept (by simp only [answer, unfired, Bool.false_eq_true, if_false])

theorem run_tryAdmit (continuation : Bool → ExceptT ε Hop β) :
    around.run (do
      let answer ← Hop.tryAdmit
      continuation answer) = { around with counted := 0 }.run (continuation true) :=
  Program.run_callExcept rfl

theorem run_recordBytes (count : Nat) (continuation : Bool → ExceptT ε Hop β) :
    around.run (do
      let answer ← Hop.recordBytes count
      continuation answer) =
      let counted := min (around.counted + count) (2 ^ 64 - 1)
      { around with counted }.run (continuation (decide (counted ≤ around.limit))) :=
  Program.run_callExcept rfl

end

end Interruptible

/-! ## Filling the buffer -/

/-- How a fill that ends with some bytes held comes out: with them in the buffer, or short of what
was needed, because the bytes ended or for another reason. -/
def Fills {needed : Nat} (gaveUp : Prop) (segments : List Segment) (held : List UInt8) :
    Except UInt16 (Option (FrameReadBuffer.Filled needed)) → Prop
  | .ok (some filled) => filled.val.pending = held
  | .ok none => gaveUp ∧ held.length < needed
  | .error status => status = 502 ∧ segments = [] ∧ held.length < needed

private theorem Fills.mono {needed : Nat} {gaveUp weaker : Prop} {segments : List Segment}
    {held : List UInt8} {outcome : Except UInt16 (Option (FrameReadBuffer.Filled needed))}
    (fills : Fills gaveUp segments held outcome) (weakens : gaveUp → weaker) :
    Fills weaker segments held outcome :=
  match outcome, fills with
  | .ok (some _), fills => fills
  | .ok none, fills => ⟨weakens fills.1, fills.2⟩
  | .error _, fills => fills

/-! ## Whole frames -/

/-- No whole frame stands in front of the bytes. -/
def NoFrame (bytes : List UInt8) : Prop :=
  ∀ frame behind, cutFrame false bytes ≠ (.frame frame, behind)

private theorem noFrame_of_failed {bytes rest : List UInt8} {status : UInt16}
    (failed : cutFrame false bytes = (.failed status, rest)) : NoFrame bytes := by
  intro frame behind cut
  rw [failed] at cut
  cases cut

private theorem noFrame_of_short {bytes : List UInt8} (short : bytes.length < framePrefixLen) :
    NoFrame bytes := by
  by_cases empty : bytes = []
  · refine @noFrame_of_failed bytes [] 502 ?_
    rw [cutFrame, if_pos empty]
    rfl
  · refine @noFrame_of_failed bytes bytes 502 ?_
    rw [cutFrame, if_neg empty, if_pos short]

private theorem cutFrame_of_opened {bytes : List UInt8} (opened : framePrefixLen ≤ bytes.length) :
    cutFrame false bytes =
      match FramePrefix.parse (prefixBytes bytes) responseFrameCaps with
      | .error _ => (.failed 502, bytes)
      | .ok parsed => cutEnvelope bytes parsed.remainingLength.toNat := by
  have nonempty : bytes ≠ [] := by
    intro empty
    rw [empty] at opened
    cases opened
  rw [cutFrame, if_neg nonempty]
  exact if_neg (Nat.not_lt.mpr opened)

/-- What is behind a whole frame does not matter to it. -/
theorem cutFrame_append {bytes behind : List UInt8} {frame : ResponseFrame}
    (cut : cutFrame false bytes = (.frame frame, behind)) (more : List UInt8) :
    cutFrame false (bytes ++ more) = (.frame frame, behind ++ more) := by
  have opened : framePrefixLen ≤ bytes.length := by
    by_contra short
    exact noFrame_of_short (Nat.lt_of_not_le short) _ _ cut
  rw [cutFrame_of_opened opened] at cut
  rw [cutFrame_of_opened (by rw [List.length_append]; omega), prefixBytes_append opened]
  cases parse : FramePrefix.parse (prefixBytes bytes) responseFrameCaps with
  | error failure =>
      rw [parse] at cut
      cases cut
  | ok parsed =>
      rw [parse] at cut
      simp only [cutEnvelope] at cut ⊢
      split at cut
      · cases cut
      · next whole =>
          have enough : parsed.remainingLength.toNat ≤ (bytes.drop framePrefixLen).length := by
            rw [List.length_take] at whole
            omega
          rw [List.drop_append_of_le_length opened, List.take_append_of_le_length enough,
            if_neg whole]
          split at cut
          · cases cut
          · next found decoded =>
              simp only [Prod.mk.injEq, FrameResult.frame.injEq] at cut ⊢
              obtain ⟨rfl, rfl⟩ := cut
              refine ⟨rfl, List.drop_append_of_le_length ?_⟩
              rw [List.length_drop] at enough
              omega

theorem NoFrame.of_append {bytes more : List UInt8} (none : NoFrame (bytes ++ more)) :
    NoFrame bytes :=
  fun frame _ cut => none frame _ (cutFrame_append cut more)

/-- A prefix that does not parse is in front of no frame, whatever follows. -/
private theorem noFrame_of_unparsed {bytes : List UInt8} {failure : FrameError}
    (opened : framePrefixLen ≤ bytes.length)
    (parse : FramePrefix.parse (prefixBytes bytes) responseFrameCaps = .error failure)
    (more : List UInt8) : NoFrame (bytes ++ more) := by
  have longer : framePrefixLen ≤ (bytes ++ more).length := by
    rw [List.length_append]
    omega
  have cut := cutFrame_of_opened longer
  rw [prefixBytes_append opened, parse] at cut
  exact noFrame_of_failed cut

/-- Nor is an envelope that does not decode. -/
private theorem noFrame_of_undecoded {bytes : List UInt8} {parsed : FramePrefix}
    {failure : FrameError} (opened : framePrefixLen ≤ bytes.length)
    (parse : FramePrefix.parse (prefixBytes bytes) responseFrameCaps = .ok parsed)
    (enough : framePrefixLen + parsed.remainingLength.toNat ≤ bytes.length)
    (decode : decodeResponse ((bytes.drop framePrefixLen).take parsed.remainingLength.toNat)
      responseFrameCaps = .error failure) (more : List UInt8) : NoFrame (bytes ++ more) := by
  have longer : framePrefixLen ≤ (bytes ++ more).length := by
    rw [List.length_append]
    omega
  have behind : parsed.remainingLength.toNat ≤ (bytes.drop framePrefixLen).length := by
    rw [List.length_drop]
    omega
  have whole : ¬ ((bytes.drop framePrefixLen).take parsed.remainingLength.toNat).length <
      parsed.remainingLength.toNat := by
    rw [List.length_take]
    omega
  have cut := cutFrame_of_opened longer
  rw [prefixBytes_append opened, parse] at cut
  simp only [cutEnvelope] at cut
  rw [List.drop_append_of_le_length opened, List.take_append_of_le_length behind, if_neg whole,
    decode] at cut
  exact noFrame_of_failed cut

/-- How a read of a frame that ends with some bytes held comes out: with the frame in front of
them, or with none there. A read that fails would have failed with all that was to come. -/
def Takes (interrupted : Prop) (held later : List UInt8) :
    Except UInt16 (Option (ResponseFrame × FrameReadBuffer)) → Prop
  | .ok (some (frame, rest)) => cutFrame false held = (.frame frame, rest.pending)
  | .ok none => interrupted ∧ NoFrame held
  | .error status => status = 502 ∧ NoFrame (held ++ later)

theorem Takes.mono {interrupted weaker : Prop} {held later : List UInt8}
    {result : Except UInt16 (Option (ResponseFrame × FrameReadBuffer))}
    (takes : Takes interrupted held later result) (weakens : interrupted → weaker) :
    Takes weaker held later result :=
  match result, takes with
  | .ok (some _), takes => takes
  | .ok none, takes => ⟨weakens takes.1, takes.2⟩
  | .error _, takes => takes

namespace Interruptible

section

variable (around : Interruptible) (stream : Nat) {needed : Nat}

theorem run_fillLoop (eofOkAtZero : Bool) (shortfall : Nat) (rbuf : FrameReadBuffer)
    (covers : needed ≤ rbuf.available + shortfall) :
    ∃ (outcome : Except UInt16 (Option (FrameReadBuffer.Filled needed)))
      (segments : List Segment) (held : List UInt8),
      around.run (FrameReadBuffer.fillLoop stream needed eofOkAtZero shortfall rbuf covers) =
        some (outcome, { around with segments }) ∧
      held ++ bytesOf segments = rbuf.pending ++ bytesOf around.segments ∧
      Fills (eofOkAtZero = true ∧ segments = []) segments held outcome := by
  induction shortfall generalizing rbuf around with
  | zero => exact ⟨_, around.segments, rbuf.pending, rfl, rfl, rfl⟩
  | succ shortfall inductionHypothesis =>
      rw [FrameReadBuffer.fillLoop]
      by_cases filled : needed ≤ rbuf.available
      · rw [dif_pos filled]
        exact ⟨_, around.segments, rbuf.pending, rfl, rfl, rfl⟩
      · rw [dif_neg filled, Interruptible.run_read]
        have short : rbuf.pending.length < needed := by
          rw [FrameReadBuffer.pending_length]
          exact Nat.lt_of_not_le filled
        cases isSegments : around.segments with
        | nil =>
            have emptied : around.afterRead = { around with segments := [] } := by
              rw [Interruptible.afterRead, isSegments]
              rfl
            have ended : around.next = around.closing.answer := by
              rw [Interruptible.next, isSegments]
            rw [emptied, ended]
            cases around.closing with
            | failed => exact ⟨.error 502, [], rbuf.pending, rfl, rfl, rfl, rfl, short⟩
            | eof | reset =>
                by_cases wentAway : (eofOkAtZero && rbuf.available == 0) = true
                · refine ⟨.ok none, [], rbuf.pending, ?_, rfl, ⟨?_, rfl⟩, short⟩
                  · simp only [Closing.answer, wentAway, if_true]
                    rfl
                  · exact (Bool.and_eq_true _ _ ▸ wentAway).1
                · refine ⟨.error 502, [], rbuf.pending, ?_, rfl, rfl, rfl, short⟩
                  simp only [Closing.answer, wentAway, if_false, Bool.false_eq_true]
                  rfl
        | cons segment rest =>
            have handed : around.next = .data segment.first segment.rest := by
              rw [Interruptible.next, isSegments]
            have left : around.afterRead = { around with segments := rest } := by
              rw [Interruptible.afterRead, isSegments]
              rfl
            rw [handed, left]
            obtain ⟨outcome, segments, held, ran, whole, ends⟩ := inductionHypothesis
              { around with segments := rest } (rbuf.append segment.bytes) (by
                rw [FrameReadBuffer.available_append]
                simp only [Segment.bytes, List.length_cons]
                omega)
            rw [FrameReadBuffer.pending_append, List.append_assoc] at whole
            exact ⟨outcome, segments, held, ran, whole, ends⟩

/-- The race of a read against the signal, which may win while the bytes are short. -/
theorem run_fillLoopOrDrain (shortfall : Nat) (rbuf : FrameReadBuffer)
    (covers : needed ≤ rbuf.available + shortfall) :
    ∃ (outcome : Except UInt16 (Option (FrameReadBuffer.Filled needed)))
      (segments : List Segment) (looks : Option Nat) (held : List UInt8),
      around.run (FrameReadBuffer.fillLoopOrDrain stream needed shortfall rbuf covers) =
        some (outcome, { around with segments, looks }) ∧
      (around.looks = none → looks = none) ∧
      held ++ bytesOf segments = rbuf.pending ++ bytesOf around.segments ∧
      Fills (around.looks ≠ none) segments held outcome := by
  induction shortfall generalizing rbuf around with
  | zero => exact ⟨_, around.segments, around.looks, rbuf.pending, rfl, id, rfl, rfl⟩
  | succ shortfall inductionHypothesis =>
      rw [FrameReadBuffer.fillLoopOrDrain]
      by_cases filled : needed ≤ rbuf.available
      · rw [dif_pos filled]
        exact ⟨_, around.segments, around.looks, rbuf.pending, rfl, id, rfl, rfl⟩
      · rw [dif_neg filled]
        have short : rbuf.pending.length < needed := by
          rw [FrameReadBuffer.pending_length]
          exact Nat.lt_of_not_le filled
        cases fired : around.fired with
        | true =>
            rw [Interruptible.run_readOrDrain_fired stream _ fired]
            refine ⟨.ok none, around.segments, _, rbuf.pending, rfl, ?_, rfl, ?_, short⟩
            · intro never
              rw [never]
              rfl
            · intro never
              rw [Interruptible.fired, never] at fired
              cases fired
        | false =>
            rw [Interruptible.run_readOrDrain stream _ fired]
            cases isSegments : around.segments with
            | nil =>
                have ended : around.next = around.closing.answer := by
                  rw [Interruptible.next, isSegments]
                have emptied : around.afterLook.afterRead =
                    { around with segments := [], looks := around.afterLook.looks } := by
                  rw [Interruptible.afterRead, Interruptible.afterLook, isSegments]
                  rfl
                rw [emptied, ended]
                refine ⟨.error 502, [], around.afterLook.looks, rbuf.pending, ?_, ?_, rfl, rfl,
                  rfl, short⟩
                · cases around.closing <;> rfl
                · intro never
                  rw [Interruptible.afterLook, never]
                  rfl
            | cons segment rest =>
                have handed : around.next = .data segment.first segment.rest := by
                  rw [Interruptible.next, isSegments]
                have left : around.afterLook.afterRead =
                    { around with segments := rest, looks := around.afterLook.looks } := by
                  rw [Interruptible.afterRead, Interruptible.afterLook, isSegments]
                  rfl
                rw [handed, left]
                obtain ⟨outcome, segments, looks, held, ran, never, whole, ends⟩ :=
                  inductionHypothesis
                    { around with segments := rest, looks := around.afterLook.looks }
                    (rbuf.append segment.bytes) (by
                      rw [FrameReadBuffer.available_append]
                      simp only [Segment.bytes, List.length_cons]
                      omega)
                rw [FrameReadBuffer.pending_append, List.append_assoc] at whole
                refine ⟨outcome, segments, looks, held, ran, ?_, whole, ?_⟩
                · intro unset
                  apply never
                  rw [Interruptible.afterLook, unset]
                  rfl
                · refine ends.mono fun left unset => left ?_
                  rw [Interruptible.afterLook, unset]
                  rfl

theorem run_settled {ε α : Type} (result : Except ε α) :
    around.run (settled result) = some (result, around) :=
  rfl

/-- A buffered frame is taken off the front, or it does not decode. -/
private theorem decodeFront_takes {rbuf : FrameReadBuffer} {parsed : FramePrefix}
    (opened : framePrefixLen ≤ rbuf.available)
    (parse : FramePrefix.parse (prefixBytes rbuf.pending) responseFrameCaps = .ok parsed)
    (whole : framePrefixLen + parsed.remainingLength.toNat ≤ rbuf.available)
    (later : List UInt8) :
    Takes False rbuf.pending later ((rbuf.decodeFront _ whole).map some) := by
  have length : framePrefixLen ≤ rbuf.pending.length := by
    rwa [FrameReadBuffer.pending_length]
  have enough : ¬ ((rbuf.pending.drop framePrefixLen).take
      parsed.remainingLength.toNat).length < parsed.remainingLength.toNat := by
    rw [List.length_take, List.length_drop, FrameReadBuffer.pending_length]
    omega
  have cut := cutFrame_of_opened length
  rw [parse] at cut
  simp only [cutEnvelope, enough, if_false] at cut
  have decoded := decodeFront_run rbuf _ whole
  rw [Nat.add_sub_cancel_left] at decoded
  cases isFrame : decodeResponse ((rbuf.pending.drop framePrefixLen).take
      parsed.remainingLength.toNat) responseFrameCaps with
  | error failure =>
      rw [isFrame] at decoded
      rw [decoded]
      refine ⟨rfl, noFrame_of_undecoded length parse ?_ isFrame later⟩
      rwa [FrameReadBuffer.pending_length]
  | ok frame =>
      rw [isFrame] at decoded cut
      obtain ⟨rest, taken, behind⟩ := decoded
      rw [taken]
      exact cut.trans (by rw [behind])

/-- The envelope behind a buffered prefix, and the frame. -/
theorem run_finishFrame (rbuf : FrameReadBuffer) (opened : framePrefixLen ≤ rbuf.available) :
    ∃ (result : Except UInt16 (ResponseFrame × FrameReadBuffer)) (segments : List Segment)
      (held : List UInt8),
      around.run (rbuf.finishFrame stream) = some (result, { around with segments }) ∧
      held ++ bytesOf segments = rbuf.pending ++ bytesOf around.segments ∧
      Takes False held (bytesOf segments) (result.map some) := by
  have length : framePrefixLen ≤ rbuf.pending.length := by
    rwa [FrameReadBuffer.pending_length]
  rw [FrameReadBuffer.finishFrame]
  cases parse : FramePrefix.parse (prefixBytes rbuf.pending) responseFrameCaps with
  | error failure =>
      have total : rbuf.frameTotal = .error 502 := by
        simp [FrameReadBuffer.frameTotal, FrameReadBuffer.prefixBytes, parse]
      refine ⟨.error 502, around.segments, rbuf.pending, ?_, rfl, rfl,
        noFrame_of_unparsed length parse _⟩
      rw [total]
      exact run_bindError (run_settled around _)
  | ok parsed =>
      have total : rbuf.frameTotal = .ok (framePrefixLen + parsed.remainingLength.toNat) := by
        simp [FrameReadBuffer.frameTotal, FrameReadBuffer.prefixBytes, parse]
      rw [total, run_bindOk (run_settled around _)]
      obtain ⟨outcome, segments, held, ran, whole, ends⟩ := @run_fillLoop around stream
        (framePrefixLen + parsed.remainingLength.toNat) false
        (framePrefixLen + parsed.remainingLength.toNat - rbuf.available) rbuf (by omega)
      have samePrefix : framePrefixLen ≤ held.length →
          prefixBytes held = prefixBytes rbuf.pending := by
        intro longer
        rw [← prefixBytes_append longer (bytesOf segments), whole, prefixBytes_append length]
      rcases outcome with status | (_ | filled)
      · obtain ⟨isStatus, emptied, short⟩ := ends
        refine ⟨.error status, segments, held, run_bindError ran, whole, isStatus, ?_⟩
        rw [emptied]
        change NoFrame (held ++ [])
        rw [List.append_nil]
        have longer : framePrefixLen ≤ held.length := by
          have lengths := congrArg List.length whole
          rw [emptied, List.length_append, List.length_append] at lengths
          have empty : (bytesOf []).length = 0 := rfl
          omega
        have cut := cutFrame_of_opened longer
        rw [samePrefix longer, parse] at cut
        have shortEnvelope : ((held.drop framePrefixLen).take
            parsed.remainingLength.toNat).length < parsed.remainingLength.toNat := by
          rw [List.length_take, List.length_drop]
          omega
        simp only [cutEnvelope, shortEnvelope, if_true] at cut
        exact noFrame_of_failed cut
      · cases ends.1.1
      · have isHeld : filled.val.pending = held := ends
        have longer : framePrefixLen ≤ filled.val.available :=
          (Nat.le_add_right _ _).trans filled.property
        have samePrefixHere : FramePrefix.parse (prefixBytes filled.val.pending)
            responseFrameCaps = .ok parsed := by
          rw [isHeld, samePrefix, parse]
          rwa [← isHeld, FrameReadBuffer.pending_length]
        rw [FrameReadBuffer.fillTo, run_bindOk ran]
        refine ⟨_, segments, held, run_settled _ _, whole, ?_⟩
        rw [← isHeld]
        exact decodeFront_takes longer samePrefixHere filled.property _

/-- The frame behind a buffered prefix, as a read of a frame returns it. -/
private theorem run_finishFrame_some (rbuf : FrameReadBuffer)
    (opened : framePrefixLen ≤ rbuf.available) :
    ∃ (result : Except UInt16 (Option (ResponseFrame × FrameReadBuffer)))
      (segments : List Segment) (held : List UInt8),
      around.run (do
        let frame ← rbuf.finishFrame stream
        pure (some frame)) = some (result, { around with segments }) ∧
      held ++ bytesOf segments = rbuf.pending ++ bytesOf around.segments ∧
      Takes False held (bytesOf segments) result := by
  obtain ⟨result, segments, held, ran, whole, takes⟩ := run_finishFrame around stream rbuf opened
  refine ⟨result.map some, segments, held, ?_, whole, takes⟩
  cases result with
  | ok taken => exact (run_bindOk ran).trans rfl
  | error status => exact (run_bindError ran).trans rfl

/-- The wait behind a buffer that holds no whole frame. -/
private theorem run_wait (rbuf : FrameReadBuffer) :
    ∃ (result : Except UInt16 (Option (ResponseFrame × FrameReadBuffer)))
      (segments : List Segment) (looks : Option Nat) (held : List UInt8),
      around.run (do
        match ← FrameReadBuffer.fillLoopOrDrain stream framePrefixLen
            (framePrefixLen - rbuf.available) rbuf (rbuf.shortfall_enough framePrefixLen) with
        | none => pure none
        | some filled => do
            let frame ← filled.val.finishFrame stream
            pure (some frame)) = some (result, { around with segments, looks }) ∧
      (around.looks = none → looks = none) ∧
      held ++ bytesOf segments = rbuf.pending ++ bytesOf around.segments ∧
      Takes (around.looks ≠ none) held (bytesOf segments) result := by
  obtain ⟨outcome, segments, looks, held, ran, never, whole, ends⟩ :=
    @run_fillLoopOrDrain around stream framePrefixLen (framePrefixLen - rbuf.available) rbuf
      (by omega)
  rcases outcome with status | (_ | filled)
  · obtain ⟨isStatus, emptied, short⟩ := ends
    refine ⟨.error status, segments, looks, held, run_bindError ran, never, whole, isStatus, ?_⟩
    rw [emptied]
    change NoFrame (held ++ [])
    rw [List.append_nil]
    exact noFrame_of_short short
  · obtain ⟨gaveUp, short⟩ := ends
    exact ⟨.ok none, segments, looks, held, (run_bindOk ran).trans rfl, never, whole, gaveUp,
      noFrame_of_short short⟩
  · have isHeld : filled.val.pending = held := ends
    obtain ⟨result, left, heldLater, finished, wholeLater, takes⟩ :=
      run_finishFrame_some { around with segments, looks } stream filled.val filled.property
    refine ⟨result, left, looks, heldLater, (run_bindOk ran).trans finished, never, ?_,
      Takes.mono takes False.elim⟩
    rw [wholeLater, isHeld, whole]

/-- What the buffer alone gives: a whole frame in front, or none. -/
private theorem bufferedFrameLen_takes (rbuf : FrameReadBuffer) (later : List UInt8) :
    match rbuf.bufferedFrameLen with
    | .error status => status = 502 ∧ NoFrame (rbuf.pending ++ later)
    | .ok none => NoFrame rbuf.pending
    | .ok (some total) =>
        Takes False rbuf.pending later
          ((rbuf.decodeFront total.val total.property).map some) := by
  unfold FrameReadBuffer.bufferedFrameLen
  by_cases short : rbuf.available < framePrefixLen
  · rw [if_pos short]
    rw [← FrameReadBuffer.pending_length] at short
    exact noFrame_of_short short
  · rw [if_neg short]
    have opened := Nat.le_of_not_lt short
    have length : framePrefixLen ≤ rbuf.pending.length := by
      rwa [FrameReadBuffer.pending_length]
    have cut := cutFrame_of_opened length
    unfold FrameReadBuffer.frameTotal FrameReadBuffer.prefixBytes
    cases parse : FramePrefix.parse (prefixBytes rbuf.pending) responseFrameCaps with
    | error failure => exact ⟨rfl, noFrame_of_unparsed length parse later⟩
    | ok parsed =>
        rw [parse] at cut
        simp only
        by_cases whole : framePrefixLen + parsed.remainingLength.toNat ≤ rbuf.available
        · rw [dif_pos whole]
          exact decodeFront_takes opened parse whole later
        · rw [dif_neg whole]
          have shortEnvelope : ((rbuf.pending.drop framePrefixLen).take
              parsed.remainingLength.toNat).length < parsed.remainingLength.toNat := by
            rw [List.length_take, List.length_drop, FrameReadBuffer.pending_length]
            omega
          simp only [cutEnvelope, shortEnvelope, if_true] at cut
          exact noFrame_of_failed cut

/-- A read of a frame takes the one that stands whole in front of the bytes. -/
theorem run_readFrame {rbuf : FrameReadBuffer} {frame : ResponseFrame} {behind : List UInt8}
    (cut : cutFrame false (rbuf.pending ++ bytesOf around.segments) = (.frame frame, behind))
    (firstOfExchange : Bool) :
    ∃ (rest : FrameReadBuffer) (segments : List Segment),
      around.run (rbuf.readFrame stream firstOfExchange) =
        some (.ok (some (frame, rest)), { around with segments }) ∧
      rest.pending ++ bytesOf segments = behind := by
  rw [← FrameReadBuffer.pending_compact] at cut
  unfold FrameReadBuffer.readFrame
  obtain ⟨outcome, segments, held, ran, whole, ends⟩ := @run_fillLoop around stream framePrefixLen
    firstOfExchange (framePrefixLen - rbuf.compact.available) rbuf.compact (by omega)
  have opened (emptied : segments = []) : ¬ held.length < framePrefixLen := by
    intro short
    rw [emptied] at whole
    change held ++ [] = _ at whole
    rw [← whole, List.append_nil] at cut
    exact noFrame_of_short short _ _ cut
  rw [FrameReadBuffer.fillTo]
  rcases outcome with status | (_ | filled)
  · exact absurd ends.2.2 (opened ends.2.1)
  · exact absurd ends.2 (opened ends.1.2)
  · have isHeld : filled.val.pending = held := ends
    obtain ⟨result, left, heldLater, finished, wholeLater, takes⟩ :=
      run_finishFrame { around with segments } stream filled.val filled.property
    simp only [isHeld, whole] at wholeLater
    rw [run_bindOk ran]
    rcases result with status | ⟨found, rest⟩
    · have noFrame := takes.2
      rw [wholeLater] at noFrame
      exact absurd cut (noFrame _ _)
    · have cutHeld : cutFrame false heldLater = (.frame found, rest.pending) := takes
      have same := cutFrame_append cutHeld (bytesOf left)
      rw [wholeLater, cut] at same
      cases same
      exact ⟨rest, left, (run_bindOk finished).trans rfl, rfl⟩

/-- A read of a frame against the signal takes the frame in front of the bytes it ends with, or
there is none. -/
theorem run_readFrameOrDrain (rbuf : FrameReadBuffer) :
    ∃ (result : Except UInt16 (Option (ResponseFrame × FrameReadBuffer)))
      (segments : List Segment) (looks : Option Nat) (held : List UInt8),
      around.run (rbuf.readFrameOrDrain stream) = some (result, { around with segments, looks }) ∧
      (around.looks = none → looks = none) ∧
      held ++ bytesOf segments = rbuf.pending ++ bytesOf around.segments ∧
      Takes (around.looks ≠ none) held (bytesOf segments) result := by
  rw [← FrameReadBuffer.pending_compact]
  unfold FrameReadBuffer.readFrameOrDrain
  simp only
  have inBuffer := bufferedFrameLen_takes rbuf.compact (bytesOf around.segments)
  cases buffered : rbuf.compact.bufferedFrameLen with
  | error status =>
      rw [buffered] at inBuffer
      exact ⟨.error status, around.segments, around.looks, rbuf.compact.pending,
        run_bindError (run_settled around _), id, rfl, inBuffer⟩
  | ok outcome =>
      rw [buffered] at inBuffer
      rw [run_bindOk (run_settled around _)]
      cases outcome with
      | some total =>
          refine ⟨(rbuf.compact.decodeFront total.val total.property).map some, around.segments,
            around.looks, rbuf.compact.pending, ?_, id, rfl, Takes.mono inBuffer False.elim⟩
          simp only
          cases rbuf.compact.decodeFront total.val total.property <;> rfl
      | none =>
          simp only
          rw [run_drainChanged]
          cases fired : around.fired with
          | true =>
              refine ⟨.ok none, around.segments, around.afterLook.looks, rbuf.compact.pending, rfl,
                ?_, rfl, ?_, inBuffer⟩
              · intro never
                rw [afterLook, never]
                rfl
              · intro never
                rw [Interruptible.fired, never] at fired
                cases fired
          | false =>
              simp only [Bool.false_eq_true, if_false]
              obtain ⟨result, segments, looks, held, ran, never, whole, takes⟩ :=
                run_wait around.afterLook stream rbuf.compact
              have unset : around.looks = none → around.afterLook.looks = none := by
                intro never
                rw [afterLook, never]
                rfl
              exact ⟨result, segments, looks, held, ran, fun before => never (unset before), whole,
                Takes.mono takes fun set before => set (unset before)⟩

end

end Interruptible

end Oxo.Edge.FrameHop
