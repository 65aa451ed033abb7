import Oxo.Edge.FrameHop.Discipline
import Oxo.Edge.FrameHop.Serving
import Oxo.Foundation.Machine

/-!
Contract: a drain signal in the middle of a streamed response
(`oxo-pingora-edge/src/platform/frame_hop.rs`, `stream_frames_downstream`).

Owns: what a stream that the signal may cut owes the client of the frames it holds, and the runs
in which it delivers them.

Does not own: what a stream delivers that no signal cuts.
-/

namespace Oxo.Edge.FrameHop

open Oxo.Foundation Oxo.Core.HopFrame

/-! ## Bytes that come later -/

/-- The frames that stand whole in some bytes stay in front when more bytes arrive. -/
theorem framesIn_append (held more : List UInt8) : framesIn held <+: framesIn (held ++ more) := by
  induction length : held.length using Nat.strong_induction_on generalizing held with
  | _ count inductionHypothesis =>
      by_cases whole : ∃ frame behind, cutFrame false held = (.frame frame, behind)
      · obtain ⟨frame, behind, cut⟩ := whole
        have shorter := length_of_cutFrame cut
        rw [framesIn_of_cut cut, framesIn_of_cut (cutFrame_append cut more)]
        exact List.cons_prefix_cons.mpr
          ⟨rfl, inductionHypothesis _ (length ▸ shorter) behind rfl⟩
      · rw [framesIn_of_noFrame fun frame behind cut => whole ⟨frame, behind, cut⟩]
        exact List.nil_prefix

/-- What some frames give, they give in front of others; and an end among them is the end. -/
theorem serve_append (limit : Nat) (front back : List ResponseFrame) (streamed counted : Nat) :
    (serve limit front streamed counted).parts <+:
        (serve limit (front ++ back) streamed counted).parts ∧
      ((serve limit front streamed counted).verdict = .ended →
        (serve limit (front ++ back) streamed counted).verdict = .ended) := by
  induction front generalizing streamed counted with
  | nil => exact ⟨List.nil_prefix, fun ended => nomatch ended⟩
  | cons frame rest inductionHypothesis =>
      rw [List.cons_append]
      cases frame with
      | chunk data =>
          rw [serve, serve]
          split
          · exact inductionHypothesis streamed counted
          · dsimp only
            split
            · exact ⟨List.prefix_refl _, id⟩
            · split
              · obtain ⟨parts, ended⟩ := inductionHypothesis
                  (min (streamed + data.length) (2 ^ 64 - 1))
                  (min (counted + data.length) (2 ^ 64 - 1))
                exact ⟨List.cons_prefix_cons.mpr ⟨rfl, parts⟩, ended⟩
              · exact ⟨List.prefix_refl _, id⟩
      | endOfStream => exact ⟨List.prefix_refl _, id⟩
      | head status headers => exact ⟨List.prefix_refl _, id⟩
      | full status headers body => exact ⟨List.prefix_refl _, id⟩

namespace Top

/-! ## What is owed -/

/-- The bytes that have been received of those the connection brings, when the rest is left. -/
def receivedBy (top : Top) (next : Interruptible) : List UInt8 :=
  top.remaining.take (top.remaining.length - (bytesOf next.segments).length)

/-- All frames that stand whole in the received bytes are delivered, as far as the response may
carry them, and with the end among them the response is complete. -/
def Spares (top : Top) (next : Interruptible) : Prop :=
  bodyOf next.log = bodyOf top.around.log ++
      (top.serve (framesIn (top.receivedBy next))).parts.flatten ∧
    ((top.serve (framesIn (top.receivedBy next))).verdict = .ended →
      next.completion = some .clean)

instance (top : Top) (next : Interruptible) : Decidable (top.Spares next) :=
  inferInstanceAs (Decidable (_ ∧ _))

/-- A run that comes to its end delivers all of them. -/
def SparedBy {α : Type} (top : Top) : Option (α × Interruptible) → Prop
  | some (_, next) => top.Spares next
  | none => False

instance {α : Type} (top : Top) : (ran : Option (α × Interruptible)) →
    Decidable (top.SparedBy ran)
  | some (_, next) => inferInstanceAs (Decidable (top.Spares next))
  | none => inferInstanceAs (Decidable False)

/-- What stood whole in bytes that had been received earlier is delivered with the rest. -/
theorem Spares.of_earlier {top : Top} {next : Interruptible} (spares : top.Spares next)
    {held : List UInt8} (earlier : held <+: top.receivedBy next) :
    bodyOf top.around.log ++ (top.serve (framesIn held)).parts.flatten <+: bodyOf next.log ∧
      ((top.serve (framesIn held)).verdict = .ended → next.completion = some .clean) := by
  obtain ⟨later, received⟩ := earlier
  obtain ⟨back, frames⟩ := framesIn_append held later
  rw [received] at frames
  obtain ⟨parts, ended⟩ := serve_append top.around.limit (framesIn held) back top.streamed
    top.around.counted
  rw [frames] at parts ended
  refine ⟨?_, fun isEnd => spares.2 (ended isEnd)⟩
  rw [spares.1]
  exact (List.prefix_append_right_inj _).mpr parts.flatten

/-- When the check at the top of the loop is the first to see the signal, nothing that stands whole
in the buffer is for the client. -/
def Clear (top : Top) (_ : Unit) : Prop :=
  top.around.fired = true →
    (top.serve (framesIn top.rbuf.pending)).parts.flatten = [] ∧
      (top.serve (framesIn top.rbuf.pending)).verdict ≠ .ended

instance (top : Top) (round : Unit) : Decidable (top.Clear round) :=
  inferInstanceAs (Decidable (_ → _))

/-! ## Runs -/

private theorem receivedBy_eq {top : Top} {next : Interruptible} {received : List UInt8}
    (whole : received ++ bytesOf next.segments = top.remaining) : top.receivedBy next = received := by
  rw [receivedBy, ← whole, List.length_append, Nat.add_sub_cancel_right]
  exact List.take_left

/-- A loop that comes to its end without the check at its top owes nothing. -/
private theorem spares_of_settled {top : Top} {status : UInt16} {received : List UInt8}
    {result : Except UInt16 (UInt16 × FrameReadBuffer × Bool)} {next : Interruptible}
    (settled : Settled top status received result next)
    (whole : received ++ bytesOf next.segments = top.remaining) : top.Spares next := by
  unfold Spares
  rw [receivedBy_eq whole]
  cases settled with
  | clean rest _ verdict completion log =>
      refine ⟨?_, fun _ => completion⟩
      rw [log, bodyOf_append, bodyOf_writesFor]
  | broken _ verdict log =>
      refine ⟨?_, fun ended => absurd ended verdict⟩
      rw [log, bodyOf_append, bodyOf_writesFor]
  | interrupted rest looks verdict log =>
      refine ⟨?_, fun ended => ?_⟩
      · rw [log, bodyOf_append, bodyOf_writesFor]
      · rw [verdict] at ended
        cases ended

/-- One that the check at its top cuts owes what is whole in its buffer. -/
private theorem spares_iff_of_cut {top : Top} {next : Interruptible} (cut : Cut top next)
    (fired : top.around.fired = true) : top.Spares next ↔ top.Clear () := by
  have whole : top.rbuf.pending ++ bytesOf next.segments = top.remaining := by
    rw [cut.segments]
    rfl
  unfold Spares
  rw [receivedBy_eq whole, cut.log, cut.completion, bodyOf_append, bodyOf_writesFor]
  constructor
  · rintro ⟨body, completion⟩ -
    refine ⟨(List.append_cancel_left body).symm, fun ended => ?_⟩
    cases completion ended
  · intro clear
    obtain ⟨nothing, open_⟩ := clear fired
    refine ⟨?_, fun ended => absurd ended open_⟩
    rw [nothing]
    rfl

/-- What is owed behind a round is owed in front of it. -/
private theorem spares_iff_of_stepped {top next : Top} {data : List UInt8} {final : Interruptible}
    (stepped : Stepped top next data) {received : List UInt8}
    (whole : received ++ bytesOf final.segments = next.remaining) :
    top.Spares final ↔ next.Spares final := by
  have log := stepped.log [] false
  rw [List.append_nil] at log
  have body := congrArg bodyOf log
  rw [bodyOf_append, bodyOf_append, bodyOf_writesFor, bodyOf_writesFor, List.flatten_nil,
    List.append_nil] at body
  unfold Spares
  rw [receivedBy_eq whole, receivedBy_eq (stepped.whole whole), stepped.frames, stepped.serve, body]
  simp only [Served.behind, List.flatten_append, List.append_assoc]

/-- The loop delivers what it owes if and only if every round it comes to is clear. -/
theorem run_spares {stream rounds : Nat} {top : Top} (status : UInt16)
    (enough : top.remaining.length < rounds) :
    ∃ result next received, top.run stream status rounds = some (result, next) ∧
      received ++ bytesOf next.segments = top.remaining ∧
      (top.Spares next ↔
        Machine.Meets (fun top _ => top.step stream) Clear top (List.replicate rounds ())) := by
  induction rounds generalizing top with
  | zero => exact absurd enough (Nat.not_lt_zero _)
  | succ rounds inductionHypothesis =>
      simp only [List.replicate_succ, Machine.Meets]
      cases steps : top.step stream with
      | some next =>
          obtain ⟨data, stepped⟩ := stepped_of_step steps
          have shorter := length_of_cutFrame stepped.cut
          obtain ⟨result, final, received, ran, whole, spares⟩ :=
            @inductionHypothesis next (by omega)
          refine ⟨result, final, _, (run_step steps status rounds).trans ran, stepped.whole whole,
            ?_⟩
          rw [spares_iff_of_stepped stepped whole, spares]
          have unfired := unfired_of_step steps
          refine ⟨fun later => ⟨fun fired => ?_, later⟩, fun both => both.2⟩
          rw [unfired] at fired
          cases fired
      | none =>
          rw [and_true]
          cases fired : top.around.fired with
          | true =>
              obtain ⟨next, ran, cut⟩ := run_cut stream fired status rounds
              refine ⟨_, next, top.rbuf.pending, ran, ?_, spares_iff_of_cut cut fired⟩
              rw [cut.segments]
              rfl
          | false =>
              obtain ⟨result, next, received, ran, whole, settled, -⟩ :=
                run_last steps fired status rounds
              refine ⟨result, next, received, ran, whole, ?_⟩
              refine ⟨fun _ set => ?_, fun _ => spares_of_settled settled whole⟩
              rw [fired] at set
              cases set

end Top

/-! ## The stream -/

/-- The loop behind the admission, with the header owed. -/
def Interruptible.top (around : Interruptible) (rbuf : FrameReadBuffer) (header : ResponseHeader) :
    Top :=
  ⟨rbuf, some header, 0, { around with counted := 0 }⟩

/-- A stream, run as far as its bytes go, delivers what it owes. -/
def DrainSpares (around : Interruptible) (stream : Nat) (rbuf : FrameReadBuffer)
    (header : ResponseHeader) (status : UInt16) : Prop :=
  (around.top rbuf header).SparedBy (around.run (streamFramesDownstream
    ((around.top rbuf header).remaining.length + 1) stream rbuf header status))

instance (around : Interruptible) (stream : Nat) (rbuf : FrameReadBuffer)
    (header : ResponseHeader) (status : UInt16) :
    Decidable (DrainSpares around stream rbuf header status) :=
  inferInstanceAs (Decidable ((around.top rbuf header).SparedBy _))

theorem run_streamFramesDownstream (around : Interruptible) (rounds stream : Nat)
    (rbuf : FrameReadBuffer) (header : ResponseHeader) (status : UInt16) :
    around.run (streamFramesDownstream rounds stream rbuf header status) =
      (around.top rbuf header).run stream status rounds := by
  rw [streamFramesDownstream, Interruptible.run_tryAdmit]
  rfl

/-- A drain discards no whole frame if and only if the signal is never first seen by the check at
the top of the loop while the buffer holds one that is for the client. -/
theorem drainSpares_iff (around : Interruptible) (stream : Nat) (rbuf : FrameReadBuffer)
    (header : ResponseHeader) (status : UInt16) :
    DrainSpares around stream rbuf header status ↔
      Machine.Meets (fun top _ => top.step stream) Top.Clear (around.top rbuf header)
        (List.replicate ((around.top rbuf header).remaining.length + 1) ()) := by
  obtain ⟨result, next, received, ran, -, spares⟩ :=
    Top.run_spares status (Nat.lt_succ_self (around.top rbuf header).remaining.length)
  unfold DrainSpares
  rw [run_streamFramesDownstream, ran]
  exact spares

/-- A signal may fire between two looks, and be seen by the later one only. Whatever had been
received by then, a stream that is spared delivers the frames that stood whole in it. -/
theorem drainSpares_between {around : Interruptible} {stream : Nat} {rbuf : FrameReadBuffer}
    {header : ResponseHeader} {status : UInt16}
    (spares : DrainSpares around stream rbuf header status) :
    let top := around.top rbuf header
    ∃ result next, around.run (streamFramesDownstream (top.remaining.length + 1) stream rbuf header
        status) = some (result, next) ∧
      ∀ held, held <+: top.receivedBy next →
        bodyOf around.log ++ (top.serve (framesIn held)).parts.flatten <+: bodyOf next.log ∧
          ((top.serve (framesIn held)).verdict = .ended → next.completion = some .clean) := by
  intro top
  unfold DrainSpares at spares
  cases ran : around.run (streamFramesDownstream (top.remaining.length + 1) stream rbuf header
      status) with
  | none =>
      rw [ran] at spares
      exact spares.elim
  | some finished =>
      obtain ⟨result, next⟩ := finished
      rw [ran] at spares
      exact ⟨result, next, rfl, fun held earlier => Top.Spares.of_earlier spares earlier⟩

/-- One read brings a chunk with the end behind it, and the signal fires while the chunk is
written. -/
def coalesced : Interruptible :=
  { segments := [⟨191, (wire [.chunk [97], .endOfStream]).tail⟩]
    closing := .eof
    looks := some 3
    limit := 2 ^ 20
    counted := 0
    log := []
    completion := none
    pooled := [] }

/-- The end is in the buffer, and the stream is cut as a drain in front of it. -/
theorem buffered_end_cut : ¬ DrainSpares coalesced 1 .new ⟨200, []⟩ 200 := by
  decide +kernel

end Oxo.Edge.FrameHop
