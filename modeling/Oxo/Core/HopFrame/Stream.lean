import Oxo.Core.HopFrame.Response

/-!
Contract: a run of response frames on a connection is read in one way.

Owns: framed envelopes and their prefix-freeness, the wire image of a list of
response frames, which lists are one whole response, and that a whole response is
not continued by another.

Does not own: how the bytes arrive.
-/

namespace Oxo.Core.HopFrame

open Oxo.Foundation

/-! ## Framed envelopes -/

/-- An envelope behind its prefix. -/
def framed (envelope : List UInt8) : List UInt8 :=
  prefixImage envelope.length ++ envelope

theorem framed_length (envelope : List UInt8) :
    (framed envelope).length = framePrefixLen + envelope.length := by
  rw [framed, List.length_append, prefixImage_length]

/-- No framed envelope opens another, whatever follows. -/
theorem framed_split {left right leftTail rightTail : List UInt8}
    (leftSmall : left.length < 2 ^ 32) (rightSmall : right.length < 2 ^ 32)
    (same : framed left ++ leftTail = framed right ++ rightTail) :
    left = right ∧ leftTail = rightTail := by
  have block := ByteCursor.block_exact FrameError.truncated 4
  have blocks : ByteCursor.blockImage 4 left ++ leftTail =
      ByteCursor.blockImage 4 right ++ rightTail := by
    simp only [framed, prefixImage, List.append_assoc] at same
    have behindMagic := List.append_cancel_left same
    simp only [ByteCursor.blockImage, List.append_assoc]
    exact behindMagic
  exact ByteCursor.split_unique block leftSmall rightSmall blocks

private theorem parse_eq_ok {bytes : PrefixBytes} {caps : FrameCaps} {parsed : FramePrefix}
    (accepted : FramePrefix.parse bytes caps = .ok parsed) :
    bytes 0 = frameMagic ∧ bytes 1 = frameVersion ∧
      parsed.remainingLength = UInt32.ofNat (ofLeBytes [bytes 2, bytes 3, bytes 4, bytes 5]) := by
  unfold FramePrefix.parse at accepted
  by_cases isMagic : bytes 0 = frameMagic
  · rw [if_neg (not_not.mpr isMagic)] at accepted
    by_cases isVersion : bytes 1 = frameVersion
    · rw [if_neg (not_not.mpr isVersion)] at accepted
      dsimp only at accepted
      split at accepted
      · cases accepted
      · exact ⟨isMagic, isVersion, (congrArg FramePrefix.remainingLength
          (Except.ok.inj accepted)).symm⟩
    · rw [if_pos isVersion] at accepted
      cases accepted
  · rw [if_pos isMagic] at accepted
    cases accepted

/-- Six bytes that parse are the prefix of the length they declare. -/
theorem prefixImage_of_parse {buffer : List UInt8} {caps : FrameCaps} {parsed : FramePrefix}
    (enough : framePrefixLen ≤ buffer.length)
    (accepted : FramePrefix.parse (prefixBytes buffer) caps = .ok parsed) :
    buffer.take framePrefixLen = prefixImage parsed.remainingLength.toNat := by
  obtain ⟨sameMagic, sameVersion, declared⟩ := parse_eq_ok accepted
  match buffer, enough with
  | magic :: version :: len0 :: len1 :: len2 :: len3 :: _, _ =>
      change magic = frameMagic at sameMagic
      change version = frameVersion at sameVersion
      change _ = UInt32.ofNat (ofLeBytes [len0, len1, len2, len3]) at declared
      have bound : ofLeBytes [len0, len1, len2, len3] < 2 ^ 32 := by
        have below := ofLeBytes_lt [len0, len1, len2, len3]
        simp only [List.length_cons, List.length_nil] at below
        omega
      have back : toLeBytes 4 (ofLeBytes [len0, len1, len2, len3]) = [len0, len1, len2, len3] :=
        toLeBytes_ofLeBytes [len0, len1, len2, len3]
      rw [prefixImage, declared, u32_toNat_ofNat bound, back, ← sameMagic, ← sameVersion]
      rfl

/-! ## Response frames -/

namespace ResponseFrame

/-- Two frames that fit the wire and share an envelope are equal. -/
theorem envelope_injective {left right : ResponseFrame} (leftFits : left.FitsWire)
    (rightFits : right.FitsWire) (same : left.envelope = right.envelope) : left = right := by
  obtain ⟨sameType, samePayload⟩ := List.cons_eq_cons.mp same
  cases left with
  | full status headers body =>
      cases right with
      | full otherStatus otherHeaders otherBody =>
          obtain ⟨statusEq, behindStatus⟩ :=
            ByteCursor.split_unique readU16_exact trivial trivial samePayload
          obtain ⟨headersEq, behindHeaders⟩ :=
            headersImage_split leftFits.1.1 rightFits.1.1 behindStatus
          rw [statusEq, headersEq,
            bytesImage_injective leftFits.1.2 rightFits.1.2 behindHeaders]
      | head | chunk | endOfStream =>
          simp [typeByte, respFull, respHead, respChunk, respEnd] at sameType
  | head status headers =>
      cases right with
      | head otherStatus otherHeaders =>
          obtain ⟨statusEq, behindStatus⟩ :=
            ByteCursor.split_unique readU16_exact trivial trivial samePayload
          have padded : headersImage headers ++ [] = headersImage otherHeaders ++ [] := by
            rw [List.append_nil, List.append_nil]
            exact behindStatus
          rw [statusEq, (headersImage_split leftFits.1 rightFits.1 padded).1]
      | full | chunk | endOfStream =>
          simp [typeByte, respFull, respHead, respChunk, respEnd] at sameType
  | chunk data =>
      cases right with
      | chunk otherData => rw [bytesImage_injective leftFits.1 rightFits.1 samePayload]
      | full | head | endOfStream =>
          simp [typeByte, respFull, respHead, respChunk, respEnd] at sameType
  | endOfStream =>
      cases right with
      | endOfStream => rfl
      | full | head | chunk =>
          simp [typeByte, respFull, respHead, respChunk, respEnd] at sameType

/-- The bytes of a frame on the wire, what `encodeResponse` writes. -/
def wireBytes (frame : ResponseFrame) : List UInt8 :=
  framed frame.envelope

theorem wireBytes_ne_nil (frame : ResponseFrame) : frame.wireBytes ≠ [] := by
  simp [wireBytes, framed, prefixImage]

theorem wireBytes_split {left right : ResponseFrame} {leftTail rightTail : List UInt8}
    (leftFits : left.FitsWire) (rightFits : right.FitsWire)
    (same : left.wireBytes ++ leftTail = right.wireBytes ++ rightTail) :
    left = right ∧ leftTail = rightTail := by
  obtain ⟨sameEnvelope, sameTail⟩ := framed_split leftFits.2 rightFits.2 same
  exact ⟨envelope_injective leftFits rightFits sameEnvelope, sameTail⟩

end ResponseFrame

/-! ## Runs of frames -/

/-- The bytes of a run of frames. -/
def wire (frames : List ResponseFrame) : List UInt8 :=
  frames.flatMap ResponseFrame.wireBytes

@[simp] theorem wire_nil : wire [] = [] := rfl

theorem wire_concat (frames : List ResponseFrame) (frame : ResponseFrame) :
    wire (frames ++ [frame]) = wire frames ++ frame.wireBytes := by
  simp [wire]

theorem wire_ne_nil {frames : List ResponseFrame} (nonempty : frames ≠ []) : wire frames ≠ [] := by
  cases frames with
  | nil => exact absurd rfl nonempty
  | cons frame rest =>
      intro empty
      exact frame.wireBytes_ne_nil (List.append_eq_nil_iff.mp empty).1

/-- A run whose bytes open the bytes of another is an opening of the other. -/
theorem prefix_of_wire_prefix {frames response : List ResponseFrame}
    (framesFit : ∀ frame ∈ frames, frame.FitsWire)
    (responseFits : ∀ frame ∈ response, frame.FitsWire)
    (opens : wire frames <+: wire response) : frames <+: response := by
  induction frames generalizing response with
  | nil => exact List.nil_prefix
  | cons frame rest inductionHypothesis =>
      obtain ⟨frameFits, restFits⟩ := List.forall_mem_cons.mp framesFit
      cases response with
      | nil =>
          exact absurd (List.prefix_nil.mp opens) (wire_ne_nil (List.cons_ne_nil frame rest))
      | cons other others =>
          obtain ⟨otherFits, othersFit⟩ := List.forall_mem_cons.mp responseFits
          obtain ⟨tail, same⟩ := opens
          simp only [wire, List.flatMap_cons, List.append_assoc] at same
          obtain ⟨sameFrame, sameTail⟩ :=
            ResponseFrame.wireBytes_split frameFits otherFits same
          rw [sameFrame]
          apply (List.prefix_cons_inj other).mpr
          exact inductionHypothesis restFits othersFit ⟨tail, sameTail⟩

/-! ## Whole responses -/

/-- One whole response: a full frame, or a head, its chunks and the end. -/
inductive Complete : List ResponseFrame → Prop where
  | full (status : UInt16) (headers : List (String × String)) (body : List UInt8) :
      Complete [.full status headers body]
  | stream (status : UInt16) (headers : List (String × String)) (chunks : List (List UInt8)) :
      Complete (.head status headers :: (chunks.map .chunk ++ [.endOfStream]))

theorem Complete.ne_nil {frames : List ResponseFrame} (complete : Complete frames) :
    frames ≠ [] := by
  cases complete <;> exact List.cons_ne_nil _ _

private theorem chunks_prefix_unique {left right : List (List UInt8)}
    (opens : left.map ResponseFrame.chunk ++ [.endOfStream] <+:
      right.map ResponseFrame.chunk ++ [.endOfStream]) : left = right := by
  induction left generalizing right with
  | nil =>
      cases right with
      | nil => rfl
      | cons chunk rest => simp [List.cons_prefix_cons] at opens
  | cons chunk rest inductionHypothesis =>
      cases right with
      | nil => simp [List.cons_prefix_cons] at opens
      | cons other others =>
          simp only [List.map_cons, List.cons_append, List.cons_prefix_cons,
            ResponseFrame.chunk.injEq] at opens
          rw [opens.1, inductionHypothesis opens.2]

/-- A whole response that opens a whole response is all of it. -/
theorem Complete.eq_of_prefix {left right : List ResponseFrame} (leftComplete : Complete left)
    (rightComplete : Complete right) (opens : left <+: right) : left = right := by
  cases leftComplete with
  | full =>
      cases rightComplete with
      | full => exact opens.eq_of_length rfl
      | stream => simp [List.cons_prefix_cons] at opens
  | stream status headers chunks =>
      cases rightComplete with
      | full => simp [List.cons_prefix_cons] at opens
      | stream otherStatus otherHeaders otherChunks =>
          obtain ⟨sameHead, rest⟩ := List.cons_prefix_cons.mp opens
          rw [sameHead, chunks_prefix_unique rest]

end Oxo.Core.HopFrame
