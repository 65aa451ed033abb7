import Oxo.Edge.HttpHop.Feed

/-!
Contract: what the read loops of the HTTP hop come to, whatever the bytes are
(`oxo-pingora-edge/src/platform/worker_wire.rs`).

Owns: for every connection, which bytes each read loop returns when it returns some, and that it
comes to an end within its rounds.

Does not own: what the bytes mean. No drain is under way, no write fails and admission is
granted.
-/

namespace Oxo.Edge.HttpHop

open Oxo.Foundation Oxo.Edge.FrameHop

section

variable (around : Undisturbed)

/-! ## One read -/

/-- A connection without more bytes stays as it is. -/
private theorem read_ended {failing : Bool} (feed : around.feed = ⟨[], failing⟩) :
    { around with feed := around.feed.next.2 } = around := by
  obtain ⟨⟨reads, fails⟩, log, limit, bytesStreamed⟩ := around
  cases feed
  rfl

/-- In the body, no more bytes are as good as a failed read. -/
theorem run_readMore_ended (pending : List UInt8) {failing : Bool}
    (feed : around.feed = ⟨[], failing⟩) :
    around.run (readMoreWorkerBytesOrDrain pending) = some (.error 502, around) := by
  unfold readMoreWorkerBytesOrDrain
  cases failing with
  | true =>
      have ran : around.run readWorkerBytesWithTimeoutOrDrain = some (.error 502, around) := by
        unfold readWorkerBytesWithTimeoutOrDrain
        rw [Undisturbed.run_drainBorrow, if_neg Bool.false_ne_true, Undisturbed.run_readOrDrain,
          read_ended around feed, feed]
        rfl
      exact Undisturbed.run_bindError ran
  | false =>
      have ran : around.run readWorkerBytesWithTimeoutOrDrain = some (.ok (some []), around) := by
        unfold readWorkerBytesWithTimeoutOrDrain
        rw [Undisturbed.run_drainBorrow, if_neg Bool.false_ne_true, Undisturbed.run_readOrDrain,
          read_ended around feed, feed]
        rfl
      exact (Undisturbed.run_bindOk ran).trans rfl

theorem run_readBytes_failed (feed : around.feed = ⟨[], true⟩) :
    around.run readWorkerBytesWithTimeout = some (.error 502, around) := by
  unfold readWorkerBytesWithTimeout
  rw [Undisturbed.run_read, read_ended around feed, feed]
  rfl

theorem run_readBytes_eof (feed : around.feed = ⟨[], false⟩) :
    around.run readWorkerBytesWithTimeout = some (.ok [], around) := by
  unfold readWorkerBytesWithTimeout
  rw [Undisturbed.run_read, read_ended around feed, feed]
  rfl

/-! ## The loops of a chunked body -/

/-- A line loop that returns a line has it in front of what is still to come. -/
def FindsLine (whole later : List UInt8) : Except UInt16 (Option (Nat × List UInt8)) → Prop
  | .ok (some (lineEnd, filled)) =>
      windowPosition [13, 10] filled = some lineEnd ∧ filled ++ later = whole
  | .ok none => False
  | .error _ => True

theorem run_readUntilCrlf_outcome {rounds : Nat} (pending : List UInt8) (positive : 0 < rounds)
    (enough : maxResponseHeaderBytes < rounds + pending.length) :
    ∃ (outcome : Except UInt16 (Option (Nat × List UInt8))) (feed : ReadFeed),
      around.run (readUntilCrlf rounds pending) = some (outcome, { around with feed }) ∧
      FindsLine (pending ++ around.feed.bytes) feed.bytes outcome := by
  induction rounds generalizing around pending with
  | zero => exact absurd positive (Nat.lt_irrefl 0)
  | succ rounds inductionHypothesis =>
      rw [readUntilCrlf]
      cases found : windowPosition [13, 10] pending with
      | some lineEnd => exact ⟨_, around.feed, rfl, found, rfl⟩
      | none =>
          obtain ⟨⟨reads, failing⟩, log, limit, bytesStreamed⟩ := around
          cases reads with
          | nil =>
              exact ⟨.error 502, ⟨[], failing⟩,
                Undisturbed.run_bindError (run_readMore_ended _ pending rfl), trivial⟩
          | cons read rest =>
              have one := read.length_pos
              rw [Undisturbed.run_bindOk (run_readMore _ pending rfl)]
              simp only
              by_cases past : (pending ++ read.bytes).length > maxResponseHeaderBytes
              · rw [if_pos past]
                exact ⟨.error 502, ⟨rest, failing⟩, rfl, trivial⟩
              · rw [if_neg past, ReadFeed.bytes_cons, ← List.append_assoc]
                rw [List.length_append] at past
                apply inductionHypothesis ⟨⟨rest, failing⟩, log, limit, bytesStreamed⟩
                · omega
                · rw [List.length_append]
                  omega

theorem run_readUntilCrlfOrDrain (pending : List UInt8) :
    ∃ (outcome : Except UInt16 (Option (Nat × List UInt8))) (feed : ReadFeed),
      around.run (readUntilCrlfOrDrain pending) = some (outcome, { around with feed }) ∧
      FindsLine (pending ++ around.feed.bytes) feed.bytes outcome :=
  run_readUntilCrlf_outcome around pending (Nat.succ_pos maxResponseHeaderBytes) (by omega)

/-- A filling loop that returns has filled the buffer. -/
def FillsTo (length : Nat) (whole later : List UInt8) :
    Except UInt16 (Option (List UInt8)) → Prop
  | .ok (some filled) => length ≤ filled.length ∧ filled ++ later = whole
  | .ok none => False
  | .error _ => True

theorem run_readUntilAvailable_outcome {length rounds : Nat} (pending : List UInt8)
    (positive : 0 < rounds) (enough : length < rounds + pending.length) :
    ∃ (outcome : Except UInt16 (Option (List UInt8))) (feed : ReadFeed),
      around.run (readUntilAvailable length rounds pending) =
        some (outcome, { around with feed }) ∧
      FillsTo length (pending ++ around.feed.bytes) feed.bytes outcome := by
  induction rounds generalizing around pending with
  | zero => exact absurd positive (Nat.lt_irrefl 0)
  | succ rounds inductionHypothesis =>
      rw [readUntilAvailable]
      by_cases short : pending.length < length
      · rw [if_pos short]
        obtain ⟨⟨reads, failing⟩, log, limit, bytesStreamed⟩ := around
        cases reads with
        | nil =>
            exact ⟨.error 502, ⟨[], failing⟩,
              Undisturbed.run_bindError (run_readMore_ended _ pending rfl), trivial⟩
        | cons read rest =>
            have one := read.length_pos
            rw [Undisturbed.run_bindOk (run_readMore _ pending rfl), ReadFeed.bytes_cons,
              ← List.append_assoc]
            apply inductionHypothesis ⟨⟨rest, failing⟩, log, limit, bytesStreamed⟩
            · omega
            · rw [List.length_append]
              omega
      · rw [if_neg short]
        exact ⟨_, around.feed, rfl, Nat.not_lt.mp short, rfl⟩

theorem run_readUntilAvailableOrDrain (pending : List UInt8) (length : Nat) :
    ∃ (outcome : Except UInt16 (Option (List UInt8))) (feed : ReadFeed),
      around.run (readUntilAvailableOrDrain pending length) =
        some (outcome, { around with feed }) ∧
      FillsTo length (pending ++ around.feed.bytes) feed.bytes outcome :=
  run_readUntilAvailable_outcome around pending (Nat.succ_pos length) (by omega)

/-! ## The head and the rest of a buffered response -/

/-- A head loop that returns has the end of the head, within the caps. -/
def FindsHead (whole : List UInt8) (failing : Bool) (later : ReadFeed) :
    Except UInt16 (Nat × List UInt8) → Prop
  | .ok (headerEnd, filled) =>
      findHeaderEnd filled = some headerEnd ∧ headerEnd ≤ maxResponseHeaderBytes ∧
        filled ++ later.bytes = whole ∧ later.failing = failing ∧
        filled.length ≤ maxResponseBytes
  | .error _ => True

theorem run_readHead_outcome {rounds : Nat} (response : List UInt8) (positive : 0 < rounds)
    (enough : maxResponseHeaderBytes < rounds + response.length)
    (small : response.length ≤ maxResponseHeaderBytes) :
    ∃ (outcome : Except UInt16 (Nat × List UInt8)) (feed : ReadFeed),
      around.run (readHead rounds response) = some (outcome, { around with feed }) ∧
      FindsHead (response ++ around.feed.bytes) around.feed.failing feed outcome := by
  induction rounds generalizing around response with
  | zero => exact absurd positive (Nat.lt_irrefl 0)
  | succ rounds inductionHypothesis =>
      rw [readHead]
      obtain ⟨⟨reads, failing⟩, log, limit, bytesStreamed⟩ := around
      cases reads with
      | nil =>
          cases failing with
          | true =>
              exact ⟨.error 502, ⟨[], true⟩,
                Undisturbed.run_bindError (run_readBytes_failed _ rfl), trivial⟩
          | false =>
              exact ⟨.error 502, ⟨[], false⟩,
                (Undisturbed.run_bindOk (run_readBytes_eof _ rfl)).trans rfl, trivial⟩
      | cons read rest =>
          have one := read.length_pos
          have below := below_cap read small
          rw [Undisturbed.run_bindOk (run_readBytes _ rfl)]
          simp only [if_neg read.nonempty, if_neg below]
          cases found : findHeaderEnd (response ++ read.bytes) with
          | some headerEnd =>
              simp only
              by_cases past : headerEnd > maxResponseHeaderBytes
              · rw [if_pos past]
                exact ⟨.error 502, ⟨rest, failing⟩, rfl, trivial⟩
              · rw [if_neg past]
                refine ⟨_, ⟨rest, failing⟩, rfl, found, Nat.not_lt.mp past, ?_, rfl,
                  Nat.not_lt.mp below⟩
                rw [ReadFeed.bytes_cons, List.append_assoc]
          | none =>
              simp only
              by_cases past : (response ++ read.bytes).length > maxResponseHeaderBytes
              · rw [if_pos past]
                exact ⟨.error 502, ⟨rest, failing⟩, rfl, trivial⟩
              · rw [if_neg past, ReadFeed.bytes_cons, ← List.append_assoc]
                have within := Nat.not_lt.mp past
                rw [List.length_append] at past
                refine inductionHypothesis ⟨⟨rest, failing⟩, log, limit, bytesStreamed⟩ _ ?_ ?_
                  within
                · omega
                · rw [List.length_append]
                  omega

/-- A buffered response is read whole, unless a read fails or it is past the cap. -/
theorem run_readToEnd {rounds : Nat} (response : List UInt8)
    (enough : maxResponseBytes < rounds + response.length)
    (small : response.length ≤ maxResponseBytes) :
    ∃ feed : ReadFeed, around.run (readToEnd rounds response) =
      some (if around.feed.failing = false ∧
          (response ++ around.feed.bytes).length ≤ maxResponseBytes then
        .ok (response ++ around.feed.bytes) else .error 502, { around with feed }) := by
  induction rounds generalizing around response with
  | zero => omega
  | succ rounds inductionHypothesis =>
      rw [readToEnd]
      obtain ⟨⟨reads, failing⟩, log, limit, bytesStreamed⟩ := around
      cases reads with
      | nil =>
          refine ⟨⟨[], failing⟩, ?_⟩
          rw [ReadFeed.bytes_nil, List.append_nil]
          cases failing with
          | true =>
              rw [if_neg (fun both => Bool.noConfusion both.1)]
              exact Undisturbed.run_bindError (run_readBytes_failed _ rfl)
          | false =>
              rw [if_pos ⟨rfl, small⟩]
              exact (Undisturbed.run_bindOk (run_readBytes_eof _ rfl)).trans rfl
      | cons read rest =>
          have one := read.length_pos
          rw [Undisturbed.run_bindOk (run_readBytes _ rfl), ReadFeed.bytes_cons,
            ← List.append_assoc]
          simp only [if_neg read.nonempty]
          by_cases past : (response ++ read.bytes).length > maxResponseBytes
          · refine ⟨⟨rest, failing⟩, ?_⟩
            have whole : ¬ (response ++ read.bytes ++ ReadFeed.bytes ⟨rest, failing⟩).length ≤
                maxResponseBytes := by
              rw [List.length_append]
              omega
            rw [if_pos past, if_neg (fun both => whole both.2)]
            rfl
          · rw [if_neg past]
            have within := Nat.not_lt.mp past
            refine inductionHypothesis ⟨⟨rest, failing⟩, log, limit, bytesStreamed⟩ _ ?_ within
            rw [List.length_append]
            omega

end

end Oxo.Edge.HttpHop
