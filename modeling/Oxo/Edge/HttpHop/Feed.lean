import Oxo.Edge.HttpHop.Response

/-!
Contract: the read loops of the HTTP hop do not depend on how the bytes arrive, but for one
place (`oxo-pingora-edge/src/platform/worker_wire.rs`).

Owns: a connection that hands over given bytes in given reads, and what each read loop returns
on it: the line, the body bytes and the head.

Does not own: what the bytes mean. No drain is under way, no write fails and admission is
granted.
-/

namespace Oxo.Edge.HttpHop

open Oxo.Foundation Oxo.Edge.FrameHop

/-! ## A connection that is read -/

/-- What is still to come on a connection, and whether a failed read ends it. -/
structure ReadFeed where
  reads : List ReadBytes
  failing : Bool

namespace ReadFeed

def bytes (feed : ReadFeed) : List UInt8 :=
  feed.reads.flatMap ReadBytes.bytes

/-- One read. -/
def next (feed : ReadFeed) : ReadEnd × ReadFeed :=
  match feed.reads with
  | [] => (if feed.failing then .failed else .eof, feed)
  | read :: rest => (.data read, ⟨rest, feed.failing⟩)

@[simp] theorem bytes_cons (read : ReadBytes) (rest : List ReadBytes) (failing : Bool) :
    bytes ⟨read :: rest, failing⟩ = read.bytes ++ bytes ⟨rest, failing⟩ :=
  rfl

@[simp] theorem bytes_nil (failing : Bool) : bytes ⟨[], failing⟩ = [] :=
  rfl

/-- A read ends behind more than `low` and less than `high` bytes. -/
def BreaksBetween (feed : ReadFeed) (low high : Nat) : Prop :=
  ∃ front, front <+: feed.reads ∧
    low < (front.flatMap ReadBytes.bytes).length ∧ (front.flatMap ReadBytes.bytes).length < high

end ReadFeed

/-- The surroundings of a response that nothing disturbs. -/
structure Undisturbed where
  feed : ReadFeed
  log : List Downstream
  limit : Nat
  bytesStreamed : Nat

namespace Undisturbed

/-- No drain, no failing write, admission granted. -/
def answer (around : Undisturbed) : (op : ResponseOp) → Option (op.Answer × Undisturbed)
  | .drainBorrow => some (false, around)
  | .read => some (around.feed.next.1, { around with feed := around.feed.next.2 })
  | .readOrDrain => some (some around.feed.next.1, { around with feed := around.feed.next.2 })
  | .tryAdmit => some (true, { around with bytesStreamed := 0 })
  | .recordBytes count =>
      let bytesStreamed := min (around.bytesStreamed + count) (2 ^ 64 - 1)
      some (decide (bytesStreamed ≤ around.limit), { around with bytesStreamed })
  | .complete | .completeDrained | .overflow => some ((), around)
  | .writeHeader header last =>
      some (true, { around with log := around.log ++ [.header header last] })
  | .writeBody body last => some (true, { around with log := around.log ++ [.body body last] })

/-- What a program comes to. -/
def run {α : Type} (program : ExceptT UInt16 Response α) (around : Undisturbed) :
    Option (Except UInt16 α × Undisturbed) :=
  Program.run answer program.run around

section

variable {α β : Type} {around next : Undisturbed}

section

variable {program : ExceptT UInt16 Response α} {continuation : α → ExceptT UInt16 Response β}

theorem run_bindOk {value : α} (ran : around.run program = some (.ok value, next)) :
    around.run (program >>= continuation) = next.run (continuation value) :=
  Program.run_bindOk ran

theorem run_bindError {status : UInt16} (ran : around.run program = some (.error status, next)) :
    around.run (program >>= continuation) = some (.error status, next) :=
  Program.run_bindError ran

end

@[simp] theorem run_pure (value : α) :
    around.run (pure value : ExceptT UInt16 Response α) = some (.ok value, around) :=
  rfl

@[simp] theorem run_settled (result : Except UInt16 α) :
    around.run (Response.settled result) = some (result, around) :=
  rfl

/-! One operation in front of the rest. -/

theorem run_drainBorrow (continuation : Bool → ExceptT UInt16 Response β) :
    around.run (do
      let answer ← Response.drainBorrow
      continuation answer) = around.run (continuation false) :=
  Program.run_callExcept rfl

theorem run_read (continuation : ReadEnd → ExceptT UInt16 Response β) :
    around.run (do
      let answer ← Response.read
      continuation answer) =
      { around with feed := around.feed.next.2 }.run (continuation around.feed.next.1) :=
  Program.run_callExcept rfl

theorem run_readOrDrain (continuation : Option ReadEnd → ExceptT UInt16 Response β) :
    around.run (do
      let answer ← Response.readOrDrain
      continuation answer) =
      { around with feed := around.feed.next.2 }.run (continuation (some around.feed.next.1)) :=
  Program.run_callExcept rfl

theorem run_tryAdmit (continuation : Bool → ExceptT UInt16 Response β) :
    around.run (do
      let answer ← Response.tryAdmit
      continuation answer) = { around with bytesStreamed := 0 }.run (continuation true) :=
  Program.run_callExcept rfl

theorem run_recordBytes (count : Nat) (continuation : Bool → ExceptT UInt16 Response β) :
    around.run (do
      let answer ← Response.recordBytes count
      continuation answer) =
      let bytesStreamed := min (around.bytesStreamed + count) (2 ^ 64 - 1)
      { around with bytesStreamed }.run
        (continuation (decide (bytesStreamed ≤ around.limit))) :=
  Program.run_callExcept rfl

theorem run_addUsize {left right : Nat} (fits : left + right < 2 ^ 64)
    (continuation : Nat → ExceptT UInt16 Response β) :
    around.run (do
      let sum ← addUsize left right
      continuation sum) = around.run (continuation (left + right)) := by
  unfold addUsize
  rw [if_pos fits]
  rfl

theorem run_writeOwedHeader (owed : Option ResponseHeader) :
    around.run (writeOwedHeader owed) =
      some (.ok (), { around with log := around.log ++ owed.toList.map (.header · false) }) := by
  cases owed with
  | none => simp [writeOwedHeader]
  | some header => rfl

theorem run_writeResponseBody (body : Option (List UInt8)) (last : Bool) :
    around.run (writeResponseBody body last) =
      some (.ok (), { around with log := around.log ++ [.body body last] }) :=
  rfl

end

end Undisturbed

/-! ## The read loops -/

section

variable (around : Undisturbed)

/-- One more read is put behind the buffer. -/
theorem run_readMore (pending : List UInt8) {read : ReadBytes} {rest : List ReadBytes}
    {failing : Bool} (feed : around.feed = ⟨read :: rest, failing⟩) :
    around.run (readMoreWorkerBytesOrDrain pending) =
      some (.ok (some (pending ++ read.bytes)), { around with feed := ⟨rest, failing⟩ }) := by
  have ran : around.run readWorkerBytesWithTimeoutOrDrain =
      some (.ok (some read.bytes), { around with feed := ⟨rest, failing⟩ }) := by
    unfold readWorkerBytesWithTimeoutOrDrain
    rw [Undisturbed.run_drainBorrow, if_neg Bool.false_ne_true, Undisturbed.run_readOrDrain, feed]
    rfl
  unfold readMoreWorkerBytesOrDrain
  rw [Undisturbed.run_bindOk ran]
  simp only [if_neg read.nonempty, Undisturbed.run_pure]

theorem run_readBytes {read : ReadBytes} {rest : List ReadBytes} {failing : Bool}
    (feed : around.feed = ⟨read :: rest, failing⟩) :
    around.run readWorkerBytesWithTimeout =
      some (.ok read.bytes, { around with feed := ⟨rest, failing⟩ }) := by
  unfold readWorkerBytesWithTimeout
  rw [Undisturbed.run_read, feed]
  rfl

/-- A read hands over at least one byte. -/
theorem ReadBytes.length_pos (read : ReadBytes) : 0 < read.bytes.length :=
  List.length_pos_of_ne_nil read.nonempty

/-- The buffer fills to a length that is to come. -/
theorem run_readUntilAvailable {length rounds : Nat} {pending : List UInt8}
    (positive : 0 < rounds) (enough : length < rounds + pending.length)
    (arrives : length ≤ (pending ++ around.feed.bytes).length) :
    ∃ filled feed, around.run (readUntilAvailable length rounds pending) =
        some (.ok (some filled), { around with feed }) ∧
      filled ++ feed.bytes = pending ++ around.feed.bytes ∧ length ≤ filled.length := by
  induction rounds generalizing around pending with
  | zero => exact absurd positive (Nat.lt_irrefl 0)
  | succ rounds inductionHypothesis =>
      rw [readUntilAvailable]
      by_cases short : pending.length < length
      · rw [if_pos short]
        obtain ⟨⟨reads, failing⟩, log, limit, bytesStreamed⟩ := around
        cases reads with
        | nil =>
            rw [ReadFeed.bytes_nil, List.append_nil] at arrives
            exact absurd short (Nat.not_lt.mpr arrives)
        | cons read rest =>
            have one := read.length_pos
            rw [ReadFeed.bytes_cons, ← List.append_assoc] at arrives
            rw [Undisturbed.run_bindOk (run_readMore _ pending rfl), ReadFeed.bytes_cons,
              ← List.append_assoc]
            apply inductionHypothesis ⟨⟨rest, failing⟩, log, limit, bytesStreamed⟩ _ _ arrives
            · omega
            · rw [List.length_append]
              omega
      · rw [if_neg short]
        exact ⟨pending, around.feed, rfl, rfl, Nat.not_lt.mp short⟩

/-- A line that is short enough is found, and only its end is looked for. -/
theorem run_readUntilCrlf {rounds : Nat} {pending line behind : List UInt8}
    (positive : 0 < rounds) (enough : maxResponseHeaderBytes < rounds + pending.length)
    (plain : (13 : UInt8) ∉ line) (short : line.length + 1 + 8192 ≤ maxResponseHeaderBytes)
    (arrives : pending ++ around.feed.bytes = line ++ ([13, 10] ++ behind)) :
    ∃ filled feed, around.run (readUntilCrlf rounds pending) =
        some (.ok (some (line.length, filled)), { around with feed }) ∧
      filled ++ feed.bytes = line ++ ([13, 10] ++ behind) ∧ line.length + 2 ≤ filled.length := by
  have whole : windowPosition [13, 10] (line ++ ([13, 10] ++ behind)) = some line.length := by
    rw [windowPosition_skip plain, windowPosition_of_prefix, Option.map_some, Nat.zero_add]
  induction rounds generalizing around pending with
  | zero => exact absurd positive (Nat.lt_irrefl 0)
  | succ rounds inductionHypothesis =>
      have opens : pending <+: line ++ ([13, 10] ++ behind) := ⟨around.feed.bytes, arrives⟩
      have shown := windowPosition_prefix (List.cons_ne_nil 13 [10]) whole opens
      rw [readUntilCrlf, shown]
      by_cases covered : line.length + [(13 : UInt8), 10].length ≤ pending.length
      · rw [if_pos covered]
        exact ⟨pending, around.feed, rfl, arrives, covered⟩
      · rw [if_neg covered]
        simp only [List.length_cons, List.length_nil] at covered
        obtain ⟨⟨reads, failing⟩, log, limit, bytesStreamed⟩ := around
        cases reads with
        | nil =>
            have lengths := congrArg List.length arrives
            simp only [ReadFeed.bytes_nil, List.append_nil, List.length_append, List.length_cons,
              List.length_nil] at lengths
            omega
        | cons read rest =>
            have one := read.length_pos
            have bounded := read.bounded
            have within : ¬ (pending ++ read.bytes).length > maxResponseHeaderBytes := by
              rw [List.length_append]
              omega
            rw [Undisturbed.run_bindOk (run_readMore _ pending rfl)]
            simp only [if_neg within]
            rw [List.length_append] at within
            apply inductionHypothesis ⟨⟨rest, failing⟩, log, limit, bytesStreamed⟩
            · omega
            · rw [List.length_append]
              omega
            · rw [List.append_assoc]
              exact arrives

/-! ## The head -/

/-- What the head loop sees behind one more read. -/
private theorem findHeaderEnd_read {response : List UInt8} {read : ReadBytes}
    {rest : List ReadBytes} {failing : Bool} {headerEnd : Nat}
    (found : findHeaderEnd (response ++ ReadFeed.bytes ⟨read :: rest, failing⟩) = some headerEnd) :
    findHeaderEnd (response ++ read.bytes) =
      if headerEnd + 4 ≤ (response ++ read.bytes).length then some headerEnd else none := by
  apply windowPosition_prefix (List.cons_ne_nil 13 [10, 13, 10]) found
  rw [ReadFeed.bytes_cons, ← List.append_assoc]
  exact List.prefix_append ..

/-- No read of the head loop comes near the cap of a whole response. -/
theorem below_cap {response : List UInt8} (read : ReadBytes)
    (small : response.length ≤ maxResponseHeaderBytes) :
    ¬ (response ++ read.bytes).length > maxResponseBytes := by
  have bounded := read.bounded
  unfold maxResponseHeaderBytes at small
  unfold maxResponseBytes
  rw [List.length_append]
  omega

/-- The head is read whole when no read ends in its terminator past the cap. -/
theorem run_readHead {rounds headerEnd : Nat} {response : List UInt8}
    (positive : 0 < rounds) (enough : maxResponseHeaderBytes < rounds + response.length)
    (small : response.length ≤ maxResponseHeaderBytes) (unfinished : response.length < headerEnd + 4)
    (found : findHeaderEnd (response ++ around.feed.bytes) = some headerEnd)
    (capped : headerEnd ≤ maxResponseHeaderBytes)
    (whole : ∀ front, front <+: around.feed.reads →
      maxResponseHeaderBytes < response.length + (front.flatMap ReadBytes.bytes).length →
      headerEnd + 4 ≤ response.length + (front.flatMap ReadBytes.bytes).length) :
    ∃ filled feed, around.run (readHead rounds response) =
        some (.ok (headerEnd, filled), { around with feed }) ∧
      filled ++ feed.bytes = response ++ around.feed.bytes ∧ headerEnd + 4 ≤ filled.length := by
  induction rounds generalizing around response with
  | zero => exact absurd positive (Nat.lt_irrefl 0)
  | succ rounds inductionHypothesis =>
      obtain ⟨⟨reads, failing⟩, log, limit, bytesStreamed⟩ := around
      cases reads with
      | nil =>
          have fits := windowPosition_add_le found
          rw [ReadFeed.bytes_nil, List.append_nil] at fits
          exact absurd unfinished (Nat.not_lt.mpr fits)
      | cons read rest =>
          have one := read.length_pos
          rw [readHead, Undisturbed.run_bindOk (run_readBytes _ rfl)]
          simp only [if_neg read.nonempty, if_neg (below_cap read small),
            findHeaderEnd_read found]
          by_cases covered : headerEnd + 4 ≤ (response ++ read.bytes).length
          · rw [if_pos covered]
            simp only [if_neg (Nat.not_lt.mpr capped)]
            refine ⟨response ++ read.bytes, ⟨rest, failing⟩, rfl, ?_, covered⟩
            rw [ReadFeed.bytes_cons, List.append_assoc]
          · rw [if_neg covered]
            have prefixed : [read] <+: read :: rest := ⟨rest, rfl⟩
            have within : ¬ (response ++ read.bytes).length > maxResponseHeaderBytes := by
              intro past
              apply covered
              have reaches := whole [read] prefixed
              rw [List.flatMap_singleton, ← List.length_append] at reaches
              exact reaches past
            simp only [if_neg within]
            rw [ReadFeed.bytes_cons, ← List.append_assoc] at found ⊢
            apply inductionHypothesis ⟨⟨rest, failing⟩, log, limit, bytesStreamed⟩
            · rw [List.length_append] at within
              omega
            · rw [List.length_append]
              omega
            · exact Nat.not_lt.mp within
            · exact Nat.not_le.mp covered
            · exact found
            · intro front opens
              have reaches := whole (read :: front) (List.cons_prefix_cons.mpr ⟨rfl, opens⟩)
              rw [List.flatMap_cons, List.length_append, ← Nat.add_assoc,
                ← List.length_append] at reaches
              exact reaches

/-- The head is refused when a read ends in its terminator past the cap. -/
theorem run_readHead_broken {rounds headerEnd : Nat} {response : List UInt8}
    {front : List ReadBytes} (positive : 0 < rounds)
    (enough : maxResponseHeaderBytes < rounds + response.length)
    (small : response.length ≤ maxResponseHeaderBytes)
    (found : findHeaderEnd (response ++ around.feed.bytes) = some headerEnd)
    (opens : front <+: around.feed.reads)
    (past : maxResponseHeaderBytes < response.length + (front.flatMap ReadBytes.bytes).length)
    (before : response.length + (front.flatMap ReadBytes.bytes).length < headerEnd + 4) :
    ∃ feed, around.run (readHead rounds response) =
      some (.error 502, { around with feed }) := by
  induction rounds generalizing around response front with
  | zero => exact absurd positive (Nat.lt_irrefl 0)
  | succ rounds inductionHypothesis =>
      obtain ⟨⟨reads, failing⟩, log, limit, bytesStreamed⟩ := around
      cases front with
      | nil =>
          rw [List.flatMap_nil, List.length_nil, Nat.add_zero] at past
          exact absurd small (Nat.not_le.mpr past)
      | cons read front =>
          cases reads with
          | nil => cases List.prefix_nil.mp opens
          | cons other rest =>
              obtain ⟨rfl, opensRest⟩ := List.cons_prefix_cons.mp opens
              have one := read.length_pos
              rw [List.flatMap_cons, List.length_append, ← Nat.add_assoc,
                ← List.length_append] at past before
              have uncovered : ¬ headerEnd + 4 ≤ (response ++ read.bytes).length := by omega
              rw [readHead, Undisturbed.run_bindOk (run_readBytes _ rfl)]
              simp only [if_neg read.nonempty, if_neg (below_cap read small),
                findHeaderEnd_read found, if_neg uncovered]
              by_cases beyond : (response ++ read.bytes).length > maxResponseHeaderBytes
              · rw [if_pos beyond]
                exact ⟨⟨rest, failing⟩, rfl⟩
              · rw [if_neg beyond]
                rw [ReadFeed.bytes_cons, ← List.append_assoc] at found
                apply inductionHypothesis ⟨⟨rest, failing⟩, log, limit, bytesStreamed⟩ _ _
                  (Nat.not_lt.mp beyond) found opensRest past before
                · rw [List.length_append] at beyond
                  omega
                · rw [List.length_append]
                  omega

end

end Oxo.Edge.HttpHop
