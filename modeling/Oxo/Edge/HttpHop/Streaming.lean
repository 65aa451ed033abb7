import Oxo.Edge.HttpHop.Feed
import Oxo.Edge.HttpHop.Overflow
import Oxo.Edge.HttpHop.ResponseHead

/-!
Contract: a streamed response over the HTTP hop
(`oxo-worker/src/native/serve.rs`, `oxo-pingora-edge/src/platform/worker_wire.rs`).

Owns: chunk sizes as they are written and parsed, what the edge writes downstream when a worker's
chunked response is read off its connection, and for which reads that is the response itself.

Does not own: drains, failing writes and refused admissions, for the delivery. What the HTTP
library takes as a status and as a header is a parameter, with what its documentation says as a
hypothesis.
-/

namespace Oxo.Edge.HttpHop

open Oxo.Foundation Oxo.Worker Oxo.Edge.FrameHop

/-! ## Chunk sizes -/

private theorem sizeDigit_plain {size : Nat} {char : Char}
    (member : char ∈ (numeral 16 size).toList) :
    char ≠ ';' ∧ isWhitespace char = false ∧ (String.utf8EncodeChar char).length = 1 := by
  rw [numeral, String.toList_ofList] at member
  obtain ⟨digit, small, rfl⟩ := mem_hexDigits member
  have all : ∀ digit < 16, Nat.digitChar digit ≠ ';' ∧
      isWhitespace (Nat.digitChar digit) = false ∧
      (String.utf8EncodeChar (Nat.digitChar digit)).length = 1 := by
    decide
  exact all digit small

/-- A size line gives the size back. -/
theorem parseChunkSize_numeral {size : Nat} (small : size < 2 ^ 64) :
    parseChunkSize (utf8 (numeral 16 size)) = .ok size := by
  have unsplit : split (numeral 16 size) ';' = [numeral 16 size] := by
    have absent : ';' ∉ (numeral 16 size).toList := by
      intro member
      exact (sizeDigit_plain member).1 rfl
    rw [split, List.splitOn_eq_singleton absent, List.map_singleton, String.ofList_toList]
  have untrimmed : trim (numeral 16 size) = numeral 16 size :=
    trimMatches_eq_self fun char member => (sizeDigit_plain member).2.1
  have notEmpty : numeral 16 size ≠ "" := by
    intro empty
    have digits := congrArg String.toList empty
    rw [numeral, String.toList_ofList] at digits
    exact Nat.toDigits_ne_nil digits
  have hexdigits : (utf8 (numeral 16 size)).all isAsciiHexdigit = true :=
    List.all_eq_true.mpr fun byte member => mem_utf8_hexNumeral member
  unfold parseChunkSize
  simp only [fromUtf8_utf8, unsplit, List.headD_cons, untrimmed, notEmpty, hexdigits, Bool.not_true,
    decide_false, Bool.or_self, Bool.false_eq_true, if_false, fromStrRadix_numeral small]

/-- A size line is far below the limit of a line. -/
theorem sizeLine_length {size : Nat} (small : size < 2 ^ 64) :
    (utf8 (numeral 16 size)).length ≤ 16 := by
  have single : ∀ chars : List Char, (∀ char ∈ chars, (String.utf8EncodeChar char).length = 1) →
      (chars.flatMap String.utf8EncodeChar).length = chars.length := by
    intro chars one
    induction chars with
    | nil => rfl
    | cons char rest inductionHypothesis =>
        obtain ⟨oneByte, restBytes⟩ := List.forall_mem_cons.mp one
        rw [List.flatMap_cons, List.length_append, oneByte, inductionHypothesis restBytes,
          List.length_cons, Nat.add_comm]
  have digits : (Nat.toDigits 16 size).length ≤ 16 :=
    (Nat.length_toDigits_le_iff (by decide) (by decide)).mpr small
  rw [utf8_eq_flatMap, single _ fun char member => (sizeDigit_plain member).2.2, numeral,
    String.toList_ofList]
  exact digits

theorem sizeLine_plain (size : Nat) : (13 : UInt8) ∉ utf8 (numeral 16 size) := by
  intro member
  have digit := mem_utf8_hexNumeral member
  revert digit
  decide

/-! ## The chunks -/

theorem writeChunks_eq (chunks : List (List UInt8)) :
    writeChunks (chunks.map .chunk ++ [.finish]) = (written chunks).flatMap Worker.chunkBytes := by
  induction chunks with
  | nil => rfl
  | cons chunk rest inductionHypothesis =>
      rw [List.map_cons, List.cons_append, writeChunks, inductionHypothesis]
      by_cases empty : chunk.isEmpty = true
      · rw [if_pos empty]
        simp [written, empty]
      · rw [if_neg empty]
        simp [written, empty]

/-- What a filled buffer opens with, and what is left of it. -/
private theorem filled_split {filled behind front rest : List UInt8}
    (same : filled ++ behind = front ++ rest) (covers : front.length ≤ filled.length) :
    filled.take front.length = front ∧ filled.drop front.length ++ behind = rest := by
  have opens : front <+: filled :=
    List.prefix_of_prefix_length_le ⟨rest, rfl⟩ ⟨behind, same⟩ covers
  obtain ⟨tail, rfl⟩ := opens
  rw [List.append_assoc] at same
  rw [List.take_left, List.drop_left]
  exact ⟨rfl, List.append_cancel_left same⟩

section

variable (around : Undisturbed)

/-- The size line of the next chunk. -/
private theorem run_sizeLine {pending behind : List UInt8} {size : Nat} (small : size < 2 ^ 64)
    (arrives : pending ++ around.feed.bytes = utf8 (numeral 16 size) ++ ([13, 10] ++ behind)) :
    ∃ lineEnd filled feed, around.run (readUntilCrlfOrDrain pending) =
        some (.ok (some (lineEnd, filled)), { around with feed }) ∧
      parseChunkSize (filled.take lineEnd) = .ok size ∧
      filled.drop (lineEnd + 2) ++ feed.bytes = behind := by
  have short := sizeLine_length small
  obtain ⟨filled, feed, ran, same, covers⟩ :=
    run_readUntilCrlf around (Nat.succ_pos maxResponseHeaderBytes) (by omega)
      (sizeLine_plain size) (by unfold maxResponseHeaderBytes; omega) arrives
  refine ⟨_, filled, feed, ran, ?_, ?_⟩
  · rw [(filled_split same (by omega)).1, parseChunkSize_numeral small]
  · rw [← List.append_assoc] at same
    have whole : (utf8 (numeral 16 size) ++ [13, 10]).length =
        (utf8 (numeral 16 size)).length + 2 := by
      rw [List.length_append]
      rfl
    rw [← whole]
    exact (filled_split same (by rw [whole]; exact covers)).2

private theorem run_available {pending : List UInt8} {length : Nat}
    (arrives : length ≤ (pending ++ around.feed.bytes).length) :
    ∃ filled feed, around.run (readUntilAvailableOrDrain pending length) =
        some (.ok (some filled), { around with feed }) ∧
      filled ++ feed.bytes = pending ++ around.feed.bytes ∧ length ≤ filled.length :=
  run_readUntilAvailable around (Nat.succ_pos length) (by omega) arrives

/-- The end behind the last size line. -/
private theorem run_finishChunks (owed : Option ResponseHeader) {pending : List UInt8}
    (arrives : pending ++ around.feed.bytes = [13, 10]) :
    ∃ feed, around.run (finishChunks owed pending) = some (.ok (), { around with
      feed
      log := around.log ++ owed.toList.map (.header · false) ++ [.body none true] }) := by
  obtain ⟨filled, feed, ran, same, covers⟩ := run_available around
    (show 2 ≤ _ by rw [arrives]; decide)
  rw [arrives, ← List.append_nil [13, 10]] at same
  have opens : filled.take 2 = [13, 10] := (filled_split same covers).1
  refine ⟨feed, ?_⟩
  rw [finishChunks, Undisturbed.run_bindOk ran]
  simp only [opens, ne_eq, not_true_eq_false, if_false]
  rw [Undisturbed.run_bindOk (Undisturbed.run_writeOwedHeader owed),
    Undisturbed.run_bindOk (Undisturbed.run_writeResponseBody none true)]
  rfl

/-- The loop over the chunks writes each of them, and then the end. -/
theorem run_chunkLoop {chunks : List (List UInt8)} (nonempty : ∀ chunk ∈ chunks, chunk ≠ [])
    {rounds : Nat} (decoded : Nat) (owed : Option ResponseHeader) {pending : List UInt8}
    (enough : maxResponseBytes < rounds + decoded)
    (arrives : pending ++ around.feed.bytes =
      chunks.flatMap Worker.chunkBytes ++ (utf8 (numeral 16 0) ++ ([13, 10] ++ [13, 10])))
    (room : decoded + chunks.flatten.length ≤ maxResponseBytes)
    (counted : around.bytesStreamed = decoded)
    (allowed : decoded + chunks.flatten.length ≤ around.limit) :
    ∃ next, around.run (chunkLoop rounds owed pending decoded) = some (.ok (), next) ∧
      next.log = around.log ++ owed.toList.map (.header · false) ++
        (chunks.map fun chunk => .body (some chunk) false) ++ [.body none true] := by
  induction chunks generalizing around rounds owed pending decoded with
  | nil =>
      obtain ⟨rounds, rfl⟩ := Nat.exists_eq_succ_of_ne_zero (show rounds ≠ 0 by omega)
      obtain ⟨lineEnd, filled, feed, ran, size, left⟩ :=
        run_sizeLine around (by decide) arrives
      obtain ⟨last, finished⟩ := run_finishChunks { around with feed } owed left
      rw [chunkLoop, Undisturbed.run_bindOk ran]
      simp only [size]
      rw [Undisturbed.run_bindOk (Undisturbed.run_settled _), if_pos rfl]
      refine ⟨_, finished, ?_⟩
      simp
  | cons chunk rest inductionHypothesis =>
      obtain ⟨rounds, rfl⟩ := Nat.exists_eq_succ_of_ne_zero (show rounds ≠ 0 by omega)
      obtain ⟨chunkNonempty, restNonempty⟩ := List.forall_mem_cons.mp nonempty
      have positive := List.length_pos_of_ne_nil chunkNonempty
      simp only [List.flatten_cons, List.length_append] at room allowed
      have capped : decoded + chunk.length ≤ maxResponseBytes := by omega
      have fits : decoded + (chunk.length + 2) < 2 ^ 64 - 1 := by
        unfold maxResponseBytes at capped
        omega
      have shape : pending ++ around.feed.bytes = utf8 (numeral 16 chunk.length) ++ ([13, 10] ++
          (chunk ++ ([13, 10] ++ (rest.flatMap Worker.chunkBytes ++
            (utf8 (numeral 16 0) ++ ([13, 10] ++ [13, 10])))))) := by
        rw [arrives, List.flatMap_cons, Worker.chunkBytes]
        simp only [List.append_assoc]
      obtain ⟨lineEnd, lined, lineFeed, lineRan, size, lineLeft⟩ :=
        run_sizeLine around (by omega) shape
      have recorded : min (around.bytesStreamed + chunk.length) (2 ^ 64 - 1) =
          decoded + chunk.length := by
        rw [counted]
        omega
      have reaches : chunk.length + 2 ≤ (lined.drop (lineEnd + 2) ++ lineFeed.bytes).length := by
        rw [lineLeft, List.length_append, List.length_append]
        simp only [List.length_cons, List.length_nil]
        omega
      obtain ⟨filled, feed, ran, same, covers⟩ := run_available
        { around with feed := lineFeed, bytesStreamed := decoded + chunk.length } reaches
      change filled ++ feed.bytes = lined.drop (lineEnd + 2) ++ lineFeed.bytes at same
      rw [lineLeft] at same
      obtain ⟨data, behindData⟩ := filled_split same (by omega)
      have covered : ([13, 10] : List UInt8).length ≤ (filled.drop chunk.length).length := by
        rw [List.length_drop]
        simp only [List.length_cons, List.length_nil]
        omega
      obtain ⟨terminator, behind⟩ := filled_split behindData covered
      rw [List.drop_drop] at behind
      change (filled.drop chunk.length).take 2 = [13, 10] at terminator
      change filled.drop (chunk.length + 2) ++ feed.bytes = _ at behind
      obtain ⟨next, finished, log⟩ := inductionHypothesis
        { around with
          feed
          bytesStreamed := decoded + chunk.length
          log := around.log ++ owed.toList.map (.header · false) ++ [.body (some chunk) false] }
        restNonempty (decoded + chunk.length) none
        (show maxResponseBytes < rounds + (decoded + chunk.length) by omega) behind (by omega) rfl
        (show decoded + chunk.length + rest.flatten.length ≤ around.limit by omega)
      refine ⟨next, ?_, ?_⟩
      · rw [chunkLoop, Undisturbed.run_bindOk lineRan]
        simp only [size]
        rw [Undisturbed.run_bindOk (Undisturbed.run_settled _), if_neg (Nat.ne_of_gt positive),
          if_neg (by omega), if_neg (Nat.not_lt.mpr capped), Undisturbed.run_recordBytes]
        simp only [recorded]
        rw [decide_eq_true (show decoded + chunk.length ≤ around.limit by omega), if_pos rfl,
          Undisturbed.run_addUsize (by omega), Undisturbed.run_bindOk ran]
        simp only [terminator, ne_eq, not_true_eq_false, if_false, data]
        rw [Undisturbed.run_bindOk (Undisturbed.run_writeOwedHeader owed),
          Undisturbed.run_bindOk (Undisturbed.run_writeResponseBody (some chunk) false)]
        exact finished
      · rw [log]
        simp

/-- The response behind its head. -/
private theorem run_streamed (settings : HopSettings) (head : WorkerResponseHead)
    {chunks : List (List UInt8)} (room : chunks.flatten.length ≤ maxResponseBytes)
    (allowed : chunks.flatten.length ≤ around.limit) {pending : List UInt8}
    (arrives : pending ++ around.feed.bytes =
      (written chunks).flatMap Worker.chunkBytes ++ utf8 "0\r\n\r\n") :
    ∃ next, around.run (streamChunkedWorkerResponse (relayedHeader settings head) pending) =
        some (.ok (), next) ∧
      next.log = around.log ++ [.header (relayedHeader settings head) false] ++
        ((written chunks).map fun chunk => .body (some chunk) false) ++ [.body none true] := by
  have nonempty : ∀ chunk ∈ written chunks, chunk ≠ [] := by
    intro chunk member
    simpa using (List.mem_filter.mp member).2
  have ending : utf8 "0\r\n\r\n" = utf8 (numeral 16 0) ++ ([13, 10] ++ [13, 10]) := by
    decide +kernel
  rw [ending] at arrives
  rw [← flatten_written] at room allowed
  rw [← Nat.zero_add (written chunks).flatten.length] at room allowed
  obtain ⟨next, ran, log⟩ := run_chunkLoop { around with bytesStreamed := 0 } nonempty 0
    (some (relayedHeader settings head)) (Nat.lt_succ_self maxResponseBytes) arrives room rfl allowed
  refine ⟨next, ?_, log⟩
  rw [streamChunkedWorkerResponse, Undisturbed.run_tryAdmit, if_pos rfl]
  exact ran

end

/-! ## The whole response -/

/-- The written response: its head, the blank line, the chunks and the end. -/
theorem writeStreamingResponse_eq (head : WorkerResponseHead) (chunks : List (List UInt8)) :
    writeStreamingResponse (streamEvents head chunks) = headBytes head ++ ([13, 10, 13, 10] ++
      ((written chunks).flatMap Worker.chunkBytes ++ utf8 "0\r\n\r\n")) := by
  simp only [writeStreamingResponse, streamEvents, headOf]
  rw [writeResponseHead_chunked, writeChunks_eq, List.append_assoc, List.append_assoc]

/-- The head is recognised as chunked, and its header, each chunk in order and one end go
downstream. -/
def ChunksDelivered (settings : HopSettings) (head : WorkerResponseHead)
    (chunks : List (List UInt8)) (around : Undisturbed) : Prop :=
  workerResponseIsChunked (headBytes head) = .ok true ∧
    ∃ next, around.run (readWorkerResponseAndWrite settings) =
        some (.ok (writtenStatus head.status), next) ∧
      next.log = around.log ++ [.header (relayedHeader settings head) false] ++
        ((written chunks).map fun chunk => .body (some chunk) false) ++ [.body none true] ∧
      bodyOf next.log = bodyOf around.log ++ chunks.flatten

section

variable {settings : HopSettings} {head : WorkerResponseHead} {chunks : List (List UInt8)}
  {around : Undisturbed}

private theorem headEnd_found
    (arrives : around.feed.bytes = writeStreamingResponse (streamEvents head chunks)) :
    findHeaderEnd ([] ++ around.feed.bytes) = some (headBytes head).length := by
  rw [List.nil_append, arrives, writeStreamingResponse_eq, findHeaderEnd_headBytes]

/-- A read that ends in the terminator past the cap costs the whole response. -/
theorem run_response_broken (settings : HopSettings)
    (arrives : around.feed.bytes = writeStreamingResponse (streamEvents head chunks))
    (breaks : around.feed.BreaksBetween maxResponseHeaderBytes ((headBytes head).length + 4)) :
    ∃ feed, around.run (readWorkerResponseAndWrite settings) =
      some (.error 502, { around with feed }) := by
  obtain ⟨front, opens, past, before⟩ := breaks
  obtain ⟨feed, ran⟩ := run_readHead_broken around
    (Nat.succ_pos maxResponseHeaderBytes) (Nat.lt_succ_self _) (Nat.zero_le _)
    (headEnd_found arrives) opens (by simpa using past) (by simpa using before)
  exact ⟨feed, Undisturbed.run_bindError ran⟩

/-- The head of a response that no read breaks, and the bytes behind it. -/
private theorem run_response_head (capped : (headBytes head).length ≤ maxResponseHeaderBytes)
    (arrives : around.feed.bytes = writeStreamingResponse (streamEvents head chunks))
    (whole : ¬ around.feed.BreaksBetween maxResponseHeaderBytes ((headBytes head).length + 4)) :
    ∃ filled feed, around.run (readHead (maxResponseHeaderBytes + 1) []) =
        some (.ok ((headBytes head).length, filled), { around with feed }) ∧
      filled.take (headBytes head).length = headBytes head ∧
      filled.drop ((headBytes head).length + 4) ++ feed.bytes =
        (written chunks).flatMap Worker.chunkBytes ++ utf8 "0\r\n\r\n" := by
  have reaches : ∀ front, front <+: around.feed.reads →
      maxResponseHeaderBytes < ([] : List UInt8).length +
        (front.flatMap ReadBytes.bytes).length →
      (headBytes head).length + 4 ≤ ([] : List UInt8).length +
        (front.flatMap ReadBytes.bytes).length := by
    intro front opens past
    rw [List.length_nil, Nat.zero_add] at past ⊢
    by_contra short
    exact whole ⟨front, opens, past, Nat.not_le.mp short⟩
  obtain ⟨filled, feed, ran, same, covers⟩ := run_readHead around
    (Nat.succ_pos maxResponseHeaderBytes) (Nat.lt_succ_self _) (Nat.zero_le _)
    (Nat.succ_pos _) (headEnd_found arrives) capped reaches
  rw [List.nil_append, arrives, writeStreamingResponse_eq] at same
  refine ⟨filled, feed, ran, (filled_split same (by omega)).1, ?_⟩
  have blank : (headBytes head ++ [13, 10, 13, 10]).length = (headBytes head).length + 4 := by
    rw [List.length_append]
    rfl
  rw [← List.append_assoc] at same
  rw [← blank]
  exact (filled_split same (by rw [blank]; exact covers)).2

/-- Behind a head that is taken whole, the body is streamed if the status is relayed. -/
private theorem run_behind_head (library : LibraryAccepts settings)
    (capped : (headBytes head).length ≤ maxResponseHeaderBytes) {filled : List UInt8}
    {feed : ReadFeed}
    (ran : around.run (readHead (maxResponseHeaderBytes + 1) []) =
      some (.ok ((headBytes head).length, filled), { around with feed }))
    (opens : filled.take (headBytes head).length = headBytes head) :
    around.run (readWorkerResponseAndWrite settings) =
      { around with feed }.run (do
        let (header, status) ← Response.settled
          (if writtenStatus head.status ≤ 599 then
            .ok (relayedHeader settings head, writtenStatus head.status) else .error 502)
        streamChunkedWorkerResponse header (filled.drop ((headBytes head).length + 4))
        pure status) := by
  have chunked := workerResponseIsChunked_headBytes head
  have parsed := parseChunkedWorkerResponseHead_headBytes library capped
  rw [readWorkerResponseAndWrite, Undisturbed.run_bindOk ran]
  simp only [opens, chunked, parsed]
  rw [Undisturbed.run_bindOk (Undisturbed.run_settled _), if_pos rfl]

/-- Over the HTTP hop a streamed response arrives exactly as it was sent if and only if its
status is at most 599 and no read ends in the terminator of its head past the cap; and whatever
arrives, no chunk size overflows. -/
theorem chunked_response_delivered_iff (library : LibraryAccepts settings)
    (capped : (headBytes head).length ≤ maxResponseHeaderBytes)
    (room : chunks.flatten.length ≤ maxResponseBytes)
    (allowed : chunks.flatten.length ≤ around.limit)
    (arrives : around.feed.bytes = writeStreamingResponse (streamEvents head chunks)) :
    (ChunksDelivered settings head chunks around ↔
      writtenStatus head.status ≤ 599 ∧
        ¬ around.feed.BreaksBetween maxResponseHeaderBytes ((headBytes head).length + 4)) ∧
      ∀ events, Program.Trace (readWorkerResponseAndWrite settings).run events →
        ∀ event ∈ events, event.op ≠ .overflow := by
  refine ⟨?_, ?_⟩
  · by_cases breaks :
        around.feed.BreaksBetween maxResponseHeaderBytes ((headBytes head).length + 4)
    · refine iff_of_false ?_ fun both => both.2 breaks
      rintro ⟨-, next, ran, -⟩
      obtain ⟨feed, refused⟩ := run_response_broken settings arrives breaks
      rw [refused] at ran
      cases ran
    · obtain ⟨filled, feed, ran, opens, behind⟩ := run_response_head capped arrives breaks
      have chunked := workerResponseIsChunked_headBytes head
      have headed := run_behind_head library capped ran opens
      by_cases taken : writtenStatus head.status ≤ 599
      · rw [if_pos taken] at headed
        refine iff_of_true ?_ ⟨taken, breaks⟩
        obtain ⟨next, streamed, log⟩ :=
          run_streamed { around with feed } settings head room allowed
            behind
        refine ⟨chunked, next, ?_, log, ?_⟩
        · rw [headed, Undisturbed.run_bindOk (Undisturbed.run_settled _)]
          simp only
          rw [Undisturbed.run_bindOk streamed]
          rfl
        · rw [log]
          simp [bodyOf, bodyOf_written]
      · rw [if_neg taken] at headed
        refine iff_of_false ?_ fun both => taken both.1
        rintro ⟨-, next, delivered, -⟩
        rw [headed, Undisturbed.run_bindError (Undisturbed.run_settled _)] at delivered
        cases delivered
  · intro events trace event member
    obtain ⟨before, after, split⟩ := List.append_of_mem member
    rw [split] at trace
    exact (quiet_readWorkerResponseAndWrite settings).allowed_of_trace trace

end

/-! ## Two responses -/

/-- A response that arrives byte by byte. -/
def dripped (head : WorkerResponseHead) (chunks : List (List UInt8)) : Undisturbed where
  feed := ⟨(writeStreamingResponse (streamEvents head chunks)).map ReadBytes.one, false⟩
  log := []
  limit := maxResponseBytes
  bytesStreamed := 0

private theorem flatMap_dripped (bytes : List UInt8) :
    (bytes.map ReadBytes.one).flatMap ReadBytes.bytes = bytes := by
  rw [List.flatMap_map]
  exact List.flatMap_singleton' bytes

theorem chunked_response_delivered_iff_plain :
    (ChunksDelivered documentedLibrary plainHead [[1, 2], [], [3]]
        (dripped plainHead [[1, 2], [], [3]]) ↔
      writtenStatus plainHead.status ≤ 599 ∧
        ¬ (dripped plainHead [[1, 2], [], [3]]).feed.BreaksBetween maxResponseHeaderBytes
          ((headBytes plainHead).length + 4)) ∧
      ∀ events, Program.Trace (readWorkerResponseAndWrite documentedLibrary).run events →
        ∀ event ∈ events, event.op ≠ .overflow :=
  chunked_response_delivered_iff ⟨fun _ => rfl, fun _ _ => rfl⟩ (by decide +kernel) (by decide)
    (by decide) (flatMap_dripped _)

/-- A head with one value of that many letters. -/
def paddedHead (letters : Nat) : WorkerResponseHead :=
  ⟨200, [("x", String.ofList (List.replicate letters 'a'))]⟩

private theorem paddedHead_length (letters : Nat) :
    (headBytes (paddedHead letters)).length = letters + 67 := by
  have value := utf8_letters letters
  have valid : validResponseHeaderValue (String.ofList (List.replicate letters 'a')) = true := by
    rw [validResponseHeaderValue, value, List.all_replicate]
    simp
  have named : (!isHostFraming "x" && validToken "x") = true := by decide +kernel
  have emitted : emittedHeaders (paddedHead letters).headers = (paddedHead letters).headers := by
    rw [emittedHeaders, paddedHead, List.filter_cons, if_pos]
    · rfl
    · rw [← Bool.and_assoc, named, valid]
      rfl
  have opening : (statusLine 200).length = 15 := by decide +kernel
  have closing : (([("transfer-encoding", "chunked"), ("connection", "close")].map
      fieldLine).flatMap fun line => [13, 10] ++ line).length = 47 := by
    decide +kernel
  have status : (paddedHead letters).status = 200 := rfl
  have name : utf8 "x" = [120] := by decide
  rw [headBytes, headFields, emitted, status, joined, List.map_append, List.flatMap_append,
    List.length_append, List.length_append, opening, closing]
  simp only [paddedHead, List.map_cons, List.map_nil, List.flatMap_cons, List.flatMap_nil, fieldLine,
    name, value, List.length_append, List.length_cons, List.length_nil, List.length_replicate]
  omega

/-- A head just within the cap, in reads that end in its terminator: the response is refused. -/
theorem dripped_response_undelivered :
    (headBytes (paddedHead 65469)).length = maxResponseHeaderBytes ∧
      (dripped (paddedHead 65469) [[1]]).feed.bytes =
        writeStreamingResponse (streamEvents (paddedHead 65469) [[1]]) ∧
      ¬ ChunksDelivered documentedLibrary (paddedHead 65469) [[1]]
        (dripped (paddedHead 65469) [[1]]) := by
  have length : (headBytes (paddedHead 65469)).length = maxResponseHeaderBytes :=
    paddedHead_length 65469
  have arrives : (dripped (paddedHead 65469) [[1]]).feed.bytes =
      writeStreamingResponse (streamEvents (paddedHead 65469) [[1]]) :=
    flatMap_dripped _
  refine ⟨length, arrives, ?_⟩
  rintro ⟨-, next, delivered, -⟩
  have written : maxResponseHeaderBytes + 1 <
      (writeStreamingResponse (streamEvents (paddedHead 65469) [[1]])).length := by
    rw [writeStreamingResponse_eq, List.length_append, List.length_append, length]
    simp only [List.length_cons, List.length_nil]
    omega
  have breaks : (dripped (paddedHead 65469) [[1]]).feed.BreaksBetween maxResponseHeaderBytes
      ((headBytes (paddedHead 65469)).length + 4) := by
    refine ⟨((writeStreamingResponse (streamEvents (paddedHead 65469) [[1]])).take
      (maxResponseHeaderBytes + 1)).map ReadBytes.one,
      (List.take_prefix _ _).map _, ?_⟩
    rw [flatMap_dripped, List.length_take, Nat.min_eq_left (Nat.le_of_lt written), length]
    omega
  obtain ⟨feed, refused⟩ := run_response_broken documentedLibrary arrives breaks
  rw [refused] at delivered
  cases delivered

end Oxo.Edge.HttpHop
