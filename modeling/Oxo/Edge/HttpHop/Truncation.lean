import Oxo.Edge.FrameHop.Streaming
import Oxo.Edge.HttpHop.ReadOutcome

/-!
Contract: a response over the HTTP hop that the worker cuts short
(`oxo-pingora-edge/src/platform/worker_wire.rs`, `read_worker_response_and_write`).

Owns: when a response is cut short of what its head declares, and for which connections the
client is shown such a response as a whole one.

Does not own: drains, refused admissions and failing downstream writes.
-/

namespace Oxo.Edge.HttpHop

open Oxo.Foundation Oxo.Edge.FrameHop

/-! ## Cut short -/

/-- A chunked body that comes to its last chunk: a size line, then the data, each behind its line
end, and behind the size zero one more line end. -/
inductive WholeChunks : List UInt8 → Prop
  | last {line behind : List UInt8} (plain : ¬ [13, 10] <:+: line)
      (size : parseChunkSize line = .ok 0) :
      WholeChunks (line ++ ([13, 10] ++ ([13, 10] ++ behind)))
  | chunk {line data behind : List UInt8} (plain : ¬ [13, 10] <:+: line)
      (size : parseChunkSize line = .ok data.length) (rest : WholeChunks behind) :
      WholeChunks (line ++ ([13, 10] ++ (data ++ ([13, 10] ++ behind))))

/-- The number that a `Content-Length` value writes. -/
def decimalValue (value : List UInt8) : Option Nat :=
  if value = [] ∨ value.any (fun byte => byte < 48 || 57 < byte) then none
  else some (value.foldl (fun total byte => total * 10 + (byte.toNat - 48)) 0)

/-- A line of the head declares that many body bytes. -/
def DeclaresLength (head : List UInt8) (length : Nat) : Prop :=
  ∃ rawLine ∈ (head.splitOn 10).tail, ∃ name value, headerFields rawLine = .ok (name, value) ∧
    eqIgnoreAsciiCase name "content-length" = true ∧ decimalValue value = some length

/-- What arrived is short of what its head declares: a chunked body of its last chunk, which
overrides a length, and any other body of the declared length. -/
def CutShort (bytes : List UInt8) : Prop :=
  ∃ headerEnd, findHeaderEnd bytes = some headerEnd ∧
    if workerResponseIsChunked (bytes.take headerEnd) = .ok true then
      ¬ WholeChunks (bytes.drop (headerEnd + 4))
    else ∃ length, DeclaresLength (bytes.take headerEnd) length ∧
      (bytes.drop (headerEnd + 4)).length < length

/-! ## Shown as whole -/

/-- A write that ends the response. -/
def endsResponse : Downstream → Bool
  | .header _ last => last
  | .body _ last => last

/-- The client gets the head of a success and the end of the response. -/
def ShownWhole (success : UInt16 → Bool) (writes : List Downstream) : Prop :=
  (∃ header last, .header header last ∈ writes ∧ success header.status = true) ∧
    ∃ write ∈ writes, endsResponse write = true

/-- The response comes to an end, and if it was cut short the client is not shown a whole one. -/
def TruncationShows (settings : HopSettings) (success : UInt16 → Bool) (around : Undisturbed) :
    Prop :=
  ∃ result next writes, around.run (readWorkerResponseAndWrite settings) = some (result, next) ∧
    next.log = around.log ++ writes ∧
    (CutShort around.feed.bytes → ¬ ShownWhole success writes)

/-- A buffered response that is taken: its head ends within the cap and no read ends in its
terminator past it, the connection ends without a failed read within the response cap, and the head
parses. -/
structure TakenBuffered (settings : HopSettings) (feed : ReadFeed) (headerEnd : Nat)
    (header : ResponseHeader) : Prop where
  found : findHeaderEnd feed.bytes = some headerEnd
  capped : headerEnd ≤ maxResponseHeaderBytes
  unbroken : ¬ feed.BreaksBetween maxResponseHeaderBytes (headerEnd + 4)
  ended : feed.failing = false
  within : feed.bytes.length ≤ maxResponseBytes
  notChunked : workerResponseIsChunked (feed.bytes.take headerEnd) = .ok false
  parsed : parseHead settings (feed.bytes.take headerEnd) = .ok header

/-- A taken response with a head that declares more body bytes than arrived, and a status of
success. -/
def ShortOfLength (settings : HopSettings) (success : UInt16 → Bool) (feed : ReadFeed) : Prop :=
  ∃ headerEnd header length, TakenBuffered settings feed headerEnd header ∧
    success header.status = true ∧ DeclaresLength (feed.bytes.take headerEnd) length ∧
    (feed.bytes.drop (headerEnd + 4)).length < length

/-! ## Chunked bodies -/

section

variable (around : Undisturbed)

/-- A line that was found in a buffer, in front of what follows. -/
private theorem line_split {filled later whole : List UInt8} {lineEnd : Nat}
    (found : windowPosition [13, 10] filled = some lineEnd) (same : filled ++ later = whole) :
    whole = filled.take lineEnd ++ ([13, 10] ++ (filled.drop (lineEnd + 2) ++ later)) := by
  obtain ⟨behind, opens⟩ := windowPosition_opens found
  have dropped : filled.drop (lineEnd + 2) = behind := by
    rw [← List.drop_drop, ← opens]
    rfl
  rw [← same, dropped]
  calc filled ++ later = (filled.take lineEnd ++ filled.drop lineEnd) ++ later := by
        rw [List.take_append_drop]
    _ = filled.take lineEnd ++ ([13, 10] ++ (behind ++ later)) := by
        rw [← opens, List.append_assoc, List.append_assoc]

private theorem not_ends_owed {owed : Option ResponseHeader} {write : Downstream}
    (member : write ∈ owed.toList.map (.header · false)) : endsResponse write = false := by
  obtain ⟨header, -, rfl⟩ := List.mem_map.mp member
  rfl

/-- An end among the writes of a chunk and later ones is among the later ones. -/
private theorem later_ends {owed : Option ResponseHeader} {chunk : Option (List UInt8)}
    {writes : List Downstream}
    (ended : ∃ write ∈ owed.toList.map (.header · false) ++ ([.body chunk false] ++ writes),
      endsResponse write = true) : ∃ write ∈ writes, endsResponse write = true := by
  obtain ⟨write, member, ends⟩ := ended
  rcases List.mem_append.mp member with header | body
  · rw [not_ends_owed header] at ends
    cases ends
  · rcases List.mem_append.mp body with chunked | later
    · rw [List.mem_singleton.mp chunked] at ends
      cases ends
    · exact ⟨write, later, ends⟩

/-- The data of a chunk in front of its line end. -/
private theorem data_split {data : List UInt8} {size : Nat}
    (closed : (data.drop size).take 2 = [13, 10]) :
    data = data.take size ++ ([13, 10] ++ data.drop (size + 2)) := by
  calc data = data.take size ++ ((data.drop size).take 2 ++ (data.drop size).drop 2) := by
        rw [List.take_append_drop, List.take_append_drop]
    _ = data.take size ++ ([13, 10] ++ data.drop (size + 2)) := by
        rw [closed, List.drop_drop]

/-- The end is written behind the line end of the last chunk only. -/
private theorem run_finishChunks_outcome (owed : Option ResponseHeader) (pending : List UInt8) :
    ∃ result next writes, around.run (finishChunks owed pending) = some (result, next) ∧
      next.log = around.log ++ writes ∧
      ((∃ write ∈ writes, endsResponse write = true) →
        [13, 10] <+: pending ++ around.feed.bytes) := by
  obtain ⟨outcome, feed, ran, fills⟩ := run_readUntilAvailableOrDrain around pending 2
  have nothing : ∀ writes : List Downstream, writes = [] →
      (∃ write ∈ writes, endsResponse write = true) → [13, 10] <+: pending ++ around.feed.bytes := by
    rintro writes rfl ⟨write, member, -⟩
    cases member
  unfold finishChunks
  match outcome, fills with
  | .error status, _ =>
      exact ⟨_, _, [], Undisturbed.run_bindError ran, (List.append_nil _).symm, nothing [] rfl⟩
  | .ok (some filled), ⟨enough, same⟩ =>
      rw [Undisturbed.run_bindOk ran]
      simp only
      by_cases terminator : filled.take 2 = [13, 10]
      · rw [if_neg (not_not_intro terminator),
          Undisturbed.run_bindOk (Undisturbed.run_writeOwedHeader owed),
          Undisturbed.run_bindOk (Undisturbed.run_writeResponseBody none true)]
        refine ⟨_, _, owed.toList.map (.header · false) ++ [.body none true], rfl, ?_, fun _ => ?_⟩
        · exact List.append_assoc _ _ _
        · rw [← same, ← terminator]
          exact (List.take_prefix 2 filled).trans (List.prefix_append filled feed.bytes)
      · rw [if_pos terminator]
        exact ⟨_, _, [], rfl, (List.append_nil _).symm, nothing [] rfl⟩

/-- A run that ends the response only behind a whole body. -/
private def EndsWhole (whole : List UInt8) (ran : Option (Except UInt16 Unit × Undisturbed)) :
    Prop :=
  ∃ result next writes, ran = some (result, next) ∧ next.log = around.log ++ writes ∧
    ((∃ write ∈ writes, endsResponse write = true) → WholeChunks whole)

private theorem EndsWhole.of_error {whole : List UInt8} {status : UInt16} {next : Undisturbed}
    (log : next.log = around.log) : EndsWhole around whole (some (.error status, next)) := by
  refine ⟨_, next, [], rfl, log.trans (List.append_nil _).symm, ?_⟩
  rintro ⟨write, member, -⟩
  cases member

/-- The loop over the chunks ends a response only behind a whole body. -/
private theorem run_chunkLoop_endsWhole {rounds decoded : Nat} (owed : Option ResponseHeader)
    (pending : List UInt8) (small : decoded ≤ maxResponseBytes)
    (enough : maxResponseBytes < rounds + decoded) :
    EndsWhole around (pending ++ around.feed.bytes)
      (around.run (chunkLoop rounds owed pending decoded)) := by
  induction rounds generalizing around owed pending decoded with
  | zero => omega
  | succ rounds inductionHypothesis =>
      have bounded : maxResponseBytes + 2 < 2 ^ 64 := by decide
      obtain ⟨outcome, feed, ran, finds⟩ := run_readUntilCrlfOrDrain around pending
      match outcome, finds with
      | .error status, _ =>
          rw [chunkLoop, Undisturbed.run_bindError ran]
          exact EndsWhole.of_error around rfl
      | .ok (some (lineEnd, filled)), ⟨found, same⟩ =>
          have split := line_split found same
          have plain := windowPosition_first (List.cons_ne_nil _ _) found
          rw [chunkLoop, Undisturbed.run_bindOk ran]
          simp only
          cases sized : parseChunkSize (filled.take lineEnd) with
          | error status =>
              rw [Undisturbed.run_bindError (Undisturbed.run_settled _)]
              exact EndsWhole.of_error around rfl
          | ok size =>
              rw [Undisturbed.run_bindOk (Undisturbed.run_settled _)]
              by_cases last : size = 0
              · rw [if_pos last]
                subst last
                obtain ⟨result, next, writes, finished, log, ends⟩ :=
                  run_finishChunks_outcome { around with feed } owed (filled.drop (lineEnd + 2))
                refine ⟨result, next, writes, finished, log, fun ended => ?_⟩
                obtain ⟨behind, opens⟩ := ends ended
                rw [split, ← opens]
                exact .last plain sized
              · rw [if_neg last]
                by_cases past : decoded + size > maxResponseBytes
                · by_cases wraps : decoded + size ≥ 2 ^ 64
                  · rw [if_pos wraps]
                    exact EndsWhole.of_error around rfl
                  · rw [if_neg wraps, if_pos past]
                    exact EndsWhole.of_error around rfl
                · rw [if_neg (by omega), if_neg past, Undisturbed.run_recordBytes]
                  simp only
                  by_cases allowed :
                      min (around.bytesStreamed + size) (2 ^ 64 - 1) ≤ around.limit
                  · rw [decide_eq_true allowed, if_pos rfl, Undisturbed.run_addUsize (by omega)]
                    let counted : Undisturbed := { around with
                      feed, bytesStreamed := min (around.bytesStreamed + size) (2 ^ 64 - 1) }
                    obtain ⟨filling, later, filledRan, fills⟩ :=
                      run_readUntilAvailableOrDrain counted (filled.drop (lineEnd + 2)) (size + 2)
                    match filling, fills with
                    | .error status, _ =>
                        rw [Undisturbed.run_bindError filledRan]
                        exact EndsWhole.of_error around rfl
                    | .ok (some data), ⟨covers, arrived⟩ =>
                        rw [Undisturbed.run_bindOk filledRan]
                        simp only
                        by_cases closed : (data.drop size).take 2 = [13, 10]
                        · rw [if_neg (not_not_intro closed),
                            Undisturbed.run_bindOk (Undisturbed.run_writeOwedHeader owed),
                            Undisturbed.run_bindOk (Undisturbed.run_writeResponseBody _ false)]
                          obtain ⟨result, next, writes, finished, log, ends⟩ := inductionHypothesis
                            { counted with
                              feed := later
                              log := around.log ++ owed.toList.map (.header · false) ++
                                [.body (some (data.take size)) false] }
                            none (data.drop (size + 2)) (Nat.not_lt.mp past) (by omega)
                          refine ⟨result, next, owed.toList.map (.header · false) ++
                            ([.body (some (data.take size)) false] ++ writes), finished, ?_,
                            fun ended => ?_⟩
                          · rw [log, List.append_assoc, List.append_assoc]
                          · rw [split, ← arrived, data_split closed, List.append_assoc,
                              List.append_assoc]
                            refine .chunk plain ?_ (ends (later_ends ended))
                            rw [List.length_take, Nat.min_eq_left (Nat.le_of_add_right_le covers)]
                            exact sized
                        · rw [if_pos closed]
                          exact EndsWhole.of_error around rfl
                  · rw [decide_eq_false allowed, if_neg Bool.false_ne_true]
                    exact EndsWhole.of_error around rfl

end

/-! ## Buffered bodies -/

section

variable {settings : HopSettings} {around : Undisturbed} {headerEnd : Nat}
  {header : ResponseHeader}

/-- What is written of a buffered response: a head with the length of what arrived, and all of
it with the end. -/
def bufferedWrites (settings : HopSettings) (header : ResponseHeader) (body : List UInt8) :
    List Downstream :=
  [.header { header with
      headers := header.headers ++ [("Content-Length", numeral 10 body.length)] ++
        closeHeader settings } false,
    .body (some body) true]

/-- The head that was found, in all that arrives. -/
private theorem head_of_finds {whole filled : List UInt8} {failing : Bool} {later : ReadFeed}
    (finds : FindsHead whole failing later (.ok (headerEnd, filled))) :
    findHeaderEnd whole = some headerEnd ∧ filled.take headerEnd = whole.take headerEnd ∧
      filled.drop (headerEnd + 4) ++ later.bytes = whole.drop (headerEnd + 4) := by
  obtain ⟨found, -, same, -⟩ := finds
  have covers : headerEnd + 4 ≤ filled.length := windowPosition_add_le found
  rw [← same]
  refine ⟨windowPosition_append found later.bytes, ?_, ?_⟩
  · rw [List.take_append_of_le_length (Nat.le_of_add_right_le covers)]
  · rw [List.drop_append_of_le_length covers]

/-- A buffered response behind its head: refused, or written with the length that arrived. -/
private theorem run_buffered (settings : HopSettings) {filled : List UInt8} {later : ReadFeed}
    (ran : around.run (readHead (maxResponseHeaderBytes + 1) []) =
      some (.ok (headerEnd, filled), { around with feed := later }))
    (finds : FindsHead around.feed.bytes around.feed.failing later (.ok (headerEnd, filled)))
    (notChunked : workerResponseIsChunked (around.feed.bytes.take headerEnd) = .ok false) :
    ∃ feed, around.run (readWorkerResponseAndWrite settings) =
      if around.feed.failing = false ∧ around.feed.bytes.length ≤ maxResponseBytes then
        match parseHead settings (around.feed.bytes.take headerEnd) with
        | .error status => some (.error status, { around with feed })
        | .ok header => some (.ok header.status, { around with
            feed
            log := around.log ++
              bufferedWrites settings header (around.feed.bytes.drop (headerEnd + 4)) })
      else some (.error 502, { around with feed }) := by
  obtain ⟨foundWhole, opens, -⟩ := head_of_finds finds
  obtain ⟨-, capped, same, failing, small⟩ := finds
  obtain ⟨feed, readAll⟩ := @run_readToEnd { around with feed := later } (maxResponseBytes + 1)
    filled (by omega) small
  rw [same, failing] at readAll
  refine ⟨feed, ?_⟩
  rw [readWorkerResponseAndWrite, Undisturbed.run_bindOk ran]
  simp only
  rw [opens, notChunked, Undisturbed.run_bindOk (Undisturbed.run_settled _),
    if_neg Bool.false_ne_true]
  by_cases ended : around.feed.failing = false ∧ around.feed.bytes.length ≤ maxResponseBytes
  · rw [if_pos ended] at readAll ⊢
    have inCaps : (decide (headerEnd > maxResponseHeaderBytes) ||
        decide (around.feed.bytes.length > maxResponseBytes)) = false := by
      rw [decide_eq_false (Nat.not_lt.mpr capped), decide_eq_false (Nat.not_lt.mpr ended.2)]
      rfl
    rw [Undisturbed.run_bindOk readAll, parseWorkerResponse, foundWhole]
    simp only [inCaps, Bool.false_eq_true, if_false]
    cases parseHead settings (around.feed.bytes.take headerEnd) with
    | error status => rfl
    | ok header => exact congrArg some (Prod.ext rfl (by simp [bufferedWrites]))
  · rw [if_neg ended] at readAll ⊢
    exact Undisturbed.run_bindError readAll

private theorem run_taken (taken : TakenBuffered settings around.feed headerEnd header) :
    ∃ next, around.run (readWorkerResponseAndWrite settings) =
        some (.ok header.status, next) ∧
      next.log = around.log ++
        bufferedWrites settings header (around.feed.bytes.drop (headerEnd + 4)) := by
  have reaches : ∀ front, front <+: around.feed.reads →
      maxResponseHeaderBytes < ([] : List UInt8).length +
        (front.flatMap ReadBytes.bytes).length →
      headerEnd + 4 ≤ ([] : List UInt8).length + (front.flatMap ReadBytes.bytes).length := by
    intro front opens past
    rw [List.length_nil, Nat.zero_add] at past ⊢
    by_contra short
    exact taken.unbroken ⟨front, opens, past, Nat.not_le.mp short⟩
  obtain ⟨filled, later, ran, -⟩ := run_readHead around (Nat.succ_pos maxResponseHeaderBytes)
    (Nat.lt_succ_self _) (Nat.zero_le _) (Nat.succ_pos _) taken.found taken.capped reaches
  obtain ⟨outcome, sameLater, sameRan, finds⟩ := run_readHead_outcome around []
    (Nat.succ_pos maxResponseHeaderBytes) (Nat.lt_succ_self _) (Nat.zero_le _)
  rw [ran] at sameRan
  cases sameRan
  obtain ⟨feed, whole⟩ := run_buffered settings ran finds taken.notChunked
  rw [if_pos ⟨taken.ended, taken.within⟩, taken.parsed] at whole
  exact ⟨_, whole, rfl⟩

/-- What is written of a response: nothing that ends it, a chunked body that ends only when it is
whole, or a taken buffered one. -/
private inductive Conclusion (settings : HopSettings) (feed : ReadFeed)
    (writes : List Downstream) : Prop
  | refused (silent : ∀ write ∈ writes, endsResponse write = false)
  | chunked {headerEnd : Nat} (found : findHeaderEnd feed.bytes = some headerEnd)
      (chunked : workerResponseIsChunked (feed.bytes.take headerEnd) = .ok true)
      (whole : (∃ write ∈ writes, endsResponse write = true) →
        WholeChunks (feed.bytes.drop (headerEnd + 4)))
  | buffered {headerEnd : Nat} {header : ResponseHeader}
      (taken : TakenBuffered settings feed headerEnd header)
      (same : writes = bufferedWrites settings header (feed.bytes.drop (headerEnd + 4)))

private def Concludes (settings : HopSettings) (around : Undisturbed)
    (ran : Option (Except UInt16 UInt16 × Undisturbed)) : Prop :=
  ∃ result next writes, ran = some (result, next) ∧ next.log = around.log ++ writes ∧
    Conclusion settings around.feed writes

private theorem Concludes.of_error {status : UInt16} {next : Undisturbed}
    (log : next.log = around.log) : Concludes settings around (some (.error status, next)) :=
  ⟨_, next, [], rfl, log.trans (List.append_nil _).symm, .refused fun _ member => nomatch member⟩

private theorem run_response (settings : HopSettings) (around : Undisturbed) :
    Concludes settings around (around.run (readWorkerResponseAndWrite settings)) := by
  obtain ⟨outcome, later, ran, finds⟩ := run_readHead_outcome around []
    (Nat.succ_pos maxResponseHeaderBytes) (Nat.lt_succ_self _) (Nat.zero_le _)
  rw [List.nil_append] at finds
  match outcome, finds with
  | .error status, _ =>
      rw [readWorkerResponseAndWrite, Undisturbed.run_bindError ran]
      exact .of_error rfl
  | .ok (headerEnd, filled), finds =>
      obtain ⟨found, opens, behind⟩ := head_of_finds finds
      cases isChunked : workerResponseIsChunked (around.feed.bytes.take headerEnd) with
      | error status =>
          rw [readWorkerResponseAndWrite, Undisturbed.run_bindOk ran]
          simp only
          rw [opens, isChunked, Undisturbed.run_bindError (Undisturbed.run_settled _)]
          exact .of_error rfl
      | ok chunked =>
          cases chunked with
          | true =>
              rw [readWorkerResponseAndWrite, Undisturbed.run_bindOk ran]
              simp only
              rw [opens, isChunked, Undisturbed.run_bindOk (Undisturbed.run_settled _), if_pos rfl]
              cases parsed : parseChunkedWorkerResponseHead settings
                  (around.feed.bytes.take headerEnd) with
              | error status =>
                  rw [Undisturbed.run_bindError (Undisturbed.run_settled _)]
                  exact .of_error rfl
              | ok head =>
                  rw [Undisturbed.run_bindOk (Undisturbed.run_settled _)]
                  obtain ⟨result, next, writes, streamed, log, whole⟩ := run_chunkLoop_endsWhole
                    { around with feed := later, bytesStreamed := 0 } (some head.1)
                    (filled.drop (headerEnd + 4)) (Nat.zero_le maxResponseBytes)
                    (Nat.lt_succ_self maxResponseBytes)
                  rw [behind] at whole
                  have admitted : Undisturbed.run (streamChunkedWorkerResponse head.1
                      (filled.drop (headerEnd + 4))) { around with feed := later } =
                        some (result, next) := by
                    rw [streamChunkedWorkerResponse, Undisturbed.run_tryAdmit, if_pos rfl]
                    exact streamed
                  have conclusion : Conclusion settings around.feed writes :=
                    .chunked found isChunked whole
                  cases result with
                  | error status =>
                      rw [Undisturbed.run_bindError admitted]
                      exact ⟨_, next, writes, rfl, log, conclusion⟩
                  | ok _ =>
                      rw [Undisturbed.run_bindOk admitted]
                      exact ⟨_, next, writes, rfl, log, conclusion⟩
          | false =>
              obtain ⟨feed, whole⟩ := run_buffered settings ran finds isChunked
              rw [whole]
              by_cases ended : around.feed.failing = false ∧
                  around.feed.bytes.length ≤ maxResponseBytes
              · rw [if_pos ended]
                cases parsed : parseHead settings (around.feed.bytes.take headerEnd) with
                | error status => exact .of_error rfl
                | ok header =>
                    refine ⟨_, _, _, rfl, rfl, .buffered ⟨found, finds.2.1, ?_, ended.1, ended.2,
                      isChunked, parsed⟩ rfl⟩
                    rintro ⟨front, prefixes, past, before⟩
                    obtain ⟨feed, broken⟩ := @run_readHead_broken around
                      (maxResponseHeaderBytes + 1) headerEnd [] front (Nat.succ_pos _)
                      (Nat.lt_succ_self _) (Nat.zero_le _) found prefixes (by simpa using past)
                      (by simpa using before)
                    rw [ran] at broken
                    cases broken
              · rw [if_neg ended]
                exact .of_error rfl

private theorem not_truncationShows {success : UInt16 → Bool}
    (short : ShortOfLength settings success around.feed) :
    ¬ TruncationShows settings success around := by
  obtain ⟨headerEnd, header, length, taken, succeeds, declares, short⟩ := short
  rintro ⟨result, next, writes, ran, log, shows⟩
  obtain ⟨last, whole, wrote⟩ := run_taken taken
  rw [ran] at whole
  cases whole
  have same := List.append_cancel_left (log.symm.trans wrote)
  have cut : CutShort around.feed.bytes := by
    refine ⟨headerEnd, taken.found, ?_⟩
    rw [taken.notChunked, if_neg (fun chunked => nomatch chunked)]
    exact ⟨length, declares, short⟩
  refine shows cut ?_
  rw [same]
  exact ⟨⟨_, false, List.mem_cons_self, succeeds⟩,
    ⟨_, List.mem_cons_of_mem _ List.mem_cons_self, rfl⟩⟩

/-- A response that was cut short is shown as one, unless it is taken as a buffered one and falls
short of a declared length: then the client gets what arrived under the length of what arrived. -/
theorem truncationShows_iff (settings : HopSettings) (success : UInt16 → Bool)
    (around : Undisturbed) :
    TruncationShows settings success around ↔
      ¬ ShortOfLength settings success around.feed := by
  constructor
  · exact fun shows short => not_truncationShows short shows
  · intro notShort
    obtain ⟨result, next, writes, ran, log, conclusion⟩ := run_response settings around
    refine ⟨result, next, writes, ran, log, ?_⟩
    rintro ⟨headerEnd, found, cut⟩ ⟨⟨header, last, headed, succeeds⟩, write, member, ends⟩
    cases conclusion with
    | refused silent =>
        rw [silent write member] at ends
        cases ends
    | chunked foundHere chunked whole =>
        cases found.symm.trans foundHere
        rw [if_pos chunked] at cut
        exact cut (whole ⟨write, member, ends⟩)
    | buffered taken same =>
        cases found.symm.trans taken.found
        rw [taken.notChunked, if_neg (fun chunked => nomatch chunked)] at cut
        obtain ⟨length, declares, short⟩ := cut
        refine notShort ⟨headerEnd, _, length, taken, ?_, declares, short⟩
        rw [same] at headed
        rcases List.mem_cons.mp headed with isHeader | other
        · cases isHeader
          exact succeeds
        · cases List.mem_singleton.mp other

/-- Two bytes of a declared ten arrive, one at a time, in front of the end of the connection. -/
def shortOfTen : Undisturbed where
  feed := ⟨(utf8 "HTTP/1.1 200 OK\r\nContent-Length: 10\r\n\r\nab").map ReadBytes.one,
    false⟩
  log := []
  limit := maxResponseBytes
  bytesStreamed := 0

private theorem shortOfTen_taken :
    TakenBuffered documentedLibrary shortOfTen.feed 35 ⟨200, []⟩ where
  found := by decide +kernel
  capped := by decide
  unbroken := by
    rintro ⟨front, opens, past, before⟩
    exact absurd (past.trans before) (by decide)
  ended := rfl
  within := by decide +kernel
  notChunked := by decide +kernel
  parsed := by decide +kernel

/-- The client is shown a whole response of two bytes. -/
theorem declared_length_ignored :
    ¬ TruncationShows documentedLibrary (fun status => 200 ≤ status && status ≤ 299)
      shortOfTen := by
  refine not_truncationShows ⟨35, ⟨200, []⟩, 10, shortOfTen_taken, by decide, ?_, by decide +kernel⟩
  refine ⟨utf8 "Content-Length: 10", ?_, "Content-Length", utf8 "10", ?_, ?_, ?_⟩
  · decide +kernel
  · decide +kernel
  · decide +kernel
  · decide +kernel

end

end Oxo.Edge.HttpHop
