import Oxo.Edge.FrameHop.Replay
import Oxo.Edge.FrameHop.System

/-!
Contract: responses are paired with their requests.

Owns: the invariant of the whole system (who holds which connection, and what is on
it), that every step keeps it, and what it says about the writes downstream and about
connections going back to the pool.

Does not own: the discipline of one call, which it takes from the modules below.
-/

namespace Oxo.Edge.FrameHop

open Oxo.Foundation Oxo.Core.HopFrame

/-! ## Request frames -/

theorem IsRequest.eq_framed {bytes : List UInt8} (isRequest : IsRequest bytes) :
    ∃ envelope : List UInt8, envelope.length < 2 ^ 32 ∧ bytes = framed envelope := by
  obtain ⟨req, encoded⟩ := isRequest
  by_cases fits : req.FitsWire
  · rw [encodeRequest_of_fits fits] at encoded
    refine ⟨req.envelope, ?_, (Except.ok.inj encoded).symm⟩
    rw [req.envelope_length]
    exact fits.envelope
  · rw [encodeRequest_of_not_fits fits] at encoded
    cases encoded

theorem IsRequest.ne_nil {bytes : List UInt8} (isRequest : IsRequest bytes) : bytes ≠ [] := by
  obtain ⟨envelope, _, rfl⟩ := isRequest.eq_framed
  simp [framed, prefixImage]

/-- The request frame a worker finds in front of one call's frame is that frame. -/
theorem IsRequest.eq_of_tagged {pid : Nat} {bytes : List UInt8} {request rest : Tagged}
    (isRequest : IsRequest bytes) (whole : IsRequest (request.map Prod.snd))
    (arrived : tagged pid bytes = request ++ rest) : request = tagged pid bytes ∧ rest = [] := by
  obtain ⟨envelope, small, bytesEq⟩ := isRequest.eq_framed
  obtain ⟨other, otherSmall, otherEq⟩ := whole.eq_framed
  have untagged : (tagged pid bytes).map Prod.snd = bytes := by
    simp [tagged, Function.comp_def]
  have same : framed envelope ++ [] = framed other ++ rest.map Prod.snd := by
    rw [← bytesEq, ← otherEq, ← List.map_append, ← arrived, untagged, List.append_nil]
  have restEmpty : rest = [] := by
    have tail := (framed_split small otherSmall same).2
    exact List.map_eq_nil_iff.mp tail.symm
  rw [restEmpty, List.append_nil] at arrived
  exact ⟨arrived.symm, restEmpty⟩

/-! ## The invariant -/

/-- A worker's response to the request of this call. -/
def AnsweredTo (pid : Nat) (request : List UInt8) (answered : List Answered)
    (response : Response) : Prop :=
  ⟨tagged pid request, response⟩ ∈ answered

/-- What is on a connection that a call holds. Behind a request that the worker has not
read nothing has come back; behind one it has read, what came back and what is to come
is its response. -/
def Agrees (pid : Nat) (request : List UInt8) (answered : List Answered) (link : Wire) :
    Phase → Prop
  | .idle => link = .fresh
  | .sent got => link.sent = request ∧ link.got = got ∧
      (link.up = tagged pid request ∧ link.down = [] ∧ got = [] ∨
        link.up = [] ∧ ∃ response, AnsweredTo pid request answered response ∧
          got ++ link.down = wire response.frames)
  | .spoiled => True

/-- A held connection exists, is not pooled and is as its phase says. -/
structure Owned (pid : Nat) (request : List UInt8) (shared : Shared) (stream : Nat)
    (phase : Phase) : Prop where
  exists_ : stream < shared.next
  unpooled : ∀ entry ∈ shared.pool, entry.2.conn.stream ≠ stream
  agrees : Agrees pid request shared.answered (shared.wires stream) phase

/-- The log of a call is empty or taken from a response to its request. -/
def Justified (settings : HopSettings) (pid : Nat) (request : List UInt8)
    (answered : List Answered) (log : List Downstream) : Prop :=
  log = [] ∨ ∃ response, AnsweredTo pid request answered response ∧
    TakenFrom settings response.frames log

/-- A call, watched. -/
structure Watched (settings : HopSettings) (shared : Shared) (pid : Nat) (call : Call)
    (monitor : Monitor) : Prop where
  isRequest : IsRequest call.request
  meets : (discipline settings call.request).Meets call.program monitor fun _ _ => True
  log : monitor.log = call.log
  owned : ∀ stream phase, monitor.phase stream = some phase →
    Owned pid call.request shared stream phase
  justified : Justified settings pid call.request shared.answered call.log

/-- A pooled connection exists and nothing is under way on it. -/
structure PoolOk (shared : Shared) : Prop where
  exists_ : ∀ entry ∈ shared.pool, entry.2.conn.stream < shared.next
  quiet : ∀ entry ∈ shared.pool, (shared.wires entry.2.conn.stream).up = [] ∧
    (shared.wires entry.2.conn.stream).down = []
  distinct : (shared.pool.map fun entry => entry.2.conn.stream).Nodup

/-- The invariant of the system, with what each call has done. -/
structure Invariant (settings : HopSettings) (system : System) (monitors : Nat → Monitor) :
    Prop where
  calls : ∀ pid call, system.calls pid = some call →
    Watched settings system.shared pid call (monitors pid)
  absent : ∀ pid, system.calls pid = none → monitors pid = Monitor.initial
  exclusive : ∀ left right stream, left ≠ right → (monitors left).phase stream ≠ none →
    (monitors right).phase stream = none
  pool : PoolOk system.shared

/-! ## Touching one connection -/

/-- One connection was touched: the others are as they were. -/
structure Touches (touched : Nat) (before after : Shared) : Prop where
  wires : ∀ stream, stream ≠ touched → after.wires stream = before.wires stream
  next : before.next ≤ after.next
  pool : ∀ entry ∈ after.pool, entry.2.conn.stream = touched ∨ entry ∈ before.pool
  answered : ∀ item ∈ before.answered, item ∈ after.answered

section Touching

variable {settings : HopSettings} {pid touched stream : Nat} {request : List UInt8}
  {before after : Shared} {phase : Phase} {call : Call} {monitor : Monitor}

theorem Touches.refl (touched : Nat) (shared : Shared) : Touches touched shared shared :=
  ⟨fun _ _ => rfl, Nat.le_refl _, fun _ member => .inr member, fun _ member => member⟩

theorem Touches.setWire (touched : Nat) (shared : Shared) (link : Wire) :
    Touches touched shared (shared.setWire touched link) :=
  ⟨fun _ other => shared.setWire_of_ne link other, Nat.le_refl _, fun _ member => .inr member,
    fun _ member => member⟩

theorem Agrees.mono {fewer more : List Answered} {link : Wire}
    (grows : ∀ item ∈ fewer, item ∈ more) (agrees : Agrees pid request fewer link phase) :
    Agrees pid request more link phase := by
  cases phase with
  | idle | spoiled => exact agrees
  | sent got =>
      obtain ⟨sent, gotEq, unread | ⟨read, response, answered, split⟩⟩ := agrees
      · exact ⟨sent, gotEq, .inl unread⟩
      · exact ⟨sent, gotEq, .inr ⟨read, response, grows _ answered, split⟩⟩

theorem Justified.mono {fewer more : List Answered} {log : List Downstream}
    (grows : ∀ item ∈ fewer, item ∈ more) (justified : Justified settings pid request fewer log) :
    Justified settings pid request more log := by
  rcases justified with empty | ⟨response, answered, taken⟩
  · exact .inl empty
  · exact .inr ⟨response, grows _ answered, taken⟩

theorem Owned.untouched (owned : Owned pid request before stream phase)
    (touches : Touches touched before after) (other : stream ≠ touched) :
    Owned pid request after stream phase := by
  apply Owned.mk
  · exact Nat.lt_of_lt_of_le owned.exists_ touches.next
  · intro entry member
    rcases touches.pool entry member with same | earlier
    · rw [same]
      exact other.symm
    · exact owned.unpooled entry earlier
  · rw [touches.wires stream other]
    exact owned.agrees.mono touches.answered

/-- A call that does not hold the touched connection is not affected. -/
theorem Watched.untouched (watched : Watched settings before pid call monitor)
    (touches : Touches touched before after) (free : monitor.phase touched = none) :
    Watched settings after pid call monitor := by
  refine ⟨watched.isRequest, watched.meets, watched.log, ?_,
    watched.justified.mono touches.answered⟩
  intro stream phase holds
  apply (watched.owned stream phase holds).untouched touches
  intro same
  rw [same, free] at holds
  cases holds

end Touching

/-! ## What a held connection says -/

/-- Nothing is under way on the connection, and since it was obtained it has carried
nothing, or the whole request and its whole response. -/
structure Settled (pid : Nat) (request : List UInt8) (answered : List Answered) (link : Wire) :
    Prop where
  nothingUp : link.up = []
  nothingDown : link.down = []
  carried : link.sent = [] ∧ link.got = [] ∨
    link.sent = request ∧ ∃ response, AnsweredTo pid request answered response ∧
      link.got = wire response.frames

section Holding

variable {settings : HopSettings} {pid : Nat} {request : List UInt8} {shared : Shared}
  {call : Call} {monitor : Monitor} {answered : List Answered} {link : Wire}

/-- Where frames have come back, they open the response to the request. -/
theorem Agrees.response {got : List UInt8} {frames : List ResponseFrame}
    (agrees : Agrees pid request answered link (.sent got)) (nonempty : frames ≠ [])
    (fits : ∀ frame ∈ frames, frame.FitsWire) (opens : wire frames <+: got) :
    link.up = [] ∧ ∃ response, AnsweredTo pid request answered response ∧
      got ++ link.down = wire response.frames ∧ frames <+: response.frames := by
  obtain ⟨_, _, ⟨_, _, gotEmpty⟩ | ⟨read, response, isAnswer, split⟩⟩ := agrees
  · rw [gotEmpty] at opens
    exact absurd (List.prefix_nil.mp opens) (wire_ne_nil nonempty)
  · refine ⟨read, response, isAnswer, split, ?_⟩
    apply prefix_of_wire_prefix fits response.fits
    rw [← split]
    exact opens.trans (List.prefix_append _ _)

/-- What a call may write downstream is taken from a response to its request. -/
theorem Watched.relay (watched : Watched settings shared pid call monitor) {write : Downstream}
    (mayRelay : monitor.MayRelay settings write) :
    Justified settings pid call.request shared.answered (call.log ++ [write]) := by
  obtain ⟨stream, got, frames, phase, nonempty, fits, opens, taken⟩ := mayRelay
  have agrees := (watched.owned stream _ phase).agrees
  obtain ⟨_, response, isAnswer, _, framesOpen⟩ := agrees.response nonempty fits opens
  rw [watched.log] at taken
  exact .inr ⟨response, isAnswer, taken.mono framesOpen⟩

/-- A connection that a call may pool is settled. -/
theorem Watched.settled (watched : Watched settings shared pid call monitor) {stream : Nat}
    (mayPool : monitor.MayPool stream) :
    Settled pid call.request shared.answered (shared.wires stream) := by
  rcases mayPool with idle | ⟨frames, complete, fits, phase⟩
  · have fresh : shared.wires stream = .fresh := (watched.owned stream _ idle).agrees
    rw [fresh]
    exact ⟨rfl, rfl, .inl ⟨rfl, rfl⟩⟩
  · have agrees := (watched.owned stream _ phase).agrees
    obtain ⟨nothingUp, response, isAnswer, split, framesOpen⟩ :=
      agrees.response complete.ne_nil fits (List.prefix_refl _)
    have whole := complete.eq_of_prefix response.complete framesOpen
    have nothingDown : (shared.wires stream).down = [] := by
      rw [whole] at split
      exact List.append_right_eq_self.mp split
    refine ⟨nothingUp, nothingDown, .inr ⟨agrees.1, response, isAnswer, ?_⟩⟩
    rw [← whole]
    exact agrees.2.1

end Holding

section Pool

variable {shared : Shared}

theorem PoolOk.setWire (pool : PoolOk shared) {touched : Nat} (link : Wire)
    (unpooled : ∀ entry ∈ shared.pool, entry.2.conn.stream ≠ touched) :
    PoolOk (shared.setWire touched link) := by
  refine ⟨pool.exists_, ?_, pool.distinct⟩
  intro entry member
  rw [shared.setWire_of_ne link (unpooled entry member)]
  exact pool.quiet entry member

/-- An entry leaves the pool. -/
theorem PoolOk.remove (pool : PoolOk shared) {front back : List (Nat × IdleConn)}
    {entry : Nat × IdleConn} (split : shared.pool = front ++ entry :: back) :
    PoolOk { shared with pool := front ++ back } ∧
      ∀ other ∈ front ++ back, other.2.conn.stream ≠ entry.2.conn.stream := by
  have stays : ∀ other ∈ front ++ back, other ∈ shared.pool := by
    intro other member
    rw [split]
    rcases List.mem_append.mp member with inFront | inBack
    · exact List.mem_append_left _ inFront
    · exact List.mem_append_right _ (List.mem_cons_of_mem _ inBack)
  have distinct := pool.distinct
  rw [split, List.map_append, List.map_cons] at distinct
  have separated := List.nodup_middle.mp distinct
  rw [← List.map_append, List.nodup_cons] at separated
  refine ⟨⟨?_, ?_, separated.2⟩, ?_⟩
  · intro other member
    exact pool.exists_ other (stays other member)
  · intro other member
    exact pool.quiet other (stays other member)
  · intro other member same
    exact separated.1 (List.mem_map.mpr ⟨other, member, same⟩)

/-- A settled connection joins the pool. -/
theorem PoolOk.add (pool : PoolOk shared) {entry : Nat × IdleConn}
    (isThere : entry.2.conn.stream < shared.next)
    (unpooled : ∀ other ∈ shared.pool, other.2.conn.stream ≠ entry.2.conn.stream)
    (nothingUp : (shared.wires entry.2.conn.stream).up = [])
    (nothingDown : (shared.wires entry.2.conn.stream).down = []) :
    PoolOk { shared with pool := shared.pool ++ [entry] } := by
  have members : ∀ other ∈ shared.pool ++ [entry], other ∈ shared.pool ∨ other = entry := by
    intro other member
    rcases List.mem_append.mp member with earlier | last
    · exact .inl earlier
    · exact .inr (List.mem_singleton.mp last)
  apply PoolOk.mk
  · intro other member
    rcases members other member with earlier | rfl
    · exact pool.exists_ other earlier
    · exact isThere
  · intro other member
    rcases members other member with earlier | rfl
    · exact pool.quiet other earlier
    · exact ⟨nothingUp, nothingDown⟩
  · rw [List.map_append, List.map_singleton, List.nodup_append]
    refine ⟨pool.distinct, List.nodup_singleton _, ?_⟩
    intro stream earlier other last same
    obtain ⟨held, member, rfl⟩ := List.mem_map.mp earlier
    rw [List.mem_singleton.mp last] at same
    exact unpooled held member same

end Pool

section Steps

variable {settings : HopSettings} {system : System} {monitors : Nat → Monitor} {pid : Nat}
  {call : Call}

/-- Nobody holds a connection that is not there yet. -/
theorem Invariant.unheld (invariant : Invariant settings system monitors) (pid : Nat)
    {stream : Nat} (absent : system.shared.next ≤ stream) :
    (monitors pid).phase stream = none := by
  cases present : system.calls pid with
  | none =>
      rw [invariant.absent pid present]
      rfl
  | some call =>
      cases held : (monitors pid).phase stream with
      | none => rfl
      | some phase =>
          have below := ((invariant.calls pid call present).owned stream phase held).exists_
          omega

/-- Nobody holds a pooled connection. -/
theorem Invariant.unheld_of_pooled (invariant : Invariant settings system monitors) (pid : Nat)
    {entry : Nat × IdleConn} (pooled : entry ∈ system.shared.pool) :
    (monitors pid).phase entry.2.conn.stream = none := by
  cases present : system.calls pid with
  | none =>
      rw [invariant.absent pid present]
      rfl
  | some call =>
      cases held : (monitors pid).phase entry.2.conn.stream with
      | none => rfl
      | some phase =>
          have unpooled := ((invariant.calls pid call present).owned _ phase held).unpooled
          exact absurd rfl (unpooled entry pooled)

/-- A call moves on, touching a connection that no other call holds. -/
theorem Invariant.act (invariant : Invariant settings system monitors)
    (present : system.calls pid = some call) {touched : Nat} {after : Shared} {moved : Call}
    {monitor : Monitor} (touches : Touches touched system.shared after)
    (alone : ∀ other, other ≠ pid → (monitors other).phase touched = none)
    (elsewhere : ∀ stream, stream ≠ touched → monitor.phase stream = (monitors pid).phase stream)
    (here : ∀ phase, monitor.phase touched = some phase →
      Owned pid moved.request after touched phase)
    (request : moved.request = call.request)
    (meets : (discipline settings moved.request).Meets moved.program monitor fun _ _ => True)
    (log : monitor.log = moved.log)
    (justified : Justified settings pid moved.request after.answered moved.log)
    (pool : PoolOk after) :
    Invariant settings ({ system with shared := after }.setCall pid moved)
      (Function.update monitors pid monitor) := by
  have watched := invariant.calls pid call present
  have own : Watched settings after pid moved monitor := by
    refine ⟨request ▸ watched.isRequest, meets, log, ?_, justified⟩
    intro stream phase holds
    by_cases isTouched : stream = touched
    · subst isTouched
      exact here phase holds
    · rw [elsewhere stream isTouched] at holds
      rw [request]
      exact (watched.owned stream phase holds).untouched touches isTouched
  -- another call holds none of the connections of this one, before or after
  have apart : ∀ other, other ≠ pid → ∀ stream, monitor.phase stream ≠ none →
      (monitors other).phase stream = none := by
    intro other different stream holds
    by_cases isTouched : stream = touched
    · rw [isTouched]
      exact alone other different
    · rw [elsewhere stream isTouched] at holds
      exact invariant.exclusive pid other stream different.symm holds
  apply Invariant.mk
  · intro other otherCall otherPresent
    by_cases same : other = pid
    · subst same
      rw [System.setCall_self] at otherPresent
      rw [Function.update_self, ← Option.some.inj otherPresent]
      exact own
    · rw [System.setCall_of_ne _ _ same] at otherPresent
      rw [Function.update_of_ne same]
      exact (invariant.calls other otherCall otherPresent).untouched touches (alone other same)
  · intro other otherAbsent
    have different : other ≠ pid := by
      intro same
      rw [same, System.setCall_self] at otherAbsent
      cases otherAbsent
    rw [System.setCall_of_ne _ _ different] at otherAbsent
    rw [Function.update_of_ne different]
    exact invariant.absent other otherAbsent
  · intro left right stream different holds
    by_cases leftIs : left = pid
    · subst leftIs
      rw [Function.update_self] at holds
      rw [Function.update_of_ne different.symm]
      exact apart right different.symm stream holds
    · rw [Function.update_of_ne leftIs] at holds
      by_cases rightIs : right = pid
      · subst rightIs
        rw [Function.update_self]
        by_contra rightHolds
        exact holds (apart left leftIs stream rightHolds)
      · rw [Function.update_of_ne rightIs]
        exact invariant.exclusive left right stream different holds
  · exact pool

/-- A call moves on without touching a connection. -/
theorem Invariant.stay (invariant : Invariant settings system monitors)
    (present : system.calls pid = some call) {moved : Call} {monitor : Monitor}
    (phases : monitor.phase = (monitors pid).phase) (request : moved.request = call.request)
    (meets : (discipline settings moved.request).Meets moved.program monitor fun _ _ => True)
    (log : monitor.log = moved.log)
    (justified : Justified settings pid moved.request system.shared.answered moved.log) :
    Invariant settings (system.setCall pid moved) (Function.update monitors pid monitor) := by
  apply invariant.act present (Touches.refl system.shared.next system.shared)
  · intro other _
    exact invariant.unheld other (Nat.le_refl _)
  · intro stream _
    rw [phases]
  · intro phase holds
    rw [phases, invariant.unheld pid (Nat.le_refl _)] at holds
    cases holds
  · exact request
  · exact meets
  · exact log
  · exact justified
  · exact invariant.pool

/-- A call moves on, leaving the touched connection in a new phase and its log alone. -/
theorem Invariant.touch (invariant : Invariant settings system monitors)
    (present : system.calls pid = some call) {touched : Nat} {after : Shared}
    {program : Hop Unit} {monitor : Monitor} {entered : Option Phase}
    (touches : Touches touched system.shared after)
    (alone : ∀ other, other ≠ pid → (monitors other).phase touched = none)
    (phases : monitor.phase = Function.update (monitors pid).phase touched entered)
    (log : monitor.log = (monitors pid).log)
    (here : ∀ phase, entered = some phase → Owned pid call.request after touched phase)
    (meets : (discipline settings call.request).Meets program monitor fun _ _ => True)
    (pool : PoolOk after) :
    Invariant settings
      ({ system with shared := after }.setCall pid ⟨call.request, program, call.log ++ []⟩)
      (Function.update monitors pid monitor) := by
  have watched := invariant.calls pid call present
  apply invariant.act present touches alone
  · intro stream other
    rw [phases, Function.update_of_ne other]
  · intro phase holds
    rw [phases, Function.update_self] at holds
    exact here phase holds
  · rfl
  · exact meets
  · rw [log, watched.log, List.append_nil]
  · rw [List.append_nil]
    exact watched.justified.mono touches.answered
  · exact pool

section Operations

variable {program : Hop Unit} {monitor : Monitor}

theorem Invariant.poolGet (invariant : Invariant settings system monitors)
    (present : system.calls pid = some call) {idx : Nat} {idle : IdleConn}
    {front back : List (Nat × IdleConn)}
    (pooled : system.shared.pool = front ++ (idx, idle) :: back)
    (meets : (discipline settings call.request).Meets program
      ((monitors pid).setPhase idle.conn.stream (some .idle)) fun _ _ => True) :
    Invariant settings
      ({ system with
        shared := { system.shared.setWire idle.conn.stream
            (system.shared.wires idle.conn.stream).obtained with
          pool := front ++ back } }.setCall pid ⟨call.request, program, call.log ++ []⟩)
      (Function.update monitors pid ((monitors pid).setPhase idle.conn.stream (some .idle))) := by
  have member : (idx, idle) ∈ system.shared.pool := by
    rw [pooled]
    exact List.mem_append_right _ List.mem_cons_self
  obtain ⟨remaining, others⟩ := invariant.pool.remove pooled
  obtain ⟨nothingUp, nothingDown⟩ := invariant.pool.quiet _ member
  have touches : Touches idle.conn.stream system.shared
      { system.shared.setWire idle.conn.stream
          (system.shared.wires idle.conn.stream).obtained with pool := front ++ back } := by
    refine ⟨?_, Nat.le_refl _, ?_, fun _ earlier => earlier⟩
    · intro stream other
      exact system.shared.setWire_of_ne _ other
    · intro entry stays
      rw [pooled]
      rcases List.mem_append.mp stays with inFront | inBack
      · exact .inr (List.mem_append_left _ inFront)
      · exact .inr (List.mem_append_right _ (List.mem_cons_of_mem _ inBack))
  apply invariant.touch present touches
  · intro other _
    exact invariant.unheld_of_pooled other member
  · rfl
  · rfl
  · intro phase entered
    cases entered
    refine ⟨invariant.pool.exists_ _ member, others, ?_⟩
    change (system.shared.setWire _ _).wires idle.conn.stream = _
    rw [Shared.setWire_self, Wire.obtained, nothingUp, nothingDown]
    rfl
  · exact meets
  · exact remaining.setWire _ others

theorem Invariant.connect (invariant : Invariant settings system monitors)
    (present : system.calls pid = some call)
    (meets : (discipline settings call.request).Meets program
      ((monitors pid).setPhase system.shared.next (some .idle)) fun _ _ => True) :
    Invariant settings
      ({ system with
        shared := { system.shared.setWire system.shared.next .fresh with
          next := system.shared.next + 1 } }.setCall pid
            ⟨call.request, program, call.log ++ []⟩)
      (Function.update monitors pid
        ((monitors pid).setPhase system.shared.next (some .idle))) := by
  have others : ∀ entry ∈ system.shared.pool, entry.2.conn.stream ≠ system.shared.next := by
    intro entry member
    exact Nat.ne_of_lt (invariant.pool.exists_ entry member)
  have touches : Touches system.shared.next system.shared
      { system.shared.setWire system.shared.next .fresh with
        next := system.shared.next + 1 } :=
    ⟨fun _ other => system.shared.setWire_of_ne _ other, Nat.le_succ _,
      fun _ earlier => .inr earlier, fun _ earlier => earlier⟩
  have rewired := invariant.pool.setWire .fresh others
  apply invariant.touch present touches
  · intro other _
    exact invariant.unheld other (Nat.le_refl _)
  · rfl
  · rfl
  · intro phase entered
    cases entered
    exact ⟨Nat.lt_succ_self _, others, system.shared.setWire_self _ _⟩
  · exact meets
  · refine ⟨?_, rewired.quiet, rewired.distinct⟩
    intro entry member
    exact Nat.lt_succ_of_lt (invariant.pool.exists_ entry member)

theorem Invariant.poolPut (invariant : Invariant settings system monitors)
    (present : system.calls pid = some call) {idx : Nat} {idle : IdleConn}
    (mayPool : (monitors pid).MayPool idle.conn.stream)
    (meets : (discipline settings call.request).Meets program
      ((monitors pid).setPhase idle.conn.stream none) fun _ _ => True) :
    Invariant settings
      ({ system with
        shared := { system.shared with pool := system.shared.pool ++ [(idx, idle)] } }.setCall pid
          ⟨call.request, program, call.log ++ []⟩)
      (Function.update monitors pid ((monitors pid).setPhase idle.conn.stream none)) := by
  have watched := invariant.calls pid call present
  have settled := watched.settled mayPool
  obtain ⟨phase, holds⟩ : ∃ phase, (monitors pid).phase idle.conn.stream = some phase := by
    rcases mayPool with fresh | ⟨frames, _, _, carried⟩
    · exact ⟨_, fresh⟩
    · exact ⟨_, carried⟩
  have owned := watched.owned _ phase holds
  have touches : Touches idle.conn.stream system.shared
      { system.shared with pool := system.shared.pool ++ [(idx, idle)] } := by
    refine ⟨fun _ _ => rfl, Nat.le_refl _, ?_, fun _ earlier => earlier⟩
    intro entry member
    rcases List.mem_append.mp member with earlier | last
    · exact .inr earlier
    · rw [List.mem_singleton.mp last]
      exact .inl rfl
  apply invariant.touch present touches
  · intro other different
    apply invariant.exclusive pid other _ different.symm
    rw [holds]
    exact Option.some_ne_none _
  · rfl
  · rfl
  · intro phase entered
    cases entered
  · exact meets
  · exact invariant.pool.add owned.exists_ owned.unpooled settled.nothingUp settled.nothingDown

/-- A call writes or reads on a connection it holds. -/
theorem Invariant.rewire (invariant : Invariant settings system monitors)
    (present : system.calls pid = some call) {stream : Nat} {phase entered : Phase} {link : Wire}
    (holds : (monitors pid).phase stream = some phase)
    (phases : monitor.phase = Function.update (monitors pid).phase stream (some entered))
    (log : monitor.log = (monitors pid).log)
    (agrees : Agrees pid call.request system.shared.answered link entered)
    (meets : (discipline settings call.request).Meets program monitor fun _ _ => True) :
    Invariant settings
      ({ system with shared := system.shared.setWire stream link }.setCall pid
        ⟨call.request, program, call.log ++ []⟩)
      (Function.update monitors pid monitor) := by
  have owned := (invariant.calls pid call present).owned stream phase holds
  apply invariant.touch present (Touches.setWire stream system.shared link)
  · intro other different
    apply invariant.exclusive pid other stream different.symm
    rw [holds]
    exact Option.some_ne_none _
  · exact phases
  · exact log
  · intro phase same
    cases same
    refine ⟨owned.exists_, owned.unpooled, ?_⟩
    rw [Shared.setWire_self]
    exact agrees
  · exact meets
  · exact invariant.pool.setWire link owned.unpooled

/-- Bytes that come back on a connection in its exchange are of the response. -/
theorem Agrees.read {request : List UInt8} {answered : List Answered} {link : Wire}
    {got rest bytes : List UInt8} (nonempty : bytes ≠ [])
    (agrees : Agrees pid request answered link (.sent got)) (arrives : link.down = bytes ++ rest) :
    Agrees pid request answered (link.read bytes rest) (.sent (got ++ bytes)) := by
  obtain ⟨sent, gotEq, ⟨_, nothingDown, _⟩ | ⟨nothingUp, response, isAnswer, split⟩⟩ := agrees
  · rw [nothingDown] at arrives
    exact absurd (List.append_eq_nil_iff.mp arrives.symm).1 nonempty
  · refine ⟨sent, ?_, .inr ⟨nothingUp, response, isAnswer, ?_⟩⟩
    · rw [Wire.read, gotEq]
    · rw [← split, arrives, List.append_assoc]
      rfl

theorem Invariant.read (invariant : Invariant settings system monitors)
    (present : system.calls pid = some call) {stream : Nat} {first : UInt8} {bytes : List UInt8}
    {after : Shared} (mayRead : ∃ got, (monitors pid).phase stream = some (.sent got))
    (reads : system.shared.Reads stream (first :: bytes) after)
    (meets : (discipline settings call.request).Meets program
      ((monitors pid).afterRead stream (.data first bytes)) fun _ _ => True) :
    Invariant settings
      ({ system with shared := after }.setCall pid ⟨call.request, program, call.log ++ []⟩)
      (Function.update monitors pid ((monitors pid).afterRead stream (.data first bytes))) := by
  obtain ⟨got, holds⟩ := mayRead
  obtain ⟨rest, arrives, rfl⟩ := reads
  have owned := (invariant.calls pid call present).owned stream _ holds
  have afterRead : (monitors pid).afterRead stream (.data first bytes) =
      { (monitors pid).setPhase stream (some (.sent (got ++ first :: bytes))) with
        responded := true } := by
    simp only [Monitor.afterRead, holds]
  rw [afterRead] at meets ⊢
  apply invariant.rewire present holds
  · rfl
  · rfl
  · exact owned.agrees.read (List.cons_ne_nil first bytes) arrives
  · exact meets

theorem Invariant.writeAll (invariant : Invariant settings system monitors)
    (present : system.calls pid = some call) {stream : Nat}
    (idle : (monitors pid).phase stream = some .idle)
    (meets : (discipline settings call.request).Meets program
      { (monitors pid).setPhase stream (some (.sent [])) with delivered := true }
      fun _ _ => True) :
    Invariant settings
      ({ system with
        shared := system.shared.setWire stream
          ((system.shared.wires stream).write pid call.request) }.setCall pid
            ⟨call.request, program, call.log ++ []⟩)
      (Function.update monitors pid
        { (monitors pid).setPhase stream (some (.sent [])) with delivered := true }) := by
  have fresh : system.shared.wires stream = .fresh :=
    ((invariant.calls pid call present).owned stream _ idle).agrees
  apply invariant.rewire present idle
  · rfl
  · rfl
  · rw [fresh]
    exact ⟨rfl, rfl, .inl ⟨rfl, rfl, rfl⟩⟩
  · exact meets

/-- A write downstream. -/
theorem Invariant.relay (invariant : Invariant settings system monitors)
    (present : system.calls pid = some call) {write : Downstream}
    (mayRelay : (monitors pid).MayRelay settings write)
    (meets : (discipline settings call.request).Meets program
      ((monitors pid).afterDownstream write) fun _ _ => True) :
    Invariant settings (system.setCall pid ⟨call.request, program, call.log ++ [write]⟩)
      (Function.update monitors pid ((monitors pid).afterDownstream write)) := by
  have watched := invariant.calls pid call present
  apply invariant.stay present
  · rfl
  · rfl
  · exact meets
  · rw [Monitor.afterDownstream, watched.log]
  · exact watched.relay mayRelay

/-- An operation that leaves the shared state and the watch alone. -/
theorem Invariant.pass (invariant : Invariant settings system monitors)
    (present : system.calls pid = some call)
    (meets : (discipline settings call.request).Meets program (monitors pid) fun _ _ => True) :
    Invariant settings (system.setCall pid ⟨call.request, program, call.log ++ []⟩)
      (Function.update monitors pid (monitors pid)) := by
  have watched := invariant.calls pid call present
  apply invariant.stay present
  · rfl
  · rfl
  · exact meets
  · rw [watched.log, List.append_nil]
  · rw [List.append_nil]
    exact watched.justified

end Operations

/-! ## Every step keeps the invariant -/

theorem Invariant.perform (invariant : Invariant settings system monitors)
    (present : system.calls pid = some call) {op : HopOp} {next : op.Answer → Hop Unit}
    {after : Shared} (answer : op.Answer) (pending : call.program = .call op next)
    (effect : Effect pid system.shared op answer after) :
    Invariant settings
      ({ system with shared := after }.setCall pid
        ⟨call.request, next answer, call.log ++ downstreamOf op⟩)
      (Function.update monitors pid (afterPerforming (monitors pid) op answer)) := by
  have meets := (invariant.calls pid call present).meets
  rw [pending] at meets
  obtain ⟨allowed, continues⟩ := meets
  have meets := continues answer
  cases op with
  | poolGet idx =>
      cases answer with
      | none =>
          cases effect
          exact invariant.pass present meets
      | some idle =>
          obtain ⟨front, back, pooled, rfl⟩ := effect
          exact invariant.poolGet present pooled meets
  | connect idx =>
      cases answer with
      | none =>
          cases effect
          exact invariant.pass present meets
      | some stream =>
          obtain ⟨rfl, rfl⟩ := effect
          exact invariant.connect present meets
  | poolPut idx idle =>
      cases effect
      exact invariant.poolPut present allowed meets
  | writeAll stream bytes =>
      obtain ⟨idle, rfl, _⟩ := allowed
      cases answer with
      | done =>
          cases effect
          exact invariant.writeAll present idle meets
      | failed written =>
          cases effect
          exact invariant.rewire present idle rfl rfl trivial meets
  | read stream =>
      cases answer with
      | data first bytes => exact invariant.read present allowed effect meets
      | eof | reset | failed =>
          cases effect
          exact invariant.pass present meets
  | readOrDrain stream =>
      cases answer with
      | none =>
          cases effect
          exact invariant.pass present meets
      | some answer =>
          cases answer with
          | data first bytes => exact invariant.read present allowed effect meets
          | eof | reset | failed =>
              cases effect
              exact invariant.pass present meets
  | writeHeader header last =>
      cases effect
      exact invariant.relay present allowed meets
  | writeBody body last =>
      cases effect
      exact invariant.relay present allowed meets
  | drainBorrow | drainChanged | nextWorker | inFlightDepths | inFlight | parked | parkEnter
  | anyAdmittable | notifyOne | waitForSlot | stickyLookupOrAssign | stickyNoteFallback
  | stickyReread | stickyRepin | soleOwner | probe | acquire | tryAcquire | tryAdmit
  | recordBytes | complete | completeDrained =>
      cases effect
      exact invariant.pass present meets

/-- A call begins, or is cancelled, without an operation. -/
theorem Invariant.setCall (invariant : Invariant settings system monitors)
    (watched : Watched settings system.shared pid call (monitors pid)) :
    Invariant settings (system.setCall pid call) monitors := by
  refine ⟨?_, ?_, invariant.exclusive, invariant.pool⟩
  · intro other otherCall otherPresent
    by_cases same : other = pid
    · subst same
      rw [System.setCall_self] at otherPresent
      rw [← Option.some.inj otherPresent]
      exact watched
    · rw [System.setCall_of_ne _ _ same] at otherPresent
      exact invariant.calls other otherCall otherPresent
  · intro other otherAbsent
    have different : other ≠ pid := by
      intro same
      rw [same, System.setCall_self] at otherAbsent
      cases otherAbsent
    rw [System.setCall_of_ne _ _ different] at otherAbsent
    exact invariant.absent other otherAbsent

theorem Entry.program_meets (entry : Entry) (rounds : Nat) (request : List UInt8) :
    (discipline settings request).Meets (entry.program settings rounds request) Monitor.initial
      fun _ _ => True := by
  have quiet : Quiet settings.kind Monitor.initial := ⟨⟨rfl, fun _ => rfl⟩, rfl⟩
  cases entry with
  | sendToWorker idx =>
      apply Contract.Meets.bind
      exact (sendToWorker_meets rounds idx quiet).mono fun _ _ _ => trivial
  | sendWorkerFrameToPool stickyKey =>
      apply Contract.Meets.bind
      exact (sendWorkerFrameToPool_meets rounds stickyKey quiet).mono fun _ _ _ => trivial

theorem Invariant.arrive (invariant : Invariant settings system monitors) (rounds : Nat)
    (entry : Entry) {request : List UInt8} (absent : system.calls pid = none)
    (isRequest : IsRequest request) :
    Invariant settings
      (system.setCall pid ⟨request, entry.program settings rounds request, []⟩) monitors := by
  apply invariant.setCall
  rw [invariant.absent pid absent]
  refine ⟨isRequest, entry.program_meets rounds request, rfl, ?_, .inl rfl⟩
  intro stream phase holds
  cases holds

theorem Invariant.cancel (invariant : Invariant settings system monitors)
    (present : system.calls pid = some call) :
    Invariant settings (system.setCall pid { call with program := .stop }) monitors := by
  have watched := invariant.calls pid call present
  apply invariant.setCall
  exact ⟨watched.isRequest, trivial, watched.log, watched.owned, watched.justified⟩

/-- A worker reads a whole request frame only where a call has written its own, and
then answers that call. -/
theorem Agrees.answer {bytes : List UInt8} {answered : List Answered} {link : Wire}
    {phase : Phase} {request rest : Tagged} (response : Response) (isRequest : IsRequest bytes)
    (arrived : link.up = request ++ rest) (whole : IsRequest (request.map Prod.snd))
    (agrees : Agrees pid bytes answered link phase) :
    Agrees pid bytes (answered ++ [⟨request, response⟩]) (link.answer rest response) phase := by
  have somethingUp : link.up ≠ [] := by
    intro nothingUp
    rw [nothingUp] at arrived
    have empty := (List.append_eq_nil_iff.mp arrived.symm).1
    rw [empty] at whole
    exact whole.ne_nil rfl
  cases phase with
  | idle =>
      rw [show link = .fresh from agrees] at somethingUp
      exact absurd rfl somethingUp
  | spoiled => trivial
  | sent got =>
      obtain ⟨sent, gotEq, ⟨own, nothingDown, nothingGot⟩ | ⟨nothingUp, _⟩⟩ := agrees
      · rw [own] at arrived
        obtain ⟨requestEq, restEq⟩ := isRequest.eq_of_tagged whole arrived
        refine ⟨sent, gotEq, .inr ⟨restEq, response, ?_, ?_⟩⟩
        · rw [requestEq]
          exact List.mem_append_right _ (List.mem_singleton_self _)
        · rw [nothingGot, Wire.answer, nothingDown]
          rfl
      · exact absurd nothingUp somethingUp

theorem Invariant.answer (invariant : Invariant settings system monitors) {stream : Nat}
    {request rest : Tagged} (response : Response)
    (arrived : (system.shared.wires stream).up = request ++ rest)
    (whole : IsRequest (request.map Prod.snd)) :
    Invariant settings
      { system with
        shared := { system.shared.setWire stream
            ((system.shared.wires stream).answer rest response) with
          answered := system.shared.answered ++ [⟨request, response⟩] } } monitors := by
  have touches : Touches stream system.shared
      { system.shared.setWire stream ((system.shared.wires stream).answer rest response) with
        answered := system.shared.answered ++ [⟨request, response⟩] } :=
    ⟨fun _ other => system.shared.setWire_of_ne _ other, Nat.le_refl _,
      fun _ member => .inr member, fun _ member => List.mem_append_left _ member⟩
  have unpooled : ∀ entry ∈ system.shared.pool, entry.2.conn.stream ≠ stream := by
    intro entry member same
    have nothingUp := (invariant.pool.quiet entry member).1
    rw [same, arrived] at nothingUp
    rw [(List.append_eq_nil_iff.mp nothingUp).1] at whole
    exact whole.ne_nil rfl
  have pool := invariant.pool.setWire
    ((system.shared.wires stream).answer rest response) unpooled
  refine ⟨?_, invariant.absent, invariant.exclusive, pool.exists_, pool.quiet, pool.distinct⟩
  intro pid call present
  have watched := invariant.calls pid call present
  refine ⟨watched.isRequest, watched.meets, watched.log, ?_,
    watched.justified.mono touches.answered⟩
  intro other phase holds
  have owned := watched.owned other phase holds
  by_cases same : other = stream
  · subst same
    refine ⟨owned.exists_, owned.unpooled, ?_⟩
    change Agrees _ _ _ ((system.shared.setWire _ _).wires other) _
    rw [Shared.setWire_self]
    exact owned.agrees.answer response watched.isRequest arrived whole
  · exact owned.untouched touches same

theorem Invariant.evict (invariant : Invariant settings system monitors)
    {front back : List (Nat × IdleConn)} {entry : Nat × IdleConn}
    (pooled : system.shared.pool = front ++ entry :: back) :
    Invariant settings
      { system with shared := { system.shared with pool := front ++ back } } monitors := by
  have member : entry ∈ system.shared.pool := by
    rw [pooled]
    exact List.mem_append_right _ List.mem_cons_self
  have touches : Touches entry.2.conn.stream system.shared
      { system.shared with pool := front ++ back } := by
    refine ⟨fun _ _ => rfl, Nat.le_refl _, ?_, fun _ earlier => earlier⟩
    intro other stays
    rw [pooled]
    rcases List.mem_append.mp stays with inFront | inBack
    · exact .inr (List.mem_append_left _ inFront)
    · exact .inr (List.mem_append_right _ (List.mem_cons_of_mem _ inBack))
  refine ⟨?_, invariant.absent, invariant.exclusive, (invariant.pool.remove pooled).1⟩
  intro pid call present
  exact (invariant.calls pid call present).untouched touches
    (invariant.unheld_of_pooled pid member)

theorem Invariant.step (invariant : Invariant settings system monitors) {after : System}
    (step : System.Step settings system after) :
    ∃ monitors, Invariant settings after monitors := by
  cases step with
  | arrive pid rounds entry request absent isRequest =>
      exact ⟨_, invariant.arrive rounds entry absent isRequest⟩
  | perform pid op answer present pending effect =>
      exact ⟨_, invariant.perform present answer pending effect⟩
  | cancel present => exact ⟨_, invariant.cancel present⟩
  | answer stream request rest response arrived whole =>
      exact ⟨_, invariant.answer response arrived whole⟩
  | evict pooled => exact ⟨_, invariant.evict pooled⟩

end Steps

theorem invariant_initial (settings : HopSettings) :
    Invariant settings System.initial fun _ => Monitor.initial := by
  apply Invariant.mk
  · intro pid call present
    cases present
  · intro pid _
    rfl
  · intro left right stream _ _
    rfl
  · refine ⟨?_, ?_, List.nodup_nil⟩
    · intro entry member
      cases member
    · intro entry member
      cases member

/-- The invariant holds along every run. -/
theorem invariant_of_reachable {settings : HopSettings} {system : System}
    (reachable : system.Reachable settings) : ∃ monitors, Invariant settings system monitors := by
  induction reachable with
  | refl => exact ⟨_, invariant_initial settings⟩
  | tail _ step inductionHypothesis =>
      obtain ⟨monitors, invariant⟩ := inductionHypothesis
      exact invariant.step step

/-! ## Pairing -/

/-- Responses are paired with their requests. In every state of every run, what a call
has written downstream is taken from a worker's response to that call's own request;
and a connection it is about to pool has nothing in its read buffer, nothing under way,
and since it was obtained carries nothing or the call's whole request and the whole
response to it. -/
theorem responses_paired_with_requests {settings : HopSettings} {system : System}
    (reachable : system.Reachable settings) {pid : Nat} {call : Call}
    (present : system.calls pid = some call) :
    Justified settings pid call.request system.shared.answered call.log ∧
    ∀ idx idle next, call.program = .call (.poolPut idx idle) next →
      idle.conn.rbuf.pending = [] ∧
      Settled pid call.request system.shared.answered
        (system.shared.wires idle.conn.stream) := by
  obtain ⟨monitors, invariant⟩ := invariant_of_reachable reachable
  have watched := invariant.calls pid call present
  refine ⟨watched.justified, ?_⟩
  intro idx idle next pending
  have meets := watched.meets
  rw [pending] at meets
  exact ⟨FrameReadBuffer.pending_of_hasSurplus idle.clean, watched.settled meets.1⟩

/-- A response without headers or body. -/
def noContent : Response where
  frames := [.full 204 [] []]
  complete := .full 204 [] []
  fits := by
    intro frame member
    rw [List.mem_singleton.mp member]
    exact ⟨⟨⟨by decide, by simp⟩, by decide⟩, by decide⟩

/-- A call on a fresh connection, up to where the connection goes back. -/
private theorem exchange_reachable {request : List UInt8} (isRequest : IsRequest request) :
    ∃ system : System, system.Reachable (oneWorker .async) ∧
      ∃ call idle next, system.calls 0 = some call ∧ call.log ≠ [] ∧
        call.program = .call (.poolPut 0 idle) next := by
  have arrived : IsRequest ((tagged 0 request).map Prod.snd) := by
    simpa [tagged, Function.comp_def] using isRequest
  have opening : System.initial.Reachable (oneWorker .async) := .refl
  have begun := opening.tail (.arrive 0 1 (.sendToWorker 0) request rfl isRequest)
  have running := begun.tail (.perform 0 .drainBorrow false (System.setCall_self ..) rfl rfl)
  have missed := running.tail (.perform 0 (.poolGet 0) none (System.setCall_self ..) rfl rfl)
  have connected := missed.tail
    (.perform 0 (.connect 0) (some (0 : Nat)) (System.setCall_self ..) rfl ⟨rfl, rfl⟩)
  have admitted := connected.tail (.perform 0 (.acquire 0) () (System.setCall_self ..) rfl rfl)
  have written := admitted.tail
    (.perform 0 (.writeAll 0 request) .done (System.setCall_self ..) rfl rfl)
  have answered := written.tail
    (.answer 0 (tagged 0 request) [] noContent (List.append_nil _).symm arrived)
  have read := answered.tail
    (.perform 0 (.read 0) (.data 0xbf [1, 9, 0, 0, 0, 0, 204, 0, 0, 0, 0, 0, 0, 0]) rfl rfl
      ⟨[], rfl, rfl⟩)
  have headed := read.tail
    (.perform 0 (.writeHeader ⟨204, [("Content-Length", numeral 10 0)]⟩ false) true
      (System.setCall_self ..) rfl rfl)
  have finished := headed.tail
    (.perform 0 (.writeBody (some []) true) true (System.setCall_self ..) rfl rfl)
  have returning := finished.tail
    (.perform 0 .drainBorrow false (System.setCall_self ..) rfl rfl)
  exact ⟨_, returning, _, _, _, System.setCall_self .., List.cons_ne_nil _ _, rfl⟩

/-- The pairing at one exchange: the call has written downstream and is about to pool
its connection. -/
theorem responses_paired_with_requests_exchange :
    ∃ (system : System) (call : Call) (idle : IdleConn),
      system.Reachable (oneWorker .async) ∧ call.log ≠ [] ∧
      Justified (oneWorker .async) 0 call.request system.shared.answered call.log ∧
      Settled 0 call.request system.shared.answered
        (system.shared.wires idle.conn.stream) := by
  obtain ⟨system, reachable, call, idle, next, present, written, returning⟩ :=
    exchange_reachable ⟨sampleRequest, encodeRequest_of_fits sampleRequest_fits⟩
  obtain ⟨justified, pooling⟩ := responses_paired_with_requests reachable present
  exact ⟨system, call, idle, reachable, written, justified, (pooling 0 idle next returning).2⟩

end Oxo.Edge.FrameHop
