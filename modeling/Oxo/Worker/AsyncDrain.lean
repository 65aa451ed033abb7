import Oxo.Foundation.Machine
import Oxo.Worker.AsyncResponse

/-!
Contract: the async worker's connection fibers and its drain fiber on one reactor
(`ruby/oxo_async_worker.rb`, `ConnRegistry`, `handle_conn` and the drain fiber of `main`).

Owns: the registry, the places where a fiber can be suspended, every interleaving of the
fibers between them, and the bytes of each request's frames on its socket.

Does not own: reading and decoding a request, or the call of the application. A request is
dispatched with whatever came; the application may return a frame, raise, or not return.
-/

namespace Oxo.Worker.AsyncDrain

open Oxo.Foundation Oxo.Worker.AsyncWorker

/-- `encode_error_frame`. -/
def errorFrame : List UInt8 :=
  encodeFullResponse 500 [(⟨utf8 "content-type", .utf8⟩, ⟨utf8 "text/plain", .utf8⟩)]
    (utf8 "Internal Server Error")

/-! ## Connections -/

/-- The registry's state of a connection. -/
inductive Phase where
  | idle
  | inApp
  | writing
deriving DecidableEq

/-- Where a connection fiber is suspended. A write still holds the bytes that are not on the
wire, and the number of its frame. -/
inductive Fiber where
  | absent
  | reading
  | inApp
  | writing (frame : Nat) (left : List UInt8)
  | flushing (frame : Nat)
  | writingError (frame : Nat) (left : List UInt8)
  | flushingError (frame : Nat)
  | finished
deriving DecidableEq

/-- A byte on the wire, with the request it answers and the frame it belongs to. -/
structure Sent where
  request : Nat
  frame : Nat
  byte : UInt8
deriving DecidableEq

/-- `phase` is the connection's entry in the registry, if it has one. -/
structure Connection where
  phase : Option Phase
  fiber : Fiber
  isOpen : Bool
  dispatched : Nat
  wire : List Sent
deriving DecidableEq

namespace Connection

/-- Before it is accepted. -/
def new : Connection := ⟨none, .absent, true, 0, []⟩

/-- Bytes of a frame for the current request. -/
def send (conn : Connection) (frame : Nat) (bytes : List UInt8) : Connection :=
  { conn with wire := conn.wire ++ bytes.map fun byte => ⟨conn.dispatched, frame, byte⟩ }

/-- The `ensure` of the fiber: unregister and close. -/
def leave (conn : Connection) : Connection :=
  { conn with phase := none, fiber := .finished, isOpen := false }

end Connection

/-! ## The reactor -/

variable {ι : Type} [DecidableEq ι]

/-- Where the drain fiber is suspended. In `abandon_in_flight!` it holds the connections it
has yet to look at; on one of them it may be in the middle of an error frame. -/
inductive Drain (ι : Type) where
  | waiting
  | sleeping
  | abandoning (rest : List ι)
  | writingError (socket : ι) (frame : Nat) (left : List UInt8) (rest : List ι)
  | flushing (socket : ι) (frame : Nat) (rest : List ι)
  | closing (socket : ι) (frame : Option Nat) (rest : List ι)
  | finished
deriving DecidableEq

/-- `registered` are the keys of the registry's hash in insertion order, and `frames` counts
the frames that were started. -/
structure State (ι : Type) where
  registered : List ι
  conn : ι → Connection
  draining : Bool
  drain : Drain ι
  abandoned : Nat
  frames : Nat

def State.initial : State ι where
  registered := []
  conn := fun _ => .new
  draining := false
  drain := .waiting
  abandoned := 0
  frames := 0

def State.setConn (state : State ι) (socket : ι) (conn : Connection) : State ι :=
  { state with conn := Function.update state.conn socket conn }

/-- What a connection fiber does between two suspensions. -/
inductive FiberAction where
  | dispatch
  | answer (frame : List UInt8)
  | raise
  | put (count : Nat)
  | written
  | flushed
  | leave

/-- What the drain fiber does between two suspensions. -/
inductive DrainAction where
  | signal
  | expire
  | visit
  | put (count : Nat)
  | written
  | flushed
  | giveUp
  | close

inductive Action (ι : Type) where
  | accept (socket : ι)
  | fiber (socket : ι) (action : FiberAction)
  | drain (action : DrainAction)

/-- The fiber is past its last suspension: it unregisters its connection and closes it. -/
def State.leave (state : State ι) (socket : ι) : State ι :=
  { state.setConn socket (state.conn socket).leave with
    registered := state.registered.erase socket }

def State.startFrame (state : State ι) : State ι :=
  { state with frames := state.frames + 1 }

/-- A connection fiber continues. -/
def fiberStep (state : State ι) (socket : ι) (action : FiberAction) : Option (State ι) :=
  let conn := state.conn socket
  match action, conn.fiber with
  | .dispatch, .reading =>
      some (state.setConn socket { conn with
        phase := some .inApp, fiber := .inApp, dispatched := conn.dispatched + 1 })
  | .answer frame, .inApp =>
      some (state.startFrame.setConn socket { conn with
        phase := some .writing, fiber := .writing state.frames frame })
  | .raise, .inApp =>
      some (state.startFrame.setConn socket { conn with
        fiber := .writingError state.frames errorFrame })
  | .put count, .writing frame left =>
      if conn.isOpen ∧ 0 < count ∧ count ≤ left.length then
        some (state.setConn socket { conn.send frame (left.take count) with
          fiber := .writing frame (left.drop count) })
      else none
  | .put count, .writingError frame left =>
      if conn.isOpen ∧ 0 < count ∧ count ≤ left.length then
        some (state.setConn socket { conn.send frame (left.take count) with
          fiber := .writingError frame (left.drop count) })
      else none
  | .written, .writing frame [] =>
      some (state.setConn socket { conn with fiber := .flushing frame })
  | .written, .writingError frame [] =>
      some (state.setConn socket { conn with fiber := .flushingError frame })
  | .flushed, .flushing _ =>
      if state.draining then some (state.leave socket)
      else some (state.setConn socket { conn with phase := some .idle, fiber := .reading })
  | .leave, .absent | .leave, .finished => none
  | .leave, _ => some (state.leave socket)
  | _, _ => none

/-- The drain fiber looks at the next connection of `abandon_in_flight!`. -/
def visit (state : State ι) (socket : ι) (rest : List ι) : State ι :=
  match (state.conn socket).phase with
  | none | some .idle => { state with drain := .abandoning rest }
  | some .inApp => { state.startFrame with
      abandoned := state.abandoned + 1
      drain := .writingError socket state.frames errorFrame rest }
  | some .writing => { state with
      abandoned := state.abandoned + 1
      drain := .closing socket none rest }

/-- `close_idle!` -/
def Connection.closeIdle (conn : Connection) : Connection :=
  if conn.phase = some .idle then { conn with isOpen := false } else conn

/-- The drain fiber continues. -/
def drainStep (state : State ι) (action : DrainAction) : Option (State ι) :=
  match action, state.drain with
  | .signal, .waiting =>
      some { state with
        draining := true
        drain := .sleeping
        conn := fun socket => (state.conn socket).closeIdle }
  | .expire, .sleeping => some { state with drain := .abandoning state.registered }
  | .visit, .abandoning (socket :: rest) => some (visit state socket rest)
  | .visit, .abandoning [] => some { state with drain := .finished }
  | .put count, .writingError socket frame left rest =>
      if (state.conn socket).isOpen ∧ 0 < count ∧ count ≤ left.length then
        some { state.setConn socket ((state.conn socket).send frame (left.take count)) with
          drain := .writingError socket frame (left.drop count) rest }
      else none
  | .written, .writingError socket frame [] rest =>
      some { state with drain := .flushing socket frame rest }
  | .flushed, .flushing socket frame rest | .giveUp, .writingError socket frame _ rest
  | .giveUp, .flushing socket frame rest =>
      some { state with drain := .closing socket frame rest }
  | .close, .closing socket _ rest =>
      some { state.setConn socket { state.conn socket with isOpen := false } with
        drain := .abandoning rest }
  | _, _ => none

/-- A connection is accepted until the drain fiber closes the listener. -/
def step (state : State ι) : Action ι → Option (State ι)
  | .accept socket =>
      if (state.conn socket).fiber = .absent ∧ state.drain = .waiting then
        some { state.setConn socket { Connection.new with
            phase := some .idle, fiber := .reading } with
          registered := state.registered ++ [socket] }
      else none
  | .fiber socket action => fiberStep state socket action
  | .drain action => drainStep state action

/-! ## One frame for each request -/

/-- The bytes on the wire for one request belong to one frame. -/
def AnsweredOnce (wire : List Sent) : Prop :=
  ∀ first ∈ wire, ∀ second ∈ wire, first.request = second.request → first.frame = second.frame

instance (wire : List Sent) : Decidable (AnsweredOnce wire) := by
  unfold AnsweredOnce
  infer_instance

/-- The frame the fiber is in the middle of. -/
def Fiber.frame? : Fiber → Option Nat
  | .writing frame _ | .flushing frame | .writingError frame _ | .flushingError frame => some frame
  | .absent | .reading | .inApp | .finished => none

/-- The fiber is in the middle of its error frame. -/
def Fiber.reportsError : Fiber → Bool
  | .writingError .. | .flushingError _ => true
  | _ => false

/-- The error frame the drain fiber has started on a connection and not yet closed. -/
def Drain.frameOn (drain : Drain ι) (socket : ι) : Option Nat :=
  match drain with
  | .writingError other frame _ _ | .flushing other frame _ =>
      if other = socket then some frame else none
  | .closing other frame _ => if other = socket then frame else none
  | _ => none

/-- The connection that `abandon_in_flight!` looks at next. -/
def Drain.next? : Drain ι → Option ι
  | .abandoning (socket :: _) => some socket
  | _ => none

/-- Neither fiber starts a frame on a connection where the other is in the middle of one. -/
def Apart (state : State ι) : Action ι → Prop
  | .fiber socket (.answer _) | .fiber socket .raise => state.drain.frameOn socket = none
  | .drain .visit => ∀ socket ∈ state.drain.next?, (state.conn socket).fiber.reportsError = false
  | _ => True

instance (state : State ι) : (action : Action ι) → Decidable (Apart state action)
  | .fiber _ action => by cases action <;> unfold Apart <;> infer_instance
  | .drain action => by cases action <;> unfold Apart <;> infer_instance
  | .accept _ => inferInstanceAs (Decidable True)

/-- What holds of a connection with the drain fiber's frame on it. While a request of an
open connection is being served, its bytes are those of the one frame in progress. -/
structure Kept (drainFrame : Option Nat) (conn : Connection) : Prop where
  once : AnsweredOnce conn.wire
  numbered : ∀ sent ∈ conn.wire, sent.request ≤ conn.dispatched
  phase : conn.phase = some .inApp → conn.fiber = .inApp ∨ conn.fiber.reportsError = true
  held : conn.isOpen = true → drainFrame ≠ none → conn.fiber = .inApp
  current : conn.isOpen = true → conn.fiber ≠ .reading → ∀ sent ∈ conn.wire,
    sent.request = conn.dispatched → conn.fiber.frame?.or drainFrame = some sent.frame

def Sound (state : State ι) : Prop :=
  ∀ socket, Kept (state.drain.frameOn socket) (state.conn socket)

section Connections

variable {drainFrame : Option Nat} {conn : Connection}

theorem Kept.new : Kept none .new := by
  constructor
  · intro first member
    cases member
  · intro sent member
    cases member
  · intro registered
    cases registered
  · intro _ held
    exact absurd rfl held
  · intro _ _ sent member
    cases member

/-- On a closed connection the frames in progress do not matter. -/
private theorem Kept.shut (kept : Kept drainFrame conn) (other : Option Nat) {phase : Option Phase}
    {fiber : Fiber} (listed : phase = some .inApp → fiber = .inApp ∨ fiber.reportsError = true) :
    Kept other { conn with phase := phase, fiber := fiber, isOpen := false } where
  once := kept.once
  numbered := kept.numbered
  phase := listed
  held isOpen := nomatch isOpen
  current isOpen := nomatch isOpen

private theorem Kept.leave (kept : Kept drainFrame conn) (other : Option Nat) :
    Kept other conn.leave :=
  kept.shut other fun registered => nomatch registered

private theorem Kept.close (kept : Kept drainFrame conn) (other : Option Nat) :
    Kept other { conn with isOpen := false } :=
  kept.shut other kept.phase

private theorem Kept.idle (kept : Kept drainFrame conn) (notApp : conn.fiber ≠ .inApp) :
    Kept drainFrame { conn with phase := some .idle, fiber := .reading } where
  once := kept.once
  numbered := kept.numbered
  phase registered := nomatch registered
  held isOpen held := absurd (kept.held isOpen held) notApp
  current _ notReading := absurd rfl notReading

private theorem Kept.dispatch (kept : Kept drainFrame conn) :
    Kept drainFrame { conn with
      phase := some .inApp, fiber := .inApp, dispatched := conn.dispatched + 1 } where
  once := kept.once
  numbered sent member := (kept.numbered sent member).trans (Nat.le_succ _)
  phase _ := Or.inl rfl
  held _ _ := rfl
  current _ _ sent member request := by
    have old := kept.numbered sent member
    exact absurd request (Nat.ne_of_lt (Nat.lt_succ_of_le old))

/-- A fiber in the application starts a frame that nothing else is in progress beside. -/
private theorem Kept.start (kept : Kept none conn) (inApp : conn.fiber = .inApp)
    {phase : Option Phase} {fiber : Fiber}
    (listed : phase = some .inApp → fiber = .inApp ∨ fiber.reportsError = true) :
    Kept none { conn with phase := phase, fiber := fiber } where
  once := kept.once
  numbered := kept.numbered
  phase := listed
  held _ held := absurd rfl held
  current isOpen _ sent member request := by
    have unanswered := kept.current isOpen (by rw [inApp]; decide) sent member request
    rw [inApp] at unanswered
    cases unanswered

/-- The drain fiber starts a frame on a connection whose fiber is in the application. -/
private theorem Kept.report (kept : Kept none conn) (inApp : conn.fiber = .inApp) (frame : Nat) :
    Kept (some frame) conn where
  once := kept.once
  numbered := kept.numbered
  phase := kept.phase
  held _ _ := inApp
  current isOpen _ sent member request := by
    have unanswered := kept.current isOpen (by rw [inApp]; decide) sent member request
    rw [inApp] at unanswered
    cases unanswered

/-- The fiber goes on within the frame it is in the middle of. -/
private theorem Kept.advance (kept : Kept drainFrame conn) {fiber : Fiber} {frame : Nat}
    (before : conn.fiber.frame? = some frame) (after : fiber.frame? = some frame)
    (sameReport : fiber.reportsError = conn.fiber.reportsError) :
    Kept drainFrame { conn with fiber := fiber } where
  once := kept.once
  numbered := kept.numbered
  phase registered := by
    rcases kept.phase registered with inApp | reports
    · rw [inApp] at before
      cases before
    · exact Or.inr (sameReport.trans reports)
  held isOpen held := by
    rw [kept.held isOpen held] at before
    cases before
  current isOpen _ sent member request := by
    have owned := kept.current isOpen (by
      intro reading
      rw [reading] at before
      cases before)
      sent member request
    rw [before] at owned
    rw [after]
    exact owned

/-- Bytes of the one frame in progress. -/
private theorem Kept.send (kept : Kept drainFrame conn) {frame : Nat}
    (isOpen : conn.isOpen = true) (inProgress : conn.fiber.frame?.or drainFrame = some frame)
    (bytes : List UInt8) : Kept drainFrame (conn.send frame bytes) := by
  have notReading : conn.fiber ≠ .reading := by
    intro reading
    rw [reading] at inProgress
    have inApp := kept.held isOpen (by rw [show drainFrame = some frame from inProgress]; simp)
    rw [reading] at inApp
    cases inApp
  have split : ∀ sent ∈ (conn.send frame bytes).wire,
      sent ∈ conn.wire ∨ sent.request = conn.dispatched ∧ sent.frame = frame := by
    intro sent member
    rcases List.mem_append.mp member with before | new
    · exact Or.inl before
    · obtain ⟨byte, _, sentEq⟩ := List.mem_map.mp new
      rw [← sentEq]
      exact Or.inr ⟨rfl, rfl⟩
  have owned : ∀ sent ∈ (conn.send frame bytes).wire, sent.request = conn.dispatched →
      sent.frame = frame := by
    intro sent member request
    rcases split sent member with before | new
    · have current := kept.current isOpen notReading sent before request
      rw [inProgress] at current
      exact (Option.some_inj.mp current).symm
    · exact new.2
  constructor
  · intro first firstMember second secondMember same
    by_cases current : first.request = conn.dispatched
    · rw [owned first firstMember current, owned second secondMember (same ▸ current)]
    · have firstOld := (split first firstMember).resolve_right fun new => current new.1
      have secondOld := (split second secondMember).resolve_right fun new =>
        current (same.trans new.1)
      exact kept.once first firstOld second secondOld same
  · intro sent member
    rcases split sent member with before | new
    · exact kept.numbered sent before
    · exact Nat.le_of_eq new.1
  · exact kept.phase
  · exact kept.held
  · intro _ _ sent member request
    rw [owned sent member request]
    exact inProgress

/-- The fiber puts bytes of its frame on the wire. -/
private theorem Kept.put (kept : Kept drainFrame conn) {frame : Nat} {fiber : Fiber}
    (isOpen : conn.isOpen = true) (before : conn.fiber.frame? = some frame)
    (after : fiber.frame? = some frame)
    (sameReport : fiber.reportsError = conn.fiber.reportsError) (bytes : List UInt8) :
    Kept drainFrame { conn.send frame bytes with fiber := fiber } := by
  have inProgress : conn.fiber.frame?.or drainFrame = some frame := by
    rw [before]
    rfl
  exact (kept.send isOpen inProgress bytes).advance before after sameReport

end Connections

/-! ## Steps of the reactor -/

theorem sound_initial : Sound (State.initial : State ι) :=
  fun _ => Kept.new

private theorem Sound.setConn {state : State ι} (sound : Sound state) {socket : ι}
    {next : Connection} (kept : Kept (state.drain.frameOn socket) next) :
    Sound (state.setConn socket next) := by
  intro other
  show Kept (state.drain.frameOn other) (Function.update state.conn socket next other)
  by_cases same : other = socket
  · rw [same, Function.update_self]
    exact kept
  · rw [Function.update_of_ne same]
    exact sound other

private theorem Sound.leave {state : State ι} (sound : Sound state) (socket : ι) :
    Sound (state.leave socket) :=
  sound.setConn ((sound socket).leave _)

/-- A connection fiber's step. -/
private theorem Sound.fiberStep {state next : State ι} (sound : Sound state) {socket : ι}
    {action : FiberAction} (apart : Apart state (.fiber socket action))
    (stepped : AsyncDrain.fiberStep state socket action = some next) : Sound next := by
  have kept := sound socket
  unfold AsyncDrain.fiberStep at stepped
  dsimp only at stepped
  split at stepped
  · cases stepped
    exact sound.setConn kept.dispatch
  · rename_i inApp
    cases stepped
    apply sound.setConn
    have free : state.drain.frameOn socket = none := apart
    rw [free] at kept ⊢
    exact kept.start inApp fun registered => nomatch registered
  · rename_i inApp
    cases stepped
    apply sound.setConn
    have free : state.drain.frameOn socket = none := apart
    rw [free] at kept ⊢
    exact kept.start inApp fun _ => Or.inr rfl
  · rename_i writing
    split at stepped
    · rename_i guard
      cases stepped
      apply sound.setConn
      apply kept.put guard.1 (congrArg Fiber.frame? writing)
      · rfl
      · exact (congrArg Fiber.reportsError writing).symm
    · cases stepped
  · rename_i writing
    split at stepped
    · rename_i guard
      cases stepped
      apply sound.setConn
      apply kept.put guard.1 (congrArg Fiber.frame? writing)
      · rfl
      · exact (congrArg Fiber.reportsError writing).symm
    · cases stepped
  · rename_i writing
    cases stepped
    exact sound.setConn (kept.advance (congrArg Fiber.frame? writing) rfl
      (congrArg Fiber.reportsError writing).symm)
  · rename_i writing
    cases stepped
    exact sound.setConn (kept.advance (congrArg Fiber.frame? writing) rfl
      (congrArg Fiber.reportsError writing).symm)
  · rename_i flushing
    split at stepped
    · cases stepped
      exact sound.leave socket
    · cases stepped
      exact sound.setConn (kept.idle (by rw [flushing]; exact Fiber.noConfusion))
  · cases stepped
  · cases stepped
  · cases stepped
    exact sound.leave socket
  · cases stepped

/-- The drain fiber's step where no frame of its own changes. -/
private theorem Sound.redrain {state : State ι} (sound : Sound state) {drain : Drain ι}
    (same : ∀ socket, drain.frameOn socket = state.drain.frameOn socket) :
    Sound { state with drain := drain } := by
  intro socket
  show Kept (drain.frameOn socket) (state.conn socket)
  rw [same]
  exact sound socket

/-- The drain fiber turns to a connection that is in progress. -/
private theorem Sound.visit {state : State ι} (sound : Sound state) {socket : ι}
    {rest : List ι} (turned : state.drain = .abandoning (socket :: rest))
    (apart : (state.conn socket).fiber.reportsError = false) :
    Sound (AsyncDrain.visit state socket rest) := by
  have noFrame : ∀ other, state.drain.frameOn other = none := by
    intro other
    rw [turned]
    rfl
  unfold AsyncDrain.visit
  split
  · exact sound.redrain fun other => (noFrame other).symm
  · exact sound.redrain fun other => (noFrame other).symm
  · rename_i listed
    intro other
    show Kept (if socket = other then some state.frames else none) (state.conn other)
    have kept := sound other
    rw [noFrame] at kept
    by_cases same : socket = other
    · subst same
      rw [if_pos rfl]
      have inApp := (kept.phase listed).resolve_right (by rw [apart]; exact Bool.false_ne_true)
      exact kept.report inApp _
    · rw [if_neg same]
      exact kept
  · have closing : ∀ other, (Drain.closing socket none rest).frameOn other = none :=
      fun other => ite_self none
    exact sound.redrain fun other => (closing other).trans (noFrame other).symm

/-- The drain fiber's step. -/
private theorem Sound.drainStep {state next : State ι} (sound : Sound state)
    {action : DrainAction} (apart : Apart state (.drain action))
    (stepped : AsyncDrain.drainStep state action = some next) : Sound next := by
  unfold AsyncDrain.drainStep at stepped
  split at stepped
  · rename_i waiting
    cases stepped
    intro socket
    have kept := sound socket
    rw [waiting] at kept
    show Kept none (state.conn socket).closeIdle
    unfold Connection.closeIdle
    split
    · exact kept.close none
    · exact kept
  · rename_i sleeping
    cases stepped
    exact sound.redrain fun socket => by rw [sleeping]; rfl
  · rename_i turned
    cases stepped
    exact sound.visit turned (apart _ (by rw [turned]; rfl))
  · rename_i turned
    cases stepped
    exact sound.redrain fun socket => by rw [turned]; rfl
  · rename_i count socket frame left rest writing
    split at stepped
    · rename_i guard
      cases stepped
      have kept := sound socket
      have isOn : state.drain.frameOn socket = some frame := by
        rw [writing]
        exact if_pos rfl
      have inApp := kept.held guard.1 (by rw [isOn]; exact Option.some_ne_none frame)
      have sent := sound.setConn (kept.send guard.1 (by rw [inApp]; exact isOn)
        (left.take count))
      refine sent.redrain fun other => ?_
      show _ = state.drain.frameOn other
      rw [writing]
      rfl
    · cases stepped
  · rename_i writing
    cases stepped
    exact sound.redrain fun socket => by rw [writing]; rfl
  · rename_i flushing
    cases stepped
    exact sound.redrain fun socket => by rw [flushing]; rfl
  · rename_i writing
    cases stepped
    exact sound.redrain fun socket => by rw [writing]; rfl
  · rename_i flushing
    cases stepped
    exact sound.redrain fun socket => by rw [flushing]; rfl
  · rename_i socket frame rest closing
    cases stepped
    intro other
    show Kept none (Function.update state.conn socket _ other)
    have kept := sound other
    by_cases same : other = socket
    · rw [same, Function.update_self]
      rw [same] at kept
      exact kept.close none
    · rw [Function.update_of_ne same]
      rw [closing] at kept
      have elsewhere : (Drain.closing socket frame rest).frameOn other = none :=
        if_neg (Ne.symm same)
      rw [elsewhere] at kept
      exact kept
  · cases stepped

private theorem Sound.step {state next : State ι} {action : Action ι} (sound : Sound state)
    (apart : Apart state action) (stepped : AsyncDrain.step state action = some next) :
    Sound next := by
  cases action with
  | accept socket =>
      simp only [AsyncDrain.step, Option.ite_none_right_eq_some, Option.some.injEq] at stepped
      obtain ⟨⟨_, waiting⟩, rfl⟩ := stepped
      apply sound.setConn
      rw [waiting]
      exact Kept.new.idle (by decide)
  | fiber socket action => exact sound.fiberStep apart stepped
  | drain action => exact sound.drainStep apart stepped

/-- In every run where no fiber starts a frame on a connection while the other is in the
middle of one, the bytes on each socket for each request belong to one frame. -/
theorem drained_requests_answered_once {actions : List (Action ι)} {state : State ι}
    (permitted : Machine.Meets step Apart State.initial actions)
    (ran : Machine.exec step State.initial actions = some state) (socket : ι) :
    AnsweredOnce (state.conn socket).wire := by
  have sound : Sound state :=
    Machine.invariant_of_meets (fun _ _ _ sound apart stepped => sound.step apart stepped)
      sound_initial permitted ran
  exact (sound socket).once

/-- One connection has a request in the application when the deadline of the drain expires. -/
def expiredDrain : List (Action Nat) :=
  [.accept 0, .fiber 0 .dispatch, .drain .signal, .drain .expire]

/-- The drain fiber answers for the application, whose fiber then leaves. -/
def abandonedRun : List (Action Nat) :=
  expiredDrain ++ [.drain .visit, .drain (.put 50), .drain .giveUp, .drain .close,
    .fiber 0 (.answer (encodeFullResponse 200 [] [])), .fiber 0 .leave]

theorem drained_requests_answered_once_abandoned :
    ∃ state, Machine.exec step State.initial abandonedRun = some state ∧
      AnsweredOnce (state.conn 0).wire := by
  have runs : (Machine.exec step State.initial abandonedRun).isSome = true := by decide +kernel
  obtain ⟨state, ran⟩ := Option.isSome_iff_exists.mp runs
  exact ⟨state, ran, drained_requests_answered_once (by decide +kernel) ran 0⟩

/-- The drain fiber is suspended in its error frame when the application returns. -/
def overtakenRun : List (Action Nat) :=
  expiredDrain ++ [.drain .visit, .drain (.put 10),
    .fiber 0 (.answer (encodeFullResponse 200 [] [])), .fiber 0 (.put 15)]

/-- The connection fiber is suspended in its error frame when the drain fiber comes by. -/
def reportedTwiceRun : List (Action Nat) :=
  expiredDrain ++ [.fiber 0 .raise, .fiber 0 (.put 10), .drain .visit, .drain (.put 10)]

/-- In both orders bytes of a second frame follow the first ones. -/
theorem drained_request_answered_twice :
    (∃ state, Machine.exec step State.initial overtakenRun = some state ∧
      ¬ AnsweredOnce (state.conn 0).wire) ∧
    ∃ state, Machine.exec step State.initial reportedTwiceRun = some state ∧
      ¬ AnsweredOnce (state.conn 0).wire := by
  constructor
  · apply Machine.exists_exec
    decide +kernel
  · apply Machine.exists_exec
    decide +kernel

end Oxo.Worker.AsyncDrain
