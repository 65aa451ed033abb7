import Oxo.Foundation.Program

/-!
Contract: the supervisor's handles on its child processes
(`oxo-pingora-edge/src/service.rs`).

Owns: the operations the supervisor performs on children, clocks, signals and the state
directory, and the functions that wait for a child and take it down.

Does not own: when a child is taken down. Loops run on fuel, and stop without it; the messages
to the service manager and the slot states, which nothing reads, are left out.
-/

namespace Oxo.Edge.Supervisor

open Oxo.Foundation

/-- A handle on a child. -/
abbrev ChildId := Nat

inductive Role where
  | worker (id : Nat)
  | edge
  | cable
  | grpc
  | renew
deriving DecidableEq

/-- Who asks for the edge to be restarted: the boot, or the monitor after a renewal. -/
inductive Caller where
  | boot
  | renewal
deriving DecidableEq

/-- Where the supervisor asks whether a child has exited. -/
inductive Site where
  | monitor
  | sequentialBoot
  | batchedBoot
  | respawn
  | sidecarReady
  | edgeBoot
  | newPair
  | rolledBack (caller : Caller)
  | teardown
deriving DecidableEq

inductive Signal where
  | term
  | kill
deriving DecidableEq

/-- The result of `try_wait`. -/
inductive Waited where
  | exited (success : Bool)
  | running
  | failed (source : String)
deriving DecidableEq

/-- What the readiness reader of a worker has to say. -/
inductive Readiness where
  | ready
  | closed
  | outputTooLarge
  | failed (source : String)
  | nothingYet
  | disconnected
deriving DecidableEq

inductive ServiceError where
  | spawn (role : Role) (source : String)
  | wait (source : String)
  | childExited (role : Role)
  | missingEnv (name : String)
  | missingWorkerStdout
  | missingWorkerStderr
  | workerReadyDisconnected
  | workerReadinessOutputTooLarge
  | workerReadyIo (source : String)
  | workerReadyTimeout
  | workerUnready (detail : String)
  | readyTimeout (role : Role)
  | acmeReload (message : String)
deriving DecidableEq

inductive ServiceOp where
  | spawn (role : Role)
  | tryWait (site : Site) (child : ChildId)
  | signalGroup (child : ChildId) (signal : Signal)
  | kill (child : ChildId)
  | wait (child : ChildId)
  | attachReadiness (child : ChildId)
  | receiveReadiness (child : ChildId)
  | finishReady (id : Nat)
  | connect (role : Role)
  | deadlinePassed
  | shutdownRequested
  | secondSignal
  | startedRecently
  | sleepUnlessShutdown (millis : Nat)
  | renewalDue
  | nowEpochSeconds
  | reloadMarkerUpdatedAt (caller : Caller)
  | consumeReloadMarker (caller : Caller)
  | rollbackToRetainedPair (now : Nat)
deriving DecidableEq

def ServiceAnswer : ServiceOp → Type
  | .spawn _ => Except String ChildId
  | .tryWait _ _ => Waited
  | .signalGroup _ _ => Unit
  | .kill _ => Unit
  | .wait _ => Unit
  | .attachReadiness _ => Except ServiceError Unit
  | .receiveReadiness _ => Readiness
  | .finishReady _ => Except ServiceError Unit
  | .connect _ => Bool
  | .deadlinePassed => Bool
  | .shutdownRequested => Bool
  | .secondSignal => Bool
  | .startedRecently => Bool
  | .sleepUnlessShutdown _ => Bool
  | .renewalDue => Bool
  | .nowEpochSeconds => Nat
  | .reloadMarkerUpdatedAt _ => Except String (Option Nat)
  | .consumeReloadMarker _ => Except String Unit
  | .rollbackToRetainedPair _ => Except String Unit

abbrev Service := Program ServiceOp ServiceAnswer

def ask (op : ServiceOp) : Service (ServiceAnswer op) :=
  Program.perform op

def tryWait (site : Site) (child : ChildId) : Service Waited :=
  ask (.tryWait site child)

def shutdownRequested : Service Bool :=
  ask .shutdownRequested

def deadlinePassed : Service Bool :=
  ask .deadlinePassed

/-! ## Taking children down -/

/-- `wait_child_until_deadline`. -/
def waitChildUntil : (fuel : Nat) → ChildId → Service Bool
  | 0, _ => .stop
  | fuel + 1, child => do
      match ← tryWait .teardown child with
      | .exited _ => return true
      | .failed _ => return false
      | .running => do
          let second : Bool ← ask .secondSignal
          if second then return false
          else if ← deadlinePassed then return false
          else waitChildUntil fuel child

def killChild (child : ChildId) : Service Unit := do
  ask (.signalGroup child .kill)
  ask (.kill child)
  ask (.wait child)

def terminateChild (fuel : Nat) (child : ChildId) : Service Unit := do
  match ← tryWait .teardown child with
  | .exited _ => pure ()
  | _ => do
      ask (.signalGroup child .term)
      if ← waitChildUntil fuel child then pure ()
      else killChild child
  ask (.signalGroup child .kill)

def terminateAll (fuel : Nat) : List ChildId → Service Unit
  | [] => pure ()
  | child :: rest => do
      terminateChild fuel child
      terminateAll fuel rest

def requestChildTerm (child : ChildId) : Service Unit := do
  match ← tryWait .teardown child with
  | .exited _ => pure ()
  | _ => ask (.signalGroup child .term)

def forceChildShutdown (child : ChildId) : Service Unit := do
  match ← tryWait .teardown child with
  | .exited _ => pure ()
  | _ => killChild child

/-- `force_child_shutdown` of those that are not done. -/
def forceUndone : List (ChildId × Bool) → Service Unit
  | [] => pure ()
  | (child, done) :: rest => do
      if done then pure () else forceChildShutdown child
      forceUndone rest

def requestAllTerm : List ChildId → Service Unit
  | [] => pure ()
  | child :: rest => do
      requestChildTerm child
      requestAllTerm rest

/-- Each child with whether it was seen to exit in time. -/
def waitAllUntil (fuel : Nat) : List ChildId → Service (List (ChildId × Bool))
  | [] => return []
  | child :: rest => do
      let done ← waitChildUntil fuel child
      let others ← waitAllUntil fuel rest
      return (child, done) :: others

/-- The last sweep over the workers asks each again. -/
def forceAllShutdown : List ChildId → Service Unit
  | [] => pure ()
  | child :: rest => do
      match ← tryWait .teardown child with
      | .exited _ => pure ()
      | _ => forceChildShutdown child
      forceAllShutdown rest

def drainService (fuel : Nat) (edge : ChildId) (sidecars workers : List ChildId) :
    Service Unit := do
  requestChildTerm edge
  let edgeDone ← waitChildUntil fuel edge
  requestAllTerm sidecars
  let sidecarsDone ← waitAllUntil fuel sidecars
  requestAllTerm workers
  let _ ← waitAllUntil fuel workers
  forceUndone [(edge, edgeDone)]
  forceUndone sidecarsDone
  forceAllShutdown workers

def drainEdgeForReload (fuel : Nat) (edge : ChildId) : Service Unit := do
  requestChildTerm edge
  if ← waitChildUntil fuel edge then pure ()
  else forceChildShutdown edge

end Oxo.Edge.Supervisor
