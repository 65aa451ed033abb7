import Oxo.Edge.Supervisor.Children

/-!
Contract: the supervisor's run (`oxo-pingora-edge/src/service.rs`).

Owns: how workers, sidecars and the edge are spawned and waited for, the monitor with its
restarts, renewals and reloads, and every way out of `ServiceRunner::run`.

Does not own: what the children are started with.
-/

namespace Oxo.Edge.Supervisor

open Oxo.Foundation

structure ServiceConfig where
  workers : Nat
  isAsync : Bool
  cableBin : Option String
  cableBind : Option String
  grpcBin : Option String
  grpcBind : Option String
  acmeRenew : Bool
deriving DecidableEq

structure ManagedWorker where
  id : Nat
  generation : Nat
  child : ChildId
  crashCount : Nat
deriving DecidableEq

def terminateWorkers (fuel : Nat) (workers : List ManagedWorker) : Service Unit :=
  terminateAll fuel (workers.map ManagedWorker.child)

/-- `terminate_cable`, `terminate_grpc` and `terminate_renew`. -/
def terminateOptional (fuel : Nat) (child : Option ChildId) : Service Unit :=
  terminateAll fuel child.toList

def spawnChild (role : Role) : Service (Except ServiceError ChildId) := do
  let spawned : Except String ChildId ← ask (.spawn role)
  return spawned.mapError (.spawn role)

/-! ## Readiness -/

/-- `wait_for_edge_ready`, `wait_for_cable_ready` and `wait_for_grpc_ready`. -/
def waitForReady (site : Site) (role : Role) :
    (fuel : Nat) → ChildId → Service (Except ServiceError Unit)
  | 0, _ => .stop
  | fuel + 1, child => do
      match ← tryWait site child with
      | .failed source => return .error (.wait source)
      | .exited _ => return .error (.childExited role)
      | .running => do
          let connected : Bool ← ask (.connect role)
          if connected then return .ok ()
          else if ← deadlinePassed then do
            terminateChild fuel child
            return .error (.readyTimeout role)
          else waitForReady site role fuel child

/-- The error of a readiness reader that will not be ready. -/
def Readiness.error : Readiness → Option ServiceError
  | .ready => none
  | .nothingYet => none
  | .closed => some .workerReadyDisconnected
  | .outputTooLarge => some .workerReadinessOutputTooLarge
  | .failed source => some (.workerReadyIo source)
  | .disconnected => some .workerReadyDisconnected

/-- `wait_for_worker_ready`: whether the worker is ready, or a drain was requested. -/
def waitForWorkerReady (site : Site) (id : Nat) :
    (fuel : Nat) → ChildId → Service (Except ServiceError Bool)
  | 0, _ => .stop
  | fuel + 1, child => do
      if ← shutdownRequested then
        terminateChild fuel child
        return .ok false
      else
        match ← tryWait site child with
        | .failed source => return .error (.wait source)
        | .exited _ => return .error (.childExited (.worker id))
        | .running => do
            let readiness : Readiness ← ask (.receiveReadiness child)
            match readiness.error with
            | some error => do
                terminateChild fuel child
                return .error error
            | none =>
                if readiness = .ready then do
                  let finished : Except ServiceError Unit ← ask (.finishReady id)
                  match finished with
                  | .ok () => return .ok true
                  | .error error => do
                      terminateChild fuel child
                      return .error error
                else if ← deadlinePassed then do
                  terminateChild fuel child
                  return .error .workerReadyTimeout
                else waitForWorkerReady site id fuel child

/-! ## The pool of workers -/

/-- A spawned worker with its readiness reader. -/
def spawnAttached (fuel id : Nat) : Service (Except ServiceError ChildId) := do
  match ← spawnChild (.worker id) with
  | .error error => return .error error
  | .ok child => do
      let attached : Except ServiceError Unit ← ask (.attachReadiness child)
      match attached with
      | .ok () => return .ok child
      | .error error => do
          terminateChild fuel child
          return .error error

def spawnReadyWorker (fuel id generation : Nat) :
    Service (Except ServiceError (Option ManagedWorker)) := do
  match ← spawnAttached fuel id with
  | .error error => return .error error
  | .ok child => do
      match ← waitForWorkerReady .sequentialBoot id fuel child with
      | .error error => return .error error
      | .ok false => return .ok none
      | .ok true => return .ok (some ⟨id, generation, child, 0⟩)

/-- Classic workers boot one after the other. -/
def spawnSequential (fuel : Nat) :
    List Nat → List ManagedWorker → Service (Except ServiceError (Option (List ManagedWorker)))
  | [], workers => return .ok (some workers)
  | id :: rest, workers => do
      match ← spawnReadyWorker fuel id 1 with
      | .ok (some worker) => spawnSequential fuel rest (workers ++ [worker])
      | .ok none => do
          terminateWorkers fuel workers
          return .ok none
      | .error error => do
          terminateWorkers fuel workers
          return .error error

structure BootSlot where
  id : Nat
  child : ChildId
deriving DecidableEq

def inSlotOrder (ready : List ManagedWorker) : List ManagedWorker :=
  ready.mergeSort fun first second => decide (first.id ≤ second.id)

def failBoot (fuel : Nat) (booting : List BootSlot) (ready : List ManagedWorker) :
    Service Unit := do
  terminateAll fuel (booting.map BootSlot.child)
  terminateWorkers fuel (inSlotOrder ready)

def spawnBatch (fuel : Nat) :
    List Nat → List BootSlot → Service (Except ServiceError (List BootSlot))
  | [], booting => return .ok booting
  | id :: rest, booting => do
      match ← spawnAttached fuel id with
      | .ok child => spawnBatch fuel rest (booting ++ [⟨id, child⟩])
      | .error error => do
          failBoot fuel booting []
          return .error error

structure BootProgress where
  booting : List BootSlot
  ready : List ManagedWorker
  progressed : Bool

/-- One pass over the slots that still boot; `passed` are those it has left behind. -/
def scanBooting (fuel : Nat) :
    (passed rest : List BootSlot) → (ready : List ManagedWorker) → (progressed : Bool) →
      Service (Except ServiceError BootProgress)
  | passed, [], ready, progressed => return .ok ⟨passed, ready, progressed⟩
  | passed, slot :: rest, ready, progressed => do
      let fail : ServiceError → Service (Except ServiceError BootProgress) := fun error => do
        failBoot fuel (passed ++ slot :: rest) ready
        return .error error
      match ← tryWait .batchedBoot slot.child with
      | .exited _ => fail (.childExited (.worker slot.id))
      | .failed source => fail (.wait source)
      | .running => do
          let readiness : Readiness ← ask (.receiveReadiness slot.child)
          match readiness.error with
          | some error => fail error
          | none =>
              if readiness = .ready then do
                let finished : Except ServiceError Unit ← ask (.finishReady slot.id)
                match finished with
                | .ok () => scanBooting fuel passed rest (ready ++ [⟨slot.id, 1, slot.child, 0⟩]) true
                | .error error => fail error
              else scanBooting fuel (passed ++ [slot]) rest ready progressed

def bootBatch : (fuel : Nat) → List BootSlot → List ManagedWorker →
    Service (Except ServiceError (Option (List ManagedWorker)))
  | 0, _, _ => .stop
  | fuel + 1, booting, ready => do
      if booting.isEmpty then
        return .ok (some (inSlotOrder ready))
      else if ← shutdownRequested then
        failBoot fuel booting ready
        return .ok none
      else
        match ← scanBooting fuel [] booting ready false with
        | .error error => return .error error
        | .ok scanned =>
            if scanned.progressed then bootBatch fuel scanned.booting scanned.ready
            else if ← deadlinePassed then do
              failBoot fuel scanned.booting scanned.ready
              return .error .workerReadyTimeout
            else bootBatch fuel scanned.booting scanned.ready

def spawnWorkerPool (fuel : Nat) (config : ServiceConfig) :
    Service (Except ServiceError (Option (List ManagedWorker))) := do
  if config.isAsync then
    match ← spawnBatch fuel (List.range config.workers) [] with
    | .error error => return .error error
    | .ok booting => bootBatch fuel booting []
  else spawnSequential fuel (List.range config.workers) []

/-! ## Sidecars -/

/-- A sidecar is spawned where it is configured, and waited for. -/
def spawnSidecar (fuel : Nat) (role : Role) (bin bind : Option String) (bindName : String) :
    Service (Except ServiceError (Option ChildId)) :=
  match bin, bind with
  | none, _ => return .ok none
  | some _, none => return .error (.missingEnv bindName)
  | some _, some _ => do
      match ← spawnChild role with
      | .error error => return .error error
      | .ok child => do
          match ← waitForReady .sidecarReady role fuel child with
          | .error error => return .error error
          | .ok () => return .ok (some child)

def spawnCable (fuel : Nat) (config : ServiceConfig) :
    Service (Except ServiceError (Option ChildId)) :=
  spawnSidecar fuel .cable config.cableBin config.cableBind "OXO_CABLE_BIND"

def spawnGrpc (fuel : Nat) (config : ServiceConfig) :
    Service (Except ServiceError (Option ChildId)) :=
  spawnSidecar fuel .grpc config.grpcBin config.grpcBind "OXO_GRPC_BIND"

/-! ## Restarts -/

def restartBackoffBase : Nat := 100

def restartBackoffMaxDoublings : Nat := 5

/-- In milliseconds. -/
def restartBackoff (crashCount : Nat) : Nat :=
  restartBackoffBase * 2 ^ min (crashCount - 1) restartBackoffMaxDoublings

/-- A worker that exited is spawned again; it is replaced only by one that is ready. -/
def restartWorker (fuel : Nat) (worker : ManagedWorker) :
    Service (Except ServiceError ManagedWorker) := do
  if ← shutdownRequested then return .ok worker
  else
    let recent : Bool ← ask .startedRecently
    let crashCount := if recent then min (worker.crashCount + 1) (2 ^ 32 - 1) else 1
    let worker := { worker with crashCount := crashCount }
    let slept : Bool ← ask (.sleepUnlessShutdown (restartBackoff crashCount))
    if slept then
      let generation := min (worker.generation + 1) (2 ^ 64 - 1)
      match ← spawnAttached fuel worker.id with
      | .error error => return .error error
      | .ok child => do
          match ← waitForWorkerReady .respawn worker.id fuel child with
          | .error error => do
              terminateChild fuel child
              return .error error
          | .ok false => return .ok worker
          | .ok true => return .ok { worker with generation := generation, child := child }
    else return .ok worker

/-- What becomes of the attempts to boot the edge on the new pair. -/
inductive NewPair where
  | returned (result : Except ServiceError Unit)
  | booted
  | exhausted

def tryNewPair (fuel : Nat) : (tries : Nat) → ChildId → Service (NewPair × ChildId)
  | 0, edge => return (.exhausted, edge)
  | tries + 1, edge => do
      if ← shutdownRequested then return (.returned (.ok ()), edge)
      else
        match ← spawnChild .edge with
        | .error error => return (.returned (.error error), edge)
        | .ok edge => do
            match ← waitForReady .newPair .edge fuel edge with
            | .ok () => return (.booted, edge)
            | .error _ => do
                terminateChild fuel edge
                tryNewPair fuel tries edge

/-- The result, and the edge that stands in the slot. -/
abbrev Restarted := Except ServiceError Unit × ChildId

/-- Back to the retained pair, with one more edge. -/
def rollBackEdge (fuel : Nat) (caller : Caller) (edge : ChildId) : Service Restarted := do
  let now : Nat ← ask .nowEpochSeconds
  let rolledBack : Except String Unit ← ask (.rollbackToRetainedPair now)
  match rolledBack with
  | .error message => return (.error (.acmeReload message), edge)
  | .ok () => do
      if ← shutdownRequested then return (.ok (), edge)
      else
        match ← spawnChild .edge with
        | .error error => return (.error error, edge)
        | .ok edge => do
            let ready ← waitForReady (.rolledBack caller) .edge fuel edge
            return (ready, edge)

def restartEdge (fuel : Nat) (caller : Caller) (edge : ChildId) : Service Restarted := do
  drainEdgeForReload fuel edge
  let (newPair, edge) ← tryNewPair fuel 2 edge
  match newPair with
  | .returned result => return (result, edge)
  | .booted => do
      let consumed : Except String Unit ← ask (.consumeReloadMarker caller)
      return (consumed.mapError .acmeReload, edge)
  | .exhausted => rollBackEdge fuel caller edge

def reconcileBootMarker (fuel : Nat) (edge : ChildId) (bootEpoch : Nat) : Service Restarted := do
  let marker : Except String (Option Nat) ← ask (.reloadMarkerUpdatedAt .boot)
  match marker with
  | .error message => return (.error (.acmeReload message), edge)
  | .ok none => return (.ok (), edge)
  | .ok (some updatedAt) =>
      if updatedAt ≤ bootEpoch then do
        let consumed : Except String Unit ← ask (.consumeReloadMarker .boot)
        return (consumed.mapError .acmeReload, edge)
      else restartEdge fuel .boot edge

def maybeReloadEdge (fuel : Nat) (edge : ChildId) : Service Restarted := do
  let marker : Except String (Option Nat) ← ask (.reloadMarkerUpdatedAt .renewal)
  match marker with
  | .error message => return (.error (.acmeReload message), edge)
  | .ok none => return (.ok (), edge)
  | .ok (some _) => restartEdge fuel .renewal edge

/-! ## The monitor -/

/-- The children under the monitor. -/
structure Monitored where
  workers : List ManagedWorker
  edge : ChildId
  cable : Option ChildId
  grpc : Option ChildId
  renew : Option ChildId

/-- Whether a sidecar has exited. -/
def sidecarExited : Option ChildId → Service (Except ServiceError Bool)
  | none => return .ok false
  | some child => do
      match ← tryWait .monitor child with
      | .failed source => return .error (.wait source)
      | .exited _ => return .ok true
      | .running => return .ok false

/-- What the pass over the workers comes to. -/
inductive WorkerPass where
  | checked (workers : List ManagedWorker)
  | waitFailed (source : String)
  | restartFailed (error : ServiceError)

/-- The first worker that has exited is restarted, and ends the pass. -/
def checkWorkers (fuel : Nat) : (passed rest : List ManagedWorker) → Service WorkerPass
  | passed, [] => return .checked passed
  | passed, worker :: rest => do
      match ← tryWait .monitor worker.child with
      | .failed source => return .waitFailed source
      | .running => checkWorkers fuel (passed ++ [worker]) rest
      | .exited _ => do
          match ← restartWorker fuel worker with
          | .error error => return .restartFailed error
          | .ok worker => return .checked (passed ++ worker :: rest)

/-- Whether the renewal child is gone. -/
def renewReaped (fuel : Nat) : Option ChildId → Service (Except ServiceError Bool)
  | none => return .ok false
  | some child => do
      match ← tryWait .monitor child with
      | .failed source => return .error (.wait source)
      | .exited _ => return .ok true
      | .running => do
          if ← deadlinePassed then
            terminateChild fuel child
            return .ok true
          else return .ok false

/-- A renewal that is due. -/
def startRenewal (monitored : Monitored) : Service Monitored := do
  if monitored.renew.isSome then return monitored
  else
    let due : Bool ← ask .renewalDue
    if due then
      if ← shutdownRequested then return monitored
      else
        match ← spawnChild .renew with
        | .error _ => return monitored
        | .ok child => return { monitored with renew := some child }
    else return monitored

/-- Reaping a renewal, the reload it may call for, and the next renewal. -/
def superviseRenewal (fuel : Nat) (monitored : Monitored) :
    Service (Except ServiceError Monitored) := do
  match ← renewReaped fuel monitored.renew with
  | .error error => return .error error
  | .ok false => return .ok (← startRenewal monitored)
  | .ok true => do
      let (reloaded, edge) ← maybeReloadEdge fuel monitored.edge
      match reloaded with
      | .ok () => return .ok { monitored with edge := edge, renew := none }
      | .error error => do
          terminateOptional fuel monitored.grpc
          terminateOptional fuel monitored.cable
          terminateWorkers fuel monitored.workers
          return .error error

def monitorChildren (config : ServiceConfig) :
    (fuel : Nat) → Monitored → Service (Except ServiceError Unit)
  | 0, _ => .stop
  | fuel + 1, monitored => do
      if ← shutdownRequested then
        terminateOptional fuel monitored.renew
        drainService fuel monitored.edge (monitored.cable.toList ++ monitored.grpc.toList)
          (monitored.workers.map ManagedWorker.child)
        return .ok ()
      else
        match ← tryWait .monitor monitored.edge with
        | .failed source => return .error (.wait source)
        | .exited _ => do
            terminateOptional fuel monitored.renew
            terminateOptional fuel monitored.grpc
            terminateOptional fuel monitored.cable
            terminateWorkers fuel monitored.workers
            return .error (.childExited .edge)
        | .running => do
            match ← sidecarExited monitored.cable with
            | .error error => return .error error
            | .ok true => do
                terminateOptional fuel monitored.renew
                terminateChild fuel monitored.edge
                terminateOptional fuel monitored.grpc
                terminateWorkers fuel monitored.workers
                return .error (.childExited .cable)
            | .ok false => do
                match ← sidecarExited monitored.grpc with
                | .error error => return .error error
                | .ok true => do
                    terminateOptional fuel monitored.renew
                    terminateChild fuel monitored.edge
                    terminateOptional fuel monitored.cable
                    terminateWorkers fuel monitored.workers
                    return .error (.childExited .grpc)
                | .ok false => do
                    match ← checkWorkers fuel [] monitored.workers with
                    | .waitFailed source => return .error (.wait source)
                    | .restartFailed error => do
                        terminateOptional fuel monitored.renew
                        terminateChild fuel monitored.edge
                        terminateOptional fuel monitored.grpc
                        terminateOptional fuel monitored.cable
                        terminateWorkers fuel monitored.workers
                        return .error error
                    | .checked workers => do
                        let monitored := { monitored with workers := workers }
                        if config.acmeRenew then
                          match ← superviseRenewal fuel monitored with
                          | .error error => return .error error
                          | .ok monitored => monitorChildren config fuel monitored
                        else monitorChildren config fuel monitored

/-! ## The run -/

/-- The teardown of a failed boot. -/
def abandonBoot (fuel : Nat) (edge cable grpc : Option ChildId) (workers : List ManagedWorker)
    (error : ServiceError) : Service (Except ServiceError Unit) := do
  terminateOptional fuel edge
  terminateOptional fuel grpc
  terminateOptional fuel cable
  terminateWorkers fuel workers
  return .error error

/-- From the spawn of the edge on. -/
def runEdge (fuel : Nat) (config : ServiceConfig) (workers : List ManagedWorker)
    (cable grpc : Option ChildId) : Service (Except ServiceError Unit) := do
  let bootEpoch : Nat ← ask .nowEpochSeconds
  match ← spawnChild .edge with
  | .error error => abandonBoot fuel none cable grpc workers error
  | .ok edge => do
      match ← waitForReady .edgeBoot .edge fuel edge with
      | .error error => abandonBoot fuel (some edge) cable grpc workers error
      | .ok () =>
          if config.acmeRenew then do
            let (reconciled, edge) ← reconcileBootMarker fuel edge bootEpoch
            match reconciled with
            | .error error => abandonBoot fuel (some edge) cable grpc workers error
            | .ok () => monitorChildren config fuel ⟨workers, edge, cable, grpc, none⟩
          else monitorChildren config fuel ⟨workers, edge, cable, grpc, none⟩

/-- `ServiceRunner::run`. -/
def run (fuel : Nat) (config : ServiceConfig) : Service (Except ServiceError Unit) := do
  match ← spawnWorkerPool fuel config with
  | .error error => return .error error
  | .ok none => return .ok ()
  | .ok (some workers) => do
      match ← spawnCable fuel config with
      | .error error => abandonBoot fuel none none none workers error
      | .ok cable => do
          match ← spawnGrpc fuel config with
          | .error error => abandonBoot fuel none cable none workers error
          | .ok grpc => runEdge fuel config workers cable grpc

end Oxo.Edge.Supervisor
