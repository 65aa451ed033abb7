import Mathlib.Data.Finset.Basic
import Oxo.Foundation.Machine
import Oxo.Foundation.SlidingWindow
import Oxo.HyperEdge.Handle

/-!
Contract: the supervised handler and its supervisor (`oxo-edge/src/supervised.rs`).

Owns: the supervisor task from event to event with every step of a spawn, the worker processes,
the temporary files, the drop of the handler, every interleaving of these, and the log of what
the supervisor did.

Does not own: the commands and environments of the workers, the tail of a worker's standard error,
or the requests. Instants and durations are in nanoseconds. A removal of a file that exists succeeds.
A kill that nothing waits for shows as an exit at some later step.
-/

namespace Oxo.HyperEdge

open Oxo.Foundation

/-! ## The policy -/

/-- The nanoseconds of a second. -/
def second : Nat := 10 ^ 9

structure BurstParams where
  limit : Nat
  window : Nat
  minUptime : Nat
  base : Nat
  cap : Nat

def envU64 (env : String → Option String) (key : String) (default : Nat) : Nat :=
  ((env key).bind fun value => parseUnsigned (2 ^ 64) (trim value)).getD default

def bootTimeout (env : String → Option String) (worker : WorkerKind) : Nat :=
  match (env "OXO_BOOT_TIMEOUT_SECS").bind fun value => parseUnsigned (2 ^ 64) (trim value) with
  | some seconds => seconds * second
  | none =>
      match worker with
      | .shim => 20 * second
      | .puma => 60 * second

namespace BurstParams

/-- The product wraps, as it does without overflow checks. -/
def fromEnv (env : String → Option String) (worker : WorkerKind) : BurstParams :=
  let boot := bootTimeout env worker / second
  { limit := envU64 env "OXO_RESPAWN_BURST" 5
    window := envU64 env "OXO_RESPAWN_WINDOW_SECS" (max (boot * 5 % 2 ^ 64) 30) * second
    minUptime := envU64 env "OXO_RESPAWN_MIN_UPTIME_SECS" 10 * second
    base := 200 * 10 ^ 6
    cap := envU64 env "OXO_RESPAWN_BACKOFF_CAP_SECS" 5 * second }

def backoff (burst : BurstParams) (attempt : Nat) : Nat :=
  min (burst.base * min (2 ^ min attempt 6) (2 ^ 32 - 1)) burst.cap

end BurstParams

/-! ## Files and processes -/

/-- A path of `temp_path`: the directory and the process's id are the same for all. -/
structure TempPath where
  stem : String
  seq : Nat
  ext : String
deriving DecidableEq

inductive StablePaths where
  | shim (script : TempPath)
  | puma (config rackup : TempPath)
deriving DecidableEq

namespace StablePaths

/-- The paths from a number of the sequence on, and the next number. -/
def materialize (worker : WorkerKind) (seq : Nat) : StablePaths × Nat :=
  match worker with
  | .shim => (.shim ⟨"oxo_worker", seq, "rb"⟩, seq + 1)
  | .puma => (.puma ⟨"oxo_puma_config", seq, "rb"⟩ ⟨"oxo_puma_rackup", seq + 1, "ru"⟩, seq + 2)

def files : StablePaths → List TempPath
  | .shim script => [script]
  | .puma config rackup => [config, rackup]

end StablePaths

/-- A worker process: the secret in its environment and the port that it reported. -/
structure Process where
  secret : String
  port : Option UInt16
  exited : Bool
deriving DecidableEq

/-- A ready worker. The child is a process by its number. -/
structure Spawned where
  child : Nat
  port : UInt16
  secret : String
  pid : UInt32
  stderrPath : TempPath
deriving DecidableEq

/-! ## Where the parties stand -/

/-- How a step of a spawn fails. -/
inductive SpawnFailure where
  | app
  | stderrFile
  | executable
  | port
  | command
deriving DecidableEq

/-- Where a spawn stands: before its file, with the file and no process, in the handshake, in
`boot_error`, or at a worker that reported its port. -/
inductive SpawnStage where
  | resolving
  | commanding (secret : String) (stderrPath : TempPath)
  | reporting (child : Nat) (secret : String) (pid : UInt32) (stderrPath : TempPath)
  | failing (child : Nat) (stderrPath : TempPath)
  | connecting (worker : Spawned)
deriving DecidableEq

/-- Where the supervisor stands. -/
inductive Phase where
  | waiting
  | stopping
  | killing
  | reaped
  | recording (attempt : Nat)
  | sleeping (attempt delay wake : Nat)
  | spawning (attempt : Nat) (stage : SpawnStage)
  | spawned (worker : Spawned)
  | rotating (worker : Spawned)
  | publishing (worker : Spawned)
  | ended
deriving DecidableEq

/-- The points at which the supervisor's task can be dropped. -/
def Phase.awaits : Phase → Bool
  | .waiting | .stopping | .killing | .sleeping _ _ _ => true
  | .spawning _ (.reporting _ _ _ _) | .spawning _ (.failing _ _)
  | .spawning _ (.connecting _) => true
  | _ => false

/-- How far the drop of the handler is. -/
inductive DropStage where
  | held
  | signalled
  | aborted
  | stableRemoved
  | done
deriving DecidableEq

/-- What the supervisor did: the end of a worker that was up for some time, an attempt that it
recorded, and one that it made after some delay. -/
inductive Event where
  | ended (uptime : Nat)
  | recorded (instant : Nat)
  | attempted (delay : Nat)
deriving DecidableEq

/-- The handler with its supervisor. The log is for statements only. -/
structure Supervised where
  now : Nat
  files : Finset TempPath
  seq : Nat
  processes : List Process
  state : WorkerState
  pid : UInt32
  respawns : Nat
  degraded : Bool
  restart : Bool
  shutdown : Bool
  currentStderr : TempPath
  stable : StablePaths
  drop : DropStage
  child : Nat
  stderrPath : TempPath
  window : List Nat
  liveSince : Nat
  phase : Phase
  log : List Event

/-! ## Steps of the supervisor -/

/-- A choice of the supervisor's surroundings, or `next` where it has none. -/
inductive Move where
  | died
  | restart
  | changed
  | reaps
  | elapsed
  | next
  | creates (secret : String)
  | fails (failure : SpawnFailure)
  | starts (pid : UInt32)
  | reports (port : UInt16)
  | silent
  | connected
deriving DecidableEq

namespace Supervised

variable (system : Supervised)

def exited (child : Nat) : Bool :=
  (system.processes[child]?).any Process.exited

def exit (child : Nat) : Supervised :=
  { system with
    processes := system.processes.modify child fun process => { process with exited := true } }

/-- `temp_files`. -/
def tempFiles : List TempPath :=
  system.stable.files ++ [system.currentStderr]

/-- After a worker's end: the burst is over if it stayed up, and no worker is live. -/
def restarting (burst : BurstParams) : Supervised :=
  let uptime := system.now - system.liveSince
  { system with
    window := if burst.minUptime ≤ uptime then [] else system.window
    state := .restarting
    phase := .recording 0
    log := system.log ++ [.ended uptime] }

/-- The top of the respawn loop. -/
def record (burst : BurstParams) (attempt : Nat) : Supervised :=
  let window := SlidingWindow.expire burst.window system.now system.window ++ [system.now]
  let degraded := decide (burst.limit ≤ window.length)
  let delay :=
    if degraded then burst.cap else if attempt = 0 then 0 else burst.backoff attempt
  { system with
    window := window
    degraded := degraded
    state := .restarting
    phase := .sleeping attempt delay (system.now + delay)
    log := system.log ++ [.recorded system.now] }

/-- After the delay, or at the shutdown that cut it short. -/
def wake (attempt delay : Nat) : Supervised :=
  if system.shutdown then { system with phase := .ended }
  else
    { system with
      phase := .spawning attempt .resolving
      log := system.log ++ [.attempted delay] }

/-- `spawn_worker` failed. -/
def retry (attempt : Nat) : Supervised :=
  { system with phase := .recording (min (attempt + 1) (2 ^ 32 - 1)) }

/-- The failures that leave `spawn_worker` between the creation of its file and the start of its
process. An absolute path of a file has a parent, and the paths match the kind, so two more exits
of the source are not taken; nor is the one for a missing pipe of a process that was given one. -/
def commandFails (worker : WorkerKind) : SpawnFailure → Bool
  | .executable => true
  | .port => worker == .puma
  | _ => false

/-- A step of `spawn_worker`. -/
def spawnStep (worker : WorkerKind) (attempt : Nat) :
    SpawnStage → Move → Option Supervised
  | .resolving, .fails failure =>
      if failure = .app ∨ failure = .stderrFile then some (system.retry attempt) else none
  | .resolving, .creates secret =>
      let path : TempPath := ⟨"oxo_worker_stderr", system.seq, "log"⟩
      some { system with
        files := insert path system.files
        seq := system.seq + 1
        phase := .spawning attempt (.commanding secret path) }
  | .commanding _ stderrPath, .fails failure =>
      if failure = .command then
        some ({ system with files := system.files.erase stderrPath }.retry attempt)
      else if commandFails worker failure then some (system.retry attempt)
      else none
  | .commanding secret stderrPath, .starts pid =>
      some { system with
        processes := system.processes ++ [⟨secret, none, false⟩]
        phase := .spawning attempt (.reporting system.processes.length secret pid stderrPath) }
  | .reporting child secret pid stderrPath, .reports port =>
      some { system with
        processes := system.processes.modify child fun process => { process with port := some port }
        phase := .spawning attempt (.connecting ⟨child, port, secret, pid, stderrPath⟩) }
  | .reporting child _ _ stderrPath, .silent =>
      some { system with phase := .spawning attempt (.failing child stderrPath) }
  | .failing child stderrPath, .reaps =>
      some ({ system.exit child with files := system.files.erase stderrPath }.retry attempt)
  | .connecting worker, .connected => some { system with phase := .spawned worker }
  | _, _ => none

/-- A step of `Supervisor::run`. Only `true` is ever sent for a shutdown. -/
def moveStep (burst : BurstParams) (worker : WorkerKind) : Phase → Move → Option Supervised
  | .waiting, .died =>
      if system.exited system.child then some { system with phase := .reaped } else none
  | .waiting, .restart =>
      if system.restart then some { system with restart := false, phase := .killing } else none
  | .waiting, .changed =>
      if system.shutdown then some { system with phase := .stopping } else none
  | .stopping, .reaps => some { system.exit system.child with phase := .ended }
  | .killing, .reaps => some { system.exit system.child with phase := .reaped }
  | .reaped, .next =>
      some (if system.shutdown then { system with phase := .ended } else system.restarting burst)
  | .recording attempt, .next => some (system.record burst attempt)
  | .sleeping attempt delay wake, .elapsed =>
      if wake ≤ system.now then some (system.wake attempt delay) else none
  | .sleeping attempt delay _, .changed =>
      if system.shutdown then some (system.wake attempt delay) else none
  | .spawning attempt stage, move => system.spawnStep worker attempt stage move
  | .spawned fresh, .next =>
      some (
        if system.shutdown then
          { system with files := system.files.erase fresh.stderrPath, phase := .ended }
        else
          { system with files := system.files.erase system.stderrPath, phase := .rotating fresh })
  | .rotating fresh, .next =>
      some { system with
        stderrPath := fresh.stderrPath
        currentStderr := fresh.stderrPath
        child := fresh.child
        phase := .publishing fresh }
  | .publishing fresh, .next =>
      some { system with
        pid := fresh.pid
        respawns := system.respawns + 1
        degraded := false
        liveSince := system.now
        state := .live fresh.port fresh.secret
        phase := .waiting }
  | _, _ => none

/-- A step of `SupervisedRubyHandler::drop`. -/
def dropStep : Option Supervised :=
  match system.drop with
  | .held => some { system with shutdown := true, drop := .signalled }
  | .signalled => some { system with drop := .aborted }
  | .aborted =>
      some { system with
        files := system.files \ system.stable.files.toFinset
        drop := .stableRemoved }
  | .stableRemoved =>
      some { system with files := system.files.erase system.currentStderr, drop := .done }
  | .done => none

end Supervised

/-! ## Runs -/

/-- Time passes, a process exits, a restart is requested, the handler's drop goes on, an aborted
task is dropped where it waits, or the supervisor goes on. -/
inductive Action where
  | tick (elapsed : Nat)
  | exits (child : Nat)
  | requestRestart
  | drop
  | cancel
  | move (move : Move)
deriving DecidableEq

def Supervised.step (burst : BurstParams) (worker : WorkerKind) (system : Supervised) :
    Action → Option Supervised
  | .tick elapsed => some { system with now := system.now + elapsed }
  | .exits child => some (system.exit child)
  | .requestRestart => some { system with restart := true }
  | .drop => system.dropStep
  | .cancel =>
      if system.phase.awaits ∧ (system.drop = .aborted ∨ system.drop = .stableRemoved ∨
          system.drop = .done) then
        some { system with phase := .ended }
      else none
  | .move move => system.moveStep burst worker system.phase move

/-- The first worker, which is ready. -/
structure First where
  seq : Nat
  port : UInt16
  secret : String
  pid : UInt32

/-- After `SupervisedRubyHandler::spawn`. -/
def Supervised.initial (worker : WorkerKind) (now : Nat) (first : First) : Supervised :=
  let (stable, next) := StablePaths.materialize worker first.seq
  let stderrPath : TempPath := ⟨"oxo_worker_stderr", next, "log"⟩
  { now := now
    files := insert stderrPath stable.files.toFinset
    seq := next + 1
    processes := [⟨first.secret, some first.port, false⟩]
    state := .live first.port first.secret
    pid := first.pid
    respawns := 0
    degraded := false
    restart := false
    shutdown := false
    currentStderr := stderrPath
    stable := stable
    drop := .held
    child := 0
    stderrPath := stderrPath
    window := []
    liveSince := now
    phase := .waiting
    log := [] }

/-! ## What a step can do -/

/-- The steps of the system, each with what it takes and what it leaves. -/
inductive Supervised.Steps (burst : BurstParams) (worker : WorkerKind) (system : Supervised) :
    Action → Supervised → Prop
  | tick (elapsed : Nat) :
      Steps burst worker system (.tick elapsed) { system with now := system.now + elapsed }
  | exits (child : Nat) : Steps burst worker system (.exits child) (system.exit child)
  | requestRestart :
      Steps burst worker system .requestRestart { system with restart := true }
  | signalled (held : system.drop = .held) :
      Steps burst worker system .drop { system with shutdown := true, drop := .signalled }
  | aborted (signalled : system.drop = .signalled) :
      Steps burst worker system .drop { system with drop := .aborted }
  | stableRemoved (aborted : system.drop = .aborted) :
      Steps burst worker system .drop { system with
        files := system.files \ system.stable.files.toFinset
        drop := .stableRemoved }
  | dropped (removed : system.drop = .stableRemoved) :
      Steps burst worker system .drop { system with
        files := system.files.erase system.currentStderr
        drop := .done }
  | cancelled (awaits : system.phase.awaits = true) (signalled : system.drop ≠ .held) :
      Steps burst worker system .cancel { system with phase := .ended }
  | died (waits : system.phase = .waiting) (exited : system.exited system.child = true) :
      Steps burst worker system (.move .died) { system with phase := .reaped }
  | restarted (waits : system.phase = .waiting) (requested : system.restart = true) :
      Steps burst worker system (.move .restart) { system with restart := false, phase := .killing }
  | stopped (waits : system.phase = .waiting) (shutdown : system.shutdown = true) :
      Steps burst worker system (.move .changed) { system with phase := .stopping }
  | stopReaped (stops : system.phase = .stopping) :
      Steps burst worker system (.move .reaps)
        { system.exit system.child with phase := .ended }
  | killReaped (kills : system.phase = .killing) :
      Steps burst worker system (.move .reaps)
        { system.exit system.child with phase := .reaped }
  | reapedLast (reaped : system.phase = .reaped) (shutdown : system.shutdown = true) :
      Steps burst worker system (.move .next) { system with phase := .ended }
  | restarting (reaped : system.phase = .reaped) (going : system.shutdown = false) :
      Steps burst worker system (.move .next) (system.restarting burst)
  | records {attempt : Nat} (records : system.phase = .recording attempt) :
      Steps burst worker system (.move .next) (system.record burst attempt)
  | wokenLast {attempt delay wake : Nat} {move : Move}
      (sleeps : system.phase = .sleeping attempt delay wake) (shutdown : system.shutdown = true) :
      Steps burst worker system (.move move) { system with phase := .ended }
  | wakes {attempt delay wake : Nat} {move : Move}
      (sleeps : system.phase = .sleeping attempt delay wake) (going : system.shutdown = false) :
      Steps burst worker system (.move move) { system with
        phase := .spawning attempt .resolving
        log := system.log ++ [.attempted delay] }
  | unresolved {attempt : Nat} {failure : SpawnFailure}
      (resolves : system.phase = .spawning attempt .resolving) :
      Steps burst worker system (.move (.fails failure)) (system.retry attempt)
  | creates {attempt : Nat} (secret : String)
      (resolves : system.phase = .spawning attempt .resolving) :
      Steps burst worker system (.move (.creates secret)) { system with
        files := insert ⟨"oxo_worker_stderr", system.seq, "log"⟩ system.files
        seq := system.seq + 1
        phase := .spawning attempt
          (.commanding secret ⟨"oxo_worker_stderr", system.seq, "log"⟩) }
  | unstarted {attempt : Nat} {secret : String} {stderrPath : TempPath}
      (commands : system.phase = .spawning attempt (.commanding secret stderrPath)) :
      Steps burst worker system (.move (.fails .command))
        ({ system with files := system.files.erase stderrPath }.retry attempt)
  | abandoned {attempt : Nat} {secret : String} {stderrPath : TempPath} {failure : SpawnFailure}
      (commands : system.phase = .spawning attempt (.commanding secret stderrPath))
      (leaves : commandFails worker failure = true) :
      Steps burst worker system (.move (.fails failure)) (system.retry attempt)
  | starts {attempt : Nat} {secret : String} {stderrPath : TempPath} (pid : UInt32)
      (commands : system.phase = .spawning attempt (.commanding secret stderrPath)) :
      Steps burst worker system (.move (.starts pid)) { system with
        processes := system.processes ++ [⟨secret, none, false⟩]
        phase := .spawning attempt (.reporting system.processes.length secret pid stderrPath) }
  | reports {attempt child : Nat} {secret : String} {pid : UInt32} {stderrPath : TempPath}
      (port : UInt16)
      (listens : system.phase = .spawning attempt (.reporting child secret pid stderrPath)) :
      Steps burst worker system (.move (.reports port)) { system with
        processes :=
          system.processes.modify child fun process => { process with port := some port }
        phase := .spawning attempt (.connecting ⟨child, port, secret, pid, stderrPath⟩) }
  | silent {attempt child : Nat} {secret : String} {pid : UInt32} {stderrPath : TempPath}
      (listens : system.phase = .spawning attempt (.reporting child secret pid stderrPath)) :
      Steps burst worker system (.move .silent)
        { system with phase := .spawning attempt (.failing child stderrPath) }
  | unbooted {attempt child : Nat} {stderrPath : TempPath}
      (fails : system.phase = .spawning attempt (.failing child stderrPath)) :
      Steps burst worker system (.move .reaps)
        ({ system.exit child with files := system.files.erase stderrPath }.retry attempt)
  | connected {attempt : Nat} {fresh : Spawned}
      (connects : system.phase = .spawning attempt (.connecting fresh)) :
      Steps burst worker system (.move .connected) { system with phase := .spawned fresh }
  | spawnedLast {fresh : Spawned} (spawned : system.phase = .spawned fresh)
      (shutdown : system.shutdown = true) :
      Steps burst worker system (.move .next)
        { system with files := system.files.erase fresh.stderrPath, phase := .ended }
  | rotates {fresh : Spawned} (spawned : system.phase = .spawned fresh)
      (going : system.shutdown = false) :
      Steps burst worker system (.move .next)
        { system with files := system.files.erase system.stderrPath, phase := .rotating fresh }
  | stores {fresh : Spawned} (rotating : system.phase = .rotating fresh) :
      Steps burst worker system (.move .next) { system with
        stderrPath := fresh.stderrPath
        currentStderr := fresh.stderrPath
        child := fresh.child
        phase := .publishing fresh }
  | publishes {fresh : Spawned} (publishing : system.phase = .publishing fresh) :
      Steps burst worker system (.move .next) { system with
        pid := fresh.pid
        respawns := system.respawns + 1
        degraded := false
        liveSince := system.now
        state := .live fresh.port fresh.secret
        phase := .waiting }

section

variable {burst : BurstParams} {worker : WorkerKind} {system next : Supervised}

open Supervised

private theorem steps_of_dropStep (stepped : system.dropStep = some next) :
    Steps burst worker system .drop next := by
  unfold dropStep at stepped
  split at stepped
  · rename_i held
    cases stepped
    exact .signalled held
  · rename_i signalled
    cases stepped
    exact .aborted signalled
  · rename_i aborted
    cases stepped
    exact .stableRemoved aborted
  · rename_i removed
    cases stepped
    exact .dropped removed
  · cases stepped

private theorem steps_of_wake {attempt delay wake : Nat} {move : Move}
    (sleeps : system.phase = .sleeping attempt delay wake) :
    Steps burst worker system (.move move) (system.wake attempt delay) := by
  unfold Supervised.wake
  split
  · rename_i shutdown
    exact .wokenLast sleeps shutdown
  · rename_i going
    exact .wakes sleeps (Bool.not_eq_true _ ▸ going)

private theorem steps_of_spawnStep {attempt : Nat} {stage : SpawnStage} {move : Move}
    (spawning : system.phase = .spawning attempt stage)
    (stepped : system.spawnStep worker attempt stage move = some next) :
    Steps burst worker system (.move move) next := by
  unfold spawnStep at stepped
  split at stepped
  · split_ifs at stepped
    cases stepped
    exact .unresolved spawning
  · cases stepped
    exact .creates _ spawning
  · split_ifs at stepped with isCommand leaves
    · cases stepped
      rw [isCommand]
      exact .unstarted spawning
    · cases stepped
      exact .abandoned spawning leaves
  · cases stepped
    exact .starts _ spawning
  · cases stepped
    exact .reports _ spawning
  · cases stepped
    exact .silent spawning
  · cases stepped
    exact .unbooted spawning
  · cases stepped
    exact .connected spawning
  · cases stepped

private theorem steps_of_moveStep {phase : Phase} {move : Move} (isPhase : system.phase = phase)
    (stepped : system.moveStep burst worker phase move = some next) :
    Steps burst worker system (.move move) next := by
  unfold moveStep at stepped
  split at stepped
  · split_ifs at stepped with exited
    cases stepped
    exact .died isPhase exited
  · split_ifs at stepped with requested
    cases stepped
    exact .restarted isPhase requested
  · split_ifs at stepped with shutdown
    cases stepped
    exact .stopped isPhase shutdown
  · cases stepped
    exact .stopReaped isPhase
  · cases stepped
    exact .killReaped isPhase
  · cases stepped
    split_ifs with shutdown
    · exact .reapedLast isPhase shutdown
    · exact .restarting isPhase (Bool.not_eq_true _ ▸ shutdown)
  · cases stepped
    exact .records isPhase
  · split_ifs at stepped
    cases stepped
    exact steps_of_wake isPhase
  · split_ifs at stepped
    cases stepped
    exact steps_of_wake isPhase
  · exact steps_of_spawnStep isPhase stepped
  · cases stepped
    split_ifs with shutdown
    · exact .spawnedLast isPhase shutdown
    · exact .rotates isPhase (Bool.not_eq_true _ ▸ shutdown)
  · cases stepped
    exact .stores isPhase
  · cases stepped
    exact .publishes isPhase
  · cases stepped

theorem steps_of_step {action : Action} (stepped : system.step burst worker action = some next) :
    Steps burst worker system action next := by
  cases action with
  | tick elapsed =>
      cases stepped
      exact .tick elapsed
  | exits child =>
      cases stepped
      exact .exits child
  | requestRestart =>
      cases stepped
      exact .requestRestart
  | drop => exact steps_of_dropStep stepped
  | cancel =>
      rw [step] at stepped
      split_ifs at stepped with cancels
      cases stepped
      refine .cancelled cancels.1 fun held => ?_
      rw [held] at cancels
      exact absurd cancels.2 (by decide)
  | move move => exact steps_of_moveStep rfl stepped

end

end Oxo.HyperEdge
