import Oxo.HyperEdge.Supervisor

/-!
Contract: the respawn throttle and the published worker (`Supervisor::run` in
`oxo-edge/src/supervised.rs`).

Owns: the attempts since the last worker that stayed up, what the sliding window has of them and
when an attempt may come early, and the process behind a published target, over every run.

Does not own: the temporary files.
-/

namespace Oxo.HyperEdge

open Oxo.Foundation

/-! ## Attempts -/

/-- The attempts recorded since a worker that stayed up ended, after one more event. -/
def afterEvent (burst : BurstParams) (recorded : List Nat) : Event → List Nat
  | .ended uptime => if burst.minUptime ≤ uptime then [] else recorded
  | .recorded instant => recorded ++ [instant]
  | .attempted _ => recorded

def sinceReset (burst : BurstParams) (log : List Event) : List Nat :=
  log.foldl (afterEvent burst) []

/-- Those of them that are not older than the window at the last one. -/
def preceding (burst : BurstParams) (log : List Event) : List Nat :=
  SlidingWindow.within burst.window ((sinceReset burst log).getLastD 0) (sinceReset burst log)

/-- The log up to an attempt's delay ends with that attempt, and fewer than the limit precede the
delay, with this one, where it is below the cap. -/
def Throttled (burst : BurstParams) (earlier : List Event) (delay : Nat) : Prop :=
  (∃ before instant, earlier = before ++ [.recorded instant]) ∧
    (delay < burst.cap → (preceding burst earlier).length < burst.limit)

namespace Supervised

/-- A process with this secret in its environment reported this port. -/
def Serves (system : Supervised) (child : Nat) (port : UInt16) (secret : String) : Prop :=
  ∃ process ∈ system.processes[child]?, process.port = some port ∧ process.secret = secret

end Supervised

/-! ## The throttle -/

section

variable {burst : BurstParams} {worker : WorkerKind} {system next : Supervised}
  {log : List Event} {instant : Nat}

@[simp] theorem sinceReset_append {event : Event} :
    sinceReset burst (log ++ [event]) = afterEvent burst (sinceReset burst log) event := by
  rw [sinceReset, List.foldl_append]
  rfl

/-- The throttle of a system with some log. -/
structure Throttling (burst : BurstParams) (system : Supervised) : Prop where
  window : system.window = preceding burst system.log
  past : ∀ instant ∈ sinceReset burst system.log, instant ≤ system.now
  ordered : (sinceReset burst system.log).Pairwise (· ≤ ·)
  sleeping : ∀ attempt delay wake, system.phase = .sleeping attempt delay wake →
    Throttled burst system.log delay
  attempts : ∀ earlier delay later, system.log = earlier ++ .attempted delay :: later →
    Throttled burst earlier delay

/-- A step without an event that does not come to sleep. -/
private theorem Throttling.frame (throttling : Throttling burst system)
    (window : next.window = system.window) (log : next.log = system.log)
    (now : system.now ≤ next.now)
    (phase : ∀ attempt delay wake, next.phase = .sleeping attempt delay wake →
      system.phase = .sleeping attempt delay wake) : Throttling burst next where
  window := by rw [window, log, throttling.window]
  past instant member := by
    rw [log] at member
    exact (throttling.past instant member).trans now
  ordered := by
    rw [log]
    exact throttling.ordered
  sleeping attempt delay wake sleeps := by
    rw [log]
    exact throttling.sleeping attempt delay wake (phase attempt delay wake sleeps)
  attempts earlier delay later parts := by
    rw [log] at parts
    exact throttling.attempts earlier delay later parts

/-- A step that only moves the supervisor, and not to sleep. -/
private theorem Throttling.frameAt (throttling : Throttling burst system)
    (window : next.window = system.window) (log : next.log = system.log)
    (now : next.now = system.now)
    (awake : ∀ attempt delay wake, next.phase ≠ .sleeping attempt delay wake) :
    Throttling burst next :=
  throttling.frame window log (by rw [now])
    fun attempt delay wake sleeps => absurd sleeps (awake attempt delay wake)

private theorem last_attempted {event : Event} {earlier later : List Event} {delay : Nat}
    (parts : log ++ [event] = earlier ++ .attempted delay :: later) :
    (event = .attempted delay ∧ log = earlier) ∨
      ∃ rest, log = earlier ++ .attempted delay :: rest := by
  rcases List.eq_nil_or_concat later with rfl | ⟨rest, last, rfl⟩
  · obtain ⟨same, isLast⟩ := List.append_inj' parts rfl
    exact .inl ⟨(List.cons.inj isLast).1, same⟩
  · refine .inr ⟨rest, ?_⟩
    have whole : log ++ [event] = (earlier ++ .attempted delay :: rest) ++ [last] := by
      rw [parts]
      simp
    exact (List.append_inj' whole rfl).1

private theorem Throttling.restarting (throttling : Throttling burst system) :
    Throttling burst (system.restarting burst) where
  window := by
    unfold Supervised.restarting preceding
    simp only [sinceReset_append, afterEvent]
    split_ifs
    · rfl
    · exact throttling.window
  past instant member := by
    unfold Supervised.restarting at member ⊢
    simp only [sinceReset_append, afterEvent] at member
    split_ifs at member
    · cases member
    · exact throttling.past instant member
  ordered := by
    unfold Supervised.restarting
    simp only [sinceReset_append, afterEvent]
    split_ifs
    · exact List.Pairwise.nil
    · exact throttling.ordered
  sleeping attempt delay wake sleeps := nomatch sleeps
  attempts earlier delay later parts := by
    rcases last_attempted parts with ⟨same, -⟩ | ⟨rest, before⟩
    · cases same
    · exact throttling.attempts earlier delay rest before

/-- What the window has after an attempt is recorded. -/
private theorem Throttling.recorded (throttling : Throttling burst system) :
    SlidingWindow.expire burst.window system.now system.window ++ [system.now] =
      preceding burst (system.log ++ [.recorded system.now]) := by
  have lastPast : (sinceReset burst system.log).getLastD 0 ≤ system.now := by
    rw [List.getLastD_eq_getLast?]
    cases found : (sinceReset burst system.log).getLast? with
    | none => exact Nat.zero_le _
    | some last => exact throttling.past last (List.mem_of_getLast? found)
  rw [throttling.window, preceding, SlidingWindow.expire_append throttling.ordered lastPast,
    preceding, sinceReset_append, afterEvent, List.getLastD_concat]

private theorem Throttling.record (throttling : Throttling burst system) (attempt : Nat) :
    Throttling burst (system.record burst attempt) where
  window := throttling.recorded
  past instant member := by
    have parts : instant ∈ sinceReset burst system.log ++ [system.now] := by
      rwa [Supervised.record, sinceReset_append] at member
    rcases List.mem_append.mp parts with before | now
    · exact throttling.past instant before
    · exact Nat.le_of_eq (List.mem_singleton.mp now)
  ordered := by
    have extended : (sinceReset burst system.log ++ [system.now]).Pairwise (· ≤ ·) := by
      rw [List.pairwise_append]
      refine ⟨throttling.ordered, List.pairwise_singleton _ _, fun instant member now isNow => ?_⟩
      rw [List.mem_singleton.mp isNow]
      exact throttling.past instant member
    rwa [Supervised.record, sinceReset_append]
  sleeping other delay wake sleeps := by
    refine ⟨⟨system.log, system.now, rfl⟩, fun early => ?_⟩
    rw [Supervised.record, ← throttling.recorded]
    obtain ⟨-, isDelay, -⟩ := Phase.sleeping.inj sleeps
    by_contra many
    rw [← isDelay, if_pos (decide_eq_true (Nat.le_of_not_lt many))] at early
    exact Nat.lt_irrefl _ early
  attempts earlier delay later parts := by
    rcases last_attempted parts with ⟨same, -⟩ | ⟨rest, before⟩
    · cases same
    · exact throttling.attempts earlier delay rest before

private theorem Throttling.wakes (throttling : Throttling burst system)
    {attempt delay wake : Nat} (sleeps : system.phase = .sleeping attempt delay wake) :
    Throttling burst { system with
      phase := .spawning attempt .resolving
      log := system.log ++ [.attempted delay] } where
  window := by
    rw [preceding, sinceReset_append]
    exact throttling.window
  past instant member := by
    rw [sinceReset_append] at member
    exact throttling.past instant member
  ordered := by
    rw [sinceReset_append]
    exact throttling.ordered
  sleeping other otherDelay otherWake sleeps := nomatch sleeps
  attempts earlier other later parts := by
    rcases last_attempted parts with ⟨same, rfl⟩ | ⟨rest, before⟩
    · cases same
      exact throttling.sleeping attempt delay wake sleeps
    · exact throttling.attempts earlier other rest before

/-- Every step keeps the throttle. -/
private theorem Throttling.step {action : Action} (throttling : Throttling burst system)
    (stepped : system.step burst worker action = some next) : Throttling burst next := by
  cases steps_of_step stepped with
  | tick elapsed =>
      exact throttling.frame rfl rfl (Nat.le_add_right _ _) fun _ _ _ sleeps => sleeps
  | exits | requestRestart | signalled | aborted | stableRemoved | dropped =>
      exact throttling.frame rfl rfl (Nat.le_refl _) fun _ _ _ sleeps => sleeps
  | restarting => exact throttling.restarting
  | records => exact throttling.record _
  | wakes sleeps => exact throttling.wakes sleeps
  | _ => exact throttling.frameAt rfl rfl rfl fun _ _ _ sleeps => nomatch sleeps

/-! ## The published worker -/

/-- No worker is live: from the end of one to the publication of the next. -/
private def isDown : Phase → Bool
  | .recording _ | .sleeping _ _ _ | .spawning _ _ | .spawned _ | .rotating _ | .publishing _ => true
  | .waiting | .stopping | .killing | .reaped | .ended => false

/-- What a spawn has of its process so far. -/
private def PhaseCarries (system : Supervised) : Phase → Prop
  | .spawning _ (.reporting child secret _ _) =>
      ∃ process ∈ system.processes[child]?, process.secret = secret
  | .spawning _ (.connecting fresh) | .spawned fresh | .rotating fresh =>
      system.Serves fresh.child fresh.port fresh.secret
  | .publishing fresh =>
      system.Serves fresh.child fresh.port fresh.secret ∧ system.child = fresh.child
  | _ => True

/-- The target is that of the owned child, or none while a child is being started. -/
private structure Published (system : Supervised) : Prop where
  live : ∀ port secret, system.state = .live port secret →
    system.Serves system.child port secret
  down : isDown system.phase = true → system.state = .restarting
  carries : PhaseCarries system system.phase

private theorem serves_exit {child other : Nat} {port : UInt16} {secret : String}
    (serves : system.Serves child port secret) : (system.exit other).Serves child port secret := by
  obtain ⟨process, found, isPort, isSecret⟩ := serves
  refine ⟨if other = child then { process with exited := true } else process, ?_, ?_, ?_⟩
  · rw [Option.mem_def] at found ⊢
    rw [Supervised.exit, List.getElem?_modify, found]
    split_ifs <;> rfl
  · split_ifs <;> exact isPort
  · split_ifs <;> exact isSecret

private theorem carries_exit {other : Nat} {phase : Phase} (carries : PhaseCarries system phase) :
    PhaseCarries (system.exit other) phase := by
  unfold PhaseCarries at carries ⊢
  split at carries
  · rename_i child secret pid stderrPath
    obtain ⟨process, found, isSecret⟩ := carries
    refine ⟨if other = child then { process with exited := true } else process, ?_, ?_⟩
    · rw [Option.mem_def] at found ⊢
      rw [Supervised.exit, List.getElem?_modify, found]
      split_ifs <;> rfl
    · split_ifs <;> exact isSecret
  · exact serves_exit carries
  · exact serves_exit carries
  · exact serves_exit carries
  · exact ⟨serves_exit carries.1, carries.2⟩
  · trivial

private theorem Published.exit (published : Published system) (child : Nat) :
    Published (system.exit child) where
  live port secret isLive := serves_exit (published.live port secret isLive)
  down := published.down
  carries := carries_exit published.carries

/-- A step to where no child is started. -/
private theorem Published.rest (published : Published system)
    (state : next.state = system.state) (child : next.child = system.child)
    (processes : next.processes = system.processes) (up : isDown next.phase = false)
    (carries : PhaseCarries next next.phase) : Published next where
  live port secret isLive := by
    rw [state] at isLive
    rw [child, Supervised.Serves, processes]
    exact published.live port secret isLive
  down isNext := by
    rw [up] at isNext
    cases isNext
  carries := carries

/-- A step while no worker is live. -/
private theorem Published.spawn (published : Published system)
    (before : isDown system.phase = true) (state : next.state = system.state)
    (carries : PhaseCarries next next.phase) : Published next where
  live port secret isLive := by
    rw [state, published.down before] at isLive
    cases isLive
  down _ := by rw [state, published.down before]
  carries := carries

private theorem Published.reports {attempt child : Nat} {secret : String} {pid : UInt32}
    {stderrPath : TempPath} (published : Published system) (port : UInt16)
    (listens : system.phase = .spawning attempt (.reporting child secret pid stderrPath)) :
    Published { system with
      processes :=
        system.processes.modify child fun process => { process with port := some port }
      phase := .spawning attempt (.connecting ⟨child, port, secret, pid, stderrPath⟩) } := by
  refine published.spawn (by rw [listens]; rfl) rfl ?_
  have carries := published.carries
  rw [listens] at carries
  obtain ⟨process, found, isSecret⟩ := carries
  refine ⟨{ process with port := some port }, ?_, rfl, isSecret⟩
  rw [Option.mem_def] at found ⊢
  rw [List.getElem?_modify, found]
  exact congrArg some (if_pos rfl)

private theorem Published.starts {attempt : Nat} {secret : String} {stderrPath : TempPath}
    (published : Published system) (pid : UInt32)
    (commands : system.phase = .spawning attempt (.commanding secret stderrPath)) :
    Published { system with
      processes := system.processes ++ [⟨secret, none, false⟩]
      phase := .spawning attempt (.reporting system.processes.length secret pid stderrPath) } := by
  refine published.spawn (by rw [commands]; rfl) rfl ?_
  refine ⟨⟨secret, none, false⟩, ?_, rfl⟩
  rw [Option.mem_def]
  exact List.getElem?_concat_length

/-- Every step keeps the target that of the owned child. -/
private theorem Published.step {action : Action} (published : Published system)
    (stepped : system.step burst worker action = some next) : Published next := by
  cases steps_of_step stepped with
  | exits child => exact published.exit child
  | stopReaped stops =>
      exact (published.exit system.child).rest rfl rfl rfl rfl trivial
  | killReaped kills =>
      exact (published.exit system.child).rest rfl rfl rfl rfl trivial
  | restarting | records =>
      exact ⟨fun _ _ isLive => WorkerState.noConfusion isLive, fun _ => rfl, trivial⟩
  | wakes at_ | unresolved at_ | creates _ at_ | unstarted at_ | abandoned at_ | silent at_
  | unbooted at_ =>
      exact published.spawn (by rw [at_]; rfl) rfl trivial
  | starts pid commands => exact published.starts pid commands
  | reports port listens => exact published.reports port listens
  | connected at_ | rotates at_ =>
      have carries := published.carries
      rw [at_] at carries
      exact published.spawn (by rw [at_]; rfl) rfl carries
  | stores rotating =>
      have carries := published.carries
      rw [rotating] at carries
      exact published.spawn (by rw [rotating]; rfl) rfl ⟨carries, rfl⟩
  | publishes publishing =>
      have carries := published.carries
      rw [publishing] at carries
      refine ⟨fun port secret isLive => ?_, fun down => Bool.noConfusion down, trivial⟩
      obtain ⟨rfl, rfl⟩ := WorkerState.live.inj isLive
      exact carries.2 ▸ carries.1
  | cancelled | died | restarted | stopped | reapedLast | wokenLast | spawnedLast =>
      exact published.rest rfl rfl rfl rfl trivial
  | _ => exact ⟨published.live, published.down, published.carries⟩

/-! ## Runs -/

/-- In every run each attempt was throttled, the window has exactly the recorded attempts that are
not older, and a published target is that of the process that the supervisor owns. -/
theorem respawn_throttled {now : Nat} {first : First} {actions : List Action}
    (ran : Machine.exec (Supervised.step burst worker) (.initial worker now first) actions =
      some system) :
    (∀ earlier delay later, system.log = earlier ++ .attempted delay :: later →
        (∃ before instant, earlier = before ++ [.recorded instant]) ∧
          (delay < burst.cap → 1 ≤ burst.limit →
            (preceding burst earlier).length < burst.limit)) ∧
      system.window = preceding burst system.log ∧
      ∀ port secret, system.state = .live port secret →
        system.Serves system.child port secret := by
  have throttling : Throttling burst system := by
    refine Machine.invariant_of_exec (fun _ _ _ before => before.step) ?_ ran
    refine ⟨rfl, ?_, List.Pairwise.nil, ?_, ?_⟩
    · exact fun _ member => nomatch member
    · exact fun _ _ _ sleeps => nomatch sleeps
    · intro earlier delay later parts
      exact absurd parts (by simp [Supervised.initial])
  have published : Published system := by
    refine Machine.invariant_of_exec (fun _ _ _ before => before.step) ?_ ran
    refine ⟨fun port secret isLive => ?_, fun down => Bool.noConfusion down, trivial⟩
    obtain ⟨rfl, rfl⟩ := WorkerState.live.inj isLive
    exact ⟨⟨first.secret, some first.port, false⟩, rfl, rfl, rfl⟩
  refine ⟨fun earlier delay later parts => ?_, throttling.window, published.live⟩
  obtain ⟨last, below⟩ := throttling.attempts earlier delay later parts
  exact ⟨last, fun early _ => below early⟩

end

namespace Sample

def firstWorker : First := ⟨0, 4000, "first", 10⟩

/-- The policy of an empty environment. -/
def stockBurst : BurstParams := .fromEnv (fun _ => none) .shim

example : (stockBurst.limit, stockBurst.window, stockBurst.cap) =
    (5, 100 * second, 5 * second) := by decide

/-- A worker that dies after three seconds, a spawn that fails, and one that comes up. -/
def secondSpawn : List Action :=
  [.tick (3 * second), .exits 0, .move .died, .move .next, .move .next, .move .elapsed,
    .move (.fails .app), .move .next, .tick (400 * 10 ^ 6), .move .elapsed,
    .move (.creates "second"), .move (.starts 11), .move (.reports 4001), .move .connected,
    .move .next, .move .next, .move .next]

end Sample

theorem respawn_throttled_second_spawn : ∃ system,
    Machine.exec (Supervised.step Sample.stockBurst .shim) (.initial .shim 0 Sample.firstWorker)
        Sample.secondSpawn = some system ∧
      system.log = [.ended (3 * second), .recorded (3 * second), .attempted 0,
        .recorded (3 * second), .attempted (400 * 10 ^ 6)] ∧
      system.window = preceding Sample.stockBurst system.log ∧
      (preceding Sample.stockBurst (system.log.take 4)).length < Sample.stockBurst.limit ∧
      system.Serves system.child 4001 "second" := by
  obtain ⟨system, ran, isLog, isLive⟩ : ∃ system,
      Machine.exec (Supervised.step Sample.stockBurst .shim)
          (.initial .shim 0 Sample.firstWorker) Sample.secondSpawn = some system ∧
        system.log = [.ended (3 * second), .recorded (3 * second), .attempted 0,
          .recorded (3 * second), .attempted (400 * 10 ^ 6)] ∧
        system.state = .live 4001 "second" :=
    Machine.exists_exec (by decide)
  obtain ⟨throttled, window, published⟩ := respawn_throttled ran
  have below := (throttled (system.log.take 4) (400 * 10 ^ 6) [] (by rw [isLog]; rfl)).2
  exact ⟨system, ran, isLog, window, below (by decide) (by decide),
    published 4001 "second" isLive⟩

end Oxo.HyperEdge
