import Oxo.HyperEdge.Respawn

/-!
Contract: the temporary files of the supervised handler (`spawn_worker`, `boot_error`,
`Supervisor::run` and the drop of the handler in `oxo-edge/src/supervised.rs`).

Owns: who removes which file, and the steps after which a file has no one left to remove it.

Does not own: files of other handlers, which have other numbers, or the scripts in the files.
-/

namespace Oxo.HyperEdge

open Oxo.Foundation

/-! ## Owners -/

/-- The file of a spawn that is under way. -/
def Phase.inFlight : Phase → Option TempPath
  | .spawning _ (.commanding _ stderrPath) | .spawning _ (.reporting _ _ _ stderrPath)
  | .spawning _ (.failing _ stderrPath) => some stderrPath
  | .spawning _ (.connecting fresh) | .spawned fresh | .rotating fresh => some fresh.stderrPath
  | _ => none

/-- The old file is removed and the new one not yet stored. -/
def Phase.isRotating : Phase → Bool
  | .rotating _ => true
  | _ => false

/-- The file of the spawn exists and its process does not. -/
def Phase.isCommanding : Phase → Bool
  | .spawning _ (.commanding _ _) => true
  | _ => false

/-- A step after which every file still has an owner: no spawn fails between the creation of its
file and the start of its process, the task is not dropped while a spawn has a file, and the drop
of the handler does not take the current file in the middle of a rotation. -/
def Tidy (worker : WorkerKind) (system : Supervised) : Action → Prop
  | .cancel => system.phase.inFlight = none
  | .drop => system.drop = .stableRemoved → system.phase.isRotating = false
  | .move (.fails failure) =>
      system.phase.isCommanding = true → Supervised.commandFails worker failure = false
  | _ => True

instance (worker : WorkerKind) (system : Supervised) :
    (action : Action) → Decidable (Tidy worker system action)
  | .cancel => inferInstanceAs (Decidable (_ = _))
  | .drop => inferInstanceAs (Decidable (_ → _))
  | .move (.fails _) => inferInstanceAs (Decidable (_ → _))
  | .tick _ | .exits _ | .requestRestart => inferInstanceAs (Decidable True)
  | .move .died | .move .restart | .move .changed | .move .reaps | .move .elapsed | .move .next
  | .move (.creates _) | .move (.starts _) | .move (.reports _) | .move .silent
  | .move .connected => inferInstanceAs (Decidable True)

private def DropStage.stableGone : DropStage → Bool
  | .stableRemoved | .done => true
  | _ => false

private def DropStage.currentGone : DropStage → Bool
  | .done => true
  | _ => false

/-- A file that somebody will remove: the handler its scripts and the current file, or the
supervisor the file of a spawn. -/
private def Owned (system : Supervised) (path : TempPath) : Prop :=
  (system.drop.stableGone = false ∧ path ∈ system.stable.files) ∨
    (system.drop.currentGone = false ∧ system.phase.isRotating = false ∧
      path = system.currentStderr) ∨
    system.phase.inFlight = some path

/-- The files are those that have an owner, and no two owners have the same. -/
private structure FilesKept (system : Supervised) : Prop where
  files : ∀ path, path ∈ system.files ↔ Owned system path
  sameStderr : system.stderrPath = system.currentStderr
  currentFresh : system.currentStderr ∉ system.stable.files
  flightFresh : ∀ path, system.phase.inFlight = some path →
    path ∉ system.stable.files ∧ path ≠ system.currentStderr
  numbered : ∀ path, path ∈ system.stable.files ∨ path = system.currentStderr ∨
    system.phase.inFlight = some path → path.seq < system.seq
  signalled : system.shutdown = false → system.drop = .held
  rotating : system.phase.isRotating = true → system.drop.currentGone = false

section

variable {burst : BurstParams} {worker : WorkerKind} {system next : Supervised}

/-- The parts of a system that say who owns what, but for the file of a spawn. -/
private structure SameOwners (system next : Supervised) : Prop where
  stable : next.stable = system.stable
  current : next.currentStderr = system.currentStderr
  stderrPath : next.stderrPath = system.stderrPath
  seq : next.seq = system.seq
  shutdown : next.shutdown = system.shutdown
  drop : next.drop = system.drop

/-- A step that keeps the files and the owners. -/
private theorem FilesKept.frame (kept : FilesKept system) (same : SameOwners system next)
    (files : next.files = system.files)
    (flight : next.phase.inFlight = system.phase.inFlight)
    (rotating : next.phase.isRotating = system.phase.isRotating) : FilesKept next where
  files path := by
    rw [files, kept.files, Owned, Owned, same.stable, same.current, same.drop, flight, rotating]
  sameStderr := by rw [same.stderrPath, same.current, kept.sameStderr]
  currentFresh := by
    rw [same.current, same.stable]
    exact kept.currentFresh
  flightFresh := by
    rw [flight, same.current, same.stable]
    exact kept.flightFresh
  numbered := by
    rw [flight, same.current, same.stable, same.seq]
    exact kept.numbered
  signalled := by
    rw [same.shutdown, same.drop]
    exact kept.signalled
  rotating := by
    rw [rotating, same.drop]
    exact kept.rotating

/-- The file of a spawn is removed and the spawn is over. -/
private theorem FilesKept.land (kept : FilesKept system) (same : SameOwners system next) {path : TempPath}
    (files : next.files = system.files.erase path)
    (flight : system.phase.inFlight = some path) (notRotating : system.phase.isRotating = false)
    (landed : next.phase.inFlight = none) (nextNotRotating : next.phase.isRotating = false) :
    FilesKept next where
  files other := by
    obtain ⟨notStable, notCurrent⟩ := kept.flightFresh path flight
    rw [files, Finset.mem_erase, kept.files, Owned, Owned, same.stable, same.current, same.drop,
      flight, landed, notRotating, nextNotRotating]
    constructor
    · rintro ⟨different, stable | current | isFlight⟩
      · exact .inl stable
      · exact .inr (.inl current)
      · exact absurd (Option.some.inj isFlight).symm different
    · rintro (⟨held, isStable⟩ | ⟨held, -, rfl⟩ | isFlight)
      · refine ⟨?_, .inl ⟨held, isStable⟩⟩
        rintro rfl
        exact notStable isStable
      · exact ⟨notCurrent.symm, .inr (.inl ⟨held, rfl, rfl⟩)⟩
      · cases isFlight
  sameStderr := by rw [same.stderrPath, same.current, kept.sameStderr]
  currentFresh := by
    rw [same.current, same.stable]
    exact kept.currentFresh
  flightFresh other isFlight := by
    rw [landed] at isFlight
    cases isFlight
  numbered other owner := by
    rw [landed, same.current, same.stable] at owner
    rw [same.seq]
    rcases owner with stable | current | isFlight
    · exact kept.numbered other (.inl stable)
    · exact kept.numbered other (.inr (.inl current))
    · cases isFlight
  signalled := by
    rw [same.shutdown, same.drop]
    exact kept.signalled
  rotating isRotating := by
    rw [nextNotRotating] at isRotating
    cases isRotating

/-- The handler's drop only signals. -/
private theorem FilesKept.signal (kept : FilesKept system) {shutdown : Bool} {drop : DropStage}
    (stable : drop.stableGone = system.drop.stableGone)
    (current : drop.currentGone = system.drop.currentGone)
    (signalled : shutdown = false → drop = .held) :
    FilesKept { system with shutdown := shutdown, drop := drop } where
  files path := by
    rw [kept.files, Owned, Owned, stable, current]
  sameStderr := kept.sameStderr
  currentFresh := kept.currentFresh
  flightFresh := kept.flightFresh
  numbered := kept.numbered
  signalled := signalled
  rotating isRotating := by
    rw [current]
    exact kept.rotating isRotating

private theorem FilesKept.stableRemoved (kept : FilesKept system) (aborted : system.drop = .aborted) :
    FilesKept { system with
      files := system.files \ system.stable.files.toFinset
      drop := .stableRemoved } where
  files path := by
    have before := kept.files path
    rw [Owned, aborted] at before
    rw [Owned, Finset.mem_sdiff, List.mem_toFinset, before]
    constructor
    · rintro ⟨⟨-, isStable⟩ | current | isFlight, notStable⟩
      · exact absurd isStable notStable
      · exact .inr (.inl current)
      · exact .inr (.inr isFlight)
    · rintro (⟨gone, -⟩ | ⟨held, rotating, rfl⟩ | isFlight)
      · cases gone
      · exact ⟨.inr (.inl ⟨held, rotating, rfl⟩), kept.currentFresh⟩
      · exact ⟨.inr (.inr isFlight), (kept.flightFresh path isFlight).1⟩
  sameStderr := kept.sameStderr
  currentFresh := kept.currentFresh
  flightFresh := kept.flightFresh
  numbered := kept.numbered
  signalled going := by
    have held := kept.signalled going
    rw [aborted] at held
    cases held
  rotating _ := rfl

private theorem FilesKept.dropped (kept : FilesKept system) (removed : system.drop = .stableRemoved)
    (notRotating : system.phase.isRotating = false) :
    FilesKept { system with
      files := system.files.erase system.currentStderr
      drop := .done } where
  files path := by
    have before := kept.files path
    rw [Owned, removed] at before
    rw [Owned, Finset.mem_erase, before]
    constructor
    · rintro ⟨different, ⟨gone, -⟩ | ⟨-, -, same⟩ | isFlight⟩
      · cases gone
      · exact absurd same different
      · exact .inr (.inr isFlight)
    · rintro (⟨gone, -⟩ | ⟨gone, -⟩ | isFlight)
      · cases gone
      · cases gone
      · exact ⟨(kept.flightFresh path isFlight).2, .inr (.inr isFlight)⟩
  sameStderr := kept.sameStderr
  currentFresh := kept.currentFresh
  flightFresh := kept.flightFresh
  numbered := kept.numbered
  signalled going := by
    have held := kept.signalled going
    rw [removed] at held
    cases held
  rotating isRotating := by
    rw [notRotating] at isRotating
    cases isRotating

private theorem FilesKept.creates (kept : FilesKept system) {attempt : Nat} (secret : String)
    (resolves : system.phase = .spawning attempt .resolving) :
    FilesKept { system with
      files := insert ⟨"oxo_worker_stderr", system.seq, "log"⟩ system.files
      seq := system.seq + 1
      phase := .spawning attempt
        (.commanding secret ⟨"oxo_worker_stderr", system.seq, "log"⟩) } where
  files path := by
    have before := kept.files path
    rw [Owned, resolves] at before
    rw [Owned, Finset.mem_insert, before]
    constructor
    · rintro (isNew | stable | current | isFlight)
      · exact .inr (.inr (congrArg some isNew.symm))
      · exact .inl stable
      · exact .inr (.inl current)
      · cases isFlight
    · rintro (stable | current | isFlight)
      · exact .inr (.inl stable)
      · exact .inr (.inr (.inl current))
      · exact .inl (Option.some.inj isFlight).symm
  sameStderr := kept.sameStderr
  currentFresh := kept.currentFresh
  flightFresh path isFlight := by
    cases Option.some.inj isFlight
    constructor
    · exact fun isStable => Nat.lt_irrefl _ (kept.numbered _ (.inl isStable))
    · exact fun isCurrent => Nat.lt_irrefl _ (kept.numbered _ (.inr (.inl isCurrent)))
  numbered path owner := by
    rcases owner with stable | current | isFlight
    · exact Nat.lt_succ_of_lt (kept.numbered path (.inl stable))
    · exact Nat.lt_succ_of_lt (kept.numbered path (.inr (.inl current)))
    · cases Option.some.inj isFlight
      exact Nat.lt_succ_self _
  signalled := kept.signalled
  rotating isRotating := nomatch isRotating

private theorem FilesKept.rotates (kept : FilesKept system) {fresh : Spawned}
    (spawned : system.phase = .spawned fresh) (going : system.shutdown = false) :
    FilesKept { system with
      files := system.files.erase system.stderrPath, phase := .rotating fresh } where
  files path := by
    have before := kept.files path
    rw [Owned, spawned] at before
    rw [Owned, Finset.mem_erase, before, kept.sameStderr]
    constructor
    · rintro ⟨different, stable | ⟨-, -, same⟩ | isFlight⟩
      · exact .inl stable
      · exact absurd same different
      · exact .inr (.inr isFlight)
    · rintro (⟨held, isStable⟩ | ⟨-, rotating, -⟩ | isFlight)
      · refine ⟨?_, .inl ⟨held, isStable⟩⟩
        rintro rfl
        exact kept.currentFresh isStable
      · cases rotating
      · exact ⟨(kept.flightFresh path (by rw [spawned]; exact isFlight)).2, .inr (.inr isFlight)⟩
  sameStderr := kept.sameStderr
  currentFresh := kept.currentFresh
  flightFresh path isFlight := kept.flightFresh path (by rw [spawned]; exact isFlight)
  numbered path owner := kept.numbered path (by rw [spawned]; exact owner)
  signalled := kept.signalled
  rotating _ := by
    change system.drop.currentGone = false
    rw [kept.signalled going]
    rfl

private theorem FilesKept.stores (kept : FilesKept system) {fresh : Spawned}
    (rotating : system.phase = .rotating fresh) :
    FilesKept { system with
      stderrPath := fresh.stderrPath
      currentStderr := fresh.stderrPath
      child := fresh.child
      phase := .publishing fresh } := by
  have isFlight : system.phase.inFlight = some fresh.stderrPath := by rw [rotating]; rfl
  have held : system.drop.currentGone = false := kept.rotating (by rw [rotating]; rfl)
  refine ⟨fun path => ?_, rfl, (kept.flightFresh _ isFlight).1, ?_, ?_, kept.signalled, ?_⟩
  · have before := kept.files path
    rw [Owned, rotating] at before
    rw [Owned, before]
    constructor
    · rintro (stable | ⟨-, isRotating, -⟩ | same)
      · exact .inl stable
      · cases isRotating
      · exact .inr (.inl ⟨held, rfl, (Option.some.inj same).symm⟩)
    · rintro (stable | ⟨-, -, same⟩ | none)
      · exact .inl stable
      · exact .inr (.inr (congrArg some same.symm))
      · cases none
  · exact fun path none => nomatch none
  · rintro path (stable | current | none)
    · exact kept.numbered path (.inl stable)
    · exact kept.numbered path (.inr (.inr (isFlight.trans (congrArg some current.symm))))
    · cases none
  · exact fun isRotating => nomatch isRotating

private theorem notRotating_of_landed {phase : Phase} (landed : phase.inFlight = none) :
    phase.isRotating = false := by
  cases phase with
  | rotating fresh => cases landed
  | _ => rfl

/-- Every tidy step leaves every file its owner. -/
private theorem FilesKept.step {action : Action} (kept : FilesKept system)
    (tidy : Tidy worker system action)
    (stepped : system.step burst worker action = some next) : FilesKept next := by
  have rest {phase : Phase} (same : SameOwners system next) (files : next.files = system.files)
      (isPhase : system.phase = phase) (flight : next.phase.inFlight = phase.inFlight)
      (rotating : next.phase.isRotating = phase.isRotating) : FilesKept next := by
    refine kept.frame same files ?_ ?_
    · rw [isPhase, flight]
    · rw [isPhase, rotating]
  cases steps_of_step stepped with
  | tick | exits | requestRestart =>
      exact kept.frame ⟨rfl, rfl, rfl, rfl, rfl, rfl⟩ rfl rfl rfl
  | signalled held =>
      refine kept.signal ?_ ?_ fun going => nomatch going
      · rw [held]
        rfl
      · rw [held]
        rfl
  | aborted signalled =>
      refine @FilesKept.signal _ kept system.shutdown .aborted ?_ ?_ fun going => ?_
      · rw [signalled]
        rfl
      · rw [signalled]
        rfl
      · have held := kept.signalled going
        rw [signalled] at held
        cases held
  | stableRemoved aborted => exact kept.stableRemoved aborted
  | dropped removed => exact kept.dropped removed (tidy removed)
  | cancelled awaits =>
      refine kept.frame ⟨rfl, rfl, rfl, rfl, rfl, rfl⟩ rfl ?_ ?_
      · exact tidy.symm
      · exact (notRotating_of_landed tidy).symm
  | creates secret resolves => exact kept.creates secret resolves
  | unstarted commands =>
      exact kept.land ⟨rfl, rfl, rfl, rfl, rfl, rfl⟩ rfl (by rw [commands]; rfl)
        (by rw [commands]; rfl) rfl rfl
  | abandoned commands leaves =>
      have stays := tidy (by rw [commands]; rfl)
      rw [leaves] at stays
      cases stays
  | unbooted fails =>
      exact kept.land ⟨rfl, rfl, rfl, rfl, rfl, rfl⟩ rfl (by rw [fails]; rfl)
        (by rw [fails]; rfl) rfl rfl
  | spawnedLast spawned =>
      exact kept.land ⟨rfl, rfl, rfl, rfl, rfl, rfl⟩ rfl (by rw [spawned]; rfl)
        (by rw [spawned]; rfl) rfl rfl
  | rotates spawned going => exact kept.rotates spawned going
  | stores rotating => exact kept.stores rotating
  | died at_ | restarted at_ | stopped at_ | stopReaped at_ | killReaped at_ | reapedLast at_
  | restarting at_ | records at_ | wokenLast at_ | wakes at_ | unresolved at_ | starts _ at_
  | reports _ at_ | silent at_ | connected at_ | publishes at_ =>
      exact rest ⟨rfl, rfl, rfl, rfl, rfl, rfl⟩ rfl at_ rfl rfl

private theorem kept_initial (now : Nat) (first : First) :
    FilesKept (Supervised.initial worker now first) := by
  have numbers : ∀ path ∈ (StablePaths.materialize worker first.seq).1.files,
      path.seq < (StablePaths.materialize worker first.seq).2 := by
    cases worker with
    | shim => simp [StablePaths.materialize, StablePaths.files]
    | puma => simp [StablePaths.materialize, StablePaths.files]
  refine ⟨fun path => ?_, rfl, fun isStable => ?_, ?_, ?_, fun _ => rfl, fun _ => rfl⟩
  · rw [Owned, Supervised.initial, Finset.mem_insert, List.mem_toFinset]
    constructor
    · rintro (isCurrent | isStable)
      · exact .inr (.inl ⟨rfl, rfl, isCurrent⟩)
      · exact .inl ⟨rfl, isStable⟩
    · rintro (⟨-, isStable⟩ | ⟨-, -, isCurrent⟩ | none)
      · exact .inr isStable
      · exact .inl isCurrent
      · cases none
  · exact Nat.lt_irrefl _ (numbers _ isStable)
  · intro path none
    cases none
  · rintro path (isStable | rfl | none)
    · exact Nat.lt_succ_of_lt (numbers path isStable)
    · exact Nat.lt_succ_self _
    · cases none

end

/-! ## Runs -/

/-- While no spawn has a file, the files are those of `temp_files` as long as the handler is held,
and after its drop there are none. -/
structure NoLeak (system : Supervised) : Prop where
  held : system.drop = .held → system.phase.inFlight = none →
    system.files = system.tempFiles.toFinset
  dropped : system.drop = .done → system.phase.inFlight = none → system.files = ∅

instance (system : Supervised) : Decidable (NoLeak system) :=
  decidable_of_iff ((system.drop = .held → system.phase.inFlight = none →
      system.files = system.tempFiles.toFinset) ∧
    (system.drop = .done → system.phase.inFlight = none → system.files = ∅))
    ⟨fun both => ⟨both.1, both.2⟩, fun noLeak => ⟨noLeak.held, noLeak.dropped⟩⟩

variable {burst : BurstParams} {worker : WorkerKind} {system : Supervised}

private theorem FilesKept.noLeak (kept : FilesKept system) : NoLeak system where
  held isHeld landed := by
    ext path
    rw [kept.files, Owned, isHeld, landed, notRotating_of_landed landed, Supervised.tempFiles,
      List.mem_toFinset, List.mem_append, List.mem_singleton]
    constructor
    · rintro (⟨-, isStable⟩ | ⟨-, -, isCurrent⟩ | none)
      · exact .inl isStable
      · exact .inr isCurrent
      · cases none
    · rintro (isStable | isCurrent)
      · exact .inl ⟨rfl, isStable⟩
      · exact .inr (.inl ⟨rfl, rfl, isCurrent⟩)
  dropped isDone landed := by
    refine Finset.eq_empty_of_forall_notMem fun path exists_ => ?_
    rw [kept.files, Owned, isDone, landed] at exists_
    rcases exists_ with ⟨gone, -⟩ | ⟨gone, -⟩ | none
    · cases gone
    · cases gone
    · cases none

/-- In every run of tidy steps no state that is reached has a file too many or too few. -/
theorem respawn_leaks_no_file {now : Nat} {first : First} {actions : List Action}
    (tidy : Machine.Meets (Supervised.step burst worker) (Tidy worker)
      (.initial worker now first) actions)
    (ran : Machine.exec (Supervised.step burst worker) (.initial worker now first) actions =
      some system) : NoLeak system := by
  have kept : FilesKept system :=
    Machine.invariant_of_meets (fun _ _ _ before isTidy stepped => before.step isTidy stepped)
      (kept_initial now first) tidy ran
  exact kept.noLeak

namespace Sample

/-- The worker dies, and the first attempt comes up to a spawn. -/
def respawning : List Action :=
  [.exits 0, .move .died, .move .next, .move .next, .move .elapsed]

/-- The drop of the handler, as far as the supervisor's task is aborted. -/
def dropping : List Action :=
  [.drop, .drop, .drop, .drop]

/-- A spawn that fails to boot, and one that comes up. -/
def tidyRun : List Action :=
  respawning ++ [.move (.creates "second"), .move (.starts 11), .move .silent, .move .reaps,
    .move .next, .tick (400 * 10 ^ 6), .move .elapsed, .move (.creates "third"),
    .move (.starts 12), .move (.reports 4002), .move .connected, .move .next, .move .next,
    .move .next]

/-- The executable is not found. -/
def unresolved : List Action :=
  respawning ++ [.move (.creates "second"), .move (.fails .executable)]

/-- The handler is dropped in the handshake of a spawn. -/
def droppedSpawning : List Action :=
  respawning ++ [.move (.creates "second"), .move (.starts 11)] ++ dropping ++ [.cancel]

/-- The handler is dropped between the removal of the old file and the storing of the new. -/
def droppedRotating : List Action :=
  respawning ++ [.move (.creates "second"), .move (.starts 11), .move (.reports 4001),
    .move .connected, .move .next] ++ dropping ++ [.move .next, .move .next, .cancel]

/-- Where a run of the shim comes to. -/
def run (actions : List Action) : Option Supervised :=
  Machine.exec (Supervised.step stockBurst .shim) (.initial .shim 0 firstWorker) actions

end Sample

theorem respawn_leaks_no_file_tidyRun :
    (∃ system, Sample.run Sample.tidyRun = some system ∧ system.respawns = 1 ∧
      system.files = system.tempFiles.toFinset) ∧
    ∃ system, Sample.run (Sample.tidyRun ++ Sample.dropping ++ [.cancel]) = some system ∧
      system.files = ∅ := by
  obtain ⟨held, ranHeld, isHeld, landed, respawns⟩ : ∃ system,
      Sample.run Sample.tidyRun = some system ∧ system.drop = .held ∧
        system.phase.inFlight = none ∧ system.respawns = 1 :=
    Machine.exists_exec (by decide +kernel)
  obtain ⟨dropped, ranDropped, isDone, dropLanded⟩ : ∃ system,
      Sample.run (Sample.tidyRun ++ Sample.dropping ++ [.cancel]) = some system ∧
        system.drop = .done ∧ system.phase.inFlight = none :=
    Machine.exists_exec (by decide)
  exact ⟨⟨held, ranHeld, respawns,
      (respawn_leaks_no_file (by decide) ranHeld).held isHeld landed⟩,
    dropped, ranDropped, (respawn_leaks_no_file (by decide) ranDropped).dropped isDone
      dropLanded⟩

/-- A spawn that does not find its executable leaves its file, and so does a drop in the middle of
a spawn or of a rotation. -/
theorem respawn_leaks_files :
    (∃ system, Sample.run Sample.unresolved = some system ∧ ¬ NoLeak system) ∧
    (∃ system, Sample.run Sample.droppedSpawning = some system ∧ system.phase = .ended ∧
      ¬ NoLeak system) ∧
    ∃ system, Sample.run Sample.droppedRotating = some system ∧ system.phase = .ended ∧
      ¬ NoLeak system :=
  ⟨Machine.exists_exec (by decide), Machine.exists_exec (by decide),
    Machine.exists_exec (by decide)⟩

end Oxo.HyperEdge
