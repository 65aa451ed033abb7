import Oxo.Edge.Acme.World
import Oxo.Foundation.Machine

/-!
Contract: certificate reloads between a renewing process and the supervisor
(`oxo-pingora-edge/src/service.rs`), one operation at a time.

Owns: the supervisor's programs (boot, reload after a reaped renewal, bounded restart with
rollback), the system of one persisting process, the supervisor and the edge over one state
directory, and the invariant that an overtaken edge leaves a reload marker.

Does not own: who starts a persist. The issuance lock admits one persisting process at a
time; a clock may show anything whenever it is read.
-/

namespace Oxo.Edge.Acme

open Oxo.Foundation

/-! ## The supervisor -/

inductive ServiceError where
  | acmeReload (message : String)
  | spawn (detail : String)
  | edgeNotReady (detail : String)
deriving DecidableEq

inductive SupervisorOp where
  | now
  | shutdownRequested
  | spawnEdge
  | waitForEdgeReady
  | terminateEdge
  | drainEdge

@[reducible] def SupervisorOp.Answer : SupervisorOp → Type
  | .now => UInt64
  | .shutdownRequested => Bool
  | .spawnEdge | .waitForEdgeReady => Except ServiceError Unit
  | .terminateEdge | .drainEdge => Unit

abbrev Supervising := Program (DiskOp ⊕ SupervisorOp) (Sum.elim DiskOp.Answer SupervisorOp.Answer)

def supervise (op : SupervisorOp) : ExceptT ServiceError Supervising op.Answer :=
  ExceptT.lift (Program.call (.inr op) Program.pure)

/-- `map_err(acme_reload_err)`. -/
def acmeReload {α : Type} (program : ExceptT AcmeError Disk α) :
    ExceptT ServiceError Supervising α :=
  ExceptT.adapt (fun failure : AcmeError => .acmeReload failure.text)
    (ExceptT.mk (Program.inl program.run))

/-- Boot the edge, at most `attempts` times; no answer under a shutdown. -/
def tryBoot : (attempts : Nat) → ExceptT ServiceError Supervising (Option Bool)
  | 0 => pure (some false)
  | attempts + 1 => do
      if ← supervise .shutdownRequested then return none
      ExceptT.mk (pure (← supervise .spawnEdge))
      match ← supervise .waitForEdgeReady with
      | .ok () => return some true
      | .error _ =>
          supervise .terminateEdge
          tryBoot attempts

def restartEdge (libraries : Libraries) (stateDir : String) :
    ExceptT ServiceError Supervising Unit := do
  supervise .drainEdge
  match ← tryBoot 2 with
  | none => return ()
  | some true => acmeReload (consumeReloadMarker stateDir)
  | some false =>
      acmeReload (rollbackToRetainedPair libraries stateDir (← supervise .now)
        "edge failed to boot with the renewed certificate")
      if ← supervise .shutdownRequested then return ()
      ExceptT.mk (pure (← supervise .spawnEdge))
      ExceptT.mk (pure (← supervise .waitForEdgeReady))

def reconcileBootMarker (libraries : Libraries) (stateDir : String) (bootEpoch : UInt64) :
    ExceptT ServiceError Supervising Unit := do
  match ← acmeReload (reloadMarkerUpdatedAt libraries stateDir) with
  | none => return ()
  | some updatedAt =>
      if updatedAt ≤ bootEpoch then acmeReload (consumeReloadMarker stateDir)
      else restartEdge libraries stateDir

def maybeReloadEdge (libraries : Libraries) (stateDir : String) :
    ExceptT ServiceError Supervising Unit := do
  match ← acmeReload (reloadMarkerUpdatedAt libraries stateDir) with
  | none => return ()
  | some _ => restartEdge libraries stateDir

/-- `ServiceRunner::run` from the boot epoch to the monitor. -/
def bootEdge (libraries : Libraries) (stateDir : String) :
    ExceptT ServiceError Supervising Unit := do
  let bootEpoch ← supervise .now
  ExceptT.mk (pure (← supervise .spawnEdge))
  match ← supervise .waitForEdgeReady with
  | .error failure =>
      supervise .terminateEdge
      throw failure
  | .ok () =>
      match ← ExceptT.lift (reconcileBootMarker libraries stateDir bootEpoch).run with
      | .ok () => return ()
      | .error failure =>
          supervise .terminateEdge
          throw failure

/-! ## The system -/

/-- The edge reads the certificate, then the key, and serves. -/
inductive EdgeProcess where
  | down
  | starting
  | reading (certificate : List UInt8)
  | serving (certificate key : List UInt8)
deriving DecidableEq

/-- The service is off, or its monitor is idle, or a program of the supervisor is running. -/
inductive Supervisor where
  | off
  | monitoring
  | busy (program : Supervising (Except ServiceError Unit))

/-- The persist in progress, the supervisor, the edge and the directory. Kept for the proof:
whether a file of the pair changed since the edge began to load it, and whether the marker
was removed since the persist in progress wrote it. -/
structure System where
  world : World
  writer : Option (Disk (Except AcmeError Unit))
  supervisor : Supervisor
  edge : EdgeProcess
  overtaken : Bool
  unmarked : Bool

/-- How an operation goes: a file operation's fault, an answer of the clock, whether a shutdown
is requested. -/
structure Choice where
  fault : Fault
  now : UInt64
  shutdown : Bool

inductive ReloadAction where
  /-- The renewal child or a manual issuance comes to its persist, at the time it has read. -/
  | beginPersist (issued : IssuedCertificate) (policy : AcmeRenewalPolicy) (now : UInt64)
  | writerStep (fault : Fault)
  | writerCrash
  | boot
  | reap
  | supervisorStep (choice : Choice)
  | edgeReads
  | edgeExits
  | stop

/-- What a file operation does to the directory. -/
inductive Effect where
  | nothing
  | renamed (name : FileName)
  | removed (name : FileName)
deriving DecidableEq

def World.effect (world : World) : Fault → DiskOp → Effect
  | .works, .rename name _ => .renamed name
  | .works, .remove name =>
      if (world.contents.file name).isSome then .removed name else .nothing
  | _, _ => .nothing

def Effect.swaps : Effect → Bool
  | .renamed name | .removed name => name.ofPair
  | .nothing => false

def Supervisor.idle : Supervisor → Bool
  | .busy _ => false
  | _ => true

namespace System

/-- The directory after a file operation. -/
def touch (system : System) (fault : Fault) (op : DiskOp) : System :=
  let effect := system.world.effect fault op
  { system with
    world := (system.world.respond fault op).2
    overtaken := system.overtaken || effect.swaps
    unmarked := (system.unmarked || decide (effect = .removed .reloadRequired)) &&
      decide (effect ≠ .renamed .reloadRequired) }

def stepWriter (system : System) (fault : Fault) : Option System :=
  match system.writer with
  | some (.call op next) =>
      some { system.touch fault op with
        writer := some (next (system.world.respond fault op).1) }
  | some (.pure _) => some { system with writer := none }
  | _ => none

/-- The edge is ready when it serves. -/
def answerSupervisor (system : System) (choice : Choice) : (op : SupervisorOp) → op.Answer × EdgeProcess
  | .now => (choice.now, system.edge)
  | .shutdownRequested => (choice.shutdown, system.edge)
  | .spawnEdge =>
      match choice.fault with
      | .works => (.ok (), .starting)
      | .fails detail => (.error (.spawn detail), system.edge)
  | .waitForEdgeReady =>
      match choice.fault, system.edge with
      | .works, .serving _ _ => (.ok (), system.edge)
      | .works, _ => (.error (.edgeNotReady "timeout"), system.edge)
      | .fails detail, _ => (.error (.edgeNotReady detail), system.edge)
  | .terminateEdge | .drainEdge => ((), .down)

def stepSupervisor (system : System) (choice : Choice) : Option System :=
  match system.supervisor with
  | .busy (.call (.inl op) next) =>
      some { system.touch choice.fault op with
        supervisor := .busy (next (system.world.respond choice.fault op).1) }
  | .busy (.call (.inr op) next) =>
      let answered := system.answerSupervisor choice op
      some { system with edge := answered.2, supervisor := .busy (next answered.1) }
  | .busy (.pure (.ok ())) => some { system with supervisor := .monitoring }
  | .busy (.pure (.error _)) => some { system with supervisor := .off }
  | _ => none

/-- An edge that cannot read a file exits. -/
def stepEdge (system : System) : Option System :=
  match system.edge with
  | .starting =>
      match system.world.contents.file (.certificate .live) with
      | some certificate =>
          some { system with edge := .reading certificate, overtaken := false }
      | none => some { system with edge := .down }
  | .reading certificate =>
      match system.world.contents.file (.key .live) with
      | some key => some { system with edge := .serving certificate key }
      | none => some { system with edge := .down }
  | _ => none

def step (libraries : Libraries) (stateDir : String) (system : System) :
    ReloadAction → Option System
  | .beginPersist issued policy now =>
      match system.writer with
      | none => some { system with
          writer := some (persist libraries issued policy now).run, unmarked := false }
      | some _ => none
  | .writerStep fault => system.stepWriter fault
  | .writerCrash => some { system with writer := none }
  | .boot =>
      match system.supervisor, system.edge with
      | .off, .down => some { system with supervisor := .busy (bootEdge libraries stateDir).run }
      | _, _ => none
  | .reap =>
      match system.supervisor with
      | .monitoring =>
          some { system with supervisor := .busy (maybeReloadEdge libraries stateDir).run }
      | _ => none
  | .supervisorStep choice => system.stepSupervisor choice
  | .edgeReads => system.stepEdge
  | .edgeExits => some { system with edge := .down }
  | .stop => some { system with supervisor := .off, edge := .down }

/-- The service is off and nothing is in progress. -/
def initial (world : World) : System where
  world := world
  writer := none
  supervisor := .off
  edge := .down
  overtaken := false
  unmarked := false

/-- The marker is there. -/
def Owed (system : System) : Prop :=
  (system.world.contents.file .reloadRequired).isSome = true

instance (system : System) : Decidable system.Owed :=
  inferInstanceAs (Decidable (_ = _))

/-- No persist and no restart is in progress. -/
def Quiet (system : System) : Prop :=
  system.writer.isNone = true ∧ system.supervisor.idle = true

instance (system : System) : Decidable system.Quiet :=
  inferInstanceAs (Decidable (_ ∧ _))

/-- The edge serves another pair than the one on disk. -/
def Stale (system : System) : Prop :=
  match system.edge with
  | .serving certificate key =>
      system.world.contents.file (.certificate .live) ≠ some certificate ∨
        system.world.contents.file (.key .live) ≠ some key
  | _ => False

instance (system : System) : Decidable system.Stale := by
  unfold Stale
  split <;> infer_instance

end System

/-- The edge has begun to load the pair. -/
def EdgeProcess.loaded : EdgeProcess → Bool
  | .reading _ | .serving _ _ => true
  | _ => false

/-- The marker is removed only while no file of the pair changed since the running edge began to
load it, and a persist replaces a file of the pair only while its marker was not removed. -/
def Orderly (system : System) : ReloadAction → Prop
  | .writerStep fault =>
      match system.writer with
      | some (.call op _) => (system.world.effect fault op).swaps = true → system.unmarked = false
      | _ => True
  | .supervisorStep choice =>
      match system.supervisor with
      | .busy (.call (.inl op) _) =>
          system.world.effect choice.fault op = .removed .reloadRequired →
            system.edge.loaded = true → system.overtaken = false
      | _ => True
  | _ => True

instance (system : System) : (action : ReloadAction) → Decidable (Orderly system action)
  | .writerStep fault =>
      match running : system.writer with
      | some (.call op _) => decidable_of_iff
          ((system.world.effect fault op).swaps = true → system.unmarked = false)
          (by simp only [Orderly, running])
      | some (.pure _) | some .stop | none => .isTrue (by simp only [Orderly, running])
  | .supervisorStep choice =>
      match running : system.supervisor with
      | .busy (.call (.inl op) _) => decidable_of_iff
          (system.world.effect choice.fault op = .removed .reloadRequired →
            system.edge.loaded = true → system.overtaken = false)
          (by simp only [Orderly, running])
      | .busy (.call (.inr _) _) | .busy (.pure _) | .busy .stop | .monitoring | .off =>
          .isTrue (by simp only [Orderly, running])
  | .beginPersist _ _ _ | .writerCrash | .boot | .reap | .edgeReads | .edgeExits | .stop =>
      .isTrue trivial

/-! ## File operations -/

/-- Operations that may replace a file of the pair. -/
def DiskOp.swaps : DiskOp → Bool
  | .rename name _ | .remove name => name.ofPair
  | _ => false

/-- Operations that may remove a file. -/
def DiskOp.removes : DiskOp → Bool
  | .remove _ => true
  | _ => false

section

variable {world : World} {fault : Fault} {op : DiskOp} {name : FileName}

theorem World.swaps_of_effect (swaps : (world.effect fault op).swaps = true) : op.swaps = true := by
  unfold World.effect at swaps
  split at swaps
  · exact swaps
  · split at swaps
    · exact swaps
    · cases swaps
  · cases swaps

theorem World.removes_of_effect (removed : world.effect fault op = .removed name) :
    op.removes = true := by
  unfold World.effect at removed
  split at removed
  · cases removed
  · rfl
  · cases removed

/-- A file that an operation neither renames nor removes. -/
theorem World.file_respond :
    (world.respond fault op).2.contents.file name = world.contents.file name ∨
      world.effect fault op = .renamed name ∨ world.effect fault op = .removed name := by
  cases fault with
  | fails detail => exact .inl rfl
  | works =>
      cases op with
      | rename other bytes =>
          by_cases same : name = other
          · cases same
            exact .inr (.inl rfl)
          · exact .inl (Contents.file_rename_ne same)
      | remove other =>
          simp only [World.respond, World.perform, World.effect]
          split
          · by_cases same : name = other
            · cases same
              exact .inr (.inr rfl)
            · exact .inl (Contents.file_remove_ne same)
          · exact .inl rfl
      | createDirAll directory => cases directory <;> exact .inl rfl
      | setPermissions target mode =>
          cases target with
          | directory directory => cases directory <;> exact .inl rfl
          | temp name => exact .inl rfl
      | _ => exact .inl rfl

theorem World.isSome_of_renamed (renamed : world.effect fault op = .renamed name) :
    ((world.respond fault op).2.contents.file name).isSome = true := by
  unfold World.effect at renamed
  split at renamed
  · cases renamed
    simp only [World.respond, World.perform, Contents.file_rename, Option.isSome_some]
  · split at renamed <;> cases renamed
  · cases renamed

/-- A file stays where it is not removed. -/
theorem World.isSome_respond (present : (world.contents.file name).isSome = true)
    (unremoved : world.effect fault op ≠ .removed name) :
    ((world.respond fault op).2.contents.file name).isSome = true := by
  obtain same | renamed | removed :=
    (World.file_respond : (world.respond fault op).2.contents.file name = _ ∨ _)
  · rw [same]
    exact present
  · exact World.isSome_of_renamed renamed
  · exact absurd removed unremoved

/-- The pair stays where no file of it is replaced. -/
theorem World.file_of_not_swaps (quiet : (world.effect fault op).swaps = false)
    (ofPair : name.ofPair = true) :
    (world.respond fault op).2.contents.file name = world.contents.file name := by
  obtain same | renamed | removed :=
    (World.file_respond : (world.respond fault op).2.contents.file name = _ ∨ _)
  · exact same
  · rw [renamed, Effect.swaps, ofPair] at quiet
    cases quiet
  · rw [removed, Effect.swaps, ofPair] at quiet
    cases quiet

end

/-! ## What the programs do -/

/-- Watches a persist: whether its marker is in place. Before, it replaces nothing. -/
def markerFirst : Contract DiskOp DiskOp.Answer Bool where
  allows marked op := op.removes = false ∧ (op.swaps = true → marked = true)
  after marked op answer :=
    match op, answer with
    | .rename .reloadRequired _, .ok () => true
    | _, _ => marked

/-- Operations that neither remove a file nor write the marker. -/
def DiskOp.keepsMarker : DiskOp → Prop
  | .remove _ | .rename .reloadRequired _ => False
  | _ => True

private theorem removes_of_keepsMarker {op : DiskOp} (keeps : op.keepsMarker) :
    op.removes = false := by
  cases op with
  | remove name => exact keeps.elim
  | _ => rfl

private theorem markerFirst_allows {op : DiskOp} (keeps : op.keepsMarker) :
    markerFirst.allows true op :=
  ⟨removes_of_keepsMarker keeps, fun _ => rfl⟩

private theorem markerFirst_same {op : DiskOp} (keeps : op.keepsMarker) (marked : Bool)
    (answer : op.Answer) : markerFirst.after marked op answer = marked := by
  cases op with
  | rename name bytes =>
      cases name with
      | reloadRequired => exact keeps.elim
      | _ => rfl
  | _ => rfl

/-- Watches the supervisor: whether it knows the edge to be down. Only then it replaces a file of
the pair. -/
def swapWhileDown :
    Contract (DiskOp ⊕ SupervisorOp) (Sum.elim DiskOp.Answer SupervisorOp.Answer) Bool where
  allows down op :=
    match op with
    | .inl op => op.swaps = true → down = true
    | .inr _ => True
  after down op answer :=
    match op, answer with
    | .inr .spawnEdge, .ok () => false
    | .inr .terminateEdge, _ | .inr .drainEdge, _ => true
    | _, _ => down

section

variable {kind : DiskOp → Prop}

private theorem only_setPathMode (plain : ∀ target mode, kind (.setPermissions target mode))
    (target : ModeTarget) (mode : Nat) :
    (Contract.only kind).Meets (setPathMode target mode).run () fun _ _ => True :=
  ⟨plain target mode, fun _ => trivial⟩

private theorem only_stagePrivate {name : FileName} {bytes : List UInt8} {mode : Nat}
    (plain : ∀ op : DiskOp, op.swaps = false → op.keepsMarker → kind op) :
    (Contract.only kind).Meets (stagePrivate name bytes mode).run () fun _ _ => True := by
  refine .callExcept (plain _ rfl trivial) fun opened => ?_
  refine .settle (fun _ _ => trivial) fun _ _ => ?_
  refine .callExcept (plain _ rfl trivial) fun written => ?_
  refine .settle (fun _ _ => trivial) fun _ _ => ?_
  refine .callExcept (plain _ rfl trivial) fun synced => ?_
  exact .settle (fun _ _ => trivial) fun _ _ =>
    only_setPathMode (fun _ _ => plain _ rfl trivial) _ _

private theorem only_writeFilePrivate {name : FileName} {bytes : List UInt8} {mode : Nat}
    (plain : ∀ op : DiskOp, op.swaps = false → op.keepsMarker → kind op)
    (renames : kind (.rename name bytes)) :
    (Contract.only kind).Meets (writeFilePrivate name bytes mode).run () fun _ _ => True :=
  .onlyBind (only_stagePrivate plain) fun _ => ⟨renames, fun _ => trivial⟩

end

private theorem only_retainFile {source target : FileName} {mode : Nat}
    (keeps : ∀ bytes, DiskOp.keepsMarker (.rename target bytes)) :
    (Contract.only DiskOp.keepsMarker).Meets (retainFile source target mode).run ()
      fun _ _ => True := by
  refine .callExcept trivial fun present => ?_
  cases present with
  | false => trivial
  | true =>
      refine .callExcept trivial fun read => ?_
      cases read with
      | ok bytes => exact only_writeFilePrivate (fun _ _ keeps => keeps) (keeps bytes)
      | error failure => trivial

private theorem only_somePresent :
    (Contract.only DiskOp.keepsMarker).Meets somePresent.run () fun _ _ => True := by
  refine .callExcept trivial fun present => ?_
  cases present with
  | true => trivial
  | false => exact ⟨trivial, fun _ => trivial⟩

private theorem only_retainExisting (now : UInt64) :
    (Contract.only DiskOp.keepsMarker).Meets (retainExisting now).run () fun _ _ => True := by
  refine .onlyBind only_somePresent fun present => ?_
  cases present with
  | false => trivial
  | true =>
      refine .callExcept trivial fun created => .settle (fun _ _ => trivial) fun _ _ => ?_
      refine .onlyBind (only_setPathMode (fun _ _ => trivial) _ _) fun _ => ?_
      refine .onlyBind (only_retainFile fun _ => trivial) fun _ => ?_
      refine .onlyBind (only_retainFile fun _ => trivial) fun _ => ?_
      exact only_retainFile fun _ => trivial

private theorem only_writeCertKeyPair (certBytes keyBytes : List UInt8) :
    (Contract.only DiskOp.keepsMarker).Meets (writeCertKeyPair certBytes keyBytes).run ()
      fun _ _ => True := by
  refine .onlyBind (only_stagePrivate fun _ _ keeps => keeps) fun _ => ?_
  refine .onlyBind (only_stagePrivate fun _ _ keeps => keeps) fun _ => ?_
  refine .callExcept trivial fun renamed => .settle (fun _ _ => trivial) fun _ _ => ?_
  exact ⟨trivial, fun _ => trivial⟩

variable {libraries : Libraries}

/-- What follows the marker. -/
private theorem persist_rest (issued : IssuedCertificate) (policy : AcmeRenewalPolicy)
    (notAfter : Option UInt64) (now : UInt64) :
    markerFirst.Meets (do
      retainExisting now
      writeCertKeyPair (utf8 issued.certificatePem) (utf8 issued.privateKeyPem)
      writeJson libraries "encode ACME issue metadata" (.issue .live)
        (issueMetadata issued policy notAfter now) : ExceptT AcmeError Disk Unit).run true
      fun _ marked => marked = true := by
  refine Contract.Meets.of_only ?_ (fun op => markerFirst_allows)
    fun op answer keeps => markerFirst_same keeps true answer
  refine .onlyBind (only_retainExisting now) fun _ => ?_
  refine .onlyBind (only_writeCertKeyPair _ _) fun _ => ?_
  exact .settle (fun _ _ => trivial) fun _ _ =>
    only_writeFilePrivate (fun _ _ keeps => keeps) trivial

/-- A persist writes its marker before it replaces a file of the pair, and removes nothing. -/
theorem persist_markerFirst (issued : IssuedCertificate) (policy : AcmeRenewalPolicy)
    (now : UInt64) :
    markerFirst.Meets (persist libraries issued policy now).run false fun _ _ => True := by
  refine .settle (fun _ _ => trivial) fun notAfter _ => ?_
  refine .bindExcept (.settle (fun _ _ => trivial) fun text _ => ?_)
  have staged : (Contract.only fun op : DiskOp => op.swaps = false ∧ op.keepsMarker).Meets
      (stagePrivate .reloadRequired (utf8 text) 0o644).run () fun _ _ => True :=
    only_stagePrivate fun _ quiet keeps => ⟨quiet, keeps⟩
  have quiet : markerFirst.Meets (stagePrivate .reloadRequired (utf8 text) 0o644).run false
      fun _ marked => marked = false := by
    refine staged.of_only (fun op plain => ⟨removes_of_keepsMarker plain.2, fun swaps => ?_⟩)
      fun op answer plain => markerFirst_same plain.2 false answer
    rw [plain.1] at swaps
    cases swaps
  refine .bindExcept (quiet.mono ?_)
  rintro (failure | done) marked rfl
  · trivial
  -- the marker is renamed into place
  refine .callExcept ⟨rfl, fun swaps => nomatch swaps⟩ fun renamed => ?_
  cases renamed with
  | error detail => trivial
  | ok done => exact (persist_rest issued policy notAfter now).mono fun _ _ _ => trivial

/-! ## The supervisor's programs -/

private theorem only_prepare (stateDir : String) :
    (Contract.only fun op : DiskOp => op.swaps = false).Meets (prepare stateDir).run ()
      fun _ _ => True := by
  unfold prepare
  split
  · trivial
  · refine .callExcept rfl fun answer => ?_
    cases answer with
    | ok metadata =>
        dsimp only
        split
        · trivial
        · split
          · trivial
          · cases validatePrivateDirMode stateDir metadata <;> trivial
    | error failure =>
        cases failure with
        | notFound detail =>
            refine .callExcept rfl fun created => .settle (fun _ _ => trivial) fun _ _ => ?_
            exact only_setPathMode (fun _ _ => rfl) _ _
        | other detail => trivial

private theorem only_consumeReloadMarker (stateDir : String) :
    (Contract.only fun op : DiskOp => op.swaps = false).Meets (consumeReloadMarker stateDir).run ()
      fun _ _ => True := by
  refine .onlyBind (only_prepare stateDir) fun _ => .callExcept rfl fun removed => ?_
  cases removed with
  | ok done => trivial
  | error failure => cases failure <;> trivial

private theorem only_reloadMarkerUpdatedAt (stateDir : String) :
    (Contract.only fun op : DiskOp => op.swaps = false).Meets
      (reloadMarkerUpdatedAt libraries stateDir).run () fun _ _ => True := by
  refine .onlyBind (only_prepare stateDir) fun _ => ?_
  refine .onlyBind (.callExcept rfl fun read => ?_) fun value => ?_
  · cases read with
    | ok bytes => trivial
    | error failure => cases failure <;> trivial
  · cases value <;> trivial

section

variable {α : Type} {down : Bool}

/-- The supervisor's file operations that leave the pair. -/
private theorem meets_acmeReload {program : ExceptT AcmeError Disk α}
    (quiet : (Contract.only fun op : DiskOp => op.swaps = false).Meets program.run ()
      fun _ _ => True) :
    swapWhileDown.Meets (acmeReload program).run down fun _ after => after = down := by
  refine .adapt (.inl (quiet.of_only (fun op plain swaps => ?_) fun _ _ _ => rfl))
  rw [plain] at swaps
  cases swaps

/-- While the edge is down, any file operation. -/
private theorem meets_acmeReload_down (program : ExceptT AcmeError Disk α) :
    swapWhileDown.Meets (acmeReload program).run true fun _ after => after = true :=
  .adapt (.inl (.ignored (fun _ _ => rfl) (fun _ _ => rfl) program.run))

private theorem meets_tryBoot (attempts : Nat) :
    swapWhileDown.Meets (tryBoot attempts).run true fun result down =>
      result = .ok (some false) → down = true := by
  induction attempts with
  | zero => exact fun _ => rfl
  | succ attempts inductionHypothesis =>
      refine .callExcept trivial fun requested => ?_
      cases requested with
      | true => exact fun wrong => nomatch wrong
      | false =>
          refine .callExcept trivial fun spawned => ?_
          cases spawned with
          | error failure => exact fun wrong => nomatch wrong
          | ok done =>
              refine .callExcept trivial fun ready => ?_
              cases ready with
              | ok done => exact fun wrong => nomatch wrong
              | error failure => exact .callExcept trivial fun _ => inductionHypothesis

end

/-- A restart replaces the pair only after it stopped the edge. -/
theorem meets_restartEdge (stateDir : String) (down : Bool) :
    swapWhileDown.Meets (restartEdge libraries stateDir).run down fun _ _ => True := by
  refine .callExcept trivial fun _ => .bindExcept ((meets_tryBoot 2).mono ?_)
  rintro (failure | booted) down stopped
  · trivial
  cases booted with
  | none => trivial
  | some booted =>
      cases booted with
      | true =>
          dsimp only
          exact (meets_acmeReload (only_consumeReloadMarker stateDir)).mono fun _ _ _ => trivial
      | false =>
          cases stopped rfl
          refine .callExcept trivial fun now => ?_
          refine .bindExcept ((meets_acmeReload_down _).mono ?_)
          rintro (failure | done) down rfl
          · trivial
          refine .callExcept trivial fun requested => ?_
          cases requested with
          | true => trivial
          | false =>
              refine .callExcept trivial fun spawned => ?_
              refine .settle (fun _ _ => trivial) fun _ _ => ?_
              exact .callExcept trivial fun ready => by cases ready <;> trivial

theorem meets_maybeReloadEdge (stateDir : String) (down : Bool) :
    swapWhileDown.Meets (maybeReloadEdge libraries stateDir).run down fun _ _ => True := by
  refine .bindExcept ((meets_acmeReload (only_reloadMarkerUpdatedAt stateDir)).mono ?_)
  rintro (failure | marker) after _
  · trivial
  cases marker with
  | none => trivial
  | some updatedAt => exact meets_restartEdge stateDir after

theorem meets_bootEdge (stateDir : String) (down : Bool) :
    swapWhileDown.Meets (bootEdge libraries stateDir).run down fun _ _ => True := by
  have reconcile (bootEpoch : UInt64) (down : Bool) :
      swapWhileDown.Meets (reconcileBootMarker libraries stateDir bootEpoch).run down
        fun _ _ => True := by
    refine .bindExcept ((meets_acmeReload (only_reloadMarkerUpdatedAt stateDir)).mono ?_)
    rintro (failure | marker) after _
    · trivial
    cases marker with
    | none => trivial
    | some updatedAt =>
        dsimp only
        split
        · exact (meets_acmeReload (only_consumeReloadMarker stateDir)).mono fun _ _ _ => trivial
        · exact meets_restartEdge stateDir after
  refine .callExcept trivial fun bootEpoch => .callExcept trivial fun spawned => ?_
  refine .settle (fun _ _ => trivial) fun _ _ => .callExcept trivial fun ready => ?_
  cases ready with
  | error failure => exact .callExcept trivial fun _ => trivial
  | ok done =>
      refine .lift ((reconcile bootEpoch _).mono ?_)
      rintro (failure | done) after _
      · exact .callExcept trivial fun _ => trivial
      · trivial

/-! ## The invariant -/

/-- What the edge has loaded so far is on disk. -/
def EdgeProcess.Current (contents : Contents) : EdgeProcess → Prop
  | .reading certificate => contents.file (.certificate .live) = some certificate
  | .serving certificate key =>
      contents.file (.certificate .live) = some certificate ∧ contents.file (.key .live) = some key
  | _ => True

/-- An overtaken edge leaves the marker; a persist that comes to the pair left it before. -/
structure Coherent (system : System) : Prop where
  writer : ∀ program, system.writer = some program →
    ∃ marked, markerFirst.Meets program marked (fun _ _ => True) ∧
      (marked = true → system.unmarked = false → system.Owed)
  supervisor : ∀ program, system.supervisor = .busy program →
    ∃ down, swapWhileDown.Meets program down (fun _ _ => True) ∧
      (down = true → system.edge = .down)
  current : system.overtaken = false → system.edge.Current system.world.contents
  owed : system.edge.loaded = true → system.overtaken = true → system.Owed

section

variable {system : System} {fault : Fault} {op : DiskOp}

private theorem touch_owed (owed : system.Owed)
    (unremoved : system.world.effect fault op ≠ .removed .reloadRequired) :
    (system.touch fault op).Owed :=
  World.isSome_respond owed unremoved

private theorem touch_current
    (current : system.overtaken = false → system.edge.Current system.world.contents)
    (fresh : (system.touch fault op).overtaken = false) :
    system.edge.Current (system.touch fault op).world.contents := by
  obtain ⟨before, quiet⟩ : system.overtaken = false ∧
      (system.world.effect fault op).swaps = false := by
    simpa only [System.touch, Bool.or_eq_false_iff] using fresh
  have certificate : (system.touch fault op).world.contents.file (.certificate .live) =
      system.world.contents.file (.certificate .live) := World.file_of_not_swaps quiet rfl
  have key : (system.touch fault op).world.contents.file (.key .live) =
      system.world.contents.file (.key .live) := World.file_of_not_swaps quiet rfl
  have loaded := current before
  cases edge : system.edge with
  | reading bytes =>
      rw [edge] at loaded
      exact certificate.trans loaded
  | serving bytes keyBytes =>
      rw [edge] at loaded
      exact ⟨certificate.trans loaded.1, key.trans loaded.2⟩
  | down => trivial
  | starting => trivial

/-- The marker of the persist in progress, after any file operation. -/
private theorem touch_marker (before : system.unmarked = false → system.Owed)
    (unmarked : (system.touch fault op).unmarked = false) : (system.touch fault op).Owed := by
  by_cases renamed : system.world.effect fault op = .renamed .reloadRequired
  · exact World.isSome_of_renamed renamed
  · simp only [System.touch, Bool.and_eq_false_iff, Bool.or_eq_false_iff, decide_eq_false_iff_not,
      not_not, renamed, or_false] at unmarked
    exact touch_owed (before unmarked.1) unmarked.2

/-- An overtaken edge, after a file operation that does not remove its marker. -/
private theorem touch_overtaken
    (before : system.edge.loaded = true → system.overtaken = true → system.Owed)
    (announced : (system.world.effect fault op).swaps = true → system.edge.loaded = true →
      system.Owed)
    (orderly : system.world.effect fault op = .removed .reloadRequired →
      system.edge.loaded = true → system.overtaken = false)
    (loaded : system.edge.loaded = true) (overtaken : (system.touch fault op).overtaken = true) :
    (system.touch fault op).Owed := by
  have owed : system.overtaken = true ∨ (system.world.effect fault op).swaps = true := by
    simpa only [System.touch, Bool.or_eq_true] using overtaken
  by_cases removed : system.world.effect fault op = .removed .reloadRequired
  · rw [removed, orderly removed loaded] at owed
    obtain wrong | wrong := owed <;> cases wrong
  · refine touch_owed ?_ removed
    obtain earlier | swaps := owed
    · exact before loaded earlier
    · exact announced swaps loaded

variable {stateDir : String} {next : System} {choice : Choice}

private theorem effect_of_marked
    (marked : markerFirst.after false op (system.world.respond fault op).1 = true) :
    system.world.effect fault op = .renamed .reloadRequired := by
  cases fault with
  | fails detail =>
      cases op with
      | rename name bytes => cases name <;> cases marked
      | _ => cases marked
  | works =>
      cases op with
      | rename name bytes =>
          cases name with
          | reloadRequired => rfl
          | _ => cases marked
      | _ => cases marked

/-- A step of the persist. -/
private theorem coherent_stepWriter (coherent : Coherent system)
    (orderly : Orderly system (.writerStep fault)) (stepped : system.stepWriter fault = some next) :
    Coherent next := by
  unfold System.stepWriter at stepped
  split at stepped
  · rename_i op rest running
    cases stepped
    simp only [Orderly, running] at orderly
    obtain ⟨marked, ⟨⟨stays, first⟩, meets⟩, owed⟩ := coherent.writer _ running
    have unremoved (name : FileName) : system.world.effect fault op ≠ .removed name := by
      intro removed
      rw [World.removes_of_effect removed] at stays
      cases stays
    refine ⟨?_, coherent.supervisor, touch_current coherent.current, ?_⟩
    · rintro program ⟨⟩
      refine ⟨_, meets _, fun after unmarked => ?_⟩
      cases marked with
      | true => exact touch_marker (owed rfl) unmarked
      | false => exact World.isSome_of_renamed (effect_of_marked after)
    · refine touch_overtaken coherent.owed (fun swaps _ => ?_)
        fun removed => absurd removed (unremoved _)
      exact owed (first (World.swaps_of_effect swaps)) (orderly swaps)
  · cases stepped
    exact ⟨(fun _ wrong => nomatch wrong), coherent.supervisor, coherent.current, coherent.owed⟩
  · cases stepped

/-- What an answer to the supervisor leaves of the edge. -/
private theorem answered_edge (op : SupervisorOp) :
    (system.answerSupervisor choice op).2 = system.edge ∨
      (system.answerSupervisor choice op).2 = .starting ∨
      (system.answerSupervisor choice op).2 = .down := by
  obtain ⟨world, writer, supervisor, edge, overtaken, unmarked⟩ := system
  obtain ⟨fault, now, shutdown⟩ := choice
  cases op with
  | spawnEdge =>
      cases fault with
      | works => exact .inr (.inl rfl)
      | fails detail => exact .inl rfl
  | waitForEdgeReady => cases fault <;> cases edge <;> exact .inl rfl
  | terminateEdge => exact .inr (.inr rfl)
  | drainEdge => exact .inr (.inr rfl)
  | _ => exact .inl rfl

private theorem answered_down {down : Bool} (before : down = true → system.edge = .down)
    (op : SupervisorOp)
    (after : swapWhileDown.after down (.inr op) (system.answerSupervisor choice op).1 = true) :
    (system.answerSupervisor choice op).2 = .down := by
  obtain ⟨world, writer, supervisor, edge, overtaken, unmarked⟩ := system
  obtain ⟨fault, now, shutdown⟩ := choice
  cases op with
  | spawnEdge =>
      cases fault with
      | works => cases after
      | fails detail => exact before after
  | waitForEdgeReady => cases fault <;> cases edge <;> exact before after
  | terminateEdge => rfl
  | drainEdge => rfl
  | _ => exact before after

/-- A step of the supervisor. -/
private theorem coherent_stepSupervisor (coherent : Coherent system)
    (orderly : Orderly system (.supervisorStep choice))
    (stepped : system.stepSupervisor choice = some next) : Coherent next := by
  unfold System.stepSupervisor at stepped
  split at stepped
  · rename_i op rest running
    cases stepped
    simp only [Orderly, running] at orderly
    obtain ⟨down, ⟨allowed, meets⟩, stopped⟩ := coherent.supervisor _ running
    refine ⟨fun program writing => ?_, ?_, touch_current coherent.current, ?_⟩
    · obtain ⟨marked, persists, owed⟩ := coherent.writer program writing
      exact ⟨marked, persists, fun isMarked => touch_marker (owed isMarked)⟩
    · rintro program ⟨⟩
      exact ⟨down, meets _, stopped⟩
    · refine touch_overtaken coherent.owed (fun swaps loaded => ?_) orderly
      rw [stopped (allowed (World.swaps_of_effect swaps))] at loaded
      cases loaded
  · rename_i op rest running
    cases stepped
    obtain ⟨down, ⟨-, meets⟩, stopped⟩ := coherent.supervisor _ running
    refine ⟨coherent.writer, ?_, fun fresh => ?_, fun loaded overtaken => ?_⟩
    · rintro program ⟨⟩
      exact ⟨_, meets _, answered_down stopped op⟩
    · obtain same | starting | isDown :=
        (answered_edge op : (system.answerSupervisor choice op).2 = _ ∨ _)
      · simpa only [same] using coherent.current fresh
      · simp only [starting, EdgeProcess.Current]
      · simp only [isDown, EdgeProcess.Current]
    · obtain same | starting | isDown :=
        (answered_edge op : (system.answerSupervisor choice op).2 = _ ∨ _)
      · simp only [same] at loaded
        exact coherent.owed loaded overtaken
      · simp only [starting] at loaded
        cases loaded
      · simp only [isDown] at loaded
        cases loaded
  · cases stepped
    exact ⟨coherent.writer, (fun _ wrong => nomatch wrong), coherent.current, coherent.owed⟩
  · cases stepped
    exact ⟨coherent.writer, (fun _ wrong => nomatch wrong), coherent.current, coherent.owed⟩
  · cases stepped

/-- The edge is gone, and no program of the supervisor watches it. -/
private theorem coherent_down (coherent : Coherent system) : Coherent { system with edge := .down } :=
  ⟨coherent.writer, fun program running =>
      have ⟨down, meets, _⟩ := coherent.supervisor program running
      ⟨down, meets, fun _ => rfl⟩,
    fun _ => trivial, fun loaded => nomatch loaded⟩

/-- A step of the edge. -/
private theorem coherent_stepEdge (coherent : Coherent system)
    (stepped : system.stepEdge = some next) : Coherent next := by
  -- an edge that is reading was not stopped by the supervisor
  have running (loading : system.edge ≠ .down) (edge : EdgeProcess)
      (program : Supervising (Except ServiceError Unit)) (busy : system.supervisor = .busy program) :
      ∃ down, swapWhileDown.Meets program down (fun _ _ => True) ∧ (down = true → edge = .down) := by
    obtain ⟨down, meets, stopped⟩ := coherent.supervisor program busy
    exact ⟨down, meets, fun isDown => absurd (stopped isDown) loading⟩
  unfold System.stepEdge at stepped
  split at stepped
  · rename_i starting
    split at stepped
    · rename_i certificate found
      cases stepped
      refine ⟨coherent.writer, running (by rw [starting]; exact EdgeProcess.noConfusion) _,
        fun _ => found, fun _ wrong => nomatch wrong⟩
    · cases stepped
      exact coherent_down coherent
  · rename_i certificate reading
    split at stepped
    · rename_i key found
      cases stepped
      refine ⟨coherent.writer, running (by rw [reading]; exact EdgeProcess.noConfusion) _,
        fun fresh => ?_, fun _ overtaken => ?_⟩
      · have loaded := coherent.current fresh
        rw [reading] at loaded
        exact ⟨loaded, found⟩
      · exact coherent.owed (by rw [reading]; rfl) overtaken
    · cases stepped
      exact coherent_down coherent
  · cases stepped

/-- Every orderly step. -/
theorem coherent_step {action : ReloadAction} (coherent : Coherent system)
    (orderly : Orderly system action)
    (stepped : system.step libraries stateDir action = some next) : Coherent next := by
  cases action with
  | beginPersist issued policy now =>
      simp only [System.step] at stepped
      split at stepped
      · cases stepped
        refine ⟨?_, coherent.supervisor, coherent.current, coherent.owed⟩
        rintro program ⟨⟩
        exact ⟨false, persist_markerFirst issued policy now, fun wrong => nomatch wrong⟩
      · cases stepped
  | writerStep fault => exact coherent_stepWriter coherent orderly stepped
  | writerCrash =>
      cases stepped
      exact ⟨(fun _ wrong => nomatch wrong), coherent.supervisor, coherent.current, coherent.owed⟩
  | boot =>
      simp only [System.step] at stepped
      split at stepped
      · cases stepped
        refine ⟨coherent.writer, ?_, coherent.current, coherent.owed⟩
        rintro program ⟨⟩
        exact ⟨false, meets_bootEdge stateDir false, fun wrong => nomatch wrong⟩
      · cases stepped
  | reap =>
      simp only [System.step] at stepped
      split at stepped
      · cases stepped
        refine ⟨coherent.writer, ?_, coherent.current, coherent.owed⟩
        rintro program ⟨⟩
        exact ⟨false, meets_maybeReloadEdge stateDir false, fun wrong => nomatch wrong⟩
      · cases stepped
  | supervisorStep choice => exact coherent_stepSupervisor coherent orderly stepped
  | edgeReads => exact coherent_stepEdge coherent stepped
  | edgeExits =>
      cases stepped
      exact coherent_down coherent
  | stop =>
      cases stepped
      exact ⟨coherent.writer, (fun _ wrong => nomatch wrong), fun _ => trivial,
        fun wrong => nomatch wrong⟩

end

/-- In every state that an orderly run reaches, an edge that serves another pair than the one on
disk leaves the marker. -/
theorem reload_not_lost {stateDir : String} {world : World} {actions : List ReloadAction}
    {system : System}
    (orderly : Machine.Meets (System.step libraries stateDir) Orderly (System.initial world)
      actions)
    (ran : Machine.exec (System.step libraries stateDir) (System.initial world) actions =
      some system)
    (stale : system.Stale) : system.Owed := by
  have initial : Coherent (System.initial world) :=
    ⟨(fun _ wrong => nomatch wrong), (fun _ wrong => nomatch wrong), fun _ => trivial,
      fun wrong => nomatch wrong⟩
  have coherent := Machine.invariant_of_meets
    (fun _ _ _ before permitted stepped => coherent_step before permitted stepped)
    initial orderly ran
  unfold System.Stale at stale
  split at stale
  · rename_i certificate key serving
    cases overtaken : system.overtaken with
    | true => exact coherent.owed (by rw [serving]; rfl) overtaken
    | false =>
        have current := coherent.current overtaken
        rw [serving] at current
        obtain other | other := stale
        · exact absurd current.1 other
        · exact absurd current.2 other
  · exact stale.elim

namespace Sample

/-- The objects of two persists, ten seconds apart. -/
def reloadObjects : List Json :=
  [reloadMarker 1795000000, reloadMarker 1795000010,
    issueMetadata firstIssued .standard (some 1802779880) 1795000000,
    issueMetadata secondIssued .standard (some 1810555880) 1795000010]

def reloading : Libraries :=
  librariesOf reloadObjects (by decide +kernel)

def writerSteps (count : Nat) : List ReloadAction :=
  List.replicate count (.writerStep .works)

def supervisorSteps (count : Nat) (now : UInt64) : List ReloadAction :=
  List.replicate count (.supervisorStep ⟨.works, now, false⟩)

/-- The first persist, complete. -/
def firstPersist : List ReloadAction :=
  .beginPersist firstIssued .standard 1795000000 :: writerSteps 23

/-- The service boots on the first pair and consumes its marker. -/
def bootOnFirst : List ReloadAction :=
  .boot :: supervisorSteps 2 1795000005 ++ [.edgeReads, .edgeReads] ++
    supervisorSteps 6 1795000005

/-- The second persist, complete. -/
def secondPersist : List ReloadAction :=
  .beginPersist secondIssued .standard 1795000010 :: writerSteps 45

/-- The second persist is under way, its marker written, when the service boots: the edge loads
the first pair, the persist ends, and only then the supervisor looks at the marker. -/
def bootDuringSecond : List ReloadAction :=
  .beginPersist secondIssued .standard 1795000010 :: writerSteps 5 ++
    .boot :: supervisorSteps 2 1795000010 ++ [.edgeReads, .edgeReads] ++ writerSteps 40 ++
    supervisorSteps 6 1795000010

end Sample

/-- A persist behind the back of a running edge: the edge is stale and the marker is there. -/
theorem reload_not_lost_renewed : ∃ system,
    Machine.exec (System.step Sample.reloading "/acme") (System.initial (World.empty 0o700))
      (Sample.firstPersist ++ Sample.bootOnFirst ++ Sample.secondPersist) = some system ∧
    system.Stale ∧ system.Owed := by
  obtain ⟨system, ran, stale⟩ : ∃ system,
      Machine.exec (System.step Sample.reloading "/acme") (System.initial (World.empty 0o700))
        (Sample.firstPersist ++ Sample.bootOnFirst ++ Sample.secondPersist) = some system ∧
      system.Stale := Machine.exists_exec (by decide +kernel)
  exact ⟨system, ran, stale, reload_not_lost (by decide +kernel) ran stale⟩

/-- A marker written in the second of the boot, before the pair it announces: the edge loads the
old pair, and the marker counts as satisfied when it is looked at. -/
theorem reload_lost_at_boot : ∃ system,
    Machine.exec (System.step Sample.reloading "/acme") (System.initial (World.empty 0o700))
      (Sample.firstPersist ++ Sample.bootDuringSecond) = some system ∧
    system.Quiet ∧ system.Stale ∧ ¬ system.Owed :=
  Machine.exists_exec (by decide +kernel)

end Oxo.Edge.Acme
