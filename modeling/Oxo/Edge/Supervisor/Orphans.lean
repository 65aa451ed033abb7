import Oxo.Edge.Supervisor.Ownership

/-!
Contract: the children a run of the supervisor leaves behind
(`oxo-pingora-edge/src/service.rs`).

Owns: what each stage of the run owns when it returns, and that without a failure that has no
teardown no child outlives a run.

Does not own: the rules for ownership.
-/

namespace Oxo.Edge.Supervisor

open Oxo.Foundation

section

variable {owned : Set ChildId} {site : Site} {child : ChildId} {fuel id : Nat} {role : Role}
  {config : ServiceConfig}

/-! ## Spawning and readiness -/

/-- The owned children with the one that was spawned. -/
def withSpawned (owned : Set ChildId) : Except ServiceError ChildId → Set ChildId
  | .ok child => insert child owned
  | .error _ => owned

theorem spawnChild_owns : Owns (spawnChild role) owned (withSpawned owned) := by
  refine .call fun spawned _ => .pure ?_
  cases spawned <;> exact subset_rfl

/-- The owned children after a wait for `child` that failed. -/
def Site.afterFailure (site : Site) (child : ChildId) (owned : Set ChildId) : Set ChildId :=
  if site.unguarded then owned \ {child} else owned

theorem Site.gone_subset_afterFailure : owned \ {child} ⊆ site.afterFailure child owned := by
  unfold Site.afterFailure
  split
  · exact subset_rfl
  · exact Set.sdiff_subset

theorem Site.subset_afterFailure (guarded : site.unguarded = false) :
    owned ⊆ site.afterFailure child owned := by
  rw [Site.afterFailure, guarded]
  exact subset_rfl

theorem waitForReady_owns :
    Owns (waitForReady site role fuel child) owned fun
      | .ok () => owned
      | .error _ => site.afterFailure child owned := by
  induction fuel with
  | zero => exact .stop
  | succ fuel inductionHypothesis =>
      refine .tryWait (fun _ => .pure Site.gone_subset_afterFailure) ?_
        (fun _ guarded => .pure (Site.subset_afterFailure guarded))
      refine .call fun connected _ => ?_
      cases connected with
      | true => exact .pure subset_rfl
      | false =>
          refine .call fun passed _ => ?_
          cases passed with
          | true =>
              exact .bind terminateChild_owns fun _ => .pure Site.gone_subset_afterFailure
          | false => exact inductionHypothesis

theorem waitForWorkerReady_owns :
    Owns (waitForWorkerReady site id fuel child) owned fun
      | .ok true => owned
      | .ok false => owned \ {child}
      | .error _ => site.afterFailure child owned := by
  induction fuel with
  | zero => exact .stop
  | succ fuel inductionHypothesis =>
      have refused : ∀ error : ServiceError,
          Owns (do
            terminateChild fuel child
            return (.error error : Except ServiceError Bool)) owned fun
              | .ok true => owned
              | .ok false => owned \ {child}
              | .error _ => site.afterFailure child owned :=
        fun _ => .bind terminateChild_owns fun _ => .pure Site.gone_subset_afterFailure
      refine .call fun draining _ => ?_
      cases draining with
      | true => exact .bind terminateChild_owns fun _ => .pure subset_rfl
      | false =>
          refine .tryWait (fun _ => .pure Site.gone_subset_afterFailure) ?_
            (fun _ guarded => .pure (Site.subset_afterFailure guarded))
          refine .call fun readiness _ => ?_
          cases failure : Readiness.error readiness with
          | some error =>
              simp only
              exact refused error
          | none =>
              simp only
              split
              · refine .call fun finished _ => ?_
                cases finished with
                | ok value => exact .pure subset_rfl
                | error error => exact refused error
              · refine .call fun passed _ => ?_
                cases passed with
                | true => exact refused _
                | false => exact inductionHypothesis

/-! ## The pool of workers -/

theorem spawnAttached_owns : Owns (spawnAttached fuel id) owned (withSpawned owned) := by
  refine .bind spawnChild_owns fun spawned => ?_
  cases spawned with
  | error error => exact .pure subset_rfl
  | ok child =>
      refine .call fun attached _ => ?_
      cases attached with
      | ok value => exact .pure subset_rfl
      | error error =>
          refine .bind terminateChild_owns fun _ => .pure ?_
          intro other member
          simp [childrenAfter, withSpawned] at member ⊢
          tauto

/-- The children of a pool. -/
def pool (workers : List ManagedWorker) : Set ChildId :=
  among (workers.map ManagedWorker.child)

/-- The children of the slots that still boot. -/
def slots (booting : List BootSlot) : Set ChildId :=
  among (booting.map BootSlot.child)

theorem mem_pool {workers : List ManagedWorker} :
    child ∈ pool workers ↔ ∃ worker ∈ workers, worker.child = child :=
  List.mem_map

@[simp] theorem pool_nil : pool [] = ∅ :=
  among_nil

@[simp] theorem slots_nil : slots [] = ∅ :=
  among_nil

@[simp] theorem pool_append (first second : List ManagedWorker) :
    pool (first ++ second) = pool first ∪ pool second := by
  ext child
  simp [pool]

@[simp] theorem pool_cons (worker : ManagedWorker) (rest : List ManagedWorker) :
    pool (worker :: rest) = insert worker.child (pool rest) := by
  ext child
  simp [pool]

@[simp] theorem slots_append (first second : List BootSlot) :
    slots (first ++ second) = slots first ∪ slots second := by
  ext child
  simp [slots]

@[simp] theorem slots_cons (slot : BootSlot) (rest : List BootSlot) :
    slots (slot :: rest) = insert slot.child (slots rest) := by
  ext child
  simp [slots]

@[simp] theorem pool_inSlotOrder (ready : List ManagedWorker) :
    pool (inSlotOrder ready) = pool ready := by
  ext child
  simp [pool, inSlotOrder]

/-- The children that stand after a boot that may have been called off. -/
def bootedPool : Except ServiceError (Option (List ManagedWorker)) → Set ChildId
  | .ok (some workers) => pool workers
  | .ok none => ∅
  | .error _ => ∅

theorem terminateWorkers_owns {workers : List ManagedWorker} :
    Owns (terminateWorkers fuel workers) owned fun _ => owned \ pool workers :=
  terminateAll_owns

theorem spawnReadyWorker_owns {generation : Nat} :
    Owns (spawnReadyWorker fuel id generation) owned fun
      | .ok (some worker) => insert worker.child owned
      | .ok none => owned
      | .error _ => owned := by
  have dropped : ∀ child : ChildId, insert child owned \ {child} ⊆ owned := by
    rintro child other ⟨rfl | member, notChild⟩
    · exact absurd rfl notChild
    · exact member
  refine .bind spawnAttached_owns fun attached => ?_
  cases attached with
  | error error => exact .pure subset_rfl
  | ok child =>
      refine .bind waitForWorkerReady_owns fun ready => ?_
      match ready with
      | .error error => exact .pure (dropped child)
      | .ok false => exact .pure (dropped child)
      | .ok true => exact .pure subset_rfl

theorem spawnSequential_owns {ids : List Nat} {workers : List ManagedWorker} :
    Owns (spawnSequential fuel ids workers) (pool workers) bootedPool := by
  induction ids generalizing workers with
  | nil => exact .pure subset_rfl
  | cons id rest inductionHypothesis =>
      have cleared : ∀ result, bootedPool result = ∅ → Owns (do
          terminateWorkers fuel workers
          return result) (pool workers) bootedPool := by
        intro result isEmpty
        refine .bind terminateWorkers_owns fun _ => .pure ?_
        rw [isEmpty, Set.sdiff_self]
      refine .bind spawnReadyWorker_owns fun spawned => ?_
      match spawned with
      | .ok (some worker) =>
          refine inductionHypothesis.mono ?_ fun _ => subset_rfl
          intro child member
          simpa [or_comm] using member
      | .ok none => exact cleared _ rfl
      | .error error => exact cleared _ rfl

theorem failBoot_owns {booting : List BootSlot} {ready : List ManagedWorker}
    (known : owned ⊆ slots booting ∪ pool ready) :
    Owns (failBoot fuel booting ready) owned fun _ => ∅ := by
  refine .bind terminateAll_owns fun _ => terminateWorkers_owns.mono subset_rfl fun _ => ?_
  rintro child ⟨⟨isOwned, notSlot⟩, notReady⟩
  rw [pool_inSlotOrder] at notReady
  exact (known isOwned).elim notSlot notReady

theorem spawnBatch_owns {ids : List Nat} {booting : List BootSlot} :
    Owns (spawnBatch fuel ids booting) (slots booting) fun
      | .ok booting => slots booting
      | .error _ => ∅ := by
  induction ids generalizing booting with
  | nil => exact .pure subset_rfl
  | cons id rest inductionHypothesis =>
      refine .bind spawnAttached_owns fun attached => ?_
      cases attached with
      | ok child =>
          refine inductionHypothesis.mono ?_ fun _ => subset_rfl
          intro other member
          simpa [withSpawned, or_comm] using member
      | error error =>
          exact .bind (failBoot_owns (by simp [withSpawned])) fun _ => .pure subset_rfl

theorem scanBooting_owns {passed rest : List BootSlot} {ready : List ManagedWorker}
    {progressed : Bool} :
    Owns (scanBooting fuel passed rest ready progressed) (slots (passed ++ rest) ∪ pool ready) fun
      | .ok scanned => slots scanned.booting ∪ pool scanned.ready
      | .error _ => ∅ := by
  induction rest generalizing passed ready progressed with
  | nil => exact .pure (by simp)
  | cons slot rest inductionHypothesis =>
      have failed : ∀ (left : Set ChildId) (error : ServiceError),
          left ⊆ slots (passed ++ slot :: rest) ∪ pool ready → Owns (do
            failBoot fuel (passed ++ slot :: rest) ready
            return (.error error : Except ServiceError BootProgress)) left fun
              | .ok scanned => slots scanned.booting ∪ pool scanned.ready
              | .error _ => ∅ :=
        fun _ _ known => .bind (failBoot_owns known) fun _ => .pure subset_rfl
      refine .tryWait (fun _ => failed _ _ Set.sdiff_subset) ?_
        (fun _ _ => failed _ _ subset_rfl)
      refine .call fun readiness _ => ?_
      cases failure : Readiness.error readiness with
      | some error =>
          simp only
          exact failed _ error subset_rfl
      | none =>
          simp only
          split
          · refine .call fun finished _ => ?_
            cases finished with
            | ok value =>
                refine inductionHypothesis.mono ?_ fun _ => subset_rfl
                intro child member
                simp [childrenAfter] at member ⊢
                tauto
            | error error => exact failed _ error subset_rfl
          · refine inductionHypothesis.mono ?_ fun _ => subset_rfl
            intro child member
            simpa [childrenAfter] using member

theorem bootBatch_owns {booting : List BootSlot} {ready : List ManagedWorker} :
    Owns (bootBatch fuel booting ready) (slots booting ∪ pool ready) bootedPool := by
  induction fuel generalizing booting ready with
  | zero => exact .stop
  | succ fuel inductionHypothesis =>
      unfold bootBatch
      split
      · rename_i booted
        refine .pure ?_
        rw [List.isEmpty_iff.mp booted]
        simp [bootedPool]
      · refine .call fun draining _ => ?_
        cases draining with
        | true => exact .bind (failBoot_owns subset_rfl) fun _ => .pure subset_rfl
        | false =>
            refine .bind scanBooting_owns fun result => ?_
            cases result with
            | error error => exact .pure subset_rfl
            | ok scanned =>
                cases moved : scanned.progressed with
                | true => simpa [moved] using inductionHypothesis
                | false =>
                    simp only [moved]
                    refine .call fun passed _ => ?_
                    cases passed with
                    | true =>
                        exact .bind (failBoot_owns subset_rfl) fun _ => .pure subset_rfl
                    | false => exact inductionHypothesis

theorem spawnWorkerPool_owns : Owns (spawnWorkerPool fuel config) ∅ bootedPool := by
  unfold spawnWorkerPool
  split
  · refine .bind (spawnBatch_owns.mono (Set.empty_subset _) fun _ => subset_rfl) fun batch => ?_
    cases batch with
    | error error => exact .pure subset_rfl
    | ok booting =>
        refine bootBatch_owns.mono ?_ fun _ => subset_rfl
        exact Set.subset_union_left
  · exact spawnSequential_owns.mono (Set.empty_subset _) fun _ => subset_rfl

/-! ## Sidecars and restarts -/

theorem terminateOptional_owns {optional : Option ChildId} :
    Owns (terminateOptional fuel optional) owned fun _ => owned \ among optional.toList :=
  terminateAll_owns

theorem spawnSidecar_owns {bin bind : Option String} {bindName : String} :
    Owns (spawnSidecar fuel role bin bind bindName) owned fun
      | .ok sidecar => owned ∪ among sidecar.toList
      | .error _ => owned := by
  match bin, bind with
  | none, _ => exact .pure (by simp)
  | some _, none => exact .pure subset_rfl
  | some _, some _ =>
      refine .bind spawnChild_owns fun spawned => ?_
      cases spawned with
      | error error => exact .pure subset_rfl
      | ok child =>
          refine .bind waitForReady_owns fun ready => ?_
          cases ready with
          | error error =>
              refine .pure fun other member => ?_
              simp [Site.afterFailure, Site.unguarded, withSpawned] at member ⊢
              tauto
          | ok value =>
              refine .pure fun other member => ?_
              simp [withSpawned] at member ⊢
              tauto

/-- A worker that could not be restarted leaves no child of its own. -/
theorem restartWorker_owns {worker : ManagedWorker} :
    Owns (restartWorker fuel worker) owned fun
      | .ok restarted => insert restarted.child owned
      | .error _ => owned := by
  refine .call fun draining _ => ?_
  cases draining with
  | true => exact .pure (Set.subset_insert _ _)
  | false =>
      refine .call fun recent _ => .call fun slept _ => ?_
      cases slept with
      | false => exact .pure (Set.subset_insert _ _)
      | true =>
          refine .bind spawnAttached_owns fun attached => ?_
          cases attached with
          | error error => exact .pure subset_rfl
          | ok child =>
              refine .bind waitForWorkerReady_owns fun ready => ?_
              match ready with
              | .error error =>
                  refine .bind terminateChild_owns fun _ => .pure fun other member => ?_
                  simp [Site.afterFailure, Site.unguarded, withSpawned, childrenAfter] at member ⊢
                  tauto
              | .ok false =>
                  refine .pure fun other member => ?_
                  simp [withSpawned, childrenAfter] at member ⊢
                  tauto
              | .ok true => exact .pure subset_rfl

theorem tryNewPair_owns {tries : Nat} {edge : ChildId} :
    Owns (tryNewPair fuel tries edge) owned fun
      | (.booted, edge) => insert edge owned
      | _ => owned := by
  induction tries generalizing edge with
  | zero => exact .pure subset_rfl
  | succ tries inductionHypothesis =>
      refine .call fun draining _ => ?_
      cases draining with
      | true => exact .pure subset_rfl
      | false =>
          refine .bind spawnChild_owns fun spawned => ?_
          cases spawned with
          | error error => exact .pure subset_rfl
          | ok edge =>
              refine .bind waitForReady_owns fun ready => ?_
              cases ready with
              | ok value => exact .pure subset_rfl
              | error error =>
                  refine .bind terminateChild_owns fun _ =>
                    inductionHypothesis.mono ?_ fun _ => subset_rfl
                  intro other member
                  simp [Site.afterFailure, Site.unguarded, withSpawned, childrenAfter] at member ⊢
                  tauto

/-- The owned children beside the edge in the slot. The boot takes that edge down when the
restart has failed; the monitor does not. -/
def Caller.holding (caller : Caller) (owned : Set ChildId) : Restarted → Set ChildId
  | (.ok (), edge) => insert edge owned
  | (.error _, edge) => if caller = .boot then insert edge owned else owned

theorem Caller.subset_holding (caller : Caller) (restarted : Restarted) :
    owned ⊆ caller.holding owned restarted := by
  obtain ⟨_ | ⟨⟩, edge⟩ := restarted
  · cases caller
    · exact Set.subset_insert _ _
    · exact fun _ member => member
  · exact Set.subset_insert _ _

theorem rollBackEdge_owns {caller : Caller} {edge : ChildId} :
    Owns (rollBackEdge fuel caller edge) owned (caller.holding owned) := by
  refine .call fun now _ => .call fun rolledBack _ => ?_
  cases rolledBack with
  | error message => exact .pure (Caller.subset_holding _ _)
  | ok value =>
      refine .call fun draining _ => ?_
      cases draining with
      | true => exact .pure (Caller.subset_holding _ _)
      | false =>
          refine .bind spawnChild_owns fun spawned => ?_
          cases spawned with
          | error error => exact .pure (Caller.subset_holding _ _)
          | ok edge =>
              refine .bind waitForReady_owns fun ready => .pure ?_
              cases ready with
              | ok value => exact subset_rfl
              | error error =>
                  intro other member
                  cases caller <;>
                    simp [Site.afterFailure, Site.unguarded, withSpawned, childrenAfter,
                      Caller.holding] at member ⊢ <;> tauto

/-- The marker is consumed, with the edge in the slot. -/
theorem consume_owns {caller : Caller} {edge : ChildId} :
    Owns (do
      let consumed : Except String Unit ← ask (.consumeReloadMarker caller)
      return ((consumed.mapError .acmeReload, edge) : Restarted)) (insert edge owned)
      (caller.holding owned) := by
  refine .call fun consumed isTolerated => .pure ?_
  match caller, consumed, isTolerated with
  | _, .ok (), _ => exact fun _ member => member
  | .boot, .error _, _ => exact fun _ member => member

theorem restartEdge_owns {caller : Caller} {edge : ChildId} :
    Owns (restartEdge fuel caller edge) owned (caller.holding (owned \ {edge})) := by
  refine .bind drainEdgeForReload_owns fun _ => .bind tryNewPair_owns fun attempt => ?_
  match attempt with
  | (.returned result, edge) => exact .pure (Caller.subset_holding _ _)
  | (.booted, edge) => exact consume_owns
  | (.exhausted, edge) => exact rollBackEdge_owns

theorem reconcileBootMarker_owns {edge : ChildId} {bootEpoch : Nat} :
    Owns (reconcileBootMarker fuel edge bootEpoch) owned
      (Caller.boot.holding (owned \ {edge})) := by
  have kept : owned ⊆ insert edge (owned \ {edge}) := by
    intro child member
    simp
    tauto
  refine .call fun marker _ => ?_
  match marker with
  | .error message => exact .pure kept
  | .ok none => exact .pure kept
  | .ok (some updatedAt) =>
      simp only
      split
      · exact consume_owns.mono kept fun _ => subset_rfl
      · exact restartEdge_owns

theorem maybeReloadEdge_owns {edge : ChildId} :
    Owns (maybeReloadEdge fuel edge) owned (Caller.renewal.holding (owned \ {edge})) := by
  refine .call fun marker isTolerated => ?_
  match marker, isTolerated with
  | .ok none, _ =>
      refine .pure fun child member => ?_
      simp [Caller.holding, childrenAfter] at member ⊢
      tauto
  | .ok (some updatedAt), _ => exact restartEdge_owns

/-! ## The monitor -/

/-- The children under the monitor that are not workers. -/
def Monitored.others (monitored : Monitored) : Set ChildId :=
  insert monitored.edge (among monitored.cable.toList ∪ among monitored.grpc.toList ∪
    among monitored.renew.toList)

def Monitored.children (monitored : Monitored) : Set ChildId :=
  monitored.others ∪ pool monitored.workers

theorem Monitored.mem_children {monitored : Monitored} :
    child ∈ monitored.children ↔ child = monitored.edge ∨ child ∈ monitored.cable.toList ∨
      child ∈ monitored.grpc.toList ∨ child ∈ monitored.renew.toList ∨
      child ∈ pool monitored.workers := by
  simp [Monitored.children, Monitored.others, or_assoc]

theorem sidecarExited_owns {sidecar : Option ChildId} :
    Owns (sidecarExited sidecar) owned fun
      | .ok true => owned \ among sidecar.toList
      | .ok false => owned
      | .error _ => ∅ := by
  cases sidecar with
  | none => exact .pure subset_rfl
  | some child =>
      refine .tryWait (fun _ => .pure ?_) (.pure subset_rfl) (fun _ guarded => nomatch guarded)
      intro other member
      simpa using member

theorem checkWorkers_owns {others : Set ChildId} {passed rest : List ManagedWorker} :
    Owns (checkWorkers fuel passed rest) (others ∪ pool (passed ++ rest)) fun
      | .checked workers => others ∪ pool workers
      | .waitFailed _ => ∅
      | .restartFailed _ => others ∪ pool (passed ++ rest) := by
  induction rest generalizing passed with
  | nil => exact .pure (by simp)
  | cons worker rest inductionHypothesis =>
      refine .tryWait (fun _ => ?_) ?_ (fun _ guarded => nomatch guarded)
      · refine .bind restartWorker_owns fun result => ?_
        cases result with
        | error error => exact .pure Set.sdiff_subset
        | ok restarted =>
            refine .pure fun child member => ?_
            simp at member ⊢
            tauto
      · have moved := @inductionHypothesis (passed ++ [worker])
        rwa [List.append_assoc] at moved

theorem renewReaped_owns {renew : Option ChildId} :
    Owns (renewReaped fuel renew) owned fun
      | .ok true => owned \ among renew.toList
      | .ok false => owned
      | .error _ => ∅ := by
  cases renew with
  | none => exact .pure subset_rfl
  | some child =>
      have single : owned \ {child} ⊆ owned \ among (some child).toList := by
        intro other member
        simpa using member
      refine .tryWait (fun _ => .pure single) ?_ (fun _ guarded => nomatch guarded)
      refine .call fun passed _ => ?_
      cases passed with
      | true => exact .bind terminateChild_owns fun _ => .pure single
      | false => exact .pure subset_rfl

theorem startRenewal_owns {monitored : Monitored} :
    Owns (startRenewal monitored) monitored.children Monitored.children := by
  unfold startRenewal
  split
  · exact .pure subset_rfl
  · refine .call fun due _ => ?_
    cases due with
    | false => exact .pure subset_rfl
    | true =>
        refine .call fun draining _ => ?_
        cases draining with
        | true => exact .pure subset_rfl
        | false =>
            refine .bind spawnChild_owns fun spawned => ?_
            cases spawned with
            | error error => exact .pure subset_rfl
            | ok child =>
                refine .pure fun other member => ?_
                simp_all [withSpawned, childrenAfter, Monitored.mem_children]
                tauto

theorem superviseRenewal_owns {monitored : Monitored} :
    Owns (superviseRenewal fuel monitored) monitored.children fun
      | .ok monitored => monitored.children
      | .error _ => ∅ := by
  refine .bind renewReaped_owns fun reaped => ?_
  match reaped with
  | .error error => exact .pure (Set.empty_subset _)
  | .ok false => exact .bind startRenewal_owns fun _ => .pure subset_rfl
  | .ok true =>
      refine .bind maybeReloadEdge_owns fun (reloaded, edge) => ?_
      cases reloaded with
      | ok value =>
          refine .pure fun child member => ?_
          simp [Caller.holding, Monitored.mem_children] at member ⊢
          tauto
      | error error =>
          refine .bind terminateOptional_owns fun _ => .bind terminateOptional_owns fun _ =>
            .bind terminateWorkers_owns fun _ => .pure fun child member => ?_
          simp [Caller.holding, Monitored.mem_children] at member ⊢
          tauto

/-- A pass over the workers, beside the other children. -/
theorem monitoredWorkers_owns {monitored : Monitored} :
    Owns (checkWorkers fuel [] monitored.workers) monitored.children fun
      | .checked workers => { monitored with workers := workers }.children
      | .waitFailed _ => ∅
      | .restartFailed _ => monitored.children :=
  checkWorkers_owns.mono subset_rfl fun
    | .checked _ => subset_rfl
    | .waitFailed _ => subset_rfl
    | .restartFailed _ => subset_rfl

theorem monitorChildren_owns {monitored : Monitored} :
    Owns (monitorChildren config fuel monitored) monitored.children fun _ => ∅ := by
  induction fuel generalizing monitored with
  | zero => exact .stop
  | succ fuel inductionHypothesis =>
      refine .call fun draining _ => ?_
      cases draining with
      | true =>
          refine .bind terminateOptional_owns fun _ => .bind drainService_owns fun _ =>
            .pure fun child member => ?_
          simp [Monitored.mem_children, mem_pool, childrenAfter] at member
          grind
      | false =>
          refine .tryWait (fun _ => ?_) ?_ (fun _ guarded => nomatch guarded)
          · refine .bind terminateOptional_owns fun _ => .bind terminateOptional_owns fun _ =>
              .bind terminateOptional_owns fun _ => .bind terminateWorkers_owns fun _ =>
                .pure fun child member => ?_
            simp [Monitored.mem_children, childrenAfter] at member
            tauto
          refine .bind sidecarExited_owns fun cableExited => ?_
          match cableExited with
          | .error error => exact .pure (Set.empty_subset _)
          | .ok true =>
              refine .bind terminateOptional_owns fun _ => .bind terminateChild_owns fun _ =>
                .bind terminateOptional_owns fun _ => .bind terminateWorkers_owns fun _ =>
                  .pure fun child member => ?_
              simp [Monitored.mem_children, childrenAfter] at member
              tauto
          | .ok false =>
              refine .bind sidecarExited_owns fun grpcExited => ?_
              match grpcExited with
              | .error error => exact .pure (Set.empty_subset _)
              | .ok true =>
                  refine .bind terminateOptional_owns fun _ => .bind terminateChild_owns fun _ =>
                    .bind terminateOptional_owns fun _ => .bind terminateWorkers_owns fun _ =>
                      .pure fun child member => ?_
                  simp [Monitored.mem_children, childrenAfter] at member
                  tauto
              | .ok false =>
                  refine .bind monitoredWorkers_owns fun checked => ?_
                  cases checked with
                  | waitFailed source => exact .pure (Set.empty_subset _)
                  | restartFailed error =>
                      refine .bind terminateOptional_owns fun _ => .bind terminateChild_owns fun _ =>
                        .bind terminateOptional_owns fun _ => .bind terminateOptional_owns fun _ =>
                          .bind terminateWorkers_owns fun _ => .pure fun child member => ?_
                      simp [Monitored.mem_children] at member
                      tauto
                  | checked workers =>
                      simp only
                      split
                      · refine .bind superviseRenewal_owns fun supervised => ?_
                        cases supervised with
                        | error error => exact .pure (Set.empty_subset _)
                        | ok monitored => exact inductionHypothesis
                      · exact inductionHypothesis

/-! ## The run -/

theorem abandonBoot_owns {edge cable grpc : Option ChildId} {workers : List ManagedWorker}
    {error : ServiceError}
    (known : owned ⊆ among edge.toList ∪ among grpc.toList ∪ among cable.toList ∪ pool workers) :
    Owns (abandonBoot fuel edge cable grpc workers error) owned fun _ => ∅ := by
  refine .bind terminateOptional_owns fun _ => .bind terminateOptional_owns fun _ =>
    .bind terminateOptional_owns fun _ => .bind terminateWorkers_owns fun _ =>
      .pure fun child member => ?_
  have isKnown := @known child
  simp at member isKnown
  tauto

theorem runEdge_owns {workers : List ManagedWorker} {cable grpc : Option ChildId} :
    Owns (runEdge fuel config workers cable grpc)
      (pool workers ∪ among cable.toList ∪ among grpc.toList) fun _ => ∅ := by
  have monitors : ∀ {left : Set ChildId} {edge : ChildId},
      left ⊆ insert edge (pool workers ∪ among cable.toList ∪ among grpc.toList) →
      Owns (monitorChildren config fuel ⟨workers, edge, cable, grpc, none⟩) left fun _ => ∅ := by
    intro left edge known
    refine monitorChildren_owns.mono (fun child member => ?_) fun _ => subset_rfl
    have isKnown := known member
    simp [Monitored.mem_children] at isKnown ⊢
    tauto
  have abandons : ∀ {left : Set ChildId} {edge : ChildId} {error : ServiceError},
      left ⊆ insert edge (pool workers ∪ among cable.toList ∪ among grpc.toList) →
      Owns (abandonBoot fuel (some edge) cable grpc workers error) left fun _ => ∅ := by
    intro left edge error known
    refine abandonBoot_owns fun child member => ?_
    have isKnown := known member
    simp at isKnown ⊢
    tauto
  refine .call fun bootEpoch _ => .bind spawnChild_owns fun spawned => ?_
  cases spawned with
  | error error =>
      refine abandonBoot_owns fun child member => ?_
      simp [withSpawned, childrenAfter] at member ⊢
      tauto
  | ok first =>
      refine .bind waitForReady_owns fun ready => ?_
      cases ready with
      | error error => exact abandons subset_rfl
      | ok value =>
          simp only
          split
          · refine .bind reconcileBootMarker_owns fun (reconciled, edge) => ?_
            have known : ∀ base : Set ChildId, Caller.boot.holding (insert first base \ {first})
                (reconciled, edge) ⊆ insert edge base := by
              intro base child member
              cases reconciled <;> simp [Caller.holding] at member ⊢ <;> tauto
            cases reconciled with
            | error error => exact abandons (known _)
            | ok value => exact monitors (known _)
          · exact monitors subset_rfl

theorem run_owns : Owns (run fuel config) ∅ fun _ => ∅ := by
  refine .bind spawnWorkerPool_owns fun booted => ?_
  match booted with
  | .error error => exact .pure subset_rfl
  | .ok none => exact .pure subset_rfl
  | .ok (some workers) =>
      refine .bind spawnSidecar_owns fun cable => ?_
      cases cable with
      | error error => exact abandonBoot_owns (by simp [bootedPool])
      | ok cable =>
          refine .bind spawnSidecar_owns fun grpc => ?_
          cases grpc with
          | error error => exact abandonBoot_owns (by simp [bootedPool, Set.union_comm])
          | ok grpc => exact runEdge_owns

end

/-! ## Orphans -/

theorem SystemStep.subset_childrenAfter {alive after : Set ChildId} {op : ServiceOp}
    {answer : ServiceAnswer op} (stepped : SystemStep alive after op answer) :
    after ⊆ childrenAfter alive op answer := by
  cases op with
  | spawn role =>
      cases answer with
      | ok child => exact stepped.2
      | error source => exact stepped
  | tryWait site child =>
      cases answer with
      | exited success => exact stepped
      | running => exact stepped.2
      | failed source => exact stepped
  | kill child => exact stepped
  | wait child => exact stepped.trans Set.sdiff_subset
  | _ => exact stepped

/-- Without a failure that is not tolerated, the watch knows all children that live. -/
theorem watch_covers {alive left known : Set ChildId} {events : List ServiceEvent}
    (system : SystemRun alive events left)
    (isTolerated : ∀ event ∈ events, tolerated event.op event.answer = true)
    (covers : alive ⊆ known) :
    ∃ live, leaving.watch (some known) events = some live ∧ left ⊆ live := by
  induction system generalizing known with
  | done alive => exact ⟨known, rfl, covers⟩
  | @step alive middle left op answer events first rest inductionHypothesis =>
      obtain ⟨here, later⟩ := List.forall_mem_cons.mp isTolerated
      have stepped : middle ⊆ childrenAfter known op answer :=
        first.subset_childrenAfter.trans (childrenAfter_mono covers op answer)
      have moved : leaving.after (some known) op answer =
          some (childrenAfter known op answer) := if_pos here
      obtain ⟨live, watched, within⟩ := inductionHypothesis later stepped
      refine ⟨live, ?_, within⟩
      rw [← watched, Contract.watch, List.foldl_cons]
      exact congrArg (fun state => leaving.watch state events) moved

/-- A run that has returned leaves no child behind, unless `try_wait` or the reload marker failed
where the supervisor has no teardown. -/
theorem run_leaves_no_orphan (fuel : Nat) (config : ServiceConfig) (events : List ServiceEvent)
    (result : Except ServiceError Unit) (left : Set ChildId)
    (completes : (run fuel config).Completes events result)
    (system : SystemRun ∅ events left)
    (isTolerated : ∀ event ∈ events, tolerated event.op event.answer = true) : left = ∅ := by
  obtain ⟨live, watched, within⟩ := watch_covers system isTolerated subset_rfl
  have known := (run_owns (some ∅) (by simp [Within])).of_completes completes
  rw [watched] at known
  exact Set.subset_empty_iff.mp (within.trans (known live rfl))

theorem SystemRun.idle {alive left : Set ChildId} {op : ServiceOp} {answer : ServiceAnswer op}
    {events : List ServiceEvent} (possible : SystemStep alive alive op answer)
    (rest : SystemRun alive events left) : SystemRun alive (⟨op, answer⟩ :: events) left :=
  .step possible rest

/-- A worker, a sidecar and a renewal. -/
def renewingService : ServiceConfig where
  workers := 1
  isAsync := false
  cableBin := some "cable"
  cableBind := some "127.0.0.1:9300"
  grpcBin := none
  grpcBind := none
  acmeRenew := true

def bootedService : List ServiceEvent :=
  [⟨.spawn (.worker 0), .ok 1⟩, ⟨.attachReadiness 1, .ok ()⟩, ⟨.shutdownRequested, false⟩,
    ⟨.tryWait .sequentialBoot 1, .running⟩, ⟨.receiveReadiness 1, .ready⟩,
    ⟨.finishReady 0, .ok ()⟩, ⟨.spawn .cable, .ok 2⟩, ⟨.tryWait .sidecarReady 2, .running⟩,
    ⟨.connect .cable, true⟩, ⟨.nowEpochSeconds, (100 : Nat)⟩, ⟨.spawn .edge, .ok 3⟩,
    ⟨.tryWait .edgeBoot 3, .running⟩, ⟨.connect .edge, true⟩,
    ⟨.reloadMarkerUpdatedAt .boot, .ok none⟩]

/-- A pass that spawns a renewal, and one that reaps it. -/
def monitoredService : List ServiceEvent :=
  [⟨.shutdownRequested, false⟩, ⟨.tryWait .monitor 3, .running⟩, ⟨.tryWait .monitor 2, .running⟩,
    ⟨.tryWait .monitor 1, .running⟩, ⟨.renewalDue, true⟩, ⟨.shutdownRequested, false⟩,
    ⟨.spawn .renew, .ok 4⟩,
    ⟨.shutdownRequested, false⟩, ⟨.tryWait .monitor 3, .running⟩, ⟨.tryWait .monitor 2, .running⟩,
    ⟨.tryWait .monitor 1, .running⟩, ⟨.tryWait .monitor 4, .exited true⟩,
    ⟨.reloadMarkerUpdatedAt .renewal, .ok none⟩]

/-- The drain: edge and sidecar exit in time, and the worker has to be killed. -/
def drainedService : List ServiceEvent :=
  [⟨.shutdownRequested, true⟩, ⟨.tryWait .teardown 3, .running⟩, ⟨.signalGroup 3 .term, ()⟩,
    ⟨.tryWait .teardown 3, .exited true⟩, ⟨.tryWait .teardown 2, .running⟩,
    ⟨.signalGroup 2 .term, ()⟩, ⟨.tryWait .teardown 2, .exited true⟩,
    ⟨.tryWait .teardown 1, .running⟩, ⟨.signalGroup 1 .term, ()⟩, ⟨.tryWait .teardown 1, .running⟩,
    ⟨.secondSignal, true⟩, ⟨.tryWait .teardown 1, .running⟩, ⟨.tryWait .teardown 1, .running⟩,
    ⟨.signalGroup 1 .kill, ()⟩, ⟨.kill 1, ()⟩, ⟨.wait 1, ()⟩]

/-- From the boot to the drain. -/
def wholeService : List ServiceEvent :=
  bootedService ++ (monitoredService ++ drainedService)

theorem drained_service_leaves_no_orphan :
    (run 4 renewingService).Completes wholeService (.ok ()) ∧
      SystemRun ∅ wholeService ∅ ∧
      ∀ left, SystemRun ∅ wholeService left → left = ∅ := by
  have completes : (run 4 renewingService).Completes wholeService (.ok ()) := by
    iterate 43 refine .step _ ?_
    exact .pure _
  have drained : SystemRun {1, 2, 3} drainedService ∅ := by
    iterate 3 refine .idle (by simp [SystemStep]) ?_
    refine .step (show SystemStep {1, 2, 3} {1, 2} (.tryWait .teardown 3) (.exited true) by
      simp [SystemStep, Set.subset_def]) ?_
    iterate 2 refine .idle (by simp [SystemStep]) ?_
    refine .step (show SystemStep {1, 2} {1} (.tryWait .teardown 2) (.exited true) by
      simp [SystemStep]) ?_
    iterate 7 refine .idle (by simp [SystemStep]) ?_
    refine .step (show SystemStep {1} ∅ (.kill 1) () by simp [SystemStep]) ?_
    exact .idle (by simp [SystemStep]) (.done ∅)
  have monitored : SystemRun {1, 2, 3} (monitoredService ++ drainedService) ∅ := by
    iterate 6 refine .idle (by simp [SystemStep]) ?_
    refine .step (show SystemStep {1, 2, 3} {1, 2, 3, 4} (.spawn .renew) (.ok 4) by
      simp [SystemStep, Set.subset_def]) ?_
    iterate 4 refine .idle (by simp [SystemStep]) ?_
    refine .step (show SystemStep {1, 2, 3, 4} {1, 2, 3} (.tryWait .monitor 4) (.exited true) by
      simp [SystemStep, Set.subset_def]) ?_
    exact .idle (by simp [SystemStep]) drained
  have system : SystemRun ∅ wholeService ∅ := by
    refine .step (show SystemStep ∅ {1} (.spawn (.worker 0)) (.ok 1) by simp [SystemStep]) ?_
    iterate 5 refine .idle (by simp [SystemStep]) ?_
    refine .step (show SystemStep {1} {1, 2} (.spawn .cable) (.ok 2) by
      simp [SystemStep, Set.subset_def]) ?_
    iterate 3 refine .idle (by simp [SystemStep]) ?_
    refine .step (show SystemStep {1, 2} {1, 2, 3} (.spawn .edge) (.ok 3) by
      simp [SystemStep, Set.subset_def]) ?_
    iterate 3 refine .idle (by simp [SystemStep]) ?_
    exact monitored
  exact ⟨completes, system, fun left ran =>
    run_leaves_no_orphan 4 _ wholeService _ left completes ran (by decide)⟩

/-- One worker and a renewal. When the renewal has exited, the reload marker cannot be read. -/
def unreadableMarker : List ServiceEvent :=
  [⟨.spawn (.worker 0), .ok 1⟩, ⟨.attachReadiness 1, .ok ()⟩, ⟨.shutdownRequested, false⟩,
    ⟨.tryWait .sequentialBoot 1, .running⟩, ⟨.receiveReadiness 1, .ready⟩,
    ⟨.finishReady 0, .ok ()⟩, ⟨.nowEpochSeconds, (100 : Nat)⟩, ⟨.spawn .edge, .ok 2⟩,
    ⟨.tryWait .edgeBoot 2, .running⟩, ⟨.connect .edge, true⟩,
    ⟨.reloadMarkerUpdatedAt .boot, .ok none⟩,
    ⟨.shutdownRequested, false⟩, ⟨.tryWait .monitor 2, .running⟩, ⟨.tryWait .monitor 1, .running⟩,
    ⟨.renewalDue, true⟩, ⟨.shutdownRequested, false⟩, ⟨.spawn .renew, .ok 3⟩,
    ⟨.shutdownRequested, false⟩, ⟨.tryWait .monitor 2, .running⟩, ⟨.tryWait .monitor 1, .running⟩,
    ⟨.tryWait .monitor 3, .exited true⟩,
    ⟨.reloadMarkerUpdatedAt .renewal, .error "permission denied"⟩,
    ⟨.tryWait .teardown 1, .running⟩, ⟨.signalGroup 1 .term, ()⟩,
    ⟨.tryWait .teardown 1, .exited true⟩, ⟨.signalGroup 1 .kill, ()⟩]

/-- The run returns, and the edge lives on. -/
theorem unreadable_marker_orphans_edge :
    (run 4 ⟨1, false, none, none, none, none, true⟩).Completes unreadableMarker
      (.error (.acmeReload "permission denied")) ∧ SystemRun ∅ unreadableMarker {2} := by
  refine ⟨?_, ?_⟩
  · exact .step _ <| .step _ <| .step _ <| .step _ <| .step _ <| .step _ <| .step _ <| .step _ <|
      .step _ <| .step _ <| .step _ <| .step _ <| .step _ <| .step _ <| .step _ <| .step _ <|
      .step _ <| .step _ <| .step _ <| .step _ <| .step _ <| .step _ <| .step _ <| .step _ <|
      .step _ <| .step _ <| .pure _
  · refine .step (show SystemStep ∅ {1} (.spawn (.worker 0)) (.ok 1) by simp [SystemStep]) ?_
    iterate 6 refine .idle (by simp [SystemStep]) ?_
    refine .step (show SystemStep {1} {1, 2} (.spawn .edge) (.ok 2) by
      simp [SystemStep, Set.subset_def]) ?_
    iterate 8 refine .idle (by simp [SystemStep]) ?_
    refine .step (show SystemStep {1, 2} {1, 2, 3} (.spawn .renew) (.ok 3) by
      simp [SystemStep, Set.subset_def]) ?_
    iterate 3 refine .idle (by simp [SystemStep]) ?_
    refine .step (show SystemStep {1, 2, 3} {1, 2} (.tryWait .monitor 3) (.exited true) by
      simp [SystemStep, Set.subset_def]) ?_
    iterate 3 refine .idle (by simp [SystemStep]) ?_
    refine .step (show SystemStep {1, 2} {2} (.tryWait .teardown 1) (.exited true) by
      simp [SystemStep]) ?_
    exact .idle (by simp [SystemStep]) (.done {2})

end Oxo.Edge.Supervisor
