import Oxo.Edge.Supervisor.Runner
import Oxo.Foundation.Interleaving

/-!
Contract: what the supervisor knows of its children (`oxo-pingora-edge/src/service.rs`).

Owns: what the system may do with children while the supervisor runs, the failures after which
the supervisor returns without a teardown, the rules for the children that may be alive, and
what the functions that take children down leave of them.

Does not own: grandchildren.
-/

namespace Oxo.Edge.Supervisor

open Oxo.Foundation

/-! ## Children and the system -/

abbrev ServiceEvent := Program.Event ServiceOp ServiceAnswer

/-- What may become of the living children while an operation is performed. They may exit at any
time; a child is reported as it is, and one that is killed does not live on. -/
def SystemStep (alive after : Set ChildId) : (op : ServiceOp) → ServiceAnswer op → Prop
  | .spawn _, .ok child => child ∉ alive ∧ after ⊆ insert child alive
  | .tryWait _ child, .exited _ => after ⊆ alive \ {child}
  | .tryWait _ child, .running => child ∈ alive ∧ after ⊆ alive
  | .kill child, _ => after ⊆ alive \ {child}
  | .wait child, _ => after ⊆ alive \ {child}
  | _, _ => after ⊆ alive

/-- The events of a run, and the children that live on. -/
inductive SystemRun : Set ChildId → List ServiceEvent → Set ChildId → Prop where
  | done (alive : Set ChildId) : SystemRun alive [] alive
  | step {alive middle left : Set ChildId} {op : ServiceOp} {answer : ServiceAnswer op}
      {events : List ServiceEvent} (first : SystemStep alive middle op answer)
      (rest : SystemRun middle events left) : SystemRun alive (⟨op, answer⟩ :: events) left

/-! ## Failures without a teardown -/

/-- Whether the supervisor returns an error of `try_wait` from there as it is. -/
def Site.unguarded : Site → Bool
  | .monitor | .sequentialBoot | .sidecarReady | .rolledBack .renewal => true
  | _ => false

/-- Not an error that `try_wait` or, in a reload after a renewal, the reload marker reports where
the supervisor has no teardown for it. -/
def tolerated : (op : ServiceOp) → ServiceAnswer op → Bool
  | .tryWait site _, .failed _ => !site.unguarded
  | .reloadMarkerUpdatedAt .renewal, .error _ => false
  | .consumeReloadMarker .renewal, .error _ => false
  | _, _ => true

/-! ## Ownership -/

/-- The children that were spawned and neither reported as exited nor killed. -/
def childrenAfter (live : Set ChildId) : (op : ServiceOp) → ServiceAnswer op → Set ChildId
  | .spawn _, .ok child => insert child live
  | .tryWait _ child, .exited _ => live \ {child}
  | .kill child, _ => live \ {child}
  | _, _ => live

/-- The watch knows these children; after a failure that is not tolerated it says nothing more. -/
def leaving : Contract ServiceOp ServiceAnswer (Option (Set ChildId)) where
  allows _ _ := True
  after state op answer :=
    if tolerated op answer then state.map fun live => childrenAfter live op answer else none

theorem childrenAfter_mono {fewer more : Set ChildId} (within : fewer ⊆ more) (op : ServiceOp)
    (answer : ServiceAnswer op) : childrenAfter fewer op answer ⊆ childrenAfter more op answer := by
  unfold childrenAfter
  split
  · exact Set.insert_subset_insert within
  · exact Set.sdiff_subset_sdiff_left within
  · exact Set.sdiff_subset_sdiff_left within
  · exact within

def Within (owned : Set ChildId) (state : Option (Set ChildId)) : Prop :=
  ∀ live ∈ state, live ⊆ owned

def among (children : List ChildId) : Set ChildId :=
  {child | child ∈ children}

@[simp] theorem mem_among {child : ChildId} {children : List ChildId} :
    child ∈ among children ↔ child ∈ children :=
  Iff.rfl

@[simp] theorem among_nil : among [] = ∅ := by
  ext child
  simp

/-- A program that starts with no child but the owned ones, and ends so. -/
def Owns {α : Type} (program : Service α) (owned : Set ChildId) (post : α → Set ChildId) : Prop :=
  ∀ state, Within owned state →
    leaving.Meets program state fun value after => Within (post value) after

section

variable {α β : Type} {owned : Set ChildId} {post : β → Set ChildId} {site : Site}
  {child : ChildId} {fuel : Nat}

theorem Owns.pure {value : β} (kept : owned ⊆ post value) :
    Owns (Pure.pure value : Service β) owned post :=
  fun _ within live isLive => (within live isLive).trans kept

theorem Owns.stop : Owns (.stop : Service β) owned post :=
  fun _ _ => trivial

theorem Owns.mono {less : Set ChildId} {more : β → Set ChildId} {program : Service β}
    (owns : Owns program owned post) (fewer : less ⊆ owned) (wider : ∀ value, post value ⊆ more value) :
    Owns program less more := by
  intro state within
  refine (owns state fun live isLive => (within live isLive).trans fewer).mono ?_
  exact fun value after holds live isLive => (holds live isLive).trans (wider value)

theorem Owns.bind {program : Service α} {continuation : α → Service β} {middle : α → Set ChildId}
    (first : Owns program owned middle)
    (rest : ∀ value, Owns (continuation value) (middle value) post) :
    Owns (program >>= continuation) owned post := by
  intro state within
  apply Contract.Meets.bind
  exact (first state within).mono fun value after holds => rest value after holds

/-- An operation, and what it does to the owned children. -/
theorem Owns.call {op : ServiceOp} {continuation : ServiceAnswer op → Service β}
    (rest : ∀ answer, tolerated op answer = true →
      Owns (continuation answer) (childrenAfter owned op answer) post) :
    Owns (ask op >>= continuation) owned post := by
  intro state within
  refine ⟨trivial, fun answer => ?_⟩
  change leaving.Meets (continuation answer) (if tolerated op answer then
    state.map fun live => childrenAfter live op answer else none) _
  split
  · rename_i isTolerated
    refine rest answer isTolerated _ fun live isLive => ?_
    obtain ⟨before, isBefore, rfl⟩ := Option.map_eq_some_iff.mp isLive
    exact childrenAfter_mono (within before isBefore) op answer
  · refine (Contract.Meets.ignored (fun _ => trivial) (fun op answer => ?_) _).mono ?_
    · exact ite_self none
    · rintro value after rfl live isLive
      cases isLive

theorem Owns.last (op : ServiceOp) :
    Owns (ask op) owned fun answer => childrenAfter owned op answer :=
  Owns.call fun _ _ => .pure subset_rfl

/-- A child that is asked for is gone, or may be there still. -/
theorem Owns.tryWait {continuation : Waited → Service β}
    (exited : ∀ success, Owns (continuation (.exited success)) (owned \ {child}) post)
    (running : Owns (continuation .running) owned post)
    (failed : ∀ source, site.unguarded = false → Owns (continuation (.failed source)) owned post) :
    Owns (Supervisor.tryWait site child >>= continuation) owned post := by
  refine .call fun answer isTolerated => ?_
  match answer, isTolerated with
  | .exited success, _ => exact exited success
  | .running, _ => exact running
  | .failed source, isTolerated => exact failed source (by simpa [tolerated] using isTolerated)

/-! ## Taking children down -/

theorem waitChildUntil_owns :
    Owns (waitChildUntil fuel child) owned fun gone => if gone then owned \ {child} else owned := by
  induction fuel with
  | zero => exact .stop
  | succ fuel inductionHypothesis =>
      refine .tryWait (fun _ => .pure subset_rfl) ?_ (fun _ _ => .pure subset_rfl)
      refine .call fun second _ => ?_
      cases second with
      | true => exact .pure subset_rfl
      | false =>
          refine .call fun passed _ => ?_
          cases passed with
          | true => exact .pure subset_rfl
          | false => exact inductionHypothesis

theorem killChild_owns : Owns (killChild child) owned fun _ => owned \ {child} :=
  .call fun _ _ => .call fun _ _ => .last _

theorem terminateChild_owns : Owns (terminateChild fuel child) owned fun _ => owned \ {child} := by
  have swept : ∀ rest : Set ChildId, Owns (ask (.signalGroup child .kill)) rest fun _ => rest :=
    fun rest => .last _
  have stubborn : ∀ asked : Service Unit, asked = (do
      ask (.signalGroup child .term)
      if ← waitChildUntil fuel child then ask (.signalGroup child .kill)
      else
        killChild child
        ask (.signalGroup child .kill)) → Owns asked owned fun _ => owned \ {child} := by
    rintro _ rfl
    refine .call fun _ _ => .bind waitChildUntil_owns fun gone => ?_
    cases gone with
    | true => exact swept _
    | false => exact .bind killChild_owns fun _ => swept _
  refine .tryWait (fun _ => swept _) (stubborn _ rfl) (fun _ _ => stubborn _ rfl)

theorem terminateAll_owns {children : List ChildId} :
    Owns (terminateAll fuel children) owned fun _ => owned \ among children := by
  induction children generalizing owned with
  | nil => exact .pure (by simp)
  | cons first rest inductionHypothesis =>
      refine .bind terminateChild_owns fun _ => inductionHypothesis.mono subset_rfl fun _ => ?_
      intro child member
      simp at member ⊢
      tauto

theorem requestChildTerm_owns : Owns (requestChildTerm child) owned fun _ => owned := by
  refine .tryWait (fun _ => .pure Set.sdiff_subset) ?_ (fun _ _ => ?_)
  · exact .last _
  · exact .last _

theorem forceChildShutdown_owns :
    Owns (forceChildShutdown child) owned fun _ => owned \ {child} :=
  .tryWait (fun _ => .pure subset_rfl) killChild_owns fun _ _ => killChild_owns

theorem drainEdgeForReload_owns :
    Owns (drainEdgeForReload fuel child) owned fun _ => owned \ {child} := by
  refine .bind requestChildTerm_owns fun _ => .bind waitChildUntil_owns fun gone => ?_
  cases gone with
  | true => exact .pure subset_rfl
  | false => exact forceChildShutdown_owns

theorem requestAllTerm_owns {children : List ChildId} :
    Owns (requestAllTerm children) owned fun _ => owned := by
  induction children with
  | nil => exact .pure subset_rfl
  | cons first rest inductionHypothesis =>
      exact .bind requestChildTerm_owns fun _ => inductionHypothesis

/-- Of those that were asked for, the ones that are not done may live. -/
theorem waitAllUntil_owns {children : List ChildId} :
    Owns (waitAllUntil fuel children) owned fun asked =>
      owned \ {child | child ∈ children ∧ (child, false) ∉ asked} := by
  induction children generalizing owned with
  | nil => exact .pure (by simp)
  | cons first rest inductionHypothesis =>
      refine .bind waitChildUntil_owns fun done => .bind inductionHypothesis fun others => ?_
      refine .pure fun child ⟨isOwned, notGone⟩ => ?_
      cases done <;> simp at isOwned notGone ⊢ <;> grind

theorem forceUndone_owns {asked : List (ChildId × Bool)} :
    Owns (forceUndone asked) owned fun _ => owned \ {child | (child, false) ∈ asked} := by
  induction asked generalizing owned with
  | nil => exact .pure (by simp)
  | cons first rest inductionHypothesis =>
      obtain ⟨child, done⟩ := first
      cases done with
      | true =>
          change Owns (forceUndone rest) owned _
          refine inductionHypothesis.mono subset_rfl fun _ other member => ?_
          simpa using member
      | false =>
          refine .bind forceChildShutdown_owns fun _ =>
            inductionHypothesis.mono subset_rfl fun _ other member => ?_
          simp at member ⊢
          tauto

theorem forceAllShutdown_owns {children : List ChildId} :
    Owns (forceAllShutdown children) owned fun _ => owned \ among children := by
  induction children generalizing owned with
  | nil => exact .pure (by simp)
  | cons first rest inductionHypothesis =>
      have forced : Owns (forceChildShutdown first >>= fun _ => forceAllShutdown rest) owned
          fun _ => (owned \ {first}) \ among rest :=
        .bind forceChildShutdown_owns fun _ => inductionHypothesis
      have goneToo : (owned \ {first}) \ among rest ⊆ owned \ among (first :: rest) := by
        intro child member
        simp at member ⊢
        tauto
      refine .tryWait (fun _ => ?_) ?_ (fun _ _ => ?_)
      · exact inductionHypothesis.mono subset_rfl fun _ => goneToo
      · exact forced.mono subset_rfl fun _ => goneToo
      · exact forced.mono subset_rfl fun _ => goneToo

/-- A drain leaves none of the children it is given. -/
theorem drainService_owns {edge : ChildId} {sidecars workers : List ChildId} :
    Owns (drainService fuel edge sidecars workers) owned fun _ =>
      owned \ among (edge :: (sidecars ++ workers)) := by
  refine .bind requestChildTerm_owns fun _ => .bind waitChildUntil_owns fun edgeDone => ?_
  refine .bind requestAllTerm_owns fun _ => .bind waitAllUntil_owns fun sidecarsDone => ?_
  refine .bind requestAllTerm_owns fun _ => .bind waitAllUntil_owns fun workersDone => ?_
  refine .bind forceUndone_owns fun _ => .bind forceUndone_owns fun _ => ?_
  refine forceAllShutdown_owns.mono subset_rfl fun _ child member => ?_
  cases edgeDone <;> simp at member ⊢ <;> tauto

end

end Oxo.Edge.Supervisor
