import Mathlib.Logic.Basic

/-!
Contract: machines whose steps are chosen by a scheduler.

Owns: the execution of a list of actions, the actions that meet a condition on the
state before them, the rule that an invariant of such steps holds after every such
execution, and what one party's steps do to a part of the state they share.

Does not own: any particular machine. A step function answers `none` for an action
that is not enabled.
-/

namespace Oxo.Foundation.Machine

theorem two_parties : 2 ≠ 0 := by decide

-- For the computed runs of two parties.
instance twoParties : @NeZero Nat Zero.ofOfNat0 2 := ⟨two_parties⟩

variable {σ α : Type}

/-- The state after a list of actions, if each was enabled in turn. -/
def exec (step : σ → α → Option σ) (state : σ) : List α → Option σ
  | [] => some state
  | action :: rest => (step state action).bind fun next => exec step next rest

/-- Every action meets a condition on the state it is taken in. -/
def Meets (step : σ → α → Option σ) (condition : σ → α → Prop) (state : σ) : List α → Prop
  | [] => True
  | action :: rest =>
      condition state action ∧
        match step state action with
        | none => True
        | some next => Meets step condition next rest

instance decidableMeets (step : σ → α → Option σ) (condition : σ → α → Prop)
    [∀ state action, Decidable (condition state action)] (state : σ) :
    (actions : List α) → Decidable (Meets step condition state actions)
  | [] => inferInstanceAs (Decidable True)
  | action :: rest =>
      have : Decidable (match step state action with
          | none => True
          | some next => Meets step condition next rest) :=
        match step state action with
        | none => inferInstanceAs (Decidable True)
        | some next => decidableMeets step condition next rest
      inferInstanceAs (Decidable (_ ∧ _))

variable {step : σ → α → Option σ} {condition : σ → α → Prop} {holds : σ → Prop}

/-- What every permitted step keeps, every permitted execution keeps. -/
theorem invariant_of_meets
    (kept : ∀ state action next, holds state → condition state action →
      step state action = some next → holds next)
    {state final : σ} {actions : List α} (initial : holds state)
    (permitted : Meets step condition state actions)
    (ran : exec step state actions = some final) : holds final := by
  induction actions generalizing state with
  | nil =>
      cases ran
      exact initial
  | cons action rest inductionHypothesis =>
      simp only [exec, Option.bind_eq_some_iff] at ran
      obtain ⟨next, stepped, ran⟩ := ran
      obtain ⟨now, later⟩ := permitted
      rw [stepped] at later
      exact inductionHypothesis (kept state action next initial now stepped) later ran

theorem meets_left {state : σ} {front rest : List α}
    (permitted : Meets step condition state (front ++ rest)) :
    Meets step condition state front := by
  induction front generalizing state with
  | nil => trivial
  | cons action front inductionHypothesis =>
      obtain ⟨now, later⟩ := permitted
      refine ⟨now, ?_⟩
      split
      · trivial
      · next next stepped =>
          rw [stepped] at later
          exact inductionHypothesis later

/-- A condition that every state meets for some actions is met by every list of them. -/
theorem meets_of_forall {actions : List α}
    (always : ∀ action ∈ actions, ∀ state, condition state action) (state : σ) :
    Meets step condition state actions := by
  induction actions generalizing state with
  | nil => trivial
  | cons action rest inductionHypothesis =>
      obtain ⟨now, later⟩ := List.forall_mem_cons.mp always
      refine ⟨now state, ?_⟩
      split
      · trivial
      · exact inductionHypothesis later _

/-- What every step keeps, every execution keeps. -/
theorem invariant_of_exec
    (kept : ∀ state action next, holds state → step state action = some next → holds next)
    {state final : σ} {actions : List α} (initial : holds state)
    (ran : exec step state actions = some final) : holds final :=
  invariant_of_meets (fun state action next before _ => kept state action next before)
    initial (meets_of_forall (fun _ _ _ => trivial) state) ran

/-- A quantity that every step raises by one at most is bounded by the number of steps. -/
theorem le_length_of_exec {quantity : σ → Nat}
    (raises : ∀ state action next, step state action = some next →
      quantity next ≤ quantity state + 1)
    {state final : σ} {actions : List α} (ran : exec step state actions = some final) :
    quantity final ≤ quantity state + actions.length := by
  induction actions generalizing state with
  | nil =>
      cases ran
      exact Nat.le_refl _
  | cons action rest inductionHypothesis =>
      simp only [exec, Option.bind_eq_some_iff] at ran
      obtain ⟨next, stepped, ran⟩ := ran
      have first := raises state action next stepped
      have later := inductionHypothesis ran
      rw [List.length_cons]
      omega

/-- Where a step against the condition is taken at once to a state that is not good, the runs that
meet the condition are those of which every front ends in a good state. -/
theorem meets_iff_fronts {good : σ → Prop} (good_of_holds : ∀ state, holds state → good state)
    (kept : ∀ state action next, holds state → condition state action →
      step state action = some next → holds next)
    (exposed : ∀ state action, holds state → ¬ condition state action →
      ∃ next, step state action = some next ∧ ¬ good next)
    {state : σ} {actions : List α} (initial : holds state) :
    Meets step condition state actions ↔
      ∀ front final, front <+: actions → exec step state front = some final → good final := by
  constructor
  · rintro permitted front final ⟨rest, rfl⟩ ran
    exact good_of_holds final (invariant_of_meets kept initial (meets_left permitted) ran)
  · intro fronts
    induction actions generalizing state with
    | nil => trivial
    | cons action rest inductionHypothesis =>
        have now : condition state action := by
          refine Classical.byContradiction fun against => ?_
          obtain ⟨next, stepped, bad⟩ := exposed state action initial against
          refine bad (fronts [action] next (List.prefix_append [action] rest) ?_)
          simp [exec, stepped]
        refine ⟨now, ?_⟩
        split
        · trivial
        · next next stepped =>
            apply inductionHypothesis (kept state action next initial now stepped)
            intro front final opens ran
            refine fronts (action :: front) final (List.cons_prefix_cons.mpr ⟨rfl, opens⟩) ?_
            rw [exec, stepped]
            exact ran

theorem exec_append {state : σ} (first second : List α) :
    exec step state (first ++ second) =
      (exec step state first).bind fun middle => exec step middle second := by
  induction first generalizing state with
  | nil => rfl
  | cons action rest inductionHypothesis =>
      simp only [List.cons_append, exec, Option.bind_assoc]
      congr 1
      funext next
      exact inductionHypothesis

/-- The part in view before and after each step of one party that changes it. -/
def effects {ρ : Type} [DecidableEq ρ] (step : σ → α → Option σ) (mine : α → Bool) (view : σ → ρ)
    (state : σ) : List α → List (ρ × ρ)
  | [] => []
  | action :: rest =>
      match step state action with
      | none => []
      | some next =>
          if mine action = true ∧ view next ≠ view state then
            (view state, view next) :: effects step mine view next rest
          else effects step mine view next rest

section

variable {ρ : Type} [DecidableEq ρ] {mine : α → Bool} {view : σ → ρ}

theorem effects_append {state middle : σ} {first second : List α}
    (ran : exec step state first = some middle) :
    effects step mine view state (first ++ second) =
      effects step mine view state first ++ effects step mine view middle second := by
  induction first generalizing state with
  | nil =>
      cases ran
      rfl
  | cons action rest inductionHypothesis =>
      simp only [exec, Option.bind_eq_some_iff] at ran
      obtain ⟨next, stepped, ran⟩ := ran
      have later := inductionHypothesis ran
      by_cases changed : mine action = true ∧ view next ≠ view state
      · simp [effects, stepped, changed, later]
      · simp only [List.cons_append, effects, stepped, if_neg changed, later]

/-- If a party can only have come to the inside of a section by a step that is left out here,
and has no effect there, then a run that ends inside began inside and had no effect. -/
theorem effects_eq_nil_of_inside {inside : σ → Prop} {entry : α → Prop}
    (back : ∀ state action next, step state action = some next → ¬ entry action → inside next →
      inside state ∧ (mine action = true → view next = view state))
    {state final : σ} {actions : List α} (ran : exec step state actions = some final)
    (unentered : ∀ action ∈ actions, ¬ entry action) (atEnd : inside final) :
    inside state ∧ effects step mine view state actions = [] := by
  induction actions generalizing state with
  | nil =>
      cases ran
      exact ⟨atEnd, rfl⟩
  | cons action rest inductionHypothesis =>
      simp only [exec, Option.bind_eq_some_iff] at ran
      obtain ⟨next, stepped, ran⟩ := ran
      have later := inductionHypothesis ran
        (fun action member => unentered action (List.mem_cons_of_mem _ member))
      have now := back state action next stepped (unentered action List.mem_cons_self) later.1
      refine ⟨now.1, ?_⟩
      have unchanged : ¬ (mine action = true ∧ view next ≠ view state) :=
        fun changed => changed.2 (now.2 changed.1)
      simp only [effects, stepped, if_neg unchanged, later.2]

end

/-- A run computed to its end. -/
theorem exists_exec {property : σ → Prop} [DecidablePred property] {state : σ} {actions : List α}
    (ran : (exec step state actions).any (fun final => decide (property final)) = true) :
    ∃ final, exec step state actions = some final ∧ property final := by
  simpa only [Option.any_eq_true, decide_eq_true_eq] using ran

end Oxo.Foundation.Machine
