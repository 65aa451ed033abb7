import Oxo.Foundation.Program

/-!
Contract: programs replayed against a world whose operations may fail, cut off at any
operation.

Owns: the replay of a program under a script of faults, the predicate that holds at
every point a replay can be cut at and of every result, the rules that establish it
compositionally.

Does not own: any world. A world answers every operation under every fault.
-/

namespace Oxo.Foundation.Program

variable {Op : Type} {Answer : Op → Type} {σ φ α β ε : Type}

/-- The world after a replay, and its result with the rest of the script. There is no result
where the script ended first. -/
def replay (respond : σ → φ → (op : Op) → Answer op × σ) :
    Program Op Answer α → σ → List φ → σ × Option (α × List φ)
  | pure value, state, script => (state, some (value, script))
  | call _ _, state, [] => (state, none)
  | call op next, state, fault :: script =>
      (next (respond state fault op).1).replay respond (respond state fault op).2 script
  | stop, state, _ => (state, none)

/-- `cut` wherever the program stands before an operation, and `post` of every result. -/
def Throughout (respond : σ → φ → (op : Op) → Answer op × σ) (cut : σ → Prop) :
    Program Op Answer α → σ → (α → σ → Prop) → Prop
  | pure value, state, post => post value state
  | call op next, state, post =>
      cut state ∧ ∀ fault, (next (respond state fault op).1).Throughout respond cut
        (respond state fault op).2 post
  | stop, state, _ => cut state

variable {respond : σ → φ → (op : Op) → Answer op × σ} {cut : σ → Prop} {state : σ}

/-- A replay that is cut ends in a cut state, one that returns satisfies the postcondition. -/
theorem Throughout.replay {program : Program Op Answer α} {post : α → σ → Prop}
    (throughout : program.Throughout respond cut state post) (script : List φ) :
    (∀ value rest, (program.replay respond state script).2 = some (value, rest) →
      post value (program.replay respond state script).1) ∧
    ((program.replay respond state script).2 = none →
      cut (program.replay respond state script).1) := by
  induction program generalizing state script with
  | pure value =>
      refine ⟨fun result rest returned => ?_, fun cutOff => by cases cutOff⟩
      cases returned
      exact throughout
  | call op next inductionHypothesis =>
      cases script with
      | nil =>
          refine ⟨fun result rest returned => ?_, fun _ => throughout.1⟩
          cases returned
      | cons fault script =>
          exact inductionHypothesis (respond state fault op).1 (throughout.2 fault) script
  | stop =>
      refine ⟨fun result rest returned => ?_, fun _ => throughout⟩
      cases returned

theorem Throughout.mono {program : Program Op Answer α} {weak strong : α → σ → Prop}
    (throughout : program.Throughout respond cut state strong)
    (weaker : ∀ value state, strong value state → weak value state) :
    program.Throughout respond cut state weak := by
  induction program generalizing state with
  | pure value => exact weaker value state throughout
  | call op next inductionHypothesis =>
      exact ⟨throughout.1, fun fault => inductionHypothesis _ (throughout.2 fault)⟩
  | stop => exact throughout

/-- A weaker condition at the cuts. -/
theorem Throughout.relax {weak : σ → Prop} {program : Program Op Answer α} {post : α → σ → Prop}
    (throughout : program.Throughout respond cut state post)
    (weaker : ∀ state, cut state → weak state) : program.Throughout respond weak state post := by
  induction program generalizing state with
  | pure value => exact throughout
  | call op next inductionHypothesis =>
      exact ⟨weaker _ throughout.1, fun fault => inductionHypothesis _ (throughout.2 fault)⟩
  | stop => exact weaker _ throughout

/-! ## Composition -/

theorem Throughout.bind {program : Program Op Answer α} {continuation : α → Program Op Answer β}
    {post : β → σ → Prop}
    (throughout : program.Throughout respond cut state fun value state =>
      (continuation value).Throughout respond cut state post) :
    (program >>= continuation).Throughout respond cut state post := by
  induction program generalizing state with
  | pure value => exact throughout
  | call op next inductionHypothesis =>
      exact ⟨throughout.1, fun fault => inductionHypothesis _ (throughout.2 fault)⟩
  | stop => exact throughout

/-- Programs that may fail: a failure skips the rest. -/
theorem Throughout.bindExcept {program : ExceptT ε (Program Op Answer) α}
    {continuation : α → ExceptT ε (Program Op Answer) β} {middle : α → σ → Prop}
    {post : Except ε β → σ → Prop}
    (throughout : Throughout respond cut program.run state fun result state =>
      match result with
      | .ok value => middle value state
      | .error failure => post (.error failure) state)
    (continues : ∀ value state, middle value state →
      Throughout respond cut (continuation value).run state post) :
    Throughout respond cut (program >>= continuation).run state post := by
  apply Throughout.bind
  apply throughout.mono
  intro result state holds
  cases result with
  | ok value => exact continues value state holds
  | error failure => exact holds

/-- An operation in front of a program that may fail. -/
theorem Throughout.callExcept {op : Op}
    {continuation : Answer op → ExceptT ε (Program Op Answer) β} {post : Except ε β → σ → Prop}
    (here : cut state)
    (continues : ∀ fault, Throughout respond cut (continuation (respond state fault op).1).run
      (respond state fault op).2 post) :
    Throughout respond cut ((monadLift (perform op : Program Op Answer _) :
      ExceptT ε (Program Op Answer) _) >>= continuation).run state post :=
  ⟨here, continues⟩

/-- A program over some of the operations, replayed on the part of the state they work on. -/
theorem Throughout.inl {Other τ ψ : Type} {OtherAnswer : Other → Type}
    {outer : τ → ψ → (op : Op ⊕ Other) → Sum.elim Answer OtherAnswer op × τ}
    {view : τ → σ} {put : τ → σ → τ} {part : ψ → φ} {program : Program Op Answer α}
    {cut : τ → Prop} {state : τ} {post : α → τ → Prop}
    (answers : ∀ state fault op, outer state fault (.inl op) =
      ((respond (view state) (part fault) op).1, put state (respond (view state) (part fault) op).2))
    (view_put : ∀ state inner, view (put state inner) = inner)
    (put_put : ∀ state inner last, put (put state inner) last = put state last)
    (put_view : ∀ state, put state (view state) = state)
    (throughout : program.Throughout respond (fun inner => cut (put state inner)) (view state)
      fun value inner => post value (put state inner)) :
    (program.inl : Program (Op ⊕ Other) (Sum.elim Answer OtherAnswer) α).Throughout outer cut
      state post := by
  induction program generalizing state with
  | pure value =>
      have holds : post value (put state (view state)) := throughout
      rwa [put_view] at holds
  | call op next inductionHypothesis =>
      obtain ⟨here, continues⟩ := throughout
      rw [put_view] at here
      refine ⟨here, fun fault => ?_⟩
      rw [answers]
      apply inductionHypothesis
      rw [view_put]
      simp only [put_put]
      exact continues (part fault)
  | stop =>
      have holds : cut (put state (view state)) := throughout
      rwa [put_view] at holds

end Oxo.Foundation.Program
