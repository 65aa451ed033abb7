import Mathlib.Tactic

/-!
Contract: programs that call operations of an unknown environment.

Owns: the program type and its monad, the traces a program leaves whatever the
environment answers, contracts that watch a program operation by operation, and
the rules that establish a contract compositionally.

Does not own: any operation.
-/

namespace Oxo.Foundation

/-- A program calls operations and continues on their answers. `stop` is a program
that is never resumed. -/
inductive Program (Op : Type) (Answer : Op → Type) (α : Type) : Type where
  | pure (value : α)
  | call (op : Op) (next : Answer op → Program Op Answer α)
  | stop

namespace Program

variable {Op : Type} {Answer : Op → Type} {α β : Type}

def bind : Program Op Answer α → (α → Program Op Answer β) → Program Op Answer β
  | pure value, continuation => continuation value
  | call op next, continuation => call op fun answer => (next answer).bind continuation
  | stop, _ => stop

instance : Monad (Program Op Answer) where
  pure := pure
  bind := bind

/-- One operation. -/
def perform (op : Op) : Program Op Answer (Answer op) :=
  call op pure

@[simp] theorem pure_bind (value : α) (continuation : α → Program Op Answer β) :
    (Pure.pure value : Program Op Answer α) >>= continuation = continuation value :=
  rfl

@[simp] theorem perform_bind (op : Op) (continuation : Answer op → Program Op Answer β) :
    (perform op : Program Op Answer _) >>= continuation = call op continuation :=
  rfl

/-- What a program comes to in an environment that answers each operation and moves on. There is
no result when the environment does not know the operation, or the program stops. -/
def run {σ : Type} (environment : σ → (op : Op) → Option (Answer op × σ)) :
    Program Op Answer α → σ → Option (α × σ)
  | pure value, state => some (value, state)
  | call op next, state =>
      match environment state op with
      | some (answer, state) => (next answer).run environment state
      | none => none
  | stop, _ => none

section

variable {σ ε : Type} {environment : σ → (op : Op) → Option (Answer op × σ)} {state : σ}

@[simp] theorem run_pure (value : α) :
    (Pure.pure value : Program Op Answer α).run environment state = some (value, state) :=
  rfl

theorem run_bind (program : Program Op Answer α) (continuation : α → Program Op Answer β) :
    (program >>= continuation).run environment state =
      (program.run environment state).bind fun result =>
        (continuation result.1).run environment result.2 := by
  induction program generalizing state with
  | pure value => rfl
  | call op next inductionHypothesis =>
      change run environment (call op fun answer => next answer >>= continuation) state = _
      simp only [run]
      cases environment state op with
      | none => rfl
      | some answered => exact inductionHypothesis answered.1
  | stop => rfl

/-- A program that may fail in front of another. -/
theorem run_bindOk {program : ExceptT ε (Program Op Answer) α}
    {continuation : α → ExceptT ε (Program Op Answer) β} {value : α} {next : σ}
    (ran : Program.run environment program.run state = some (.ok value, next)) :
    Program.run environment (program >>= continuation).run state =
      Program.run environment (continuation value).run next := by
  refine (run_bind program.run _).trans ?_
  rw [ran]
  rfl

/-- A failure skips the rest. -/
theorem run_bindError {program : ExceptT ε (Program Op Answer) α}
    {continuation : α → ExceptT ε (Program Op Answer) β} {failure : ε} {next : σ}
    (ran : Program.run environment program.run state = some (.error failure, next)) :
    Program.run environment (program >>= continuation).run state =
      some (.error failure, next) := by
  refine (run_bind program.run _).trans ?_
  rw [ran]
  rfl

/-- Failures under another name. -/
theorem run_adapt {φ : Type} {rename : ε → φ} {program : ExceptT ε (Program Op Answer) α}
    {result : Except ε α} {next : σ}
    (ran : Program.run environment program.run state = some (result, next)) :
    Program.run environment (ExceptT.adapt rename program).run state =
      some (result.mapError rename, next) := by
  refine (run_bind program.run _).trans ?_
  rw [ran]
  rfl

/-- A program without failures in front of one with them. -/
theorem run_lift {program : Program Op Answer α}
    {continuation : α → ExceptT ε (Program Op Answer) β} {value : α} {next : σ}
    (ran : program.run environment state = some (value, next)) :
    Program.run environment (ExceptT.lift program >>= continuation).run state =
      Program.run environment (continuation value).run next := by
  refine run_bindOk ((run_bind program _).trans ?_)
  rw [ran]
  rfl

/-- An operation in front of a program that may fail. -/
theorem run_callExcept {op : Op} {continuation : Answer op → ExceptT ε (Program Op Answer) β}
    {answer : Answer op} {next : σ} (answered : environment state op = some (answer, next)) :
    Program.run environment ((monadLift (perform op : Program Op Answer _) :
        ExceptT ε (Program Op Answer) _) >>= continuation).run state =
      Program.run environment (continuation answer).run next := by
  change run environment (call op fun answer => (continuation answer).run) state = _
  simp only [run, answered]

end

/-- Whether a run performs an operation of a kind. -/
def reaches {σ : Type} (environment : σ → (op : Op) → Option (Answer op × σ)) (kind : Op → Bool) :
    Program Op Answer α → σ → Bool
  | pure _, _ => false
  | call op next, state =>
      kind op || match environment state op with
        | some (answer, state) => (next answer).reaches environment kind state
        | none => false
  | stop, _ => false

/-- A program over some of the operations. -/
def inl {Other : Type} {OtherAnswer : Other → Type} :
    Program Op Answer α → Program (Op ⊕ Other) (Sum.elim Answer OtherAnswer) α
  | pure value => pure value
  | call op next => call (.inl op) fun answer => (next answer).inl
  | stop => stop

section

variable {σ ε : Type} {environment : σ → (op : Op) → Option (Answer op × σ)} {kind : Op → Bool}
  {state : σ}

theorem reaches_bind (program : Program Op Answer α) (continuation : α → Program Op Answer β) :
    (program >>= continuation).reaches environment kind state =
      (program.reaches environment kind state ||
        match program.run environment state with
        | some (value, state) => (continuation value).reaches environment kind state
        | none => false) := by
  induction program generalizing state with
  | pure value => rfl
  | call op next inductionHypothesis =>
      change reaches environment kind (call op fun answer => next answer >>= continuation) state = _
      simp only [reaches, run, Bool.or_assoc]
      cases environment state op with
      | none => rfl
      | some answered =>
          congr 1
          exact inductionHypothesis answered.1
  | stop => rfl

/-- A program that may fail, in front of another. -/
theorem reaches_bindExcept (program : ExceptT ε (Program Op Answer) α)
    (continuation : α → ExceptT ε (Program Op Answer) β) :
    Program.reaches environment kind (program >>= continuation).run state =
      (Program.reaches environment kind program.run state ||
        match Program.run environment program.run state with
        | some (.ok value, state) => Program.reaches environment kind (continuation value).run state
        | _ => false) := by
  refine (reaches_bind program.run _).trans ?_
  cases Program.run environment program.run state with
  | none => rfl
  | some ran =>
      obtain ⟨result, next⟩ := ran
      cases result with
      | ok value => rfl
      | error failure => rfl

/-- A run over some of the operations is a run of the part of the state they work on. -/
theorem run_inl {Other τ : Type} {OtherAnswer : Other → Type}
    {environment : σ → (op : Op ⊕ Other) → Option (Sum.elim Answer OtherAnswer op × σ)}
    {inner : τ → (op : Op) → Option (Answer op × τ)} {view : σ → τ} {put : σ → τ → σ}
    (answers : ∀ state op, environment state (.inl op) =
      (inner (view state) op).map fun answered => (answered.1, put state answered.2))
    (view_put : ∀ state part, view (put state part) = part)
    (put_put : ∀ state part last, put (put state part) last = put state last)
    (put_view : ∀ state, put state (view state) = state)
    (program : Program Op Answer α) (state : σ) :
    (program.inl : Program (Op ⊕ Other) (Sum.elim Answer OtherAnswer) α).run environment state =
      (program.run inner (view state)).map fun ran => (ran.1, put state ran.2) := by
  induction program generalizing state with
  | pure value => simp only [inl, run, Option.map_some, put_view]
  | call op next inductionHypothesis =>
      simp only [inl, run, answers]
      cases inner (view state) op with
      | none => rfl
      | some answered =>
          simp only [Option.map_some]
          rw [inductionHypothesis answered.1, view_put]
          simp only [put_put]
  | stop => rfl

end

/-- An operation and the answer it got. -/
structure Event (Op : Type) (Answer : Op → Type) where
  op : Op
  answer : Answer op

/-- The finite traces of a program: any answers, cut off anywhere. -/
inductive Trace : Program Op Answer α → List (Event Op Answer) → Prop where
  | cut (program : Program Op Answer α) : Trace program []
  | step {op : Op} {next : Answer op → Program Op Answer α} {events : List (Event Op Answer)}
      (answer : Answer op) (rest : Trace (next answer) events) :
      Trace (call op next) (⟨op, answer⟩ :: events)

end Program

/-- A contract watches a program: which operations are allowed in a state of the
watch, and the state after an answer. -/
structure Contract (Op : Type) (Answer : Op → Type) (σ : Type) where
  allows : σ → Op → Prop
  after : σ → (op : Op) → Answer op → σ

namespace Contract

variable {Op : Type} {Answer : Op → Type} {σ α β ε : Type}

/-- Every operation the program can reach is allowed, and every result satisfies
`post` in the state it is reached in. -/
def Meets (contract : Contract Op Answer σ) :
    Program Op Answer α → σ → (α → σ → Prop) → Prop
  | .pure value, state, post => post value state
  | .call op next, state, post =>
      contract.allows state op ∧
        ∀ answer, contract.Meets (next answer) (contract.after state op answer) post
  | .stop, _, _ => True

variable {contract : Contract Op Answer σ}

theorem Meets.mono {program : Program Op Answer α} {state : σ} {weak strong : α → σ → Prop}
    (meets : contract.Meets program state strong)
    (weaker : ∀ value state, strong value state → weak value state) :
    contract.Meets program state weak := by
  induction program generalizing state with
  | pure value => exact weaker value state meets
  | call op next inductionHypothesis =>
      exact ⟨meets.1, fun answer => inductionHypothesis answer (meets.2 answer)⟩
  | stop => trivial

/-- Sequential composition. -/
theorem Meets.bind {program : Program Op Answer α} {continuation : α → Program Op Answer β}
    {state : σ} {post : β → σ → Prop}
    (meets : contract.Meets program state fun value state =>
      contract.Meets (continuation value) state post) :
    contract.Meets (program >>= continuation) state post := by
  induction program generalizing state with
  | pure value => exact meets
  | call op next inductionHypothesis =>
      exact ⟨meets.1, fun answer => inductionHypothesis answer (meets.2 answer)⟩
  | stop => trivial

/-- Sequential composition of programs that may fail: a failure skips the rest. -/
theorem Meets.bindExcept {program : ExceptT ε (Program Op Answer) α}
    {continuation : α → ExceptT ε (Program Op Answer) β} {state : σ}
    {post : Except ε β → σ → Prop}
    (meets : contract.Meets program.run state fun result state =>
      match result with
      | .ok value => contract.Meets (continuation value).run state post
      | .error failure => post (.error failure) state) :
    contract.Meets (program >>= continuation).run state post := by
  apply Meets.bind
  apply meets.mono
  intro result state holds
  cases result with
  | ok value => exact holds
  | error failure => exact holds

/-- A condition on successes only. -/
def onOk (post : α → σ → Prop) : Except ε α → σ → Prop
  | .ok value, state => post value state
  | .error _, _ => True

/-- Where failures are not watched, only a success has to be carried on. -/
theorem Meets.bindOk {program : ExceptT ε (Program Op Answer) α}
    {continuation : α → ExceptT ε (Program Op Answer) β} {state : σ} {post : β → σ → Prop}
    {middle : α → σ → Prop} (meets : contract.Meets program.run state (onOk middle))
    (continues : ∀ value state, middle value state →
      contract.Meets (continuation value).run state (onOk post)) :
    contract.Meets (program >>= continuation).run state (onOk post) := by
  apply Meets.bindExcept
  apply meets.mono
  intro result state holds
  cases result with
  | ok value => exact continues value state holds
  | error failure => trivial

/-- A program that cannot fail in front of one that may. -/
theorem Meets.lift {program : Program Op Answer α}
    {continuation : α → ExceptT ε (Program Op Answer) β} {state : σ}
    {post : Except ε β → σ → Prop}
    (meets : contract.Meets program state fun value state =>
      contract.Meets (continuation value).run state post) :
    contract.Meets ((monadLift program : ExceptT ε (Program Op Answer) α) >>= continuation).run
      state post := by
  apply Meets.bind
  apply Meets.bind
  exact meets

/-- An operation in front of a program that may fail. -/
theorem Meets.callExcept {op : Op} {continuation : Answer op → ExceptT ε (Program Op Answer) β}
    {state : σ} {post : Except ε β → σ → Prop} (allowed : contract.allows state op)
    (meets : ∀ answer, contract.Meets (continuation answer).run (contract.after state op answer)
      post) :
    contract.Meets ((monadLift (Program.perform op : Program Op Answer _) :
      ExceptT ε (Program Op Answer) _) >>= continuation).run state post :=
  ⟨allowed, meets⟩

/-- A known result in front of a program that may fail. -/
theorem Meets.settle {result : Except ε α} {continuation : α → ExceptT ε (Program Op Answer) β}
    {state : σ} {post : Except ε β → σ → Prop}
    (failed : ∀ failure, result = .error failure → post (.error failure) state)
    (continues : ∀ value, result = .ok value →
      contract.Meets (continuation value).run state post) :
    contract.Meets ((ExceptT.mk (Pure.pure result) : ExceptT ε (Program Op Answer) α) >>=
      continuation).run state post := by
  cases result with
  | ok value => exact continues value rfl
  | error failure => exact failed failure rfl

/-- Failures under another name. -/
theorem Meets.adapt {φ : Type} {rename : ε → φ} {program : ExceptT ε (Program Op Answer) α}
    {state : σ} {post : Except φ α → σ → Prop}
    (meets : contract.Meets program.run state fun result state =>
      post (result.mapError rename) state) :
    contract.Meets (ExceptT.adapt rename program).run state post := by
  apply Meets.bind
  exact meets

/-- The state of the watch after a trace. -/
def watch (contract : Contract Op Answer σ) (state : σ) (events : List (Program.Event Op Answer)) :
    σ :=
  events.foldl (fun state event => contract.after state event.op event.answer) state

/-- What no operation undoes holds from where it first holds. -/
theorem watch_keeps {Kept : σ → Prop}
    (keeps : ∀ state op answer, Kept state → Kept (contract.after state op answer))
    (events : List (Program.Event Op Answer)) {state : σ} (holds : Kept state) :
    Kept (contract.watch state events) := by
  induction events generalizing state with
  | nil => exact holds
  | cons event rest inductionHypothesis =>
      exact inductionHypothesis (keeps state event.op event.answer holds)

/-- What a contract says about traces: each operation was allowed where it stood. -/
theorem Meets.allowed_of_trace {program : Program Op Answer α} {state : σ}
    {post : α → σ → Prop} (meets : contract.Meets program state post)
    {before after : List (Program.Event Op Answer)} {event : Program.Event Op Answer}
    (trace : program.Trace (before ++ event :: after)) :
    contract.allows (contract.watch state before) event.op := by
  induction before generalizing program state with
  | nil =>
      cases trace with
      | step answer rest => exact meets.1
  | cons first before inductionHypothesis =>
      cases trace with
      | step answer rest => exact inductionHypothesis (meets.2 answer) rest

/-- An event that establishes what no operation undoes rules out every later operation
that is not allowed then. -/
theorem Meets.forbidden_after {program : Program Op Answer α} {state : σ} {post : α → σ → Prop}
    {Kept : σ → Prop} (meets : contract.Meets program state post)
    (keeps : ∀ state op answer, Kept state → Kept (contract.after state op answer))
    {before after : List (Program.Event Op Answer)} {event : Program.Event Op Answer}
    (trace : program.Trace (before ++ event :: after))
    (established : ∀ state, Kept (contract.after state event.op event.answer)) :
    ∀ later ∈ after, ∃ state, Kept state ∧ contract.allows state later.op := by
  intro later member
  obtain ⟨between, rest, split⟩ := List.append_of_mem member
  rw [split, ← List.cons_append, ← List.append_assoc] at trace
  refine ⟨_, ?_, meets.allowed_of_trace trace⟩
  rw [watch, List.foldl_append]
  exact watch_keeps keeps between (established _)

/-- In an environment that a watch can follow, a run performs only what is allowed there. -/
theorem Meets.not_reaches {τ : Type} {environment : τ → (op : Op) → Option (Answer op × τ)}
    {kind : Op → Bool} {follows : τ → σ → Prop}
    (step : ∀ state watch op answer next, follows state watch →
      environment state op = some (answer, next) → follows next (contract.after watch op answer))
    (excluded : ∀ state watch op, follows state watch → contract.allows watch op →
      kind op = false)
    {program : Program Op Answer α} {watch : σ} {post : α → σ → Prop}
    (meets : contract.Meets program watch post) {state : τ} (start : follows state watch) :
    program.reaches environment kind state = false := by
  induction program generalizing watch state with
  | pure value => rfl
  | call op next inductionHypothesis =>
      rw [Program.reaches, excluded state watch op start meets.1, Bool.false_or]
      cases answered : environment state op with
      | none => rfl
      | some result =>
          exact inductionHypothesis result.1 (meets.2 result.1)
            (step state watch op result.1 result.2 start answered)
  | stop => rfl

/-! ## Kinds of operations -/

/-- A watch that a program cannot move allows it everything. -/
theorem Meets.ignored {state : σ} (allowed : ∀ op, contract.allows state op)
    (same : ∀ op answer, contract.after state op answer = state) (program : Program Op Answer α) :
    contract.Meets program state fun _ after => after = state := by
  induction program with
  | pure value => exact rfl
  | call op next inductionHypothesis =>
      refine ⟨allowed op, fun answer => ?_⟩
      rw [same op answer]
      exact inductionHypothesis answer
  | stop => trivial

/-- Only operations of a kind. -/
def only (kind : Op → Prop) : Contract Op Answer Unit where
  allows _ op := kind op
  after _ _ _ := ()

theorem Meets.onlyBind {kind : Op → Prop} {program : ExceptT ε (Program Op Answer) α}
    {continuation : α → ExceptT ε (Program Op Answer) β}
    (first : (only kind).Meets program.run () fun _ _ => True)
    (rest : ∀ value, (only kind).Meets (continuation value).run () fun _ _ => True) :
    (only kind).Meets (program >>= continuation).run () fun _ _ => True := by
  refine .bindExcept (first.mono ?_)
  intro result state _
  cases result with
  | ok value => exact rest value
  | error failure => trivial

/-- A program of such operations, under a contract they do not move. -/
theorem Meets.of_only {kind : Op → Prop} {program : Program Op Answer α}
    (meets : (only kind).Meets program () fun _ _ => True) {state : σ}
    (allowed : ∀ op, kind op → contract.allows state op)
    (same : ∀ op answer, kind op → contract.after state op answer = state) :
    contract.Meets program state fun _ after => after = state := by
  induction program with
  | pure value => exact rfl
  | call op next inductionHypothesis =>
      refine ⟨allowed op meets.1, fun answer => ?_⟩
      rw [same op answer meets.1]
      exact inductionHypothesis answer (meets.2 answer)
  | stop => trivial

/-- What a contract says of some of its operations. -/
def left {Other : Type} {OtherAnswer : Other → Type}
    (contract : Contract (Op ⊕ Other) (Sum.elim Answer OtherAnswer) σ) : Contract Op Answer σ where
  allows state op := contract.allows state (.inl op)
  after state op answer := contract.after state (.inl op) answer

theorem Meets.inl {Other : Type} {OtherAnswer : Other → Type}
    {contract : Contract (Op ⊕ Other) (Sum.elim Answer OtherAnswer) σ} {program : Program Op Answer α}
    {state : σ} {post : α → σ → Prop} (meets : contract.left.Meets program state post) :
    contract.Meets program.inl state post := by
  induction program generalizing state with
  | pure value => exact meets
  | call op next inductionHypothesis =>
      exact ⟨meets.1, fun answer => inductionHypothesis answer (meets.2 answer)⟩
  | stop => trivial

end Contract

end Oxo.Foundation
