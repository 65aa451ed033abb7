import Mathlib.Tactic

/-!
Contract: exact readers and checked writers, the two halves of a codec whose
decoder accepts precisely what its encoder emits.

A reader threads a state that exposes the symbols not yet read. It is exact for
a writer when it accepts every valid written value in front of any tail, and
when every value it accepts was written, symbol for symbol, by that writer. The
two halves compose through `bind`, so a decoder written field by field is exact
for the concatenation of its field writers.

A checked writer appends to an output buffer or refuses. It refuses exactly when
its condition fails, and otherwise leaves the buffer's earlier content alone.

Owns: the exactness law, its rules for `pure`, `bind`, checks and partial
conversions, the appending law and its sequencing rule.

Does not own: any symbol type, field layout, bound or error.
-/

namespace Oxo.Foundation

variable {σ β ε α γ : Type}

/-- A decoder step: it may move the state forward or fail. -/
abbrev Reader (σ ε α : Type) := StateT σ (Except ε) α

/-- Fail with `error` when the condition holds. -/
def failIf (condition : Prop) [Decidable condition] (error : ε) : Reader σ ε Unit :=
  if condition then throw error else pure ()

/-- Fail with `error` on `none`. -/
def orFail (value : Option α) (error : ε) : Reader σ ε α :=
  match value with
  | some result => pure result
  | none => throw error

/-- `reader` accepts exactly what `write` emits for the values in `Valid`. -/
structure Exact (rest : σ → List β) (reader : Reader σ ε α)
    (write : α → List β) (Valid : α → Prop) : Prop where
  accepts : ∀ {state value tail}, Valid value → rest state = write value ++ tail →
    ∃ next, reader state = .ok (value, next) ∧ rest next = tail
  consumes : ∀ {state value next}, reader state = .ok (value, next) →
    Valid value ∧ rest state = write value ++ rest next

namespace Exact

variable {rest : σ → List β}

theorem pure (value : α) :
    Exact rest (Pure.pure value : Reader σ ε α) (fun _ => []) (fun other => other = value) where
  accepts := by
    rintro state other tail rfl remaining
    exact ⟨state, rfl, remaining⟩
  consumes := by
    rintro state other next accepted
    cases accepted
    exact ⟨rfl, rfl⟩

/-- A reader that always fails has an empty domain. -/
theorem fail (error : ε) (write : α → List β) :
    Exact rest (throw error : Reader σ ε α) write (fun _ => False) where
  accepts := fun absurdity => absurdity.elim
  consumes := by
    intro state value next accepted
    cases accepted

/-- A check in front of a reader narrows its domain. -/
theorem check {reader : Reader σ ε α} {write : α → List β} {Valid : α → Prop}
    (exactness : Exact rest reader write Valid) (condition : Prop) [Decidable condition]
    (error : ε) :
    Exact rest (failIf condition error >>= fun _ => reader) write
      (fun value => ¬ condition ∧ Valid value) where
  accepts := by
    intro state value tail valid remaining
    obtain ⟨next, accepted, nextRest⟩ := exactness.accepts valid.2 remaining
    refine ⟨next, ?_, nextRest⟩
    simp only [failIf, if_neg valid.1]
    exact accepted
  consumes := by
    intro state value next accepted
    by_cases holds : condition
    · simp only [failIf, if_pos holds] at accepted
      cases accepted
    · simp only [failIf, if_neg holds] at accepted
      obtain ⟨valid, remaining⟩ := exactness.consumes accepted
      exact ⟨⟨holds, valid⟩, remaining⟩

/-- A partial conversion in front of a reader. The converted value is not part
of the output, so the writer may not depend on it. -/
theorem convert {found : Option α} {error : ε} {reader : α → Reader σ ε γ}
    {write : γ → List β} {Valid : α → γ → Prop}
    (exactness : ∀ value, found = some value → Exact rest (reader value) write (Valid value)) :
    Exact rest (orFail found error >>= reader) write
      (fun result => ∃ value, found = some value ∧ Valid value result) where
  accepts := by
    rintro state result tail ⟨value, rfl, valid⟩ remaining
    exact (exactness value rfl).accepts valid remaining
  consumes := by
    intro state result next accepted
    cases found with
    | none => cases accepted
    | some value =>
        obtain ⟨valid, remaining⟩ := (exactness value rfl).consumes accepted
        exact ⟨⟨value, rfl, valid⟩, remaining⟩

/-- A partial conversion at the end of a reader. -/
theorem orFail (found : Option α) (error : ε) :
    Exact rest (Foundation.orFail found error : Reader σ ε α)
      (fun _ => []) (fun value => found = some value) where
  accepts := by
    rintro state value tail rfl remaining
    exact ⟨state, rfl, remaining⟩
  consumes := by
    intro state value next accepted
    cases found with
    | none => cases accepted
    | some result =>
        cases accepted
        exact ⟨rfl, rfl⟩

/-- A fallible computation that reads nothing. -/
theorem lift (found : Except ε α) :
    Exact rest (StateT.lift found : Reader σ ε α)
      (fun _ => []) (fun value => found = .ok value) where
  accepts := by
    rintro state value tail rfl remaining
    exact ⟨state, rfl, remaining⟩
  consumes := by
    intro state value next accepted
    cases found with
    | error failure => cases accepted
    | ok result =>
        cases accepted
        exact ⟨rfl, rfl⟩

/-- Sequencing. `part` recovers from the final value what the first reader
read, so the combined writer needs no extra argument. -/
theorem bind {first : Reader σ ε α} {second : α → Reader σ ε γ}
    {writeFirst : α → List β} {writeSecond : α → γ → List β}
    {ValidFirst : α → Prop} {ValidSecond : α → γ → Prop}
    (part : γ → α)
    (firstExact : Exact rest first writeFirst ValidFirst)
    (secondExact : ∀ value, Exact rest (second value) (writeSecond value) (ValidSecond value))
    (recovers : ∀ value result, ValidFirst value → ValidSecond value result →
      part result = value) :
    Exact rest (first >>= second)
      (fun result => writeFirst (part result) ++ writeSecond (part result) result)
      (fun result => ValidFirst (part result) ∧ ValidSecond (part result) result) where
  accepts := by
    intro state result tail valid remaining
    rw [List.append_assoc] at remaining
    obtain ⟨middle, firstRun, firstRest⟩ := firstExact.accepts valid.1 remaining
    obtain ⟨next, secondRun, secondRest⟩ := (secondExact _).accepts valid.2 firstRest
    refine ⟨next, ?_, secondRest⟩
    change (first state >>= fun pair => second pair.1 pair.2) = _
    rw [firstRun]
    exact secondRun
  consumes := by
    intro state result next accepted
    change (first state >>= fun pair => second pair.1 pair.2) = _ at accepted
    cases firstRun : first state with
    | error failure =>
        rw [firstRun] at accepted
        cases accepted
    | ok pair =>
        obtain ⟨value, middle⟩ := pair
        rw [firstRun] at accepted
        have secondRun : second value middle = .ok (result, next) := accepted
        obtain ⟨firstValid, firstRest⟩ := firstExact.consumes firstRun
        obtain ⟨secondValid, secondRest⟩ := (secondExact value).consumes secondRun
        have partEq := recovers value result firstValid secondValid
        subst partEq
        refine ⟨⟨firstValid, secondValid⟩, ?_⟩
        rw [firstRest, secondRest, List.append_assoc]

/-- Restate the writer and the domain. The writers only need to agree on the
domain. -/
theorem restate {reader : Reader σ ε α} {write write' : α → List β} {Valid Valid' : α → Prop}
    (exactness : Exact rest reader write Valid)
    (sameDomain : ∀ value, Valid' value ↔ Valid value)
    (sameWriter : ∀ value, Valid value → write' value = write value) :
    Exact rest reader write' Valid' where
  accepts := by
    intro state value tail valid remaining
    have holds := (sameDomain value).mp valid
    rw [sameWriter value holds] at remaining
    exact exactness.accepts holds remaining
  consumes := by
    intro state value next accepted
    obtain ⟨valid, remaining⟩ := exactness.consumes accepted
    rw [sameWriter value valid]
    exact ⟨(sameDomain value).mpr valid, remaining⟩

/-- A state opens with at most one written value. -/
theorem unique {reader : Reader σ ε α} {write : α → List β} {Valid : α → Prop}
    (exactness : Exact rest reader write Valid) {state : σ} {left right : α}
    {leftTail rightTail : List β} (leftValid : Valid left) (rightValid : Valid right)
    (leftRest : rest state = write left ++ leftTail)
    (rightRest : rest state = write right ++ rightTail) :
    left = right ∧ leftTail = rightTail := by
  obtain ⟨leftNext, leftRun, leftNextRest⟩ := exactness.accepts leftValid leftRest
  obtain ⟨rightNext, rightRun, rightNextRest⟩ := exactness.accepts rightValid rightRest
  rw [leftRun] at rightRun
  cases rightRun
  exact ⟨rfl, leftNextRest.symm.trans rightNextRest⟩

/-- Acceptance of a state, in one equivalence. -/
theorem accepts_iff {reader : Reader σ ε α} {write : α → List β} {Valid : α → Prop}
    (exactness : Exact rest reader write Valid) (state : σ) (value : α) :
    (∃ next, reader state = .ok (value, next)) ↔
      Valid value ∧ ∃ tail, rest state = write value ++ tail := by
  constructor
  · rintro ⟨next, accepted⟩
    obtain ⟨valid, remaining⟩ := exactness.consumes accepted
    exact ⟨valid, rest next, remaining⟩
  · rintro ⟨valid, tail, remaining⟩
    obtain ⟨next, accepted, _⟩ := exactness.accepts valid remaining
    exact ⟨next, accepted⟩

end Exact

/-! ## Checked writers -/

/-- `write` appends exactly `symbols` when `Fits` holds and otherwise refuses
with `error`. -/
structure Appends (write : List β → Except ε (List β)) (symbols : List β)
    (Fits : Prop) (error : ε) : Prop where
  writes : Fits → ∀ out, write out = .ok (out ++ symbols)
  refuses : ¬ Fits → ∀ out, write out = .error error

namespace Appends

variable {error : ε}

/-- An unconditional append. -/
theorem always (symbols : List β) :
    Appends (fun out => (.ok (out ++ symbols) : Except ε (List β))) symbols True error where
  writes := fun _ _ => rfl
  refuses := fun absurdity => (absurdity trivial).elim

/-- Appending two pieces in a row. The first failing piece decides, and both
refuse with the same error. -/
theorem andThen {first second : List β → Except ε (List β)} {left right : List β}
    {FirstFits SecondFits : Prop}
    (firstAppends : Appends first left FirstFits error)
    (secondAppends : Appends second right SecondFits error) :
    Appends (fun out => first out >>= second) (left ++ right) (FirstFits ∧ SecondFits) error where
  writes := by
    intro fits out
    rw [firstAppends.writes fits.1]
    change second (out ++ left) = _
    rw [secondAppends.writes fits.2, List.append_assoc]
  refuses := by
    intro fails out
    by_cases firstFits : FirstFits
    · rw [firstAppends.writes firstFits]
      exact secondAppends.refuses (fun secondFits => fails ⟨firstFits, secondFits⟩) _
    · rw [firstAppends.refuses firstFits]
      rfl

end Appends

end Oxo.Foundation
