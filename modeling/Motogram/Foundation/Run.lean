import Mathlib.Data.List.Basic

/-!
# Runs of a deterministic system

A system takes a state and an input to the next state. A run is the sequence
of states a list of inputs leads through.

Two kinds of statement are made about a run: that every state of it has a
property (`Throughout`), and that every step of it is taken under a condition
on the state before the step and on the input (`EachStep`). The two rules below
connect them. `throughout_of_keeps` is induction along the run with an
invariant. `throughout_iff_eachStep` is for a property that some steps break:
when a step breaks it exactly where the condition fails, the runs that have the
property throughout are the runs whose steps all meet the condition.
-/

set_option autoImplicit false

namespace Motogram.Foundation

variable {State Input : Type}

def follow (step : State → Input → State) : State → List Input → State
  | state, [] => state
  | state, input :: inputs => follow step (step state input) inputs

/-- The property holds in every state of the run, the first and the last
included. -/
def Throughout (step : State → Input → State) (property : State → Prop) :
    State → List Input → Prop
  | state, [] => property state
  | state, input :: inputs =>
    property state ∧ Throughout step property (step state input) inputs

/-- The condition holds at every step of the run. -/
def EachStep (step : State → Input → State) (condition : State → Input → Prop) :
    State → List Input → Prop
  | _, [] => True
  | state, input :: inputs =>
    condition state input ∧ EachStep step condition (step state input) inputs

/-- The steps of a run: each state with the input that is taken in it. -/
def visits (step : State → Input → State) : State → List Input → List (State × Input)
  | _, [] => []
  | state, input :: inputs => (state, input) :: visits step (step state input) inputs

/-- A run can be tested for a property that can be tested. -/
instance decidableThroughout (step : State → Input → State) (property : State → Prop)
    [DecidablePred property] :
    (state : State) → (inputs : List Input) → Decidable (Throughout step property state inputs)
  | state, [] => inferInstanceAs (Decidable (property state))
  | state, input :: inputs =>
    have := decidableThroughout step property (step state input) inputs
    inferInstanceAs (Decidable (property state ∧ Throughout step property (step state input) inputs))

instance decidableEachStep (step : State → Input → State) (condition : State → Input → Prop)
    [∀ state input, Decidable (condition state input)] :
    (state : State) → (inputs : List Input) → Decidable (EachStep step condition state inputs)
  | _, [] => isTrue trivial
  | state, input :: inputs =>
    have := decidableEachStep step condition (step state input) inputs
    inferInstanceAs
      (Decidable (condition state input ∧ EachStep step condition (step state input) inputs))

variable {step : State → Input → State}

@[simp] theorem follow_nil (state : State) : follow step state [] = state := rfl

@[simp] theorem follow_cons (state : State) (input : Input) (inputs : List Input) :
    follow step state (input :: inputs) = follow step (step state input) inputs := rfl

theorem follow_append (state : State) (earlier later : List Input) :
    follow step state (earlier ++ later) = follow step (follow step state earlier) later := by
  induction earlier generalizing state with
  | nil => rfl
  | cons input inputs ih => exact ih (step state input)

variable {property : State → Prop} {condition consequence : State → Input → Prop} {state : State}
  {inputs : List Input} {invariant : State → Prop}

theorem eachStep_append {earlier later : List Input} :
    EachStep step condition state (earlier ++ later) ↔
      EachStep step condition state earlier ∧
        EachStep step condition (follow step state earlier) later := by
  induction earlier generalizing state with
  | nil => simp [EachStep]
  | cons input inputs ih => simp only [List.cons_append, EachStep, ih, follow_cons, and_assoc]

theorem eachStep_iff_visits :
    EachStep step condition state inputs ↔ ∀ visit ∈ visits step state inputs, condition visit.1 visit.2 := by
  induction inputs generalizing state with
  | nil => simp [EachStep, visits]
  | cons input inputs ih => simp only [EachStep, visits, List.forall_mem_cons, ih]

theorem EachStep.mono {wider : State → Input → Prop} {state : State} {inputs : List Input}
    (steps : EachStep step condition state inputs)
    (implies : ∀ state input, condition state input → wider state input) : EachStep step wider state inputs := by
  induction inputs generalizing state with
  | nil => trivial
  | cons input inputs ih => exact ⟨implies _ _ steps.1, ih steps.2⟩

theorem EachStep.and {first second : State → Input → Prop} {state : State} {inputs : List Input}
    (left : EachStep step first state inputs) (right : EachStep step second state inputs) :
    EachStep step (fun state input => first state input ∧ second state input) state inputs := by
  induction inputs generalizing state with
  | nil => trivial
  | cons input inputs ih => exact ⟨⟨left.1, right.1⟩, ih left.2 right.2⟩

theorem eachStep_congr {first second : State → Input → Prop} {property : State → Prop}
    (agree : ∀ state input, property state → (first state input ↔ second state input))
    {state : State} {inputs : List Input} (holds : Throughout step property state inputs) :
    EachStep step first state inputs ↔ EachStep step second state inputs := by
  induction inputs generalizing state with
  | nil => exact Iff.rfl
  | cons input inputs ih => exact and_congr (agree state input holds.1) (ih holds.2)

theorem eachStep_of_forall_mem (every : ∀ input ∈ inputs, ∀ state, condition state input) (state : State) :
    EachStep step condition state inputs := by
  induction inputs generalizing state with
  | nil => trivial
  | cons input inputs ih =>
    exact ⟨every input (List.mem_cons_self ..) state,
      ih (fun other member => every other (List.mem_cons_of_mem _ member)) _⟩

theorem Throughout.first (holds : Throughout step property state inputs) : property state := by
  cases inputs with
  | nil => exact holds
  | cons input inputs => exact holds.1

theorem Throughout.last (holds : Throughout step property state inputs) :
    property (follow step state inputs) := by
  induction inputs generalizing state with
  | nil => exact holds
  | cons input inputs ih => exact ih holds.2

theorem Throughout.mono {weaker : State → Prop} {state : State} {inputs : List Input}
    (holds : Throughout step property state inputs) (implies : ∀ state, property state → weaker state) :
    Throughout step weaker state inputs := by
  induction inputs generalizing state with
  | nil => exact implies _ holds
  | cons input inputs ih => exact ⟨implies _ holds.1, ih holds.2⟩

theorem Throughout.and {first second : State → Prop} {state : State} {inputs : List Input}
    (left : Throughout step first state inputs) (right : Throughout step second state inputs) :
    Throughout step (fun state => first state ∧ second state) state inputs := by
  induction inputs generalizing state with
  | nil => exact ⟨left, right⟩
  | cons input inputs ih => exact ⟨⟨left.1, right.1⟩, ih left.2 right.2⟩

theorem Throughout.eachStep (holds : Throughout step property state inputs)
    (gives : ∀ state input, property state → consequence state input) :
    EachStep step consequence state inputs := by
  induction inputs generalizing state with
  | nil => trivial
  | cons input inputs ih => exact ⟨gives state input holds.1, ih holds.2⟩

theorem throughout_of_last (back : ∀ state input, property (step state input) → property state)
    {state : State} {inputs : List Input} (holds : property (follow step state inputs)) :
    Throughout step property state inputs := by
  induction inputs generalizing state with
  | nil => exact holds
  | cons input inputs ih =>
    have later := ih holds
    exact ⟨back _ _ later.first, later⟩

/-- **An invariant that every permitted step keeps holds throughout.** -/
theorem throughout_of_keeps
    (keeps : ∀ state input, invariant state → condition state input → invariant (step state input))
    {state : State} {inputs : List Input} (initially : invariant state)
    (steps : EachStep step condition state inputs) : Throughout step invariant state inputs := by
  induction inputs generalizing state with
  | nil => exact initially
  | cons input inputs ih => exact ⟨initially, ih (keeps _ _ initially steps.1) steps.2⟩

theorem eachStep_of_keeps
    (keeps : ∀ state input, invariant state → condition state input → invariant (step state input))
    (gives : ∀ state input, invariant state → condition state input → consequence state input)
    {state : State} {inputs : List Input} (initially : invariant state)
    (steps : EachStep step condition state inputs) : EachStep step consequence state inputs := by
  induction inputs generalizing state with
  | nil => trivial
  | cons input inputs ih =>
    exact ⟨gives _ _ initially steps.1, ih (keeps _ _ initially steps.1) steps.2⟩

theorem eachStep_of_invariant (keeps : ∀ state input, invariant state → invariant (step state input))
    (gives : ∀ state input, invariant state → consequence state input) {state : State}
    (initially : invariant state) (inputs : List Input) : EachStep step consequence state inputs := by
  induction inputs generalizing state with
  | nil => trivial
  | cons input inputs ih => exact ⟨gives _ _ initially, ih (keeps _ _ initially)⟩

theorem throughout_of_invariant (keeps : ∀ state input, invariant state → invariant (step state input))
    {state : State} (initially : invariant state) (inputs : List Input) :
    Throughout step invariant state inputs := by
  induction inputs generalizing state with
  | nil => exact initially
  | cons input inputs ih => exact ⟨initially, ih (keeps _ _ initially)⟩

/-- **A property that is broken exactly by the steps outside a condition holds
throughout exactly the runs whose steps all meet the condition.** -/
theorem throughout_iff_eachStep {property : State → Prop} (gives : ∀ state, invariant state → property state)
    (keeps : ∀ state input, invariant state → condition state input → invariant (step state input))
    (breaks : ∀ state input, invariant state → ¬ condition state input → ¬ property (step state input))
    {state : State} (initially : invariant state) (inputs : List Input) :
    Throughout step property state inputs ↔ EachStep step condition state inputs := by
  constructor
  · intro holds
    induction inputs generalizing state with
    | nil => trivial
    | cons input inputs ih =>
      have met : condition state input := by
        by_contra unmet
        exact breaks state input initially unmet holds.2.first
      exact ⟨met, ih (keeps _ _ initially met) holds.2⟩
  · intro steps
    exact (throughout_of_keeps keeps initially steps).mono gives

theorem last_of_keeps
    (keeps : ∀ state input, invariant state → condition state input → invariant (step state input))
    {state : State} {inputs : List Input} (initially : invariant state)
    (steps : EachStep step condition state inputs) : invariant (follow step state inputs) :=
  (throughout_of_keeps keeps initially steps).last

/-- **A step outside the condition spoils what no later step repairs**: a run that
is not spoiled in the end has met the condition at every step. -/
theorem eachStep_of_unspoiled {sound spoiled : State → Prop}
    (keeps : ∀ state input, sound state → condition state input → sound (step state input))
    (spoils : ∀ state input, sound state → ¬ condition state input → spoiled (step state input))
    (stuck : ∀ state input, spoiled state → spoiled (step state input)) {state : State}
    (initially : sound state) {inputs : List Input} (unspoiled : ¬ spoiled (follow step state inputs)) :
    EachStep step condition state inputs := by
  induction inputs generalizing state with
  | nil => trivial
  | cons input inputs ih =>
    have met : condition state input := by
      by_contra unmet
      have spoiled' := throughout_of_invariant stuck (spoils state input initially unmet) inputs
      exact unspoiled spoiled'.last
    exact ⟨met, ih (keeps state input initially met) unspoiled⟩

/-! ## Systems that answer -/

section Outputs

variable {Output : Type} {answers : State → Input → Output × State}

end Outputs

end Motogram.Foundation
