import Mathlib.Algebra.BigOperators.Group.Finset.Piecewise
import Mathlib.Algebra.Order.BigOperators.Group.Finset
import Motogram.Foundation.Run

/-!
# Counting

Two counts a bound over an interleaving needs. `total` adds up what the members of a
finite family weigh; when one value changes, the total changes by what the old value
and the new one weigh (`total_update`). `tally` is the total of a test: it counts the
members whose values pass. The other is the number of steps of a run that pass a
test: an invariant that keeps the count bounds it (`countP_visits_le`).
-/

set_option autoImplicit false

namespace Motogram.Foundation

open Function

section Tally

variable {Index Value : Type} [Fintype Index]

/-- What the members weigh together. -/
def total (weight : Index → Value → Nat) (values : Index → Value) : Nat :=
  ∑ index, weight index (values index)

theorem total_update [DecidableEq Index] (weight : Index → Value → Nat) (values : Index → Value)
    (index : Index) (value : Value) :
    total weight (update values index value) + weight index (values index) =
      total weight values + weight index value := by
  have changed : (fun other => weight other (update values index value other)) =
      update (fun other => weight other (values other)) index (weight index value) := by
    funext other
    by_cases same : other = index
    · subst same
      simp only [update_self]
    · simp only [update_of_ne same]
  have rest := Finset.sum_eq_add_sum_sdiff_singleton_of_mem (Finset.mem_univ index)
    fun other => weight other (values other)
  rw [total, total, changed, Finset.sum_update_of_mem (Finset.mem_univ index)]
  omega

/-- The number of members whose value passes the test. -/
def tally (test : Value → Bool) (values : Index → Value) : Nat :=
  ∑ index, (test (values index)).toNat

theorem tally_update [DecidableEq Index] (test : Value → Bool) (values : Index → Value)
    (index : Index) (value : Value) :
    tally test (update values index value) + (test (values index)).toNat =
      tally test values + (test value).toNat :=
  total_update (fun _ value => (test value).toNat) values index value

theorem tally_eq_zero {test : Value → Bool} {values : Index → Value}
    (fails : ∀ index, test (values index) = false) : tally test values = 0 := by
  exact Finset.sum_eq_zero fun index _ => by rw [fails index]; rfl

end Tally

section Visits

variable {State Input : Type} {step : State → Input → State}

/-- **A count that an invariant keeps bounded** is bounded over every run under the
condition. -/
theorem countP_visits_le {condition : State → Input → Prop} (invariant : Nat → State → Prop)
    {bound : Nat} (test : State × Input → Bool)
    (keeps : ∀ count state input, invariant count state → condition state input →
      invariant (count + (test (state, input)).toNat) (step state input))
    (gives : ∀ count state, invariant count state → count ≤ bound)
    {count : Nat} {state : State} {inputs : List Input} (initially : invariant count state)
    (steps : EachStep step condition state inputs) :
    count + (visits step state inputs).countP test ≤ bound := by
  induction inputs generalizing count state with
  | nil => exact gives count state initially
  | cons input inputs ih =>
    have rest := ih (keeps count state input initially steps.1) steps.2
    rw [visits, List.countP_cons]
    cases passes : test (state, input) with
    | true =>
      rw [passes, Bool.toNat_true] at rest
      simp only [if_true]
      omega
    | false =>
      rw [passes] at rest
      simpa using rest

theorem two_le_countP {Step : Type} {test : Step → Bool} {steps : List Step} {first second : Step}
    (different : first ≠ second) (one : first ∈ steps) (two : second ∈ steps)
    (passes : test first = true) (passes' : test second = true) : 2 ≤ steps.countP test := by
  have one' := List.mem_filter.mpr ⟨one, passes⟩
  have two' := List.mem_filter.mpr ⟨two, passes'⟩
  rw [List.countP_eq_length_filter]
  cases kept : steps.filter test with
  | nil =>
    rw [kept] at one'
    cases one'
  | cons head tail =>
    rw [kept] at one' two'
    cases tail with
    | nil =>
      have same := (List.mem_singleton.mp one').trans (List.mem_singleton.mp two').symm
      exact absurd same different
    | cons next rest =>
      rw [List.length_cons, List.length_cons]
      omega

end Visits

end Motogram.Foundation
