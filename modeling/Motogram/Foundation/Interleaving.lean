import Mathlib.Logic.Function.Basic
import Motogram.Foundation.Program
import Motogram.Foundation.Run

/-!
# Interleaved programs

A pool holds a store and any number of programs. A step of the pool lets one
program send its next request; the store answers it before anyone else moves.
A schedule is a list of program names, so an interleaving is a run of a
deterministic system and the rules for runs apply to it.

Between two requests of one program the others may have changed the store. What
a program can still count on is expressed by a relation on stores, its `rely`:
a program `Promises` an obligation when every request it will send meets the
obligation, whatever the others do within the rely meanwhile. If answering a
request that meets the obligation stays within the rely, then programs that
promise the obligation one by one keep it together (`Pool.AllPromise.advance`).
-/

set_option autoImplicit false

namespace Motogram.Foundation

open Program Function

variable {Index Call : Type} {Reply : Call → Type} {Failure α Store : Type}

def Program.next? : Program Call Reply Failure α → Option Call
  | .done _ => none
  | .fail _ => none
  | .call request _ => some request

/-- A program that has returned or failed. -/
def Program.Ended (program : Program Call Reply Failure α) : Prop := program.next? = none

instance (program : Program Call Reply Failure α) : Decidable program.Ended :=
  decidable_of_iff program.next?.isNone Option.isNone_iff_eq_none

@[simp] theorem Program.next?_done (value : α) :
    (done value : Program Call Reply Failure α).next? = none := rfl

@[simp] theorem Program.next?_fail (failure : Failure) :
    (fail failure : Program Call Reply Failure α).next? = none := rfl

@[simp] theorem Program.next?_call (request : Call)
    (next : Reply request → Program Call Reply Failure α) :
    (call request next).next? = some request := rfl

def Program.value? : Program Call Reply Failure α → Option α
  | .done value => some value
  | _ => none

theorem Program.value?_eq_some {program : Program Call Reply Failure α} {value : α} :
    program.value? = some value ↔ program = .done value := by
  cases program <;> simp [value?]

def Program.failure? : Program Call Reply Failure α → Option Failure
  | .fail failure => some failure
  | _ => none

theorem Program.failure?_eq_some {program : Program Call Reply Failure α} {failure : Failure} :
    program.failure? = some failure ↔ program = .fail failure := by
  cases program <;> simp [failure?]

section Update

variable {Value : Type} [DecidableEq Index] {values : Index → Value} {index other : Index} {value : Value}

/-- What is known of a changed family is known of the new value, or of another one as it was. -/
theorem of_update {known : Value → Prop} (here : known (update values index value other)) :
    (other = index ∧ known value) ∨ (other ≠ index ∧ known (values other)) := by
  by_cases same : other = index
  · subst same
    rw [update_self] at here
    exact .inl ⟨rfl, here⟩
  · rw [update_of_ne same] at here
    exact .inr ⟨same, here⟩

theorem eq_of_update {found : Value} (here : update values index value other = found) :
    (other = index ∧ value = found) ∨ (other ≠ index ∧ values other = found) :=
  @of_update _ _ _ values index other value (· = found) here

end Update

structure Pool (Index Call : Type) (Reply : Call → Type) (Failure α Store : Type) where
  threads : Index → Program Call Reply Failure α
  store : Store

namespace Pool

variable [DecidableEq Index] (answer : Answer Call Reply Store)

/-- Let one program send its next request. A program that has ended has none. -/
def advance (pool : Pool Index Call Reply Failure α Store) (index : Index) :
    Pool Index Call Reply Failure α Store :=
  match pool.threads index with
  | .call request next =>
    { threads := update pool.threads index (next (answer request pool.store).1)
      store := (answer request pool.store).2 }
  | _ => pool

/-- The request a program sends when it is scheduled next. -/
def next? (pool : Pool Index Call Reply Failure α Store) (index : Index) : Option Call :=
  (pool.threads index).next?

variable {answer}

variable {pool : Pool Index Call Reply Failure α Store}

theorem advance_of_call {index : Index} {request : Call}
    {next : Reply request → Program Call Reply Failure α} (here : pool.threads index = .call request next) :
    pool.advance answer index =
      { threads := update pool.threads index (next (answer request pool.store).1)
        store := (answer request pool.store).2 } := by
  simp only [advance, here]

theorem advance_of_ended {index : Index} (ended : (pool.threads index).Ended) :
    pool.advance answer index = pool := by
  unfold advance
  split
  · rename_i request next here
    rw [here] at ended
    cases ended
  · rfl

theorem store_advance {index : Index} {request : Call} (here : pool.next? index = some request) :
    (pool.advance answer index).store = (answer request pool.store).2 := by
  unfold next? at here
  cases shape : pool.threads index with
  | done | fail => rw [shape] at here; cases here
  | call request' next =>
    rw [shape] at here
    cases here
    rw [advance_of_call shape]

/-- Without a request nothing changes. -/
theorem store_advance_of_none {index : Index} (here : pool.next? index = none) :
    pool.advance answer index = pool :=
  advance_of_ended here

theorem threads_advance_of_ne {index other : Index} (different : other ≠ index) :
    (pool.advance answer index).threads other = pool.threads other := by
  unfold advance
  split
  · exact update_of_ne different _ _
  · rfl

end Pool

/-! ## Obligations under interference -/

namespace Program

variable (answer : Answer Call Reply Store)

/-- Every request the program will send meets the obligation at the moment it
is sent, when the others move the store only within the rely. -/
def Promises (rely : Store → Store → Prop) (obliged : Call → Store → Prop) :
    Program Call Reply Failure α → Store → Prop
  | .done _, _ => True
  | .fail _, _ => True
  | .call request next, store => ∀ later, rely store later →
      obliged request later ∧
        Promises rely obliged (next (answer request later).1) (answer request later).2

variable {answer} {rely : Store → Store → Prop} {obliged : Call → Store → Prop}

theorem Promises.stable (trans : ∀ first second third, rely first second → rely second third →
    rely first third) {program : Program Call Reply Failure α} {store later : Store}
    (promises : program.Promises answer rely obliged store) (moved : rely store later) :
    program.Promises answer rely obliged later := by
  cases program with
  | done | fail => trivial
  | call request next => exact fun latest moves => promises latest (trans _ _ _ moved moves)

theorem Uses.promises {permitted : Call → Prop} {program : Program Call Reply Failure α}
    (uses : program.Uses permitted) (meets : ∀ request, permitted request → ∀ store, obliged request store)
    (store : Store) : program.Promises answer rely obliged store := by
  induction program generalizing store with
  | done | fail => trivial
  | call request next ih =>
    exact fun later _ => ⟨meets request uses.1 later, ih _ (uses.2 _) _⟩

theorem Promises.bind {β : Type} (refl : ∀ store, rely store store)
    (trans : ∀ first second third, rely first second → rely second third → rely first third)
    (within : ∀ request store, obliged request store → rely store (answer request store).2)
    {program : Program Call Reply Failure α} {next : α → Program Call Reply Failure β}
    {store : Store} (first : program.Promises answer rely obliged store)
    (rest : ∀ value later, rely store later → (next value).Promises answer rely obliged later) :
    (program >>= next).Promises answer rely obliged store := by
  induction program generalizing store with
  | done value => exact rest value store (refl store)
  | fail failure => trivial
  | call request continuation ih =>
    intro later moved
    obtain ⟨meets, promises⟩ := first later moved
    refine ⟨meets, ih _ promises fun value latest moves => rest value latest ?_⟩
    exact trans _ _ _ (trans _ _ _ moved (within request later meets)) moves

end Program

/-! ## Values under interference -/

namespace Program

/-- What the program returns is good when it returns, when the others move the store only
within the rely. -/
def Settles (answer : Answer Call Reply Store) (rely : Store → Store → Prop)
    (good : α → Store → Prop) : Program Call Reply Failure α → Store → Prop
  | .done value, store => good value store
  | .fail _, _ => True
  | .call request next, store => ∀ later, rely store later →
      Settles answer rely good (next (answer request later).1) (answer request later).2

variable {answer : Answer Call Reply Store} {rely : Store → Store → Prop}
  {good : α → Store → Prop}

theorem Settles.stable (trans : ∀ first second third, rely first second → rely second third →
    rely first third) (stays : ∀ value store later, rely store later → good value store → good value later)
    {program : Program Call Reply Failure α} {store later : Store}
    (settles : program.Settles answer rely good store) (moved : rely store later) :
    program.Settles answer rely good later := by
  cases program with
  | done value => exact stays value store later moved settles
  | fail failure => trivial
  | call request next => exact fun latest moves => settles latest (trans _ _ _ moved moves)

end Program

namespace Pool

variable [DecidableEq Index] {answer : Answer Call Reply Store}
  {rely : Store → Store → Prop} {obliged : Call → Store → Prop}

/-- Every program of the pool promises the obligation. -/
def AllPromise (answer : Answer Call Reply Store) (rely : Store → Store → Prop)
    (obliged : Call → Store → Prop) (pool : Pool Index Call Reply Failure α Store) : Prop :=
  ∀ index, (pool.threads index).Promises answer rely obliged pool.store

/-- The request sent at a step meets the obligation. -/
def Obliged (obliged : Call → Store → Prop) (pool : Pool Index Call Reply Failure α Store)
    (index : Index) : Prop :=
  ∀ request, pool.next? index = some request → obliged request pool.store

omit [DecidableEq Index] in
theorem AllPromise.obliged_next (refl : ∀ store, rely store store) {pool : Pool Index Call Reply Failure α Store}
    (promise : pool.AllPromise answer rely obliged) (index : Index) : pool.Obliged obliged index := by
  intro request here
  have own := promise index
  unfold next? at here
  cases shape : pool.threads index with
  | done | fail => rw [shape] at here; cases here
  | call request' next =>
    rw [shape] at here own
    cases here
    exact (own pool.store (refl _)).1

theorem AllPromise.advance (refl : ∀ store, rely store store)
    (trans : ∀ first second third, rely first second → rely second third → rely first third)
    (within : ∀ request store, obliged request store → rely store (answer request store).2)
    {pool : Pool Index Call Reply Failure α Store} (promise : pool.AllPromise answer rely obliged)
    (index : Index) : (pool.advance answer index).AllPromise answer rely obliged := by
  cases shape : pool.threads index with
  | done | fail => rwa [advance_of_ended (by rw [shape]; rfl)]
  | call request next =>
    have own := promise index
    rw [shape] at own
    obtain ⟨meets, rest⟩ := own pool.store (refl _)
    rw [advance_of_call shape]
    intro other
    by_cases same : other = index
    · subst same
      simpa only [update_self] using rest
    · simpa only [update_of_ne same] using
        (promise other).stable trans (within request pool.store meets)

/-! ## A store that some requests spoil -/

def EachUses (permitted : Index → Call → Prop) (pool : Pool Index Call Reply Failure α Store) : Prop :=
  ∀ index, (pool.threads index).Uses (permitted index)

theorem EachUses.advance {permitted : Index → Call → Prop} {pool : Pool Index Call Reply Failure α Store}
    (uses : pool.EachUses permitted) (index : Index) : (pool.advance answer index).EachUses permitted := by
  cases shape : pool.threads index with
  | done | fail => rwa [advance_of_ended (by rw [shape]; rfl)]
  | call request next =>
    have own := uses index
    rw [shape] at own
    rw [advance_of_call shape]
    intro other
    by_cases same : other = index
    · subst same
      simpa only [update_self] using own.2 _
    · simpa only [update_of_ne same] using uses other

omit [DecidableEq Index] in
theorem EachUses.next {permitted : Index → Call → Prop} {pool : Pool Index Call Reply Failure α Store}
    (uses : pool.EachUses permitted) {index : Index} {request : Call}
    (asked : pool.next? index = some request) : permitted index request := by
  have own := uses index
  unfold next? at asked
  cases shape : pool.threads index with
  | done | fail => rw [shape] at asked; cases asked
  | call first next =>
    rw [shape] at asked own
    cases asked
    exact own.1

def AllUse (permitted : Call → Prop) (pool : Pool Index Call Reply Failure α Store) : Prop :=
  ∀ index, (pool.threads index).Uses permitted

variable {permitted : Call → Prop} {pool : Pool Index Call Reply Failure α Store}

theorem AllUse.advance (uses : pool.AllUse permitted) (index : Index) :
    (pool.advance answer index).AllUse permitted := by
  have each : pool.EachUses fun _ => permitted := uses
  exact each.advance index

omit [DecidableEq Index] in
theorem AllUse.next (uses : pool.AllUse permitted) {index : Index} {request : Call}
    (asked : pool.next? index = some request) : permitted request := by
  have each : pool.EachUses fun _ => permitted := uses
  exact each.next asked

/-- **The values of programs that settle stay good**, under every schedule. -/
theorem throughout_settled {good : α → Store → Prop} (refl : ∀ store, rely store store)
    (trans : ∀ first second third, rely first second → rely second third → rely first third)
    (within : ∀ request store, permitted request → rely store (answer request store).2)
    (stays : ∀ value store later, rely store later → good value store → good value later)
    {pool : Pool Index Call Reply Failure α Store} (uses : pool.AllUse permitted)
    (settles : ∀ index, (pool.threads index).Settles answer rely good pool.store) (schedule : List Index) :
    Throughout (Pool.advance answer)
      (fun pool => ∀ index value, pool.threads index = .done value → good value pool.store) pool schedule := by
  let invariant (pool : Pool Index Call Reply Failure α Store) :=
    pool.AllUse permitted ∧ ∀ index, (pool.threads index).Settles answer rely good pool.store
  have start : invariant pool := ⟨uses, settles⟩
  refine (throughout_of_invariant (fun pool index (held : invariant pool) => ?_) start schedule).mono
    fun pool held index value returned => ?_
  · refine ⟨held.1.advance index, ?_⟩
    cases shape : pool.threads index with
    | done | fail =>
      rw [advance_of_ended (by rw [shape]; rfl)]
      exact held.2
    | call request next =>
      have asked : pool.next? index = some request := by rw [Pool.next?, shape, next?_call]
      have moved := within request pool.store (held.1.next asked)
      have own := held.2 index
      rw [shape] at own
      rw [advance_of_call shape]
      intro other
      by_cases same : other = index
      · subst same
        simpa only [update_self] using own pool.store (refl _)
      · simpa only [update_of_ne same] using (held.2 other).stable trans stays moved
  · have own := held.2 index
    rwa [returned] at own

/-- **A property of the store that a permitted request breaks exactly where it is not timely** holds
throughout exactly the interleavings in which every request is sent in time. -/
theorem throughout_iff_obliged {kept : Store → Prop} {timely : Call → Store → Prop}
    (keeps : ∀ request store, permitted request → kept store → timely request store → kept (answer request store).2)
    (breaks : ∀ request store, permitted request → kept store → ¬ timely request store → ¬ kept (answer request store).2)
    {pool : Pool Index Call Reply Failure α Store} (uses : pool.AllUse permitted)
    (initially : kept pool.store) (schedule : List Index) :
    Throughout (Pool.advance answer) (fun pool => kept pool.store) pool schedule ↔
      EachStep (Pool.advance answer) (Pool.Obliged timely) pool schedule := by
  let invariant (pool : Pool Index Call Reply Failure α Store) := pool.AllUse permitted ∧ kept pool.store
  have start : invariant pool := ⟨uses, initially⟩
  refine throughout_iff_eachStep (fun pool (held : invariant pool) => held.2) (fun pool index held met => ?_)
    (fun pool index held unmet => ?_) start schedule
  · refine ⟨held.1.advance index, ?_⟩
    cases here : pool.next? index with
    | none =>
      rw [store_advance_of_none here]
      exact held.2
    | some request =>
      rw [store_advance here]
      exact keeps request pool.store (held.1.next here) held.2 (met request here)
  · unfold Obliged at unmet
    push Not at unmet
    obtain ⟨request, here, late⟩ := unmet
    rw [store_advance here]
    exact breaks request pool.store (held.1.next here) held.2 late

end Pool

end Motogram.Foundation
