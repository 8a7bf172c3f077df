import Motogram.Foundation.Interleaving

/-!
# Programs in stages

What a program in the middle of an interleaving still has to do, and what it
remembers of the replies it had, is its stage. A family of stages describes a
pool when every thread is the program of its stage (`Pool.InStages`).

The moves of a program say which call takes it from which stage to which, in
which store. A program `Follows` its moves at a stage when it has ended there, or
its next call is a move. An invariant of stages and store that every move keeps
under a condition holds throughout the interleavings that meet the condition at
every step (`Pool.throughout_of_stages`).
-/

set_option autoImplicit false

namespace Motogram.Foundation

open Program Function

variable {Index Call Stage : Type} {Reply : Call → Type} {Failure α Store : Type}

/-- The program of a stage has ended, or the call it sends is a move to another
stage, whose program is the rest of it. -/
def Program.Follows (answer : Answer Call Reply Store)
    (program : Stage → Program Call Reply Failure α) (moves : Store → Stage → Call → Stage → Prop)
    (stage : Stage) (store : Store) : Prop :=
  (program stage).Ended ∨
    ∃ request next stage', program stage = .call request next ∧ moves store stage request stage' ∧
      next (answer request store).1 = program stage'

namespace Program

/-- The program makes permitted calls only, and does not fail while the store keeps
the property. -/
def Finishes (answer : Answer Call Reply Store) (permitted : Call → Prop) (kept : Store → Prop) :
    Program Call Reply Failure α → Prop
  | .done _ => True
  | .fail _ => False
  | .call request next =>
    permitted request ∧
      ∀ store, kept store → (next (answer request store).1).Finishes answer permitted kept

variable {answer : Answer Call Reply Store} {permitted : Call → Prop} {kept : Store → Prop}

theorem Finishes.bind {β : Type} {program : Program Call Reply Failure α}
    {next : α → Program Call Reply Failure β} (first : program.Finishes answer permitted kept)
    (rest : ∀ value, (next value).Finishes answer permitted kept) :
    (program >>= next).Finishes answer permitted kept := by
  induction program with
  | done value => exact rest value
  | fail failure => exact first.elim
  | call request continuation ih =>
    exact ⟨first.1, fun store holds => ih _ (first.2 store holds)⟩

end Program

namespace Pool

variable {program : Index → Stage → Program Call Reply Failure α}
  {moves : Index → Store → Stage → Call → Stage → Prop}

def InStages (program : Index → Stage → Program Call Reply Failure α) (stages : Index → Stage)
    (pool : Pool Index Call Reply Failure α Store) : Prop :=
  ∀ index, pool.threads index = program index (stages index)

theorem InStages.next? {stages : Index → Stage} {pool : Pool Index Call Reply Failure α Store}
    (staged : pool.InStages program stages) (index : Index) :
    pool.next? index = (program index (stages index)).next? := by
  rw [Pool.next?, staged index]

def Described (program : Index → Stage → Program Call Reply Failure α)
    (property : (Index → Stage) → Store → Prop) (pool : Pool Index Call Reply Failure α Store) :
    Prop :=
  ∃ stages, pool.InStages program stages ∧ property stages pool.store

variable [DecidableEq Index] {answer : Answer Call Reply Store}

/-- A step leaves the pool as it is, or it is a move of the scheduled thread. -/
theorem InStages.advance (moves : Index → Store → Stage → Call → Stage → Prop)
    {stages : Index → Stage} {pool : Pool Index Call Reply Failure α Store}
    {index : Index} (staged : pool.InStages program stages)
    (follows : Follows answer (program index) (moves index) (stages index) pool.store) :
    (pool.next? index = none ∧ pool.advance answer index = pool) ∨
      ∃ request stage', pool.next? index = some request ∧
        moves index pool.store (stages index) request stage' ∧
        (pool.advance answer index).store = (answer request pool.store).2 ∧
        (pool.advance answer index).InStages program (update stages index stage') := by
  obtain ended | ⟨request, next, stage', shape, moved, rest⟩ := follows
  · rw [← staged index] at ended
    exact .inl ⟨ended, advance_of_ended ended⟩
  · rw [← staged index] at shape
    have asked : pool.next? index = some request := by rw [Pool.next?, shape, next?_call]
    refine .inr ⟨request, stage', asked, moved, store_advance asked, fun other => ?_⟩
    by_cases same : other = index
    · subst same
      simp only [advance_of_call shape, update_self, rest]
    · rw [threads_advance_of_ne same, update_of_ne same, staged other]

/-- **An invariant of stages and store that the permitted moves keep holds
throughout.** -/
theorem throughout_of_stages (moves : Index → Store → Stage → Call → Stage → Prop)
    (sound : (Index → Stage) → Store → Prop)
    (condition : Pool Index Call Reply Failure α Store → Index → Prop)
    (follows : ∀ stages store index, sound stages store →
      Follows answer (program index) (moves index) (stages index) store)
    (keeps : ∀ (pool : Pool Index Call Reply Failure α Store) stages index request stage',
      pool.InStages program stages → sound stages pool.store → condition pool index →
        pool.next? index = some request → moves index pool.store (stages index) request stage' →
          sound (update stages index stage') (answer request pool.store).2)
    {pool : Pool Index Call Reply Failure α Store} {stages : Index → Stage}
    (staged : pool.InStages program stages) (initially : sound stages pool.store)
    {schedule : List Index} (steps : EachStep (Pool.advance answer) condition pool schedule) :
    Throughout (Pool.advance answer) (Described program sound) pool schedule := by
  refine throughout_of_keeps (fun pool index held met => ?_) ⟨stages, staged, initially⟩ steps
  obtain ⟨stages, staged, held⟩ := held
  obtain ⟨-, same⟩ | ⟨request, stage', asked, moved, store, staged'⟩ :=
    staged.advance moves (follows stages pool.store index held)
  · rw [same]
    exact ⟨stages, staged, held⟩
  · refine ⟨_, staged', ?_⟩
    rw [store]
    exact keeps pool stages index request stage' staged held met asked moved

/-- **A move outside the condition spoils what no later move repairs**: an
interleaving that is not spoiled in the end has met the condition at every step. -/
theorem eachStep_of_stages (moves : Index → Store → Stage → Call → Stage → Prop)
    (sound spoiled : (Index → Stage) → Store → Prop)
    (condition : Pool Index Call Reply Failure α Store → Index → Prop)
    (follows : ∀ stages store index, sound stages store ∨ spoiled stages store →
      Follows answer (program index) (moves index) (stages index) store)
    (silent : ∀ (pool : Pool Index Call Reply Failure α Store) index,
      pool.next? index = none → condition pool index)
    (keeps : ∀ (pool : Pool Index Call Reply Failure α Store) stages index request stage',
      pool.InStages program stages → sound stages pool.store → condition pool index →
        pool.next? index = some request → moves index pool.store (stages index) request stage' →
          sound (update stages index stage') (answer request pool.store).2)
    (spoils : ∀ (pool : Pool Index Call Reply Failure α Store) stages index request stage',
      pool.InStages program stages → sound stages pool.store → ¬ condition pool index →
        pool.next? index = some request → moves index pool.store (stages index) request stage' →
          spoiled (update stages index stage') (answer request pool.store).2)
    (stuck : ∀ stages store index request stage', spoiled stages store →
      moves index store (stages index) request stage' →
        spoiled (update stages index stage') (answer request store).2)
    {pool : Pool Index Call Reply Failure α Store} {stages : Index → Stage}
    (staged : pool.InStages program stages) (initially : sound stages pool.store)
    {schedule : List Index}
    (unspoiled : ¬ (follow (Pool.advance answer) pool schedule).Described program spoiled) :
    EachStep (Pool.advance answer) condition pool schedule := by
  have start : pool.Described program sound := ⟨stages, staged, initially⟩
  refine eachStep_of_unspoiled (fun pool index held met => ?_) (fun pool index held unmet => ?_)
    (fun pool index held => ?_) start unspoiled
  · obtain ⟨stages, staged, held⟩ := held
    obtain ⟨-, same⟩ | ⟨request, stage', asked, moved, store, staged'⟩ :=
      staged.advance moves (follows stages pool.store index (.inl held))
    · rw [same]
      exact ⟨stages, staged, held⟩
    · refine ⟨_, staged', ?_⟩
      rw [store]
      exact keeps pool stages index request stage' staged held met asked moved
  · obtain ⟨stages, staged, held⟩ := held
    obtain ⟨quiet, -⟩ | ⟨request, stage', asked, moved, store, staged'⟩ :=
      staged.advance moves (follows stages pool.store index (.inl held))
    · exact absurd (silent pool index quiet) unmet
    · refine ⟨_, staged', ?_⟩
      rw [store]
      exact spoils pool stages index request stage' staged held unmet asked moved
  · obtain ⟨stages, staged, held⟩ := held
    obtain ⟨-, same⟩ | ⟨request, stage', -, moved, store, staged'⟩ :=
      staged.advance moves (follows stages pool.store index (.inr held))
    · rw [same]
      exact ⟨stages, staged, held⟩
    · refine ⟨_, staged', ?_⟩
      rw [store]
      exact stuck stages pool.store index request stage' held moved

end Pool

end Motogram.Foundation
