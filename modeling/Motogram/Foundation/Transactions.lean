import Mathlib.Logic.Function.Basic
import Motogram.Foundation.Staging

/-!
# Transactions that read what is committed

A store of transactions holds the committed data, the writes each open transaction has made
and not committed, and the rows they are locked by. A statement of a transaction sees the
committed data with the transaction's own writes. A write locks its row until the transaction
ends, and a write of a row that another transaction has locked waits: its turn passes without
effect. Committing applies the writes to the data that is committed by then.

What a transaction has written stays locked by it (`Transactions.Locked`), so two open
transactions have written no row in common (`Transactions.Locked.apart`).
-/

set_option autoImplicit false

namespace Motogram.Foundation

open Function Pool

variable {Index Data Write Row : Type}

structure Transactions (Index Data Write Row : Type) where
  committed : Data
  pending : Index → List Write
  locks : Row → Option Index

namespace Transactions

/-- Nobody has begun a transaction. -/
def quiet (data : Data) : Transactions Index Data Write Row where
  committed := data
  pending := fun _ => []
  locks := fun _ => none

variable (apply : Write → Data → Data) (row : Write → Row)

/-- What a statement of the transaction sees. -/
def visible (s : Transactions Index Data Write Row) (tx : Index) : Data :=
  (s.pending tx).foldl (fun data write => apply write data) s.committed

variable [DecidableEq Index] [DecidableEq Row]

def held (s : Transactions Index Data Write Row) (tx : Index) (row : Row) : Bool :=
  (s.locks row).any fun owner => decide (owner ≠ tx)

def write (s : Transactions Index Data Write Row) (tx : Index) (write : Write) :
    Transactions Index Data Write Row where
  committed := s.committed
  pending := update s.pending tx (s.pending tx ++ [write])
  locks := update s.locks (row write) (some tx)

/-- The transaction ends, and its locks are released. -/
def close (s : Transactions Index Data Write Row) (tx : Index) (data : Data) :
    Transactions Index Data Write Row where
  committed := data
  pending := update s.pending tx []
  locks := fun row => if s.locks row = some tx then none else s.locks row

/-- Commit: the writes are applied to what is committed by now. -/
def commit (s : Transactions Index Data Write Row) (tx : Index) : Transactions Index Data Write Row :=
  s.close tx (s.visible apply tx)

/-- Roll back: the writes are dropped. -/
def rollback (s : Transactions Index Data Write Row) (tx : Index) :
    Transactions Index Data Write Row :=
  s.close tx s.committed

def Locked (s : Transactions Index Data Write Row) : Prop :=
  ∀ tx write, write ∈ s.pending tx → s.locks (row write) = some tx

variable {apply row} {s : Transactions Index Data Write Row} {tx : Index}

omit [DecidableEq Index] [DecidableEq Row] in
theorem visible_of_nil (nothing : s.pending tx = []) : s.visible apply tx = s.committed := by
  rw [visible, nothing]
  rfl

omit [DecidableEq Index] [DecidableEq Row] in
/-- **Two open transactions have written no row in common.** -/
theorem Locked.apart (locked : s.Locked row) {first second : Index} {write write' : Write}
    (own : write ∈ s.pending first) (other : write' ∈ s.pending second) (same : row write = row write') :
    first = second := by
  have mine := locked first write own
  have theirs := locked second write' other
  rw [same, theirs] at mine
  exact (Option.some.inj mine).symm

theorem Locked.write (locked : s.Locked row) {new : Write} (free : s.held tx (row new) = false) :
    (s.write row tx new).Locked row := by
  intro other old member
  simp only [Transactions.write] at member ⊢
  by_cases same : other = tx
  · subst same
    rw [update_self, List.mem_append, List.mem_singleton] at member
    obtain before | rfl := member
    · by_cases again : row old = row new
      · rw [again, update_self]
      · rw [update_of_ne again]
        exact locked other old before
    · rw [update_self]
  · rw [update_of_ne same] at member
    have lock := locked other old member
    by_cases again : row old = row new
    · rw [held, ← again, lock, Option.any_some, decide_eq_false_iff_not, not_not] at free
      exact absurd free same
    · rw [update_of_ne again]
      exact lock

omit [DecidableEq Row] in
theorem Locked.close (locked : s.Locked row) (tx : Index) (data : Data) : (s.close tx data).Locked row := by
  intro other write member
  simp only [Transactions.close] at member ⊢
  obtain ⟨rfl, member'⟩ | ⟨same, member'⟩ := of_update member
  · cases member'
  · have lock := locked other write member'
    rw [lock, if_neg fun equal => same (Option.some.inj equal)]

end Transactions

/-! ## Waiting -/

namespace Pool

variable {Call : Type} {Reply : Call → Type} {Failure α Store Stage : Type} [DecidableEq Index]
  (waits : Index → Call → Store → Bool) {answer : Program.Answer Call Reply Store}

/-- The call the program sends next has to wait. -/
def Waits (pool : Pool Index Call Reply Failure α Store) (index : Index) : Bool :=
  (pool.next? index).any fun request => waits index request pool.store

variable (answer) in
/-- A program whose next call has to wait leaves its turn pass. -/
def turn (pool : Pool Index Call Reply Failure α Store) (index : Index) :
    Pool Index Call Reply Failure α Store :=
  if pool.Waits waits index then pool else pool.advance answer index

/-- **A turn outside the condition spoils what no later turn repairs**, and under the
condition keeps what is sound: what is sound in the beginning is sound in the end when every
turn has met the condition, and spoiled in the end otherwise. -/
theorem turns_of_stages {program : Index → Stage → Program Call Reply Failure α}
    (moves : Index → Store → Stage → Call → Stage → Prop) (sound spoiled : (Index → Stage) → Store → Prop)
    (condition : Pool Index Call Reply Failure α Store → Index → Prop)
    (follows : ∀ stages store index, sound stages store ∨ spoiled stages store →
      Program.Follows answer (program index) (moves index) (stages index) store)
    (silent : ∀ (pool : Pool Index Call Reply Failure α Store) index,
      pool.next? index = none ∨ pool.Waits waits index → condition pool index)
    (keeps : ∀ (pool : Pool Index Call Reply Failure α Store) stages index request stage',
      pool.InStages program stages → sound stages pool.store → condition pool index →
        pool.next? index = some request → waits index request pool.store = false →
          moves index pool.store (stages index) request stage' →
            sound (update stages index stage') (answer request pool.store).2)
    (spoils : ∀ (pool : Pool Index Call Reply Failure α Store) stages index request stage',
      pool.InStages program stages → sound stages pool.store → ¬ condition pool index →
        pool.next? index = some request → waits index request pool.store = false →
          moves index pool.store (stages index) request stage' →
            spoiled (update stages index stage') (answer request pool.store).2)
    (stuck : ∀ (pool : Pool Index Call Reply Failure α Store) stages index request stage',
      spoiled stages pool.store → waits index request pool.store = false →
        moves index pool.store (stages index) request stage' →
          spoiled (update stages index stage') (answer request pool.store).2)
    {pool : Pool Index Call Reply Failure α Store} {stages : Index → Stage}
    (staged : pool.InStages program stages) (initially : sound stages pool.store)
    (schedule : List Index) :
    (EachStep (turn waits answer) condition pool schedule ∧
        (follow (turn waits answer) pool schedule).Described program sound) ∨
      (¬ EachStep (turn waits answer) condition pool schedule ∧
        (follow (turn waits answer) pool schedule).Described program spoiled) := by
  have moved : ∀ (pool : Pool Index Call Reply Failure α Store) stages index,
      pool.InStages program stages → sound stages pool.store ∨ spoiled stages pool.store →
        ((pool.next? index = none ∨ pool.Waits waits index) ∧ pool.turn waits answer index = pool) ∨
        ∃ request stage', pool.next? index = some request ∧ waits index request pool.store = false ∧
          moves index pool.store (stages index) request stage' ∧
          (pool.turn waits answer index).store = (answer request pool.store).2 ∧
          (pool.turn waits answer index).InStages program (update stages index stage') := by
    intro pool stages index staged described
    by_cases waiting : pool.Waits waits index
    · exact .inl ⟨.inr waiting, if_pos waiting⟩
    · have goes : pool.turn waits answer index = pool.advance answer index := if_neg waiting
      rw [goes]
      obtain ⟨quiet, same⟩ | ⟨request, stage', asked, move, store, staged'⟩ :=
        staged.advance moves (follows stages pool.store index described)
      · exact .inl ⟨.inl quiet, same⟩
      · rw [Waits, asked, Bool.not_eq_true] at waiting
        exact .inr ⟨request, stage', asked, waiting, move, store, staged'⟩
  have stays : ∀ (pool : Pool Index Call Reply Failure α Store) index,
      pool.Described program spoiled → (pool.turn waits answer index).Described program spoiled := by
    rintro pool index ⟨stages, staged, spoilt⟩
    obtain ⟨-, same⟩ | ⟨request, stage', -, free, move, store, staged'⟩ :=
      moved pool stages index staged (.inr spoilt)
    · rw [same]
      exact ⟨stages, staged, spoilt⟩
    · refine ⟨_, staged', ?_⟩
      rw [store]
      exact stuck pool stages index request stage' spoilt free move
  have start : pool.Described program sound := ⟨stages, staged, initially⟩
  clear staged initially
  induction schedule generalizing pool with
  | nil => exact .inl ⟨trivial, start⟩
  | cons index rest ih =>
    obtain ⟨stages, staged, held⟩ := start
    obtain ⟨quiet, same⟩ | ⟨request, stage', asked, free, move, store, staged'⟩ :=
      moved pool stages index staged (.inl held)
    · rw [EachStep, follow_cons, same]
      obtain ⟨met, last⟩ | ⟨unmet, last⟩ := ih ⟨stages, staged, held⟩
      · exact .inl ⟨⟨silent pool index quiet, met⟩, last⟩
      · exact .inr ⟨fun steps => unmet steps.2, last⟩
    · by_cases met : condition pool index
      · have next : (pool.turn waits answer index).Described program sound := by
          refine ⟨_, staged', ?_⟩
          rw [store]
          exact keeps pool stages index request stage' staged held met asked free move
        obtain ⟨later, last⟩ | ⟨unmet, last⟩ := ih next
        · exact .inl ⟨⟨met, later⟩, last⟩
        · exact .inr ⟨fun steps => unmet steps.2, last⟩
      · have next : (pool.turn waits answer index).Described program spoiled := by
          refine ⟨_, staged', ?_⟩
          rw [store]
          exact spoils pool stages index request stage' staged held met asked free move
        exact .inr ⟨fun steps => met steps.1, (throughout_of_invariant stays next rest).last⟩

end Pool

end Motogram.Foundation
