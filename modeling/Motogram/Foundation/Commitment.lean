import Motogram.Foundation.Interleaving

/-!
# What a program is bound to do

A program is bound to a request when it sends it before it ends, whatever the replies
are. It may be bound from its first call on, or become so by a reply it reads: from then on
nothing the others do to the store keeps it from sending the request.

A family of requests, one for each key, is warranted in a program when the program becomes
bound to the request of a key only by a reply that shows the key. When no program of a pool is
bound to the request of a key that is closed in the store, and the replies that show a key prove
it open, this stays so until a key is closed under a program that is bound to its request
(`Pool.Clear.advance`). A program that is bound sends the request before it ends
(`Pool.boundTo_of_unsent`).
-/

set_option autoImplicit false

namespace Motogram.Foundation

open Program Function

variable {Index Call Key : Type} {Reply : Call → Type} {Failure α β Store : Type}

namespace Program

/-- Whatever the replies, the program sends the request before it ends. -/
def BoundTo (request : Call) : Program Call Reply Failure α → Prop
  | .done _ => False
  | .fail _ => False
  | .call first next => first = request ∨ ∀ reply, (next reply).BoundTo request

theorem not_boundTo_of_ended {program : Program Call Reply Failure α} (ended : program.Ended)
    (request : Call) : ¬ program.BoundTo request := by
  cases program with
  | done | fail => exact id
  | call first next => cases ended

def Warranted (target : Key → Call) (shows : (request : Call) → Reply request → Key → Prop) :
    Program Call Reply Failure α → Prop
  | .done _ => True
  | .fail _ => True
  | .call request next => ∀ reply,
      (∀ key, (next reply).BoundTo (target key) →
        (call request next).BoundTo (target key) ∨ shows request reply key) ∧
      (next reply).Warranted target shows

section Uses

variable (inhabited : ∀ request, Nonempty (Reply request)) {request : Call}

include inhabited

theorem Uses.not_boundTo {program : Program Call Reply Failure α}
    (uses : program.Uses (· ≠ request)) : ¬ program.BoundTo request := by
  induction program with
  | done | fail => exact id
  | call first next ih =>
    rintro (same | bound)
    · exact uses.1 same
    · obtain ⟨reply⟩ := inhabited first
      exact ih reply (uses.2 reply) (bound reply)

theorem boundTo_of_bind {program : Program Call Reply Failure α} {next : α → Program Call Reply Failure β}
    (rest : ∀ value, (next value).Uses (· ≠ request)) (bound : (program >>= next).BoundTo request) :
    program.BoundTo request := by
  induction program with
  | done value => exact absurd bound ((rest value).not_boundTo inhabited)
  | fail failure => exact bound
  | call first continuation ih => exact bound.imp id fun later reply => ih reply (later reply)

theorem Uses.warranted {target : Key → Call} {shows : (request : Call) → Reply request → Key → Prop}
    {program : Program Call Reply Failure α} (uses : program.Uses fun request => ∀ key, request ≠ target key) :
    program.Warranted target shows := by
  induction program with
  | done | fail => trivial
  | call first next ih =>
    refine fun reply => ⟨fun key bound => absurd bound ?_, ih reply (uses.2 reply)⟩
    exact ((uses.2 reply).mono fun request apart => apart key).not_boundTo inhabited

end Uses

theorem boundTo_bind {program : Program Call Reply Failure α} {request : Call} (bound : program.BoundTo request)
    (next : α → Program Call Reply Failure β) : (program >>= next).BoundTo request := by
  induction program with
  | done value => exact bound.elim
  | fail failure => exact bound
  | call first continuation ih => exact bound.imp id fun later reply => ih reply (later reply)

theorem Warranted.bind (inhabited : ∀ request, Nonempty (Reply request)) {target : Key → Call}
    {shows : (request : Call) → Reply request → Key → Prop} {program : Program Call Reply Failure α}
    {next : α → Program Call Reply Failure β} (warranted : program.Warranted target shows)
    (rest : ∀ value, (next value).Uses fun request => ∀ key, request ≠ target key) :
    (program >>= next).Warranted target shows := by
  induction program with
  | done value => exact (rest value).warranted inhabited
  | fail failure => trivial
  | call first continuation ih =>
    refine fun reply => ⟨fun key bound => ?_, ih reply (warranted reply).2⟩
    have alone := boundTo_of_bind inhabited
      (fun value => (rest value).mono fun request apart => apart key) bound
    refine ((warranted reply).1 key alone).imp (fun before => ?_) id
    exact boundTo_bind before next

end Program

namespace Pool

variable [DecidableEq Index] {answer : Answer Call Reply Store}

variable {pool : Pool Index Call Reply Failure α Store}

theorem boundTo_advance {index other : Index} {request : Call} (bound : (pool.threads other).BoundTo request)
    (unsent : pool.next? index ≠ some request) : ((pool.advance answer index).threads other).BoundTo request := by
  cases shape : pool.threads index with
  | done | fail => rwa [advance_of_ended (by rw [shape]; rfl)]
  | call first next =>
    rw [advance_of_call shape]
    by_cases same : other = index
    · subst same
      rw [next?, shape] at unsent
      rw [shape] at bound
      simp only [update_self]
      exact bound.elim (fun sent => absurd (congrArg some sent) unsent) fun later => later _
    · simpa only [update_of_ne same] using bound

/-- **A thread that is bound to a request is bound to it until somebody sends it.** -/
theorem boundTo_of_unsent {other : Index} {request : Call} (bound : (pool.threads other).BoundTo request)
    {schedule : List Index}
    (unsent : EachStep (Pool.advance answer) (fun pool index => pool.next? index ≠ some request) pool schedule) :
    ((follow (Pool.advance answer) pool schedule).threads other).BoundTo request := by
  have keeps : ∀ (pool : Pool Index Call Reply Failure α Store) index,
      (pool.threads other).BoundTo request → pool.next? index ≠ some request →
        ((pool.advance answer index).threads other).BoundTo request :=
    fun pool index bound unsent => boundTo_advance bound unsent
  exact last_of_keeps keeps bound unsent

omit [DecidableEq Index] in
theorem boundTo_of_next {index : Index} {request : Call} (asked : pool.next? index = some request) :
    (pool.threads index).BoundTo request := by
  unfold next? at asked
  cases shape : pool.threads index with
  | done | fail => rw [shape] at asked; cases asked
  | call first next =>
    rw [shape] at asked
    cases asked
    exact .inl rfl

def Clear (target : Key → Call) (closed : Store → Key → Prop)
    (pool : Pool Index Call Reply Failure α Store) : Prop :=
  ∀ key, closed pool.store key → ∀ index, ¬ (pool.threads index).BoundTo (target key)

/-- Every thread becomes bound only by replies that show what it is bound for. -/
def AllWarranted (target : Key → Call) (shows : (request : Call) → Reply request → Key → Prop)
    (pool : Pool Index Call Reply Failure α Store) : Prop :=
  ∀ index, (pool.threads index).Warranted target shows

variable {target : Key → Call} {shows : (request : Call) → Reply request → Key → Prop}
  {closed : Store → Key → Prop}

theorem AllWarranted.advance {pool : Pool Index Call Reply Failure α Store}
    (warranted : pool.AllWarranted target shows) (index : Index) :
    (pool.advance answer index).AllWarranted target shows := by
  cases shape : pool.threads index with
  | done | fail => rwa [advance_of_ended (by rw [shape]; rfl)]
  | call request next =>
    have own := warranted index
    rw [shape] at own
    rw [advance_of_call shape]
    intro other
    by_cases same : other = index
    · subst same
      simpa only [update_self] using (own _).2
    · simpa only [update_of_ne same] using warranted other

/-- **A step that closes no key under a thread bound to its request leaves all threads free of
the closed keys.** -/
theorem Clear.advance {pool : Pool Index Call Reply Failure α Store} (clear : pool.Clear target closed)
    (warranted : pool.AllWarranted target shows) {index : Index}
    (proves : ∀ request, pool.next? index = some request → ∀ key,
      shows request (answer request pool.store).1 key → ¬ closed (answer request pool.store).2 key)
    (closes : ∀ key, closed (pool.advance answer index).store key → ¬ closed pool.store key →
      ∀ other, ¬ (pool.threads other).BoundTo (target key)) :
    (pool.advance answer index).Clear target closed := by
  intro key shut other bound
  have free : ¬ (pool.threads other).BoundTo (target key) := by
    by_cases before : closed pool.store key
    · exact clear key before other
    · exact closes key shut before other
  cases shape : pool.threads index with
  | done | fail =>
    rw [advance_of_ended (by rw [shape]; rfl)] at bound
    exact free bound
  | call request next =>
    rw [advance_of_call shape] at bound shut
    by_cases same : other = index
    · subst same
      have own := warranted other
      rw [shape] at own free
      simp only [update_self] at bound
      have asked : pool.next? other = some request := by rw [next?, shape, next?_call]
      exact ((own _).1 key bound).elim free fun shown => proves request asked key shown shut
    · simp only [update_of_ne same] at bound
      exact free bound

end Pool

end Motogram.Foundation
