import Motogram.Foundation.FixedWindow
import Motogram.Foundation.Interleaving

/-!
# Programs that keep a fixed window

Programs that share a store count hits under a key of it: each hits the key once at most, and sends the
time to live right after that when it was the first (`Program.Counts`). Others may send their requests in
between, and time may pass. A key without a time to live is owed one by exactly one program, so no time to
live is set in a lifetime it was not meant for, and the bounds of fixed windows hold under every
interleaving (`Limiter.bounded`).
-/

set_option autoImplicit false

namespace Motogram.Foundation

open Program Function Pool Counter

/-! ## Limiters -/

variable {Index Call : Type} {Reply : Call → Type} {Failure α Store : Type}

/-- What a request does to the key: it hits it, gives it its time to live, leaves it alone, or something
else. -/
inductive Touch where
  | hit
  | expire
  | leave
  | spoil
  deriving DecidableEq

namespace Touch

variable {mine window : Prop} [Decidable mine] [Decidable window]

/-- A hit of a key: the limiter's own or another one. -/
def ofHit (mine : Prop) [Decidable mine] : Touch := if mine then .hit else .leave

/-- A time to live for a key: the limiter's own or another one, its window or another time. -/
def ofExpire (mine window : Prop) [Decidable mine] [Decidable window] : Touch :=
  if mine then if window then .expire else .spoil else .leave

@[simp] theorem ofHit_eq_hit : ofHit mine = .hit ↔ mine := by
  unfold ofHit
  split <;> simp_all

@[simp] theorem ofHit_eq_leave : ofHit mine = .leave ↔ ¬ mine := by
  unfold ofHit
  split <;> simp_all

@[simp] theorem ofHit_ne_expire : ofHit mine ≠ .expire := by
  unfold ofHit
  split <;> exact nofun

@[simp] theorem ofExpire_eq_expire : ofExpire mine window = .expire ↔ mine ∧ window := by
  unfold ofExpire
  split
  · split <;> simp_all
  · simp_all

@[simp] theorem ofExpire_eq_leave : ofExpire mine window = .leave ↔ ¬ mine := by
  unfold ofExpire
  split
  · split <;> simp_all
  · simp_all

@[simp] theorem ofExpire_ne_hit : ofExpire mine window ≠ .hit := by
  unfold ofExpire
  split
  · split <;> exact nofun
  · exact nofun

end Touch

structure Limiter (answer : Answer Call Reply Store) where
  clock : Store → Nat
  counter : Store → Option Counter
  /-- Time passes. -/
  wait : Nat → Store → Store
  touch : Call → Touch
  /-- The count that a hit reads. -/
  count : (request : Call) → Reply request → Nat
  limit : Nat
  window : Nat
  filled : 0 < window
  clock_wait : ∀ time store, clock (wait time store) = clock store + time
  counter_wait : ∀ time store, counter (wait time store) = counter store
  answer_hit : ∀ request store, touch request = .hit →
    clock (answer request store).2 = clock store ∧
      count request (answer request store).1 = (hit (clock store) (counter store)).count ∧
        counter (answer request store).2 = some (hit (clock store) (counter store))
  answer_expire : ∀ request store, touch request = .expire →
    clock (answer request store).2 = clock store ∧
      counter (answer request store).2 = expire (clock store) window (counter store)
  answer_leave : ∀ request store, touch request = .leave →
    clock store ≤ clock (answer request store).2 ∧ counter (answer request store).2 = counter store

/-- How far a program is: it has not hit the key yet, it owes the key its time to live, or it has counted. -/
inductive Stage where
  | fresh
  | owing (count : Nat)
  | counted (count : Nat)
  deriving DecidableEq

section Stages

variable {answer : Answer Call Reply Store} (limiter : Limiter answer)

/-- The requests a program may send: it hits the key once, and gives it a time to live when it owes it. -/
def Stage.Allows : Stage → Touch → Prop
  | .fresh, touch => touch = .hit ∨ touch = .leave
  | .owing _, touch => touch = .expire
  | .counted _, touch => touch = .leave

def Stage.after (request : Call) (reply : Reply request) : Stage → Stage
  | .fresh =>
    if limiter.touch request = .hit then
      if limiter.count request reply = 1 then .owing (limiter.count request reply)
      else .counted (limiter.count request reply)
    else .fresh
  | .owing count => .counted count
  | .counted count => .counted count

/-- A program that has counted ends as accepted exactly when its count is within the limit. -/
def Stage.Ends (accepted : Bool) : Stage → Prop
  | .fresh => True
  | .owing _ => False
  | .counted count => accepted = decide (count ≤ limiter.limit)

/-- From that stage on the program counts as the limiter wants it, whatever the replies. -/
def Program.Counts (accepted : Except Failure α → Bool) : Program Call Reply Failure α → Stage → Prop
  | .done value, stage => stage.Ends limiter (accepted (.ok value))
  | .fail failure, stage => stage.Ends limiter (accepted (.error failure))
  | .call request next, stage =>
    stage.Allows (limiter.touch request) ∧
      ∀ reply, (next reply).Counts accepted (stage.after limiter request reply)

variable {limiter} {accepted : Except Failure α → Bool}

/-! ### Programs that count as they should -/

theorem Program.counts_of_uses {program : Program Call Reply Failure α}
    (leaves : program.Uses fun request => limiter.touch request = .leave) :
    program.Counts limiter accepted .fresh := by
  induction program with
  | done | fail => trivial
  | call request next ih =>
    refine ⟨.inr leaves.1, fun reply => ?_⟩
    have unread : limiter.touch request ≠ .hit := leaves.1 ▸ nofun
    rw [Stage.after, if_neg unread]
    exact ih reply (leaves.2 reply)

theorem Program.counted_of_uses {program : Program Call Reply Failure α} {count : Nat}
    (leaves : program.Uses fun request => limiter.touch request = .leave)
    (returns : program.Returns fun value => accepted (.ok value) = decide (count ≤ limiter.limit))
    (fails : program.FailsWith fun failure => accepted (.error failure) = decide (count ≤ limiter.limit)) :
    program.Counts limiter accepted (.counted count) := by
  induction program with
  | done value => exact returns
  | fail failure => exact fails
  | call request next ih =>
    exact ⟨leaves.1, fun reply => ih reply (leaves.2 reply) (returns reply) (fails reply)⟩

/-- What comes before the hit leaves the key alone. -/
theorem Program.counts_bind {β : Type} {first : Program Call Reply Failure β}
    {next : β → Program Call Reply Failure α} (leaves : first.Uses fun request => limiter.touch request = .leave)
    (rest : ∀ value, (next value).Counts limiter accepted .fresh) :
    (first >>= next).Counts limiter accepted .fresh := by
  induction first with
  | done value => exact rest value
  | fail failure => trivial
  | call request continuation ih =>
    refine ⟨.inr leaves.1, fun reply => ?_⟩
    have unread : limiter.touch request ≠ .hit := leaves.1 ▸ nofun
    rw [Stage.after, if_neg unread]
    exact ih reply (leaves.2 reply)

/-- The hit, with the time to live right after it when it was the first. -/
theorem Program.counts_hit {request request' : Call}
    {next : Reply request → Program Call Reply Failure α} (hits : limiter.touch request = .hit)
    (expires : limiter.touch request' = .expire)
    (rest : Reply request → Reply request' → Program Call Reply Failure α)
    (owing : ∀ reply, limiter.count request reply = 1 → next reply = .call request' (rest reply))
    (counted : ∀ reply, limiter.count request reply = 1 → ∀ reply',
      (rest reply reply').Counts limiter accepted (.counted (limiter.count request reply)))
    (again : ∀ reply, limiter.count request reply ≠ 1 →
      (next reply).Counts limiter accepted (.counted (limiter.count request reply))) :
    (call request next).Counts limiter accepted .fresh := by
  refine ⟨.inl hits, fun reply => ?_⟩
  rw [Stage.after, if_pos hits]
  by_cases isFirst : limiter.count request reply = 1
  · rw [if_pos isFirst, owing reply isFirst]
    exact ⟨expires, fun reply' => counted reply isFirst reply'⟩
  · rw [if_neg isFirst]
    exact again reply isFirst

end Stages

/-- How a program has ended. -/
def Program.outcome? : Program Call Reply Failure α → Option (Except Failure α)
  | .done value => some (.ok value)
  | .fail failure => some (.error failure)
  | .call _ _ => none

/-- A pool with the hits so far and the number of the lifetime the key is in. -/
structure Watch (Index Call : Type) (Reply : Call → Type) (Failure α Store : Type) where
  pool : Pool Index Call Reply Failure α Store
  lifetime : Nat
  hits : List (Hit Index)

/-- Time passes, or a program sends its next request. -/
inductive Turn (Index : Type) where
  | elapse (time : Nat)
  | advance (index : Index)
  deriving DecidableEq

namespace Limiter

variable [DecidableEq Index] {answer : Answer Call Reply Store} (limiter : Limiter answer)

/-- The count that a program reads next, when its next request hits the key. -/
def reading (pool : Pool Index Call Reply Failure α Store) (index : Index) : Option Nat :=
  match pool.threads index with
  | .call request _ =>
    if limiter.touch request = .hit then some (limiter.count request (answer request pool.store).1) else none
  | _ => none

/-- The number of the lifetime that a hit falls in. -/
def lifetimeOf (watch : Watch Index Call Reply Failure α Store) : Nat :=
  if (alive (limiter.clock watch.pool.store) (limiter.counter watch.pool.store)).isSome then
    watch.lifetime
  else watch.lifetime + 1

/-- The hit of a program that reads the count. -/
def hitOf (watch : Watch Index Call Reply Failure α Store) (index : Index) (count : Nat) : Hit Index where
  caller := index
  time := limiter.clock watch.pool.store
  count := count
  lifetime := limiter.lifetimeOf watch

def step (watch : Watch Index Call Reply Failure α Store) :
    Turn Index → Watch Index Call Reply Failure α Store
  | .elapse time => { watch with pool := { watch.pool with store := limiter.wait time watch.pool.store } }
  | .advance index =>
    match limiter.reading watch.pool index with
    | none => { watch with pool := watch.pool.advance answer index }
    | some count =>
      { pool := watch.pool.advance answer index
        lifetime := limiter.lifetimeOf watch
        hits := watch.hits ++ [limiter.hitOf watch index count] }

/-- Before the first hit. -/
def start (pool : Pool Index Call Reply Failure α Store) : Watch Index Call Reply Failure α Store where
  pool := pool
  lifetime := 0
  hits := []

/-- Each program hits the key once at most. The hits within the limit, those of the programs that end as
accepted, are no more than the limit in each lifetime of the key, and no more than twice the limit in each
interval as long as the window. -/
structure Bounded (accepted : Except Failure α → Bool) (watch : Watch Index Call Reply Failure α Store) :
    Prop where
  once : (watch.hits.map Hit.caller).Nodup
  decided : ∀ hit ∈ watch.hits, ∀ outcome, (watch.pool.threads hit.caller).outcome? = some outcome →
    (accepted outcome = true ↔ hit.count ≤ limiter.limit)
  perLifetime : ∀ life, watch.hits.countP (fun hit =>
    decide (hit.lifetime = life ∧ hit.count ≤ limiter.limit)) ≤ limiter.limit
  perInterval : ∀ since, watch.hits.countP (fun hit =>
    decide (since ≤ hit.time ∧ hit.time ≤ since + limiter.window ∧ hit.count ≤ limiter.limit)) ≤
      2 * limiter.limit

/-! ### What every step keeps -/

/-- Every program counts as it should from its stage on, a key without deadline is owed one by the program
that hit it first, and each hit is that of a program that has counted. -/
structure Tracks (accepted : Except Failure α → Bool) (watch : Watch Index Call Reply Failure α Store)
    (born : Nat) (stage : Index → Stage) : Prop where
  sound : Sound limiter.window (limiter.clock watch.pool.store) (limiter.counter watch.pool.store) born
    watch.lifetime watch.hits
  counts : ∀ index, (watch.pool.threads index).Counts limiter accepted (stage index)
  owed : ∀ index count, stage index = .owing count → ∃ counter,
    alive (limiter.clock watch.pool.store) (limiter.counter watch.pool.store) = some counter ∧
      counter.deadline = none
  one : ∀ first second count count', stage first = .owing count → stage second = .owing count' →
    first = second
  counted : ∀ hit ∈ watch.hits, stage hit.caller = .owing hit.count ∨ stage hit.caller = .counted hit.count
  once : (watch.hits.map Hit.caller).Nodup

section Tracks

variable {limiter} {accepted : Except Failure α → Bool} {watch : Watch Index Call Reply Failure α Store}
  {born : Nat} {stage : Index → Stage}

theorem alive_of_unset {now later : Nat} {stored : Option Counter} {counter : Counter}
    (present : alive now stored = some counter) (unset : counter.deadline = none) :
    alive later stored = some counter := by
  obtain ⟨same, -⟩ := alive_eq_some.mp present
  exact alive_eq_some.mpr ⟨same, fun deadline set => nomatch unset.symm.trans set⟩

theorem tracks_elapse (tracks : Tracks limiter accepted watch born stage) (time : Nat) :
    Tracks limiter accepted (limiter.step watch (.elapse time)) born stage where
  sound := by
    simp only [step, limiter.clock_wait, limiter.counter_wait]
    exact tracks.sound.elapse (Nat.le_add_right _ _)
  counts := tracks.counts
  owed := by
    intro index count owes
    obtain ⟨counter, present, unset⟩ := tracks.owed index count owes
    simp only [step, limiter.counter_wait]
    exact ⟨counter, alive_of_unset present unset, unset⟩
  one := tracks.one
  counted := tracks.counted
  once := tracks.once

theorem counts_advance (tracks : Tracks limiter accepted watch born stage) {index : Index} {request : Call}
    {next : Reply request → Program Call Reply Failure α}
    (here : watch.pool.threads index = .call request next) (other : Index) :
    ((watch.pool.advance answer index).threads other).Counts limiter accepted
      (update stage index
        ((stage index).after limiter request (answer request watch.pool.store).1) other) := by
  rw [advance_of_call here]
  by_cases same : other = index
  · subst same
    have own := tracks.counts other
    rw [here] at own
    simp only [update_self]
    exact own.2 _
  · simp only [update_of_ne same]
    exact tracks.counts other

theorem tracks_leave (tracks : Tracks limiter accepted watch born stage) {index : Index} {request : Call}
    {next : Reply request → Program Call Reply Failure α}
    (here : watch.pool.threads index = .call request next) (leaves : limiter.touch request = .leave)
    (stays : (stage index).after limiter request (answer request watch.pool.store).1 = stage index) :
    Tracks limiter accepted { watch with pool := watch.pool.advance answer index } born stage := by
  obtain ⟨later, kept⟩ := limiter.answer_leave request watch.pool.store leaves
  have store : (watch.pool.advance answer index).store = (answer request watch.pool.store).2 := by
    rw [advance_of_call here]
  refine ⟨?_, ?_, ?_, tracks.one, tracks.counted, tracks.once⟩
  · rw [store, kept]
    exact tracks.sound.elapse later
  · intro other
    have counts := counts_advance tracks here other
    rw [stays, update_eq_self] at counts
    exact counts
  · intro other count owes
    obtain ⟨counter, present, unset⟩ := tracks.owed other count owes
    rw [store, kept]
    exact ⟨counter, alive_of_unset present unset, unset⟩

/-- The request that gives the key its time to live. -/
theorem tracks_expire (tracks : Tracks limiter accepted watch born stage) {index : Index} {request : Call}
    {next : Reply request → Program Call Reply Failure α}
    (here : watch.pool.threads index = .call request next) {count : Nat} (owes : stage index = .owing count)
    (expires : limiter.touch request = .expire) :
    Tracks limiter accepted { watch with pool := watch.pool.advance answer index } born
      (update stage index (.counted count)) := by
  obtain ⟨sameClock, expired⟩ := limiter.answer_expire request watch.pool.store expires
  have store : (watch.pool.advance answer index).store = (answer request watch.pool.store).2 := by
    rw [advance_of_call here]
  have alone : ∀ other count', update stage index (.counted count) other ≠ .owing count' := by
    intro other count' owes'
    obtain ⟨rfl, owes''⟩ | ⟨same, owes''⟩ := eq_of_update owes'
    · cases owes''
    · exact same (tracks.one other index count' count owes'' owes)
  refine ⟨?_, ?_, ?_, ?_, ?_, tracks.once⟩
  · rw [store, sameClock, expired]
    exact tracks.sound.expire limiter.filled
  · intro other
    have counts := counts_advance tracks here other
    rw [owes] at counts
    exact counts
  · exact fun other count' owes' => absurd owes' (alone other count')
  · exact fun other _ count' _ owes' => absurd owes' (alone other count')
  · intro hit member
    by_cases same : hit.caller = index
    · have stands := tracks.counted hit member
      rw [same, owes] at stands
      rw [same, update_self]
      obtain stands | stands := stands
      · cases stands
        exact .inr rfl
      · cases stands
    · rw [update_of_ne same]
      exact tracks.counted hit member

theorem tracks_hit (tracks : Tracks limiter accepted watch born stage) {index : Index} {request : Call}
    {next : Reply request → Program Call Reply Failure α}
    (here : watch.pool.threads index = .call request next) (fresh : stage index = .fresh)
    (hits : limiter.touch request = .hit) {count : Nat}
    (read : limiter.count request (answer request watch.pool.store).1 = count) :
    ∃ born', Tracks limiter accepted
      { pool := watch.pool.advance answer index
        lifetime := limiter.lifetimeOf watch
        hits := watch.hits ++ [limiter.hitOf watch index count] }
      born' (update stage index (if count = 1 then .owing count else .counted count)) := by
  obtain ⟨sameClock, reads, stored⟩ := limiter.answer_hit request watch.pool.store hits
  have isCount := read.symm.trans reads
  have store : (watch.pool.advance answer index).store = (answer request watch.pool.store).2 := by
    rw [advance_of_call here]
  have unhit : ∀ hit ∈ watch.hits, hit.caller ≠ index := by
    rintro hit member rfl
    obtain stands | stands := tracks.counted hit member
    · exact nomatch fresh.symm.trans stands
    · exact nomatch fresh.symm.trans stands
  have counts : ∀ other, ((watch.pool.advance answer index).threads other).Counts limiter accepted
      (update stage index (if count = 1 then .owing count else .counted count) other) := by
    intro other
    have counts := counts_advance tracks here other
    rw [fresh, Stage.after, if_pos hits, read] at counts
    exact counts
  have counted : ∀ hit ∈ watch.hits ++ [limiter.hitOf watch index count],
      update stage index (if count = 1 then .owing count else .counted count) hit.caller =
          .owing hit.count ∨
        update stage index (if count = 1 then .owing count else .counted count) hit.caller =
          .counted hit.count := by
    intro hit member
    obtain old | new := List.mem_append.mp member
    · rw [update_of_ne (unhit hit old)]
      exact tracks.counted hit old
    · rw [List.mem_singleton.mp new, hitOf, update_self]
      by_cases first : count = 1
      · exact .inl (if_pos first)
      · exact .inr (if_neg first)
  have once : ((watch.hits ++ [limiter.hitOf watch index count]).map Hit.caller).Nodup := by
    rw [List.map_append]
    refine List.nodup_append.mpr ⟨tracks.once, List.nodup_singleton _, ?_⟩
    intro caller member other new same
    obtain ⟨hit, old, rfl⟩ := List.mem_map.mp member
    exact unhit hit old (same.trans (List.mem_singleton.mp new))
  cases present : alive (limiter.clock watch.pool.store) (limiter.counter watch.pool.store) with
  | none =>
    -- the key is created, and nobody else owes it anything
    have nobody : ∀ other owed, stage other ≠ .owing owed := by
      intro other owed owes
      obtain ⟨counter, there, -⟩ := tracks.owed other owed owes
      exact nomatch present.symm.trans there
    have only : ∀ other owed,
        update stage index (if count = 1 then .owing count else .counted count) other = .owing owed →
          other = index := by
      intro other owed owes
      by_contra same
      rw [update_of_ne same] at owes
      exact nobody other owed owes
    have lifetime : limiter.lifetimeOf watch = watch.lifetime + 1 := by
      rw [lifetimeOf, present]
      rfl
    refine ⟨limiter.clock watch.pool.store, ?_, counts, ?_, ?_, counted, once⟩
    · have sound := tracks.sound.first present index
      rw [store, stored, sameClock, hitOf, lifetime, isCount]
      exact sound
    · intro other owed owes
      rw [store, sameClock, stored]
      refine ⟨_, alive_hit _ _, ?_⟩
      rw [hit, present]
    · exact fun one two owed owed' owes owes' => (only one owed owes).trans (only two owed' owes').symm
  | some counter =>
    have positive := tracks.sound.positive counter present
    have notFirst : count ≠ 1 := by
      rw [isCount, hit, present]
      exact Nat.succ_ne_succ_iff.mpr (Nat.pos_iff_ne_zero.mp positive)
    have same : ∀ other owed,
        update stage index (if count = 1 then .owing count else .counted count) other = .owing owed →
          stage other = .owing owed := by
      intro other owed owes
      by_cases here' : other = index
      · rw [here', update_self, if_neg notFirst] at owes
        cases owes
      · rw [update_of_ne here'] at owes
        exact owes
    have lifetime : limiter.lifetimeOf watch = watch.lifetime := by
      rw [lifetimeOf, present]
      rfl
    refine ⟨born, ?_, counts, ?_, ?_, counted, once⟩
    · have sound := tracks.sound.again present index
      rw [store, stored, sameClock, hitOf, lifetime, isCount]
      exact sound
    · intro other owed owes
      obtain ⟨counter', there, unset⟩ := tracks.owed other owed (same other owed owes)
      obtain rfl := Option.some.inj (present.symm.trans there)
      rw [store, sameClock, stored]
      refine ⟨_, alive_hit _ _, ?_⟩
      rw [hit, present]
      exact unset
    · exact fun one two owed owed' owes owes' =>
        tracks.one one two owed owed' (same one owed owes) (same two owed' owes')

theorem tracks_step (tracks : Tracks limiter accepted watch born stage) (turn : Turn Index) :
    ∃ born stage, Tracks limiter accepted (limiter.step watch turn) born stage := by
  cases turn with
  | elapse time => exact ⟨born, stage, tracks_elapse tracks time⟩
  | advance index =>
    cases here : watch.pool.threads index with
    | done | fail =>
      have ended : (watch.pool.threads index).Ended := by rw [here]; rfl
      simp only [step, reading, here, advance_of_ended ended]
      exact ⟨born, stage, tracks⟩
    | call request next =>
      have own := tracks.counts index
      rw [here] at own
      obtain ⟨allowed, -⟩ := own
      cases at_ : stage index with
      | fresh =>
        rw [at_] at allowed
        obtain hits | leaves := allowed
        · obtain ⟨born', tracks'⟩ := tracks_hit tracks here at_ hits rfl
          simp only [step, reading, here, if_pos hits]
          exact ⟨born', _, tracks'⟩
        · have unread : limiter.touch request ≠ .hit := leaves ▸ nofun
          simp only [step, reading, here, if_neg unread]
          refine ⟨born, stage, tracks_leave tracks here leaves ?_⟩
          rw [at_, Stage.after, if_neg unread]
      | owing owed =>
        rw [at_] at allowed
        have expires : limiter.touch request = .expire := allowed
        have unread : limiter.touch request ≠ .hit := expires ▸ nofun
        simp only [step, reading, here, if_neg unread]
        exact ⟨born, _, tracks_expire tracks here at_ expires⟩
      | counted earlier =>
        rw [at_] at allowed
        have leaves : limiter.touch request = .leave := allowed
        have unread : limiter.touch request ≠ .hit := leaves ▸ nofun
        simp only [step, reading, here, if_neg unread]
        refine ⟨born, stage, tracks_leave tracks here leaves ?_⟩
        rw [at_, Stage.after]

omit [DecidableEq Index] in
theorem Tracks.bounded (tracks : Tracks limiter accepted watch born stage) :
    Bounded limiter accepted watch where
  once := tracks.once
  decided := by
    intro hit member outcome ended
    have ends : (stage hit.caller).Ends limiter (accepted outcome) := by
      have counts := tracks.counts hit.caller
      cases thread : watch.pool.threads hit.caller with
      | done | fail =>
        rw [thread] at counts ended
        cases ended
        exact counts
      | call request next =>
        rw [thread] at ended
        cases ended
    obtain stands | stands := tracks.counted hit member
    · rw [stands] at ends
      exact ends.elim
    · rw [stands] at ends
      rw [ends, decide_eq_true_eq]
  perLifetime := tracks.sound.perLifetime limiter.limit
  perInterval := tracks.sound.perInterval limiter.limit

end Tracks

/-- **However the programs are interleaved and whatever time passes between their requests, a limiter
accepts no more hits than its limit in a lifetime of the key, and no more than twice its limit in an
interval as long as its window.** -/
theorem bounded (accepted : Except Failure α → Bool) {pool : Pool Index Call Reply Failure α Store}
    (absent : alive (limiter.clock pool.store) (limiter.counter pool.store) = none)
    (counts : ∀ index, (pool.threads index).Counts limiter accepted .fresh) (turns : List (Turn Index)) :
    Throughout limiter.step (Bounded limiter accepted) (start pool) turns := by
  let invariant (watch : Watch Index Call Reply Failure α Store) :=
    ∃ born stage, Tracks limiter accepted watch born stage
  have initially : invariant (start pool) :=
    ⟨_, fun _ => .fresh,
      { sound := Sound.start absent
        counts := counts
        owed := fun _ _ => nofun
        one := fun _ _ _ _ => nofun
        counted := fun _ => nofun
        once := List.Pairwise.nil }⟩
  refine (throughout_of_invariant (fun watch turn (held : invariant watch) => ?_) initially turns).mono ?_
  · obtain ⟨born, stage, tracks⟩ := held
    exact tracks_step tracks turn
  · rintro watch ⟨born, stage, tracks⟩
    exact tracks.bounded

end Limiter

end Motogram.Foundation
