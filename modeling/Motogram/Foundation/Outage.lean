import Motogram.Foundation.Limiter

/-!
# Limiters whose requests fail

The requests of the programs that share a fixed window may fail: the program ends with the failure, and
the store has carried the request out or has not. A program that fails between the first hit and the
time to live leaves a key that nobody owes a time to live, and no later hit is the first. Where no
program fails there, a key without a time to live is owed one in every state (`Mended`). So once all
programs are past it and nobody has hit the key for a window, the key is gone, and the next program
that counts is accepted (`Limiter.recovers`).
-/

set_option autoImplicit false

namespace Motogram.Foundation

open Program Function Counter

variable {Index Call : Type} {Reply : Call → Type} {Failure α Store : Type}

/-- Time passes, a program sends its next request, or that request fails and the program with it; the
store may have carried it out all the same. -/
inductive FaultyTurn (Index Failure : Type) where
  | elapse (time : Nat)
  | advance (index : Index)
  | abort (index : Index) (applied : Bool) (failure : Failure)

/-- The program ends before it hits the key only as accepted. -/
def Program.Guarded {answer : Answer Call Reply Store} (limiter : Limiter answer)
    (accepted : Except Failure α → Bool) : Program Call Reply Failure α → Prop
  | .done value => accepted (.ok value) = true
  | .fail failure => accepted (.error failure) = true
  | .call request next =>
    limiter.touch request = .hit ∨ ∀ reply, (next reply).Guarded limiter accepted

theorem Stage.Allows.ne_spoil {stage : Stage} {touch : Touch} (allowed : stage.Allows touch) :
    touch ≠ .spoil := by
  rintro rfl
  cases stage with
  | fresh => exact allowed.elim nofun nofun
  | owing count | counted count => cases allowed

namespace Limiter

variable {answer : Answer Call Reply Store} (limiter : Limiter answer)

/-- What the next request of a program does to the key. -/
def touchNext (pool : Pool Index Call Reply Failure α Store) (index : Index) : Touch :=
  match pool.threads index with
  | .call request _ => limiter.touch request
  | _ => .leave

/-- The counter as the store reads it now. -/
def present (store : Store) : Option Counter := alive (limiter.clock store) (limiter.counter store)

variable [DecidableEq Index]

def faultyStep (pool : Pool Index Call Reply Failure α Store) :
    FaultyTurn Index Failure → Pool Index Call Reply Failure α Store
  | .elapse time => { pool with store := limiter.wait time pool.store }
  | .advance index => pool.advance answer index
  | .abort index applied failure =>
    match pool.threads index with
    | .call request _ =>
      { threads := update pool.threads index (.fail failure)
        store := if applied then (answer request pool.store).2 else pool.store }
    | _ => pool

/-- No program fails after it has made the key and before the key has its time to live. -/
def Attaches (pool : Pool Index Call Reply Failure α Store) : FaultyTurn Index Failure → Prop
  | .abort index applied _ =>
    (limiter.touchNext pool index = .expire → applied = true) ∧
      (limiter.touchNext pool index = .hit → applied = true → (limiter.present pool.store).isSome)
  | _ => True

instance (pool : Pool Index Call Reply Failure α Store) (turn : FaultyTurn Index Failure) :
    Decidable (limiter.Attaches pool turn) := by
  unfold Attaches
  split <;> infer_instance

/-- Every request works, and none is about the key. -/
def Rests (pool : Pool Index Call Reply Failure α Store) : FaultyTurn Index Failure → Prop
  | .elapse _ => True
  | .advance index => limiter.touchNext pool index = .leave
  | .abort _ _ _ => False

/-- When no program is to give the key its time to live, requests work again and nobody hits the key for
a window, the next program is accepted. -/
def Recovers (accepted : Except Failure α → Bool) (next : Program Call Reply Failure α)
    (pool : Pool Index Call Reply Failure α Store) : Prop :=
  (∀ index, limiter.touchNext pool index ≠ .expire) →
    ∀ rest : List (FaultyTurn Index Failure), EachStep limiter.faultyStep limiter.Rests pool rest →
      limiter.clock pool.store + limiter.window ≤ limiter.clock (follow limiter.faultyStep pool rest).store →
        accepted (next.run answer (follow limiter.faultyStep pool rest).store).1 = true

variable {limiter}

/-! ## The key -/

/-- A counter that is there has been hit, goes within a window, and is owed a time to live if it has
none. -/
structure Kept (limiter : Limiter answer) (owed : Prop) (store : Store) : Prop where
  positive : ∀ counter, limiter.present store = some counter → 1 ≤ counter.count
  near : ∀ counter deadline, limiter.present store = some counter → counter.deadline = some deadline →
    deadline ≤ limiter.clock store + limiter.window
  owed : ∀ counter, limiter.present store = some counter → counter.deadline = none → owed

section Kept

variable {owed owed' : Prop} {store store' : Store} {request : Call}

theorem Kept.imp (kept : Kept limiter owed store) (implies : owed → owed') : Kept limiter owed' store where
  positive := kept.positive
  near := kept.near
  owed := fun counter here unset => implies (kept.owed counter here unset)

/-- The key is left alone while time passes. -/
theorem Kept.later (kept : Kept limiter owed store) (le : limiter.clock store ≤ limiter.clock store')
    (same : limiter.counter store' = limiter.counter store) : Kept limiter owed store' := by
  have before : ∀ counter, limiter.present store' = some counter → limiter.present store = some counter := by
    intro counter here
    rw [present, same] at here
    exact alive_of_le le here
  refine ⟨?_, ?_, ?_⟩
  · exact fun counter here => kept.positive counter (before counter here)
  · intro counter deadline here set
    exact (kept.near counter deadline (before counter here) set).trans (Nat.add_le_add_right le _)
  · exact fun counter here unset => kept.owed counter (before counter here) unset

theorem Kept.wait (kept : Kept limiter owed store) (time : Nat) : Kept limiter owed (limiter.wait time store) :=
  kept.later ((Nat.le_add_right _ _).trans_eq (limiter.clock_wait time store).symm)
    (limiter.counter_wait time store)

theorem Kept.leave (kept : Kept limiter owed store) (leaves : limiter.touch request = .leave) :
    Kept limiter owed (answer request store).2 :=
  kept.later (limiter.answer_leave request store leaves).1 (limiter.answer_leave request store leaves).2

theorem present_hit (hits : limiter.touch request = .hit) (store : Store) :
    limiter.present (answer request store).2 =
      some (Counter.hit (limiter.clock store) (limiter.counter store)) := by
  obtain ⟨clock, -, counter⟩ := limiter.answer_hit request store hits
  rw [present, clock, counter]
  exact alive_hit _ _

theorem Kept.hit (kept : Kept limiter owed store) (hits : limiter.touch request = .hit)
    (first : limiter.present store = none → owed') (again : owed → owed') :
    Kept limiter owed' (answer request store).2 := by
  have clock := (limiter.answer_hit request store hits).1
  have after : ∀ counter, limiter.present (answer request store).2 = some counter →
      counter = Counter.hit (limiter.clock store) (limiter.counter store) :=
    fun counter here => (Option.some.inj ((present_hit hits store).symm.trans here)).symm
  cases before : limiter.present store with
  | none =>
    have one : Counter.hit (limiter.clock store) (limiter.counter store) = ⟨1, none⟩ := by
      rw [Counter.hit, show alive _ _ = none from before]
    refine ⟨?_, ?_, fun _ _ _ => first before⟩
    · intro counter here
      rw [after counter here, one]
    · intro counter deadline here set
      rw [after counter here, one] at set
      cases set
  | some stored =>
    have next : Counter.hit (limiter.clock store) (limiter.counter store) =
        { stored with count := stored.count + 1 } := by
      rw [Counter.hit, show alive _ _ = some stored from before]
    refine ⟨?_, ?_, ?_⟩
    · intro counter here
      rw [after counter here, next]
      exact Nat.le_add_left _ _
    · intro counter deadline here set
      rw [after counter here, next] at set
      rw [clock]
      exact kept.near stored deadline before set
    · intro counter here unset
      rw [after counter here, next] at unset
      exact again (kept.owed stored before unset)

/-- A key that is given its time to live is owed none. -/
theorem Kept.expire (kept : Kept limiter owed store) (expires : limiter.touch request = .expire) :
    Kept limiter owed' (answer request store).2 := by
  obtain ⟨clock, counter⟩ := limiter.answer_expire request store expires
  have after : ∀ counter', limiter.present (answer request store).2 = some counter' →
      ∃ stored, limiter.present store = some stored ∧
        counter' = { stored with deadline := some (limiter.clock store + limiter.window) } := by
    intro counter' here
    rw [present, counter] at here
    obtain ⟨same, -⟩ := alive_eq_some.mp here
    obtain ⟨stored, before, isCounter⟩ := Option.map_eq_some_iff.mp same
    exact ⟨stored, before, isCounter.symm⟩
  refine ⟨?_, ?_, ?_⟩
  · intro counter' here
    obtain ⟨stored, before, rfl⟩ := after counter' here
    exact kept.positive stored before
  · intro counter' deadline here set
    obtain ⟨stored, before, rfl⟩ := after counter' here
    cases set
    rw [clock]
  · intro counter' here unset
    obtain ⟨stored, before, rfl⟩ := after counter' here
    cases unset

theorem Kept.gone (kept : Kept limiter False store)
    (late : limiter.clock store + limiter.window ≤ limiter.clock store')
    (same : limiter.counter store' = limiter.counter store) : limiter.present store' = none := by
  cases here : limiter.present store' with
  | none => rfl
  | some counter =>
    have le : limiter.clock store ≤ limiter.clock store' := (Nat.le_add_right _ _).trans late
    rw [present, same] at here
    have before : limiter.present store = some counter := alive_of_le le here
    cases set : counter.deadline with
    | none => exact (kept.owed counter before set).elim
    | some deadline =>
      have ahead := (alive_eq_some.mp here).2 deadline set
      have near := kept.near counter deadline before set
      exact absurd (ahead.trans_le near) (Nat.not_lt.mpr late)

end Kept

/-! ## What every step keeps -/

/-- Every program counts as it should from its stage on, and a key without a time to live is owed one by
a program. -/
structure Mended (limiter : Limiter answer) (accepted : Except Failure α → Bool)
    (pool : Pool Index Call Reply Failure α Store) (stage : Index → Stage) : Prop where
  counts : ∀ index, (pool.threads index).Counts limiter accepted (stage index)
  kept : Kept limiter (∃ index count, stage index = .owing count) pool.store

section Mended

variable {accepted : Except Failure α → Bool} {pool : Pool Index Call Reply Failure α Store}
  {stage : Index → Stage} {index : Index} {request : Call} {next : Reply request → Program Call Reply Failure α}

omit [DecidableEq Index] in
theorem touchNext_of_call (here : pool.threads index = .call request next) :
    limiter.touchNext pool index = limiter.touch request := by
  rw [touchNext, here]

/-- Who owes the key its time to live still does when another stage changes. -/
theorem owing_update (unowing : ∀ count, stage index ≠ .owing count) (stage' : Stage)
    (owed : ∃ other count, stage other = .owing count) :
    ∃ other count, update stage index stage' other = .owing count := by
  obtain ⟨other, count, owes⟩ := owed
  have different : other ≠ index := by
    rintro rfl
    exact unowing count owes
  exact ⟨other, count, by rw [update_of_ne different, owes]⟩

omit [DecidableEq Index] in
/-- Only a program that owes the key its time to live gives it one. -/
theorem Mended.unowing (mended : Mended limiter accepted pool stage)
    (here : pool.threads index = .call request next) (other : limiter.touch request ≠ .expire) :
    ∀ count, stage index ≠ .owing count := by
  intro count owes
  have own := mended.counts index
  rw [here, owes] at own
  exact other own.1

/-- **The next request of a program keeps a key without a time to live owed one.** -/
theorem Mended.advance (mended : Mended limiter accepted pool stage) (index : Index) :
    ∃ stage', Mended limiter accepted (pool.advance answer index) stage' := by
  cases here : pool.threads index with
  | done value | fail failure =>
    rw [Pool.advance_of_ended (by rw [here]; rfl)]
    exact ⟨stage, mended⟩
  | call request next =>
    have own := mended.counts index
    rw [here] at own
    have asked : pool.next? index = some request := by
      rw [Pool.next?, here]
      rfl
    have counts : ∀ other, ((pool.advance answer index).threads other).Counts limiter accepted
        (update stage index ((stage index).after limiter request (answer request pool.store).1)
          other) := by
      intro other
      rw [Pool.advance_of_call here]
      by_cases same : other = index
      · subst same
        simp only [update_self]
        exact own.2 _
      · simp only [update_of_ne same]
        exact mended.counts other
    refine ⟨_, counts, ?_⟩
    rw [Pool.store_advance asked]
    cases touched : limiter.touch request with
    | leave =>
      have unowing := mended.unowing here (by rw [touched]; decide)
      exact (mended.kept.leave touched).imp (owing_update unowing _)
    | expire => exact mended.kept.expire touched
    | spoil => exact absurd touched own.1.ne_spoil
    | hit =>
      have unowing := mended.unowing here (by rw [touched]; decide)
      refine mended.kept.hit touched (fun absent => ⟨index, 1, ?_⟩) (owing_update unowing _)
      -- the program has made the key, and owes it its time to live
      have one : limiter.count request (answer request pool.store).1 = 1 := by
        rw [(limiter.answer_hit request pool.store touched).2.1, Counter.hit,
          show alive _ _ = none from absent]
      have isFresh : stage index = .fresh := by
        have allowed := own.1
        rw [touched] at allowed
        cases isStage : stage index with
        | fresh => rfl
        | owing count => exact absurd isStage (unowing count)
        | counted count =>
          rw [isStage] at allowed
          cases allowed
      rw [update_self, isFresh, Stage.after, if_pos touched, one, if_pos rfl]

/-- **A request that fails does so too, unless it leaves a key without a time to live behind.** -/
theorem Mended.abort (mended : Mended limiter accepted pool stage) {index : Index} {applied : Bool}
    {failure : Failure} (attaches : limiter.Attaches pool (.abort index applied failure)) :
    ∃ stage', Mended limiter accepted (limiter.faultyStep pool (.abort index applied failure)) stage' := by
  cases here : pool.threads index with
  | done value | fail failure' =>
    simp only [faultyStep, here]
    exact ⟨stage, mended⟩
  | call request next =>
    rw [Attaches, touchNext_of_call here] at attaches
    simp only [faultyStep, here]
    refine ⟨update stage index .fresh, fun other => ?_, ?_⟩
    · by_cases same : other = index
      · subst same
        simp only [update_self]
        trivial
      · simp only [update_of_ne same]
        exact mended.counts other
    · cases touched : limiter.touch request with
      | expire =>
        rw [if_pos (attaches.1 touched)]
        exact mended.kept.expire touched
      | hit =>
        have unowing := mended.unowing here (by rw [touched]; exact nofun)
        have owed := owing_update unowing Stage.fresh
        cases applied with
        | false => exact mended.kept.imp owed
        | true =>
          refine mended.kept.hit touched (fun absent => ?_) owed
          rw [absent] at attaches
          cases attaches.2 touched rfl
      | leave =>
        have unowing := mended.unowing here (by rw [touched]; exact nofun)
        have owed := owing_update unowing Stage.fresh
        cases applied with
        | false => exact mended.kept.imp owed
        | true => exact (mended.kept.leave touched).imp owed
      | spoil =>
        have own := mended.counts index
        rw [here] at own
        exact absurd touched own.1.ne_spoil

theorem Mended.step (mended : Mended limiter accepted pool stage) {turn : FaultyTurn Index Failure}
    (attaches : limiter.Attaches pool turn) :
    ∃ stage', Mended limiter accepted (limiter.faultyStep pool turn) stage' := by
  cases turn with
  | elapse time => exact ⟨stage, mended.counts, mended.kept.wait time⟩
  | advance index => exact mended.advance index
  | abort index applied failure => exact mended.abort attaches

end Mended

/-! ## The next program is accepted -/

section Accepted

variable {accepted : Except Failure α → Bool} {program : Program Call Reply Failure α}

omit [DecidableEq Index] in
theorem accepted_of_counted {count : Nat} (counts : program.Counts limiter accepted (.counted count))
    (store : Store) : accepted (program.run answer store).1 = decide (count ≤ limiter.limit) := by
  induction program generalizing store with
  | done | fail => exact counts
  | call request next ih =>
    rw [run_call]
    exact ih _ (counts.2 _) _

/-- **A program that finds the key gone is accepted.** -/
theorem accepted_of_absent (counts : program.Counts limiter accepted .fresh)
    (guarded : program.Guarded limiter accepted) (allows : 0 < limiter.limit) {store : Store}
    (absent : limiter.present store = none) : accepted (program.run answer store).1 = true := by
  induction program generalizing store with
  | done | fail => exact guarded
  | call request next ih =>
    rw [run_call]
    obtain ⟨allowed, rest⟩ := counts
    by_cases hits : limiter.touch request = .hit
    · have one : limiter.count request (answer request store).1 = 1 := by
        rw [(limiter.answer_hit request store hits).2.1, Counter.hit,
          show alive _ _ = none from absent]
      have owing := rest (answer request store).1
      rw [Stage.after, if_pos hits, one] at owing
      cases shape : next (answer request store).1 with
      | done value | fail failure =>
        rw [shape] at owing
        exact owing.elim
      | call request' next' =>
        rw [shape] at owing
        rw [run_call, accepted_of_counted (owing.2 _)]
        exact decide_eq_true allows
    · have leaves : limiter.touch request = .leave := allowed.resolve_left hits
      have later := rest (answer request store).1
      rw [Stage.after, if_neg hits] at later
      refine ih _ later (guarded.resolve_left hits _) ?_
      cases here : limiter.present (answer request store).2 with
      | none => rfl
      | some counter =>
        obtain ⟨le, same⟩ := limiter.answer_leave request store leaves
        rw [present, same] at here
        exact absurd (alive_of_le le here) (by rw [show alive _ _ = none from absent]; exact Option.some_ne_none _ ∘ Eq.symm)

end Accepted

/-- Nothing happens to the key while it rests. -/
theorem counter_of_rests {pool : Pool Index Call Reply Failure α Store}
    {rest : List (FaultyTurn Index Failure)} (rests : EachStep limiter.faultyStep limiter.Rests pool rest) :
    limiter.counter (follow limiter.faultyStep pool rest).store = limiter.counter pool.store := by
  have keeps : ∀ (later : Pool Index Call Reply Failure α Store) (turn : FaultyTurn Index Failure),
      limiter.counter later.store = limiter.counter pool.store → limiter.Rests later turn →
        limiter.counter (limiter.faultyStep later turn).store = limiter.counter pool.store := by
    intro later turn same isRest
    cases turn with
    | elapse time => exact (limiter.counter_wait time later.store).trans same
    | advance index =>
      cases here : later.threads index with
      | done value | fail failure =>
        rw [faultyStep, Pool.advance_of_ended (by rw [here]; rfl), same]
      | call request next =>
        have leaves : limiter.touch request = .leave := (touchNext_of_call here).symm.trans isRest
        rw [faultyStep, Pool.advance_of_call here]
        exact (limiter.answer_leave request later.store leaves).2.trans same
    | abort index applied failure => exact isRest.elim
  exact last_of_keeps keeps rfl rests

/-- **When no program fails after it has made the key and before the key has its time to live, the key is
gone a window after the last hit**: in every state that is reached the next program can be accepted
again. -/
theorem recovers (limiter : Limiter answer) {accepted : Except Failure α → Bool}
    {pool : Pool Index Call Reply Failure α Store}
    (absent : alive (limiter.clock pool.store) (limiter.counter pool.store) = none)
    (counts : ∀ index, (pool.threads index).Counts limiter accepted .fresh) (allows : 0 < limiter.limit)
    {turns : List (FaultyTurn Index Failure)}
    (attaches : EachStep limiter.faultyStep limiter.Attaches pool turns) :
    Throughout limiter.faultyStep (fun pool => ∀ next : Program Call Reply Failure α,
        next.Counts limiter accepted .fresh → next.Guarded limiter accepted →
          limiter.Recovers accepted next pool) pool turns := by
  let invariant (pool : Pool Index Call Reply Failure α Store) := ∃ stage, Mended limiter accepted pool stage
  have initially : invariant pool := by
    refine ⟨fun _ => .fresh, counts, ⟨?_, ?_, ?_⟩⟩
    · intro counter here
      cases absent.symm.trans here
    · intro counter _ here
      cases absent.symm.trans here
    · intro counter here
      cases absent.symm.trans here
  have keeps : ∀ (pool : Pool Index Call Reply Failure α Store) (turn : FaultyTurn Index Failure),
      invariant pool → limiter.Attaches pool turn → invariant (limiter.faultyStep pool turn) :=
    fun pool turn held attaches => held.elim fun stage mended => mended.step attaches
  refine (throughout_of_keeps keeps initially attaches).mono fun pool held next counts guarded => ?_
  obtain ⟨stage, mended⟩ := held
  intro attached rest rests late
  have unowed : ¬ ∃ index count, stage index = .owing count := by
    rintro ⟨index, count, owes⟩
    have own := mended.counts index
    rw [owes] at own
    cases here : pool.threads index with
    | done value | fail failure =>
      rw [here] at own
      exact own
    | call request next =>
      rw [here] at own
      exact attached index ((touchNext_of_call here).trans own.1)
  exact accepted_of_absent counts guarded allows
    ((mended.kept.imp unowed.elim).gone late (counter_of_rests rests))

end Limiter

end Motogram.Foundation
