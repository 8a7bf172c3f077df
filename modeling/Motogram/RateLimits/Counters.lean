import Motogram.Foundation.Limiter
import Motogram.Writes

/-!
# The counters of the Redis service

`incrementActionCount` counts with `INCR` and sets the window with `EXPIRE` when the count is one;
`updateLocation` does the same with the counter of pings. No other call writes these counters, so each of
them is a limiter that both functions keep (`incrementActionCount_counts`, `updateLocation_counts`).
-/

set_option autoImplicit false

namespace Motogram.RateLimits

open Foundation Program Function

/-! ## Counters in Redis -/

def counterOf (entry : Option (Expiring Nat)) : Option Counter :=
  entry.map fun stored => ⟨stored.value, stored.deadline⟩

variable (now : Time) (entry : Option (Expiring Nat)) {key key' : CounterKey} (s : State)

theorem alive_counterOf : Counter.alive now (counterOf entry) = counterOf (Expiring.live now entry) := by
  cases entry with
  | none => rfl
  | some stored =>
    rw [counterOf, Option.map_some, Counter.alive, Expiring.live, Option.filter_some, Option.filter_some]
    split <;> rfl

theorem hit_counterOf :
    Counter.hit now (counterOf entry) = ⟨(bumped now entry).value, (bumped now entry).deadline⟩ := by
  rw [Counter.hit, alive_counterOf, bumped]
  cases Expiring.live now entry <;> rfl

theorem expire_counterOf (window : Nat) (entry : Option (Expiring Nat)) :
    Counter.expire now window (counterOf entry) =
      counterOf ((Expiring.live now entry).map fun stored => { stored with deadline := some (now + window) }) := by
  rw [Counter.expire, alive_counterOf]
  cases Expiring.live now entry <;> rfl

/-- What `INCR` writes and replies is a hit of the counter. -/
theorem counterOf_hit {now : Time} {entry after : Option (Expiring Nat)} (written : after = some (bumped now entry)) :
    (bumped now entry).value = (Counter.hit now (counterOf entry)).count ∧
      counterOf after = some (Counter.hit now (counterOf entry)) := by
  rw [written, hit_counterOf]
  exact ⟨rfl, rfl⟩

/-- What `EXPIRE` writes gives the counter its time to live. -/
theorem counterOf_expire {now : Time} {window : Nat} {entry after : Option (Expiring Nat)}
    (written : after = (Expiring.live now entry).map fun stored => { stored with deadline := some (now + window) }) :
    counterOf after = Counter.expire now window (counterOf entry) := by
  rw [written, expire_counterOf]

/-! ## One counter -/

def touch (key : CounterKey) (windowSeconds : Nat) : StoreCall → Touch
  | .incr key' => .ofHit (key' = key)
  | .expireCounter key' seconds => .ofExpire (key' = key) (seconds = windowSeconds)
  | _ => .leave

/-- The reply of `INCR`. -/
def count : (request : StoreCall) → StoreReply request → Nat
  | .incr _, reply => reply
  | _, _ => 0

/-- Time does not go back, and the counter stays. -/
structure SameCounter (key : CounterKey) (s t : State) : Prop where
  now : s.now ≤ t.now
  counter : t.counters key = s.counters key

theorem SameCounter.of_eq {s t : State} (now : t.now = s.now) (counters : t.counters = s.counters) :
    SameCounter key s t := ⟨now.ge, congrFun counters key⟩

theorem SameCounter.of_apart (counter : Option (Expiring Nat)) (apart : key' ≠ key) :
    SameCounter key s (s.withCounter key' counter) where
  now := Nat.le_refl _
  counter := by rw [State.withCounter_counters, update_of_ne apart.symm]

theorem redis_sameCounter (command : RedisCommand) : SameCounter key s (s.redis command) := by
  cases command <;> exact .of_eq rfl rfl

theorem multi_sameCounter (commands : List RedisCommand) : SameCounter key s (commands.foldl State.redis s) := by
  refine List.foldlRecOn (motive := SameCounter key s) commands State.redis (.of_eq rfl rfl) ?_
  intro t same command _
  have next : SameCounter key t (t.redis command) := redis_sameCounter t command
  exact ⟨same.now.trans next.now, next.counter.trans same.counter⟩

theorem answer_sameCounter {windowSeconds : Nat} {request : StoreCall}
    (leaves : touch key windowSeconds request = .leave) (s : State) : SameCounter key s (answer request s).2 := by
  cases request with
  | incr key' => exact .of_apart s _ (Touch.ofHit_eq_leave.mp leaves)
  | expireCounter key' seconds => exact .of_apart s _ (Touch.ofExpire_eq_leave.mp leaves)
  | redis command => exact redis_sameCounter s command
  | multi commands => exact multi_sameCounter s commands
  | environment event =>
    cases event with
    | elapse milliseconds => exact ⟨Nat.le_add_right _ _, rfl⟩
    | relist rows index =>
      simp only [answer]
      split <;> exact .of_eq rfl rfl
  | createPartyTransaction | partyMemberCreate | partyInviteCreate =>
    simp only [answer]
    split
    · exact .of_eq rfl rfl
    · split <;> exact .of_eq rfl rfl
  | changeLeaderTransaction | endPartyTransaction | partyMemberUpdate | partyInviteDecline
  | setLeaderLockNx | releaseLeaderLock | userUpdateLocationSharing | socketConnect =>
    simp only [answer]
    split <;> exact .of_eq rfl rfl
  | _ => exact .of_eq rfl rfl

theorem answer_now (request : StoreCall) (s : State) : s.now ≤ (answer request s).2.now := by
  have same : ∀ key, touch key 0 request = .leave → s.now ≤ (answer request s).2.now :=
    fun key leaves => (answer_sameCounter leaves s).now
  cases request with
  | incr | expireCounter => exact Nat.le_refl _
  | _ => exact same (.locationPing 0) rfl

theorem touch_of_regions {request : StoreCall} (elsewhere : .counters ∉ request.regions) (key : CounterKey)
    (windowSeconds : Nat) : touch key windowSeconds request = .leave := by
  cases request with
  | incr | expireCounter => simp at elsewhere
  | _ => rfl

/-- The limiter of a counter of the Redis service. -/
def counterLimiter (key : CounterKey) (limit windowSeconds : Nat) (filled : 0 < windowSeconds) :
    Limiter Motogram.answer where
  clock := State.now
  counter := fun s => counterOf (s.counters key)
  wait := fun milliseconds s => s.elapsed milliseconds
  touch := touch key windowSeconds
  count := count
  limit := limit
  window := windowSeconds * 1000
  filled := Nat.mul_pos filled (by decide)
  clock_wait := fun _ _ => rfl
  counter_wait := fun _ _ => rfl
  answer_hit := by
    intro request s hits
    cases request with
    | incr key' =>
      obtain rfl := Touch.ofHit_eq_hit.mp hits
      refine ⟨rfl, counterOf_hit ?_⟩
      simp only [answer, State.withCounter_counters, update_self]
    | expireCounter key' seconds => exact absurd hits Touch.ofExpire_ne_hit
    | _ => cases hits
  answer_expire := by
    intro request s expires
    cases request with
    | expireCounter key' seconds =>
      obtain ⟨rfl, rfl⟩ := Touch.ofExpire_eq_expire.mp expires
      refine ⟨rfl, counterOf_expire ?_⟩
      simp only [answer, State.withCounter_counters, update_self]
      rfl
    | incr key' => exact absurd expires Touch.ofHit_ne_expire
    | _ => cases expires
  answer_leave := by
    intro request s leaves
    have same := answer_sameCounter leaves s
    exact ⟨same.now, congrArg counterOf same.counter⟩

theorem leaves_of_writes {Value : Type} {flow : Motogram.Flow Value} {allowed : List Region}
    (writes : flow.Writes allowed) (elsewhere : .counters ∉ allowed) (key : CounterKey)
    (windowSeconds : Nat) : flow.Uses fun request => touch key windowSeconds request = .leave :=
  Uses.mono writes fun _ within =>
    touch_of_regions (fun member => elsewhere (within member)) key windowSeconds

/-! ### The functions that use them -/

/-- `incrementActionCount` followed by what leaves the counter alone and goes by the count. -/
theorem counts_increment {Value : Type} {key key' : CounterKey} {limit windowSeconds seconds : Nat}
    {filled : 0 < windowSeconds} {accepted : Except ServiceError Value → Bool} {rest : Nat → Motogram.Flow Value}
    (window : key' = key → seconds = windowSeconds)
    (leaves : ∀ count, (rest count).Uses fun request => touch key windowSeconds request = .leave)
    (returns : ∀ count, (rest count).Returns fun value => accepted (.ok value) = decide (count ≤ limit))
    (fails : ∀ count, (rest count).FailsWith fun error => accepted (.error error) = decide (count ≤ limit)) :
    (incrementActionCount key' seconds >>= rest).Counts (counterLimiter key limit windowSeconds filled)
      accepted .fresh := by
  by_cases same : key' = key
  · obtain rfl := window same
    subst same
    have hits : (counterLimiter key' limit seconds filled).touch (.incr key') = .hit :=
      Touch.ofHit_eq_hit.mpr rfl
    have expires : (counterLimiter key' limit seconds filled).touch (.expireCounter key' seconds) = .expire :=
      Touch.ofExpire_eq_expire.mpr ⟨rfl, rfl⟩
    have counted : ∀ count, (rest count).Counts (counterLimiter key' limit seconds filled) accepted
        (.counted count) :=
      fun count => counted_of_uses (leaves count) (returns count) (fails count)
    simp only [incrementActionCount, call_bind, done_bind]
    refine counts_hit hits expires (fun count _ => rest count) ?_ ?_ ?_
    · intro count first
      have isFirst : count = 1 := first
      rw [if_pos isFirst]
      rfl
    · exact fun count _ _ => counted count
    · intro count again
      have notFirst : ¬ count = 1 := again
      rw [if_neg notFirst]
      exact counted count
  · have elsewhere : (incrementActionCount key' seconds).Uses fun request =>
        touch key windowSeconds request = .leave := by
      refine Uses.send (Touch.ofHit_eq_leave.mpr same) fun count => ?_
      split
      · exact Uses.send (Touch.ofExpire_eq_leave.mpr same) fun _ => trivial
      · trivial
    exact counts_bind elsewhere fun count => counts_of_uses (leaves count)

def countAccepted (limit : Nat) : Except ServiceError Nat → Bool
  | .ok count => decide (count ≤ limit)
  | .error _ => false

theorem incrementActionCount_counts {limit windowSeconds seconds : Nat} {filled : 0 < windowSeconds}
    (window : key' = key → seconds = windowSeconds) :
    (incrementActionCount key' seconds).Counts (counterLimiter key limit windowSeconds filled)
      (countAccepted limit) .fresh := by
  have whole := bind_done (incrementActionCount key' seconds)
  rw [← whole]
  exact counts_increment window (fun _ => trivial) (fun _ => rfl) fun _ => trivial

def pingAccepted : Except ServiceError UpdateLocationResult → Bool
  | .ok result => decide (result.skipped ≠ some .rateLimited)
  | .error _ => true

theorem updateCommands_regions' (userId : UserId) (dto : UpdateLocationDto) (user : User) (shard : String)
    (now : Time) :
    (updateCommands userId dto user shard now).map RedisCommand.region ⊆ [.locations, .membershipKeys] := by
  cases named : dto.partyId with
  | none | some => simp [updateCommands, positionCommands, named]

theorem updateLocation_counts (deployment : Deployment) (userId userId' : UserId) (dto : UpdateLocationDto)
    (user : User) (filled : 0 < 1) :
    (updateLocation deployment userId' dto user).Counts
      (counterLimiter (.locationPing userId) locationPingPerSecond 1 filled) pingAccepted .fresh := by
  have guard : (throwIf (user.isBanned = true) userBanned : Motogram.Flow Unit).Uses fun request =>
      touch (.locationPing userId) 1 request = .leave := by simp
  refine counts_bind guard fun _ => ?_
  change (incrementActionCount (.locationPing userId') 1 >>= _).Counts _ _ _
  refine counts_increment (fun _ => rfl) (fun count => ?_) (fun count => ?_) fun count => ?_
  · split
    · trivial
    · split
      · have removes := leaves_of_writes (removeFromRedis_writes deployment userId' user.city) (by simp)
          (.locationPing userId) 1
        exact removes.bind fun _ => trivial
      · refine Uses.send rfl fun now => ?_
        have writes := leaves_of_writes (pipeline_writes (updateCommands_regions' userId' dto user
          (userLocationShard deployment (updateCity dto user)) now)) (by simp) (.locationPing userId) 1
        exact writes.bind fun _ => trivial
  · split
    · rename_i often
      have many := decide_eq_false (Nat.not_le.mpr often)
      exact many.symm
    · rename_i within
      have few := decide_eq_true (Nat.not_lt.mp within)
      split
      · exact Returns.last _ fun _ => few.symm
      · intro now
        change (pipeline _ >>= _).Returns _
        exact Returns.last _ fun _ => few.symm
  · split
    · trivial
    · rename_i within
      exact failsWith_of_all (fun _ => (decide_eq_true (Nat.not_lt.mp within)).symm) _

end Motogram.RateLimits
