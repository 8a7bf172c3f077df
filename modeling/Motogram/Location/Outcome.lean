import Motogram.Party.Outcome

/-!
# What a location update does when it runs alone

The ways `updateLocation` ends, each with the state it leaves. The REST route
and the message of the gateway both go through it.
-/

set_option autoImplicit false

namespace Motogram

open Foundation Program

def State.AllowsPing (s : State) (userId : UserId) : Prop :=
  (bumped s.now (s.counters (.locationPing userId))).value ≤ locationPingPerSecond

instance (s : State) (userId : UserId) : Decidable (s.AllowsPing userId) :=
  inferInstanceAs (Decidable (_ ≤ _))

abbrev State.pinged (s : State) (userId : UserId) : State := s.counted (.locationPing userId) 1

/-- After `removeFromRedis`. -/
def State.removed (s : State) (userId : UserId) (city : Option String) : State :=
  [.zremShard (userLocationShard s.deployment city) userId, .hsetOffline userId,
    .delPing userId].foldl State.redis s

/-- After the pipeline of an accepted update. -/
def State.located (s : State) (userId : UserId) (dto : UpdateLocationDto) (user : User) : State :=
  (updateCommands userId dto user (userLocationShard s.deployment (updateCity dto user))
    s.now).foldl State.redis s

/-- The ways `updateLocation` ends. -/
inductive UpdateOutcome (s : State) (userId : UserId) (dto : UpdateLocationDto) (user : User) :
    Except ServiceError UpdateLocationResult → State → Prop where
  | banned (banned : user.isBanned = true) : UpdateOutcome s userId dto user (.error userBanned) s
  | limited (shard : String) (allowed : user.isBanned = false) (limited : ¬ s.AllowsPing userId) :
      UpdateOutcome s userId dto user (.ok ⟨false, shard, some .rateLimited⟩) (s.pinged userId)
  | disabled (shard : String) (allowed : user.isBanned = false) (counted : s.AllowsPing userId)
      (off : user.locationSharing = .off) (apart : dto.partyId = none) :
      UpdateOutcome s userId dto user (.ok ⟨false, shard, some .sharingDisabled⟩)
        ((s.pinged userId).removed userId user.city)
  | accepted (allowed : user.isBanned = false) (counted : s.AllowsPing userId)
      (shared : ¬ (user.locationSharing = .off ∧ dto.partyId = none)) :
      UpdateOutcome s userId dto user
        (.ok ⟨true, userLocationShard s.deployment (updateCity dto user), none⟩)
        ((s.pinged userId).located userId dto user)

theorem exec_pipeline (commands : List RedisCommand) (s : State) :
    (pipeline commands).exec s = (.ok (), commands.foldl State.redis s) := by
  induction commands generalizing s with
  | nil => rfl
  | cons command rest ih => exact ih (s.redis command)

theorem exec_countPing (s : State) (userId : UserId) :
    (countPing userId).exec s = (.ok (bumped s.now (s.counters (.locationPing userId))).value, s.pinged userId) :=
  exec_incrementActionCount s (.locationPing userId) 1

theorem exec_removeFromRedis (s : State) (userId : UserId) (city : Option String) :
    (removeFromRedis s.deployment userId city).exec s = (.ok (), s.removed userId city) := rfl

theorem updateLocation_outcome (s : State) (userId : UserId) (dto : UpdateLocationDto)
    (user : User) :
    UpdateOutcome s userId dto user ((updateLocation s.deployment userId dto user).exec s).1
      ((updateLocation s.deployment userId dto user).exec s).2 := by
  unfold updateLocation Flow.exec
  rw [run_throwIf_bind]
  by_cases banned : user.isBanned = true
  · rw [if_pos banned]
    exact .banned banned
  · rw [if_neg banned, run_bind_of_ok _ (exec_countPing s userId)]
    have allowed : user.isBanned = false := by simpa using banned
    by_cases limited : (bumped s.now (s.counters (.locationPing userId))).value > locationPingPerSecond
    · rw [if_pos limited]
      exact .limited _ allowed (Nat.not_le.mpr limited)
    · rw [if_neg limited]
      have counted : s.AllowsPing userId := Nat.not_lt.mp limited
      by_cases hidden : user.locationSharing = .off ∧ dto.partyId = none
      · have removed : (removeFromRedis s.deployment userId user.city).exec (s.pinged userId) =
            (.ok (), (s.pinged userId).removed userId user.city) :=
          exec_removeFromRedis (s.pinged userId) userId user.city
        rw [if_pos hidden, run_bind_of_ok _ removed, pure_eq]
        exact .disabled _ allowed counted hidden.1 hidden.2
      · have sent : (pipeline (updateCommands userId dto user
            (userLocationShard s.deployment (updateCity dto user)) (s.pinged userId).now)).exec
              (s.pinged userId) = (.ok (), (s.pinged userId).located userId dto user) := by
          rw [exec_pipeline, State.located, State.counted_deployment]
        rw [if_neg hidden, call_bind,
          run_call_of_answer _ (rfl : answer .dateNow (s.pinged userId) = (_, _)),
          done_bind, run_bind_of_ok _ sent, pure_eq, run_done]
        dsimp only
        exact .accepted allowed counted hidden

end Motogram
