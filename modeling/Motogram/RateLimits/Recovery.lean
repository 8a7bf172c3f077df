import Motogram.Foundation.Outage
import Motogram.RateLimits.Bounds

/-!
# Nobody is limited for ever

The four functions of the fixed windows send `EXPIRE` after the hit that makes the key, and only then. A
call that fails between the two leaves a counter that never goes: the hits after it count on, and once the
limit is exceeded the user is refused for good (`limited_for_ever`).

`limits_end` is that this is the only way. When no call fails after its `INCR` has made the counter and
before its `EXPIRE` is carried out, whatever else fails, a user who makes no call for a window is accepted
again.
-/

set_option autoImplicit false

namespace Motogram.RateLimits

open Foundation Program

/-! ## Calls that have not counted are accepted -/

theorem incrementActionCount_guarded (key : CounterKey) (limit windowSeconds : Nat)
    (filled : 0 < windowSeconds) :
    (incrementActionCount key windowSeconds).Guarded (counterLimiter key limit windowSeconds filled)
      (countAccepted limit) :=
  .inl (Touch.ofHit_eq_hit.mpr rfl)

theorem updateLocation_guarded (deployment : Motogram.Deployment) (userId : UserId)
    (dto : UpdateLocationDto) (user : User) (filled : 0 < 1) :
    (updateLocation deployment userId dto user).Guarded
      (counterLimiter (.locationPing userId) locationPingPerSecond 1 filled) pingAccepted := by
  by_cases banned : user.isBanned = true
  · rw [updateLocation, throwIf, if_pos banned]
    rfl
  · rw [updateLocation, throwIf, if_neg banned]
    exact .inl (Touch.ofHit_eq_hit.mpr rfl)

theorem createAlert_guarded (deployment : Motogram.Deployment) (userId : UserId)
    (dto : Emergency.CreateEmergencyAlertDto) (requester : Emergency.Requester) :
    (Emergency.createAlert deployment userId dto requester).Guarded
      (Emergency.RateLimits.alertLimiter userId) Emergency.RateLimits.alertAccepted := by
  by_cases banned : requester.isBanned = true
  · rw [Emergency.createAlert, throwIf, if_pos banned]
    rfl
  · by_cases short : dto.holdDurationMs.any (fun held => decide (held < Emergency.sosMinHoldMs)) = true
    · rw [Emergency.createAlert, throwIf, if_neg banned, throwIf, if_pos short]
      rfl
    · rw [Emergency.createAlert, throwIf, if_neg banned, throwIf, if_neg short]
      exact .inl (Touch.ofHit_eq_hit.mpr rfl)

theorem enforceRate_guarded (userId : UserId) :
    (Messaging.enforceRate userId).Guarded (Messaging.RateLimits.messageLimiter userId)
      Messaging.RateLimits.messageAccepted :=
  .inl (Touch.ofHit_eq_hit.mpr rfl)

/-! ## The limits end -/

/-- **A user who makes no call for a window is accepted again**, in every state of every run in which no
call fails after its `INCR` has made the counter and before its `EXPIRE` is carried out. -/
theorem limits_end (Index : Type) [DecidableEq Index] :
    -- `incrementActionCount`, for any limit of its callers
    (∀ (key : CounterKey) (limit windowSeconds : Nat) (filled : 0 < windowSeconds) (keys : Index → CounterKey)
      (seconds : Index → Nat) (s : Motogram.State) (turns : List (FaultyTurn Index ServiceError)),
      0 < limit → (∀ index, keys index = key → seconds index = windowSeconds) →
      Expiring.live s.now (s.counters key) = none →
      EachStep (counterLimiter key limit windowSeconds filled).faultyStep
        (counterLimiter key limit windowSeconds filled).Attaches
        ⟨fun index => incrementActionCount (keys index) (seconds index), s⟩ turns →
      Throughout (counterLimiter key limit windowSeconds filled).faultyStep
        ((counterLimiter key limit windowSeconds filled).Recovers (countAccepted limit)
          (incrementActionCount key windowSeconds))
        ⟨fun index => incrementActionCount (keys index) (seconds index), s⟩ turns) ∧
    (∀ (deployment : Motogram.Deployment) (userId : UserId) (userIds : Index → UserId)
      (dtos : Index → UpdateLocationDto) (users : Index → User) (s : Motogram.State)
      (turns : List (FaultyTurn Index ServiceError)),
      Expiring.live s.now (s.counters (.locationPing userId)) = none →
      EachStep (counterLimiter (.locationPing userId) locationPingPerSecond 1 Nat.one_pos).faultyStep
        (counterLimiter (.locationPing userId) locationPingPerSecond 1 Nat.one_pos).Attaches
        ⟨fun index => updateLocation deployment (userIds index) (dtos index) (users index), s⟩ turns →
      Throughout (counterLimiter (.locationPing userId) locationPingPerSecond 1 Nat.one_pos).faultyStep
        (fun pool => ∀ dto user,
          (counterLimiter (.locationPing userId) locationPingPerSecond 1 Nat.one_pos).Recovers pingAccepted
            (updateLocation deployment userId dto user) pool)
        ⟨fun index => updateLocation deployment (userIds index) (dtos index) (users index), s⟩ turns) ∧
    (∀ (deployment : Motogram.Deployment) (userId : UserId) (userIds : Index → UserId)
      (dtos : Index → Emergency.CreateEmergencyAlertDto) (requesters : Index → Emergency.Requester)
      (s : Emergency.State) (turns : List (FaultyTurn Index Emergency.EmergencyError)),
      Expiring.live s.base.now (s.rateCount userId) = none →
      EachStep (Emergency.RateLimits.alertLimiter userId).faultyStep
        (Emergency.RateLimits.alertLimiter userId).Attaches
        ⟨fun index => Emergency.createAlert deployment (userIds index) (dtos index) (requesters index), s⟩
        turns →
      Throughout (Emergency.RateLimits.alertLimiter userId).faultyStep
        (fun pool => ∀ dto requester,
          (Emergency.RateLimits.alertLimiter userId).Recovers Emergency.RateLimits.alertAccepted
            (Emergency.createAlert deployment userId dto requester) pool)
        ⟨fun index => Emergency.createAlert deployment (userIds index) (dtos index) (requesters index), s⟩
        turns) ∧
    (∀ (userId : UserId) (userIds : Index → UserId) (s : Messaging.State)
      (turns : List (FaultyTurn Index ServiceError)),
      Expiring.live s.now (s.rateMsg userId) = none →
      EachStep (Messaging.RateLimits.messageLimiter userId).faultyStep
        (Messaging.RateLimits.messageLimiter userId).Attaches
        ⟨fun index => Messaging.enforceRate (userIds index), s⟩ turns →
      Throughout (Messaging.RateLimits.messageLimiter userId).faultyStep
        ((Messaging.RateLimits.messageLimiter userId).Recovers Messaging.RateLimits.messageAccepted
          (Messaging.enforceRate userId))
        ⟨fun index => Messaging.enforceRate (userIds index), s⟩ turns) := by
  refine ⟨?_, ?_, ?_, ?_⟩
  · intro key limit windowSeconds filled keys seconds s turns allows window gone attaches
    have counts : ∀ index, (incrementActionCount (keys index) (seconds index)).Counts
        (counterLimiter key limit windowSeconds filled) (countAccepted limit) .fresh :=
      fun index => incrementActionCount_counts (window index)
    refine (Limiter.recovers _ (absent_of_live gone) counts allows attaches).mono fun pool recovers => ?_
    exact recovers _ (incrementActionCount_counts fun _ => rfl)
      (incrementActionCount_guarded key limit windowSeconds filled)
  · intro deployment userId userIds dtos users s turns gone attaches
    have counts := fun index =>
      updateLocation_counts deployment userId (userIds index) (dtos index) (users index) Nat.one_pos
    have allows : 0 < locationPingPerSecond := by decide
    refine (Limiter.recovers _ (absent_of_live gone) counts allows attaches).mono
      fun pool recovers dto user => ?_
    exact recovers _ (updateLocation_counts deployment userId userId dto user Nat.one_pos)
      (updateLocation_guarded deployment userId dto user Nat.one_pos)
  · intro deployment userId userIds dtos requesters s turns gone attaches
    have counts := fun index => Emergency.RateLimits.createAlert_counts deployment userId (userIds index)
      (dtos index) (requesters index)
    have allows : 0 < Emergency.maxAlertsPer10Min := by decide
    refine (Limiter.recovers _ (absent_of_live gone) counts allows attaches).mono
      fun pool recovers dto requester => ?_
    exact recovers _ (Emergency.RateLimits.createAlert_counts deployment userId userId dto requester)
      (createAlert_guarded deployment userId dto requester)
  · intro userId userIds s turns gone attaches
    have counts := fun index => Messaging.RateLimits.enforceRate_counts userId (userIds index)
    have allows : 0 < Messaging.msgRateLimit := by decide
    refine (Limiter.recovers _ (absent_of_live gone) counts allows attaches).mono fun pool recovers => ?_
    exact recovers _ (Messaging.RateLimits.enforceRate_counts userId userId) (enforceRate_guarded userId)

/-! ## An outage -/

/-- The first of two calls fails before it counts, the second one counts, and what it sends after its
`EXPIRE` fails. -/
def harmlessOutage {Failure : Type} (failure : Failure) : List (FaultyTurn Bool Failure) :=
  [.abort true false failure, .advance false, .advance false, .abort false false failure]

theorem limits_end_small :
    Throughout (counterLimiter (.partySignal 1) signalRatePerMinute 60 (by decide)).faultyStep
        ((counterLimiter (.partySignal 1) signalRatePerMinute 60 (by decide)).Recovers
          (countAccepted signalRatePerMinute) (incrementActionCount (.partySignal 1) 60))
        ⟨fun _ : Bool => incrementActionCount (.partySignal 1) 60, smallInstallation⟩
        (harmlessOutage (.redis .wrongType)) ∧
      Throughout (counterLimiter (.locationPing 1) locationPingPerSecond 1 Nat.one_pos).faultyStep
        (fun pool => ∀ dto user,
          (counterLimiter (.locationPing 1) locationPingPerSecond 1 Nat.one_pos).Recovers pingAccepted
            (updateLocation smallDeployment 1 dto user) pool)
        ⟨fun _ : Bool => updateLocation smallDeployment 1 (updateAt 0 0 none) (rider "r"), smallInstallation⟩
        (harmlessOutage (.redis .wrongType)) ∧
      Throughout (Emergency.RateLimits.alertLimiter 1).faultyStep
        (fun pool => ∀ dto requester,
          (Emergency.RateLimits.alertLimiter 1).Recovers Emergency.RateLimits.alertAccepted
            (Emergency.createAlert smallDeployment 1 dto requester) pool)
        ⟨fun _ : Bool => Emergency.createAlert smallDeployment 1 Emergency.smallAlert ⟨"r", none, false⟩,
          Emergency.quietInstallation⟩
        (harmlessOutage (.location (.redis .wrongType))) ∧
      Throughout (Messaging.RateLimits.messageLimiter 1).faultyStep
        ((Messaging.RateLimits.messageLimiter 1).Recovers Messaging.RateLimits.messageAccepted
          (Messaging.enforceRate 1))
        ⟨fun _ : Bool => Messaging.enforceRate 1, Messaging.smallInstallation⟩
        (harmlessOutage (.redis .wrongType)) := by
  obtain ⟨actions, pings, alerts, messages⟩ := limits_end Bool
  refine ⟨?_, ?_, ?_, ?_⟩
  · exact actions (.partySignal 1) signalRatePerMinute 60 (by decide) _ _ smallInstallation _ (by decide)
      (fun _ _ => rfl) rfl (by decide +kernel)
  · exact pings smallDeployment 1 _ _ _ smallInstallation _ rfl (by decide +kernel)
  · exact alerts smallDeployment 1 _ _ _ Emergency.quietInstallation _ rfl (by decide +kernel)
  · exact messages 1 _ Messaging.smallInstallation _ rfl (by decide +kernel)

/-- `EXPIRE` fails in the first alert of user 1, and two more alerts follow. -/
def lostExpire : List (FaultyTurn (Fin 3) Emergency.EmergencyError) :=
  [.advance 0, .abort 0 false (.location (.redis .wrongType)), .advance 1, .advance 2]

/-- **A lost `EXPIRE` limits a user for ever**: three alerts of user 1, the first of which has lost it, and
the next alert is refused though ten minutes have passed without a call. -/
theorem limited_for_ever :
    ¬ Throughout (Emergency.RateLimits.alertLimiter 1).faultyStep
        (fun pool => ∀ dto requester,
          (Emergency.RateLimits.alertLimiter 1).Recovers Emergency.RateLimits.alertAccepted
            (Emergency.createAlert smallDeployment 1 dto requester) pool)
        ⟨fun _ => Emergency.createAlert smallDeployment 1 Emergency.smallAlert ⟨"r", none, false⟩,
          Emergency.quietInstallation⟩
        lostExpire := by
  intro recovers
  have last := recovers.last Emergency.smallAlert ⟨"r", none, false⟩ (by decide +kernel)
    [.elapse 600000] ⟨trivial, trivial⟩ (by decide +kernel)
  exact absurd last (by decide +kernel)

end Motogram.RateLimits
