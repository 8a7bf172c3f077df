import Motogram.Emergency.Service
import Motogram.RateLimits.Counters

/-!
# The counter of alerts

`createAlert` counts the alerts of a user with `INCR` and sets the window of ten minutes with `EXPIRE` when
the count is one. Nothing else it does touches that counter, and it fails with `sos_rate_limit` exactly
when the count is over the limit (`createAlert_counts`).
-/

set_option autoImplicit false

namespace Motogram.Emergency.RateLimits

open Foundation Program Function
open Motogram.RateLimits (counterOf counterOf_hit counterOf_expire answer_now)

/-! ## The counter -/

/-- What a call of the emergency service does to the counter of a user's alerts. -/
def touch (userId : UserId) : EmergencyCall → Touch
  | .incrRateCount userId' => .ofHit (userId' = userId)
  | .expireRateCount userId' seconds => .ofExpire (userId' = userId) (seconds = rateWindowSeconds)
  | _ => .leave

/-- The reply of `INCR`. -/
def count : (request : EmergencyCall) → EmergencyReply request → Nat
  | .incrRateCount _, reply => reply
  | _, _ => 0

/-- Time does not go back, and the counter stays. -/
structure SameCounter (userId : UserId) (s t : State) : Prop where
  now : s.base.now ≤ t.base.now
  counter : t.rateCount userId = s.rateCount userId

theorem SameCounter.of_eq {userId : UserId} {s t : State} (now : t.base.now = s.base.now)
    (counters : t.rateCount = s.rateCount) : SameCounter userId s t := ⟨now.ge, congrFun counters userId⟩

theorem SameCounter.of_apart {userId userId' : UserId} (s : State)
    (counter : Option (Expiring Nat)) (apart : userId' ≠ userId) :
    SameCounter userId s (s.withRateCount userId' counter) where
  now := Nat.le_refl _
  counter := by rw [State.withRateCount_rateCount, update_of_ne apart.symm]

theorem notify_sameCounter {userId : UserId} (alertId : AlertId) (recipients : List (UserId × Int))
    (s : State) : SameCounter userId s (s.notify alertId recipients) := by
  induction recipients generalizing s with
  | nil => exact .of_eq rfl rfl
  | cons recipient rest ih =>
    have later := ih ((s.withResponders (s.emergencyResponders.insert (alertId, recipient.1)
      (notifiedRow s.fresh s.base.now recipient.2))).withFresh (s.fresh + 1))
    exact ⟨later.now, later.counter⟩

theorem answer_sameCounter {userId : UserId} {request : EmergencyCall} (leaves : touch userId request = .leave)
    (s : State) : SameCounter userId s (answer request s).2 := by
  cases request with
  | incrRateCount userId' => exact .of_apart s _ (Touch.ofHit_eq_leave.mp leaves)
  | expireRateCount userId' seconds => exact .of_apart s _ (Touch.ofExpire_eq_leave.mp leaves)
  | location request => exact ⟨answer_now request s.base, rfl⟩
  | elapse milliseconds => exact ⟨Nat.le_add_right _ _, rfl⟩
  | emergencyResponderCreateMany alertId recipients =>
    simp only [answer]
    split
    · exact notify_sameCounter alertId recipients s
    · exact .of_eq rfl rfl
  | emergencyResponderUpsert alertId responderId patch =>
    simp only [answer]
    split
    · exact .of_eq rfl rfl
    · split <;> exact .of_eq rfl rfl
  | emergencyAlertCreate | emergencyAlertUpdate | notificationCreate | setAdminNotifyLockNx =>
    simp only [answer]
    split <;> exact .of_eq rfl rfl
  | _ => exact .of_eq rfl rfl

def alertLimiter (userId : UserId) : Limiter answer where
  clock := fun s => s.base.now
  counter := fun s => counterOf (s.rateCount userId)
  wait := fun milliseconds s => s.withBase (s.base.elapsed milliseconds)
  touch := touch userId
  count := count
  limit := maxAlertsPer10Min
  window := rateWindowSeconds * 1000
  filled := by decide
  clock_wait := fun _ _ => rfl
  counter_wait := fun _ _ => rfl
  answer_hit := by
    intro request s hits
    cases request with
    | incrRateCount userId' =>
      obtain rfl := Touch.ofHit_eq_hit.mp hits
      refine ⟨rfl, counterOf_hit ?_⟩
      simp only [answer, State.withRateCount_rateCount, update_self]
    | expireRateCount userId' seconds => exact absurd hits Touch.ofExpire_ne_hit
    | _ => cases hits
  answer_expire := by
    intro request s expires
    cases request with
    | expireRateCount userId' seconds =>
      obtain ⟨rfl, rfl⟩ := Touch.ofExpire_eq_expire.mp expires
      refine ⟨rfl, counterOf_expire ?_⟩
      simp only [answer, State.withRateCount_rateCount, update_self]
      rfl
    | incrRateCount userId' => exact absurd expires Touch.ofHit_ne_expire
    | _ => cases expires
  answer_leave := by
    intro request s leaves
    have same := answer_sameCounter leaves s
    exact ⟨same.now, congrArg counterOf same.counter⟩

/-- An alert is accepted unless it is refused for the limit. -/
def alertAccepted : Except EmergencyError EmergencyAlertDto → Bool
  | .error (.http _ error _ _) => decide (error ≠ "sos_rate_limit")
  | _ => true

/-! ### What follows the counter -/

/-- A call of the emergency service that is no command for the counter of alerts. -/
def Apart : EmergencyCall → Prop
  | .incrRateCount _ | .expireRateCount _ _ => False
  | _ => True

/-- A failure that is not the refusal for the limit. -/
def OtherFailure (error : EmergencyError) : Prop := alertAccepted (.error error) = true

theorem touch_of_apart {request : EmergencyCall} (apart : Apart request) (userId : UserId) :
    touch userId request = .leave := by
  cases request with
  | incrRateCount | expireRateCount => exact apart.elim
  | _ => rfl

/-- A function that leaves the counters of alerts alone and is not refused for the limit. -/
structure Unlimited {Value : Type} (flow : Flow Value) : Prop where
  uses : flow.Uses Apart
  fails : flow.FailsWith OtherFailure

variable {Value : Type} (deployment : Deployment) (userId : UserId) (dto : CreateEmergencyAlertDto)
  (requester : Requester) (alertId : AlertId) (requesterId : UserId)

theorem unlimited_pure (value : Value) : Unlimited (pure value : Flow Value) :=
  ⟨trivial, trivial⟩

theorem Unlimited.bind {Value' : Type} {first : Flow Value} {next : Value → Flow Value'}
    (unlimited : Unlimited first) (rest : ∀ value, Unlimited (next value)) :
    Unlimited (first >>= next) where
  uses := unlimited.uses.bind fun value => (rest value).uses
  fails := unlimited.fails.bind fun value => (rest value).fails

theorem unlimited_send {request : EmergencyCall} {next : EmergencyReply request → Flow Value}
    (apart : Apart request) (rest : ∀ reply, Unlimited (next reply)) :
    Unlimited ((Program.call request .done : Flow _) >>= next) where
  uses := Uses.send apart fun reply => (rest reply).uses
  fails := FailsWith.send fun reply => (rest reply).fails

theorem rethrow_unlimited (reply : Except PrismaError Value) : Unlimited (rethrow reply) := by
  cases reply with
  | ok value => exact ⟨trivial, trivial⟩
  | error error => exact ⟨trivial, rfl⟩

theorem createNotification_unlimited (notification : Notification) :
    Unlimited (createNotification notification) := by
  refine unlimited_send trivial fun stored => ?_
  split
  · exact unlimited_send trivial fun created => rethrow_unlimited created
  · exact unlimited_pure ()

theorem notifyAll_unlimited (recipients : List Recipient) :
    Unlimited (notifyAll alertId requesterId recipients) := by
  induction recipients with
  | nil => exact unlimited_pure ()
  | cons recipient rest ih => exact (createNotification_unlimited _).bind fun _ => ih

theorem broadcastNearby_unlimited (requester : Requester) (alert : EmergencyAlert) (recipients : List Recipient) :
    Unlimited (broadcastNearby alertId requesterId requester alert recipients) := by
  induction recipients with
  | nil => exact unlimited_pure ()
  | cons recipient rest ih => exact unlimited_send trivial fun _ => ih

theorem queryNearbyRaw_unlimited (center : Coordinates) (radiusMeters : ℚ) (city : Option String)
    (limit : Nat) :
    Unlimited (queryNearbyRaw deployment center radiusMeters city limit) where
  uses := by
    have each : ∀ request, (call (.location request) : Flow (StoreReply request)).Uses Apart :=
      fun _ => ⟨trivial, fun _ => trivial⟩
    exact uses_embed _ each _
  fails := by
    have each : ∀ request, (call (.location request) : Flow (StoreReply request)).FailsWith OtherFailure :=
      fun _ _ => trivial
    have own : ∀ error, OtherFailure (.location error) := fun _ => rfl
    exact failsWith_embed _ each own _

theorem dispatchNearbyNotifications_unlimited (requester : Requester) (alert : EmergencyAlert)
    (recipients : List Recipient) :
    Unlimited (dispatchNearbyNotifications alertId requesterId requester alert recipients) := by
  refine (notifyAll_unlimited alertId requesterId recipients).bind fun _ => ?_
  exact unlimited_send trivial fun _ => broadcastNearby_unlimited _ _ _ _ _

theorem notifyNearby_unlimited (alert : EmergencyAlert) (riders : List NearbyRiderRaw) :
    Unlimited (notifyNearby userId requester alertId alert riders) := by
  rw [notifyNearby]
  dsimp only
  split
  · exact unlimited_pure _
  · refine unlimited_send trivial fun blocks => ?_
    split
    · refine unlimited_send trivial fun updated => ?_
      exact (rethrow_unlimited updated).bind fun _ => unlimited_pure _
    · refine unlimited_send trivial fun created => ?_
      refine (rethrow_unlimited created).bind fun _ => ?_
      refine unlimited_send trivial fun updated => ?_
      refine (rethrow_unlimited updated).bind fun _ => ?_
      exact (dispatchNearbyNotifications_unlimited _ _ _ _ _).bind fun _ => unlimited_pure _

/-! ### The function that uses it -/

/-- `createAlert` from the count on. -/
def alertAfter (deployment : Deployment) (userId : UserId) (dto : CreateEmergencyAlertDto)
    (requester : Requester) (count : Nat) : Flow EmergencyAlertDto :=
  if count > maxAlertsPer10Min then do
    let remaining : Int ← call (.ttlRateCount userId)
    flagFalseAlarm userId count
    .fail (sosRateLimit remaining)
  else do
    let created : Except PrismaError (AlertId × EmergencyAlert) ←
      call (.emergencyAlertCreate userId dto requester.city)
    let (alertId, alert) ← rethrow created
    let riders ← queryNearbyRaw deployment ⟨dto.latitude, dto.longitude⟩ dto.radiusMeters
      requester.city maxRecipients
    notifyNearby userId requester alertId alert riders

theorem flagFalseAlarm_uses (count : Nat) : (flagFalseAlarm userId count).Uses Apart := by
  refine Uses.send trivial fun locked => ?_
  split
  · trivial
  · exact ⟨trivial, fun _ => trivial⟩

theorem alertAfter_within {count : Nat} (within : count ≤ maxAlertsPer10Min) :
    Unlimited (alertAfter deployment userId dto requester count) := by
  rw [alertAfter, if_neg (Nat.not_lt.mpr within)]
  refine unlimited_send trivial fun created => ?_
  refine (rethrow_unlimited created).bind fun inserted => ?_
  exact (queryNearbyRaw_unlimited _ _ _ _ _).bind fun riders => notifyNearby_unlimited _ _ _ _ _

/-- What follows the count leaves the counter alone. -/
theorem alertAfter_uses (count : Nat) : (alertAfter deployment userId dto requester count).Uses Apart := by
  by_cases within : count ≤ maxAlertsPer10Min
  · exact (alertAfter_within deployment userId dto requester within).uses
  · rw [alertAfter, if_pos (Nat.not_le.mp within)]
    refine Uses.send trivial fun remaining => ?_
    exact (flagFalseAlarm_uses userId count).bind fun _ => trivial

/-- An alert over the limit ends with the refusal for it. -/
theorem alertAfter_refuses {count : Nat} (exceeds : ¬ count ≤ maxAlertsPer10Min) :
    (alertAfter deployment userId dto requester count).FailsWith (fun error =>
        alertAccepted (.error error) = false) ∧
      (alertAfter deployment userId dto requester count).Returns fun alert =>
        alertAccepted (.ok alert) = false := by
  rw [alertAfter, if_pos (Nat.not_le.mp exceeds)]
  constructor
  · refine FailsWith.send fun remaining => ?_
    refine FailsWith.bind ?_ fun _ => rfl
    refine FailsWith.send fun locked => ?_
    split
    · trivial
    · exact fun _ => trivial
  · intro remaining
    have never : (.fail (sosRateLimit remaining) : Flow EmergencyAlertDto).Returns fun alert =>
        alertAccepted (.ok alert) = false := trivial
    exact Returns.last (flagFalseAlarm userId count) fun _ => never

/-- **An alert counts once, and is refused for the limit exactly when its count is over it.** -/
theorem createAlert_counts (userId' : UserId) (dto : CreateEmergencyAlertDto) (requester : Requester) :
    (createAlert deployment userId' dto requester).Counts (alertLimiter userId) alertAccepted .fresh := by
  refine counts_bind (by simp) fun _ => ?_
  refine counts_bind (by simp) fun _ => ?_
  change (countAlert userId' >>= alertAfter deployment userId' dto requester).Counts _ _ _
  have leaves : ∀ count, (alertAfter deployment userId' dto requester count).Uses fun request =>
      (alertLimiter userId).touch request = .leave :=
    fun count => Uses.mono (alertAfter_uses deployment userId' dto requester count)
      fun _ apart => touch_of_apart apart userId
  by_cases same : userId' = userId
  · subst same
    have hits : (alertLimiter userId').touch (.incrRateCount userId') = .hit := Touch.ofHit_eq_hit.mpr rfl
    have expires : (alertLimiter userId').touch (.expireRateCount userId' rateWindowSeconds) = .expire :=
      Touch.ofExpire_eq_expire.mpr ⟨rfl, rfl⟩
    have counted : ∀ count, (alertAfter deployment userId' dto requester count).Counts (alertLimiter userId')
        alertAccepted (.counted count) := by
      intro count
      by_cases within : count ≤ maxAlertsPer10Min
      · have few : decide (count ≤ (alertLimiter userId').limit) = true := decide_eq_true within
        have unlimited := alertAfter_within deployment userId' dto requester within
        refine counted_of_uses (leaves count) ?_ ?_
        · rw [few]
          exact returns_of_all (fun _ => rfl) _
        · rw [few]
          exact unlimited.fails
      · have many : decide (count ≤ (alertLimiter userId').limit) = false := decide_eq_false within
        obtain ⟨fails, returns⟩ := alertAfter_refuses deployment userId' dto requester within
        refine counted_of_uses (leaves count) ?_ ?_
        · rw [many]
          exact returns
        · rw [many]
          exact fails
    simp only [countAlert, call_bind, done_bind]
    refine counts_hit hits expires (fun count _ => alertAfter deployment userId' dto requester count)
      ?_ ?_ ?_
    · intro count first
      have isFirst : count = 1 := first
      rw [if_pos isFirst]
      rfl
    · exact fun count _ _ => counted count
    · intro count again
      have notFirst : ¬ count = 1 := again
      rw [if_neg notFirst]
      exact counted count
  · refine counts_bind ?_ fun count => counts_of_uses (leaves count)
    refine Uses.send (Touch.ofHit_eq_leave.mpr same) fun count => ?_
    split
    · exact Uses.send (Touch.ofExpire_eq_leave.mpr same) fun _ => trivial
    · trivial

end Motogram.Emergency.RateLimits
