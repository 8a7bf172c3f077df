import Motogram.Messaging.Service
import Motogram.RateLimits.Counters

/-!
# The counter of messages

`enforceRate` counts the messages of a user with `INCR` and sets the window of a minute with `EXPIRE` when
the count is one. It is true exactly when the count is within the limit (`enforceRate_counts`).
-/

set_option autoImplicit false

namespace Motogram.Messaging.RateLimits

open Foundation Program Function
open Motogram.RateLimits (counterOf counterOf_hit counterOf_expire)

/-! ## The counter -/

/-- What a call of the message service does to the counter of a user's messages. -/
def touch (userId : UserId) : MessagingCall → Touch
  | .incrRateMsg userId' => .ofHit (userId' = userId)
  | .expireRateMsg userId' seconds => .ofExpire (userId' = userId) (seconds = msgRateWindowSecs)
  | _ => .leave

/-- The reply of `INCR`. -/
def count : (request : MessagingCall) → MessagingReply request → Nat
  | .incrRateMsg _, reply => reply
  | _, _ => 0

/-- Time does not go back, and the counter stays. -/
structure SameCounter (userId : UserId) (s t : State) : Prop where
  now : s.now ≤ t.now
  counter : t.rateMsg userId = s.rateMsg userId

theorem SameCounter.of_eq {userId : UserId} {s t : State} (now : t.now = s.now)
    (counters : t.rateMsg = s.rateMsg) : SameCounter userId s t := ⟨now.ge, congrFun counters userId⟩

theorem SameCounter.of_apart {userId userId' : UserId} (s : State)
    (counter : Option (Expiring Nat)) (apart : userId' ≠ userId) :
    SameCounter userId s (s.withRateMsg userId' counter) where
  now := Nat.le_refl _
  counter := by rw [State.withRateMsg_rateMsg, update_of_ne apart.symm]

theorem answer_sameCounter {userId : UserId} {request : MessagingCall} (leaves : touch userId request = .leave)
    (s : State) : SameCounter userId s (answer request s).2 := by
  cases request with
  | incrRateMsg userId' => exact .of_apart s _ (Touch.ofHit_eq_leave.mp leaves)
  | expireRateMsg userId' seconds => exact .of_apart s _ (Touch.ofExpire_eq_leave.mp leaves)
  | elapse milliseconds => exact ⟨Nat.le_add_right _ _, rfl⟩
  | createMessageTransaction | messageReactionUpsert =>
    simp only [answer]
    split
    · exact .of_eq rfl rfl
    · split <;> exact .of_eq rfl rfl
  | conversationParticipantUpdateLastReadAt | conversationParticipantUpdateLeftAt | conversationCreateDirect
  | messageReactionDelete | messageUpdateDeleted =>
    simp only [answer]
    split <;> exact .of_eq rfl rfl
  | _ => exact .of_eq rfl rfl

def messageLimiter (userId : UserId) : Limiter answer where
  clock := fun s => s.now
  counter := fun s => counterOf (s.rateMsg userId)
  wait := fun milliseconds s => s.elapsed milliseconds
  touch := touch userId
  count := count
  limit := msgRateLimit
  window := msgRateWindowSecs * 1000
  filled := by decide
  clock_wait := fun _ _ => rfl
  counter_wait := fun _ _ => rfl
  answer_hit := by
    intro request s hits
    cases request with
    | incrRateMsg userId' =>
      obtain rfl := Touch.ofHit_eq_hit.mp hits
      refine ⟨rfl, counterOf_hit ?_⟩
      simp only [answer, State.withRateMsg_rateMsg, update_self]
    | expireRateMsg userId' seconds => exact absurd hits Touch.ofExpire_ne_hit
    | _ => cases hits
  answer_expire := by
    intro request s expires
    cases request with
    | expireRateMsg userId' seconds =>
      obtain ⟨rfl, rfl⟩ := Touch.ofExpire_eq_expire.mp expires
      refine ⟨rfl, counterOf_expire ?_⟩
      simp only [answer, State.withRateMsg_rateMsg, update_self]
    | incrRateMsg userId' => exact absurd expires Touch.ofHit_ne_expire
    | _ => cases expires
  answer_leave := by
    intro request s leaves
    have same := answer_sameCounter leaves s
    exact ⟨same.now, congrArg counterOf same.counter⟩

/-- A message is accepted when `enforceRate` says so. -/
def messageAccepted : Except ServiceError Bool → Bool
  | .ok accepted => accepted
  | .error _ => false

theorem enforceRate_counts (userId userId' : UserId) :
    (enforceRate userId').Counts (messageLimiter userId) messageAccepted .fresh := by
  by_cases same : userId' = userId
  · subst same
    have hits : (messageLimiter userId').touch (.incrRateMsg userId') = .hit := Touch.ofHit_eq_hit.mpr rfl
    have expires : (messageLimiter userId').touch (.expireRateMsg userId' msgRateWindowSecs) = .expire :=
      Touch.ofExpire_eq_expire.mpr ⟨rfl, rfl⟩
    simp only [enforceRate, call_bind, done_bind]
    refine counts_hit hits expires (fun count _ => .done (decide (count ≤ msgRateLimit))) ?_ ?_ ?_
    · intro count first
      have isFirst : count = 1 := first
      rw [if_pos isFirst]
      rfl
    · exact fun count _ _ => rfl
    · intro count again
      have notFirst : ¬ count = 1 := again
      rw [if_neg notFirst]
      rfl
  · refine counts_of_uses ?_
    refine Uses.send (Touch.ofHit_eq_leave.mpr same) fun count => ?_
    split
    · exact Uses.send (Touch.ofExpire_eq_leave.mpr same) fun _ => trivial
    · trivial

end Motogram.Messaging.RateLimits
