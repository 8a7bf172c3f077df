import Motogram.Emergency.Store
import Motogram.Location.Service

/-!
# The emergency service

`emergency.service.ts`: an alert with the riders it notifies (`createAlert`), the answer
of a rider (`respond`) and the end of an alert (`resolve`). Every function is a program
over the calls of the stores, in the order of the source.
-/

set_option autoImplicit false

namespace Motogram.Emergency

open Foundation Program

/-! ## Exceptions -/

def userBanned : EmergencyError := .http .forbidden "user_banned" (some .forbidden) none
def holdTooShort : EmergencyError :=
  .http .badRequest "hold_too_short" (some .validationFailed) (some (.minHoldMs sosMinHoldMs))
def sosRateLimit (ttl : Int) : EmergencyError :=
  .http .forbidden "sos_rate_limit" (some .rateLimited)
    (some (.rateLimit (if ttl > 0 then ttl else rateWindowSeconds) true))
def alertNotFound : EmergencyError := .http .notFound "alert_not_found" none none
def cannotRespondToOwnAlert : EmergencyError :=
  .http .forbidden "cannot_respond_to_own_alert" none none
def alertClosed : EmergencyError := .http .badRequest "alert_closed" none none
def notAlertOwner : EmergencyError := .http .forbidden "not_alert_owner" none none

/-! ## Notifications -/

/-- `notifications.create` of type `EMERGENCY_NEARBY`: a rider who has switched the
notifications off is given none. -/
def createNotification (notification : Notification) : Flow Unit := do
  let stored : Option Bool ← call (.notificationPreferenceFindUnique notification.userId)
  if stored.getD defaultPushEmergency then do
    let created : Except PrismaError Unit ← call (.notificationCreate notification)
    rethrow created
  else pure ()

/-- A rider the query has found, with the distance. -/
abbrev Recipient := UserId × ℚ

/-- `Math.round`: halves are rounded up. -/
def mathRound (value : ℚ) : Int := ⌊value + 1 / 2⌋

/-- The `NOTIFIED` notifications, one for each recipient. -/
def notifyAll (alertId : AlertId) (requesterId : UserId) : List Recipient → Flow Unit
  | [] => pure ()
  | (userId, distance) :: rest => do
    createNotification (.nearby userId alertId requesterId (mathRound distance))
    notifyAll alertId requesterId rest

/-- The messages of the gateway, one for each recipient. -/
def broadcastNearby (alertId : AlertId) (requesterId : UserId) (requester : Requester)
    (alert : EmergencyAlert) : List Recipient → Flow Unit
  | [] => pure ()
  | (userId, distance) :: rest => do
    let _ : Unit ← call (.emit (.nearby userId
      { alertId := alertId
        requesterId := requesterId
        requesterUsername := requester.username
        type := alert.type
        latitude := alert.latitude
        longitude := alert.longitude
        distanceMeters := mathRound distance
        createdAt := alert.createdAt }))
    broadcastNearby alertId requesterId requester alert rest

/-- `dispatchNearbyNotifications`. The push service is handed the recipients and its
failures are logged only. -/
def dispatchNearbyNotifications (alertId : AlertId) (requesterId : UserId) (requester : Requester)
    (alert : EmergencyAlert) (recipients : List Recipient) : Flow Unit := do
  notifyAll alertId requesterId recipients
  let _ : Unit ← call (.emit (.push (recipients.map Prod.fst) alertId requesterId))
  broadcastNearby alertId requesterId requester alert recipients

/-! ## Creating an alert -/

/-- `flagFalseAlarm`: the audit log is written once in a window. -/
def flagFalseAlarm (userId : UserId) (count : Nat) : Flow Unit := do
  let locked : Bool ← call (.setAdminNotifyLockNx userId rateWindowSeconds)
  if locked = false then pure ()
  else call (.auditLogCreate userId count)

def countAlert (userId : UserId) : Flow Nat := do
  let count : Nat ← call (.incrRateCount userId)
  if count = 1 then do
    let _ : Unit ← call (.expireRateCount userId rateWindowSeconds)
    pure count
  else pure count

def queryNearbyRaw (deployment : Deployment) (center : Coordinates) (radiusMeters : ℚ)
    (city : Option String) (limit : Nat) : Flow (List NearbyRiderRaw) :=
  (Motogram.queryNearbyRaw deployment center radiusMeters city limit).embed
    (fun request => call (.location request)) .location

/-- The candidates without those a block names. -/
def withoutBlocked (blocks : List (UserId × UserId)) (candidates : List Recipient) :
    List Recipient :=
  candidates.filter fun candidate =>
    !blocks.any fun block => decide (block.1 = candidate.1) || decide (block.2 = candidate.1)

/-- `createAlert` after the riders near were found. -/
def notifyNearby (userId : UserId) (requester : Requester) (alertId : AlertId)
    (alert : EmergencyAlert) (riders : List NearbyRiderRaw) : Flow EmergencyAlertDto := do
  let candidates : List Recipient :=
    (riders.filter fun rider => rider.userId ≠ userId).map fun rider =>
      (rider.userId, rider.distance)
  if candidates.isEmpty then pure ⟨alertId, alert⟩
  else do
    let blocks : List (UserId × UserId) ← call (.blockFindMany userId (candidates.map Prod.fst))
    let filtered := withoutBlocked blocks candidates
    if filtered.isEmpty then do
      let updated : Except PrismaError EmergencyAlert ←
        call (.emergencyAlertUpdate alertId (.notifiedCount 0))
      let _ ← rethrow updated
      pure ⟨alertId, { alert with notifiedCount := 0 }⟩
    else do
      let created : Except PrismaError Unit ← call (.emergencyResponderCreateMany alertId
        (filtered.map fun candidate => (candidate.1, mathRound candidate.2)))
      rethrow created
      let updated : Except PrismaError EmergencyAlert ←
        call (.emergencyAlertUpdate alertId (.notifiedCount filtered.length))
      let _ ← rethrow updated
      dispatchNearbyNotifications alertId userId requester alert filtered
      pure ⟨alertId, { alert with notifiedCount := filtered.length }⟩

def createAlert (deployment : Deployment) (userId : UserId) (dto : CreateEmergencyAlertDto)
    (requester : Requester) : Flow EmergencyAlertDto := do
  throwIf (requester.isBanned = true) userBanned
  throwIf (dto.holdDurationMs.any fun held => decide (held < sosMinHoldMs)) holdTooShort
  let count ← countAlert userId
  if count > maxAlertsPer10Min then do
    let remaining : Int ← call (.ttlRateCount userId)
    flagFalseAlarm userId count
    .fail (sosRateLimit remaining)
  else do
    let created : Except PrismaError (AlertId × EmergencyAlert) ←
      call (.emergencyAlertCreate userId dto requester.city)
    let (alertId, alert) ← rethrow created
    let riders ← queryNearbyRaw deployment ⟨dto.latitude, dto.longitude⟩ dto.radiusMeters
      requester.city maxRecipients
    notifyNearby userId requester alertId alert riders

/-! ## Responding -/

/-- The dates and status an answer writes. -/
def responderPatch (dto : RespondEmergencyAlertDto) (now : Time) : ResponderPatch where
  status := dto.status.status
  etaSeconds := dto.etaSeconds
  acknowledgedAt := if dto.status = .acknowledged then some now else none
  arrivedAt := if dto.status = .arrived then some now else none
  declinedAt := if dto.status = .declined then some now else none

/-- The end of `respond`: the gateway is told, and the first acknowledgement earns
experience and notifies the owner of the alert. -/
def announceResponse (responderId : UserId) (alertId : AlertId) (dto : RespondEmergencyAlertDto)
    (ownerId : UserId) (existing : Option EmergencyResponder) (saved : EmergencyResponder) :
    Flow EmergencyResponderDto := do
  let _ : Unit ← call (.emit (.responderUpdate alertId ownerId ⟨alertId, responderId, saved⟩))
  if dto.status = .acknowledged ∧ existing.bind EmergencyResponder.acknowledgedAt = none then do
    let _ : Unit ← call (.emit (.gamificationTrigger responderId alertId))
    createNotification (.helpComing ownerId alertId responderId)
    pure ⟨alertId, responderId, saved⟩
  else pure ⟨alertId, responderId, saved⟩

/-- `respond` from the upsert on. -/
def saveResponse (responderId : UserId) (alertId : AlertId) (dto : RespondEmergencyAlertDto)
    (alert : EmergencyAlert) (existing : Option EmergencyResponder) (now : Time) :
    Flow EmergencyResponderDto := do
  let upserted : Except PrismaError EmergencyResponder ←
    call (.emergencyResponderUpsert alertId responderId (responderPatch dto now))
  let saved ← rethrow upserted
  if dto.status = .acknowledged ∧ alert.status = .opened then do
    let updated : Except PrismaError EmergencyAlert ← call (.emergencyAlertUpdate alertId .acknowledge)
    let _ ← rethrow updated
    announceResponse responderId alertId dto alert.userId existing saved
  else announceResponse responderId alertId dto alert.userId existing saved

def respond (responderId : UserId) (alertId : AlertId) (dto : RespondEmergencyAlertDto) :
    Flow EmergencyResponderDto := do
  let found : Option EmergencyAlert ← call (.emergencyAlertFindFirst alertId)
  match found with
  | none => .fail alertNotFound
  | some alert => do
    throwIf (alert.userId = responderId) cannotRespondToOwnAlert
    throwIf (alert.status = .resolved ∨ alert.status = .cancelled) alertClosed
    let existing : Option EmergencyResponder ←
      call (.emergencyResponderFindUnique alertId responderId)
    let now : Time ← call .dateNow
    saveResponse responderId alertId dto alert existing now

/-! ## Ending an alert -/

def closingPatch (resolution : Resolution) (now : Time) : AlertPatch :=
  .close resolution (if resolution = .resolved then some now else none)
    (if resolution ≠ .resolved then some now else none)

/-- `resolve` from the update on. -/
def closeAlert (alertId : AlertId) (resolution : Resolution) (now : Time) :
    Flow EmergencyAlertDto := do
  let closed : Except PrismaError EmergencyAlert ←
    call (.emergencyAlertUpdate alertId (closingPatch resolution now))
  let updated ← rethrow closed
  let responders : List UserId ← call (.emergencyResponderFindMany alertId)
  let _ : Unit ← call (.emit (.resolved alertId responders resolution))
  pure ⟨alertId, updated⟩

def resolve (userId : UserId) (alertId : AlertId) (resolution : Resolution) :
    Flow EmergencyAlertDto := do
  let found : Option EmergencyAlert ← call (.emergencyAlertFindFirst alertId)
  match found with
  | none => .fail alertNotFound
  | some alert => do
    throwIf (alert.userId ≠ userId) notAlertOwner
    let now : Time ← call .dateNow
    closeAlert alertId resolution now

end Motogram.Emergency
