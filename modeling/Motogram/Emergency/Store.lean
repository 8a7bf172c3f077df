import Mathlib.Algebra.Order.Floor.Ring
import Mathlib.Data.Rat.Floor
import Motogram.Store

/-!
# The stores of the emergency service

What `emergency.service.ts` keeps: the alerts and their responder rows, the
notifications and audit log, the rate counters, and the events it hands out. The
riders, their blocks and their positions are those of the party and location
services, so their state is a part of this one.

`EmergencyCall` lists the calls, each of them atomic, and `answer` says what a call
replies and changes.
-/

set_option autoImplicit false

namespace Motogram.Emergency

open Foundation Expiring

abbrev AlertId := Nat
abbrev ResponderRowId := Nat

/-! ## Rows -/

inductive EmergencyType where
  | general
  | accident
  | mechanical
  | medical
  | fuel
  | other
  deriving DecidableEq

inductive EmergencyStatus where
  | opened
  | acknowledged
  | resolved
  | cancelled
  | falseAlarm
  deriving DecidableEq

/-- The resolutions `ResolveEmergencyAlertSchema` accepts. -/
inductive Resolution where
  | resolved
  | cancelled
  | falseAlarm
  deriving DecidableEq

def Resolution.status : Resolution → EmergencyStatus
  | .resolved => .resolved
  | .cancelled => .cancelled
  | .falseAlarm => .falseAlarm

inductive ResponderStatus where
  | notified
  | acknowledged
  | enRoute
  | arrived
  | declined
  deriving DecidableEq

/-- The statuses `RespondEmergencyAlertSchema` accepts. -/
inductive Response where
  | acknowledged
  | enRoute
  | arrived
  | declined
  deriving DecidableEq

def Response.status : Response → ResponderStatus
  | .acknowledged => .acknowledged
  | .enRoute => .enRoute
  | .arrived => .arrived
  | .declined => .declined

structure EmergencyAlert where
  userId : UserId
  type : EmergencyType
  description : Option String
  latitude : ℚ
  longitude : ℚ
  accuracyMeters : Option ℚ
  radiusMeters : Nat
  city : Option String
  status : EmergencyStatus
  notifiedCount : Nat
  createdAt : Time
  resolvedAt : Option Time
  cancelledAt : Option Time
  deletedAt : Option Time
  deriving DecidableEq

/-- A responder row. Its key, the pair of alert and rider, is kept by the table. -/
structure EmergencyResponder where
  id : ResponderRowId
  status : ResponderStatus
  distanceMeters : Option Int
  etaSeconds : Option Nat
  notifiedAt : Time
  acknowledgedAt : Option Time
  arrivedAt : Option Time
  declinedAt : Option Time
  deriving DecidableEq

/-- A row of `notification`: somebody near needs help, or a helper is on the way. -/
inductive Notification where
  | nearby (userId : UserId) (alertId : AlertId) (requesterId : UserId) (distanceMeters : Int)
  | helpComing (userId : UserId) (alertId : AlertId) (responderId : UserId)
  deriving DecidableEq

/-- The recipient of a notification. -/
def Notification.userId : Notification → UserId
  | .nearby userId _ _ _ => userId
  | .helpComing userId _ _ => userId

/-! ## Requests and responses -/

/-- A body `CreateEmergencyAlertSchema` accepts, with the defaults it fills in. -/
structure CreateEmergencyAlertDto where
  type : EmergencyType
  description : Option String
  latitude : ℚ
  longitude : ℚ
  accuracyMeters : Option ℚ
  holdDurationMs : Option Nat
  radiusMeters : Nat
  radiusMeters_range : 500 ≤ radiusMeters ∧ radiusMeters ≤ 20000

structure RespondEmergencyAlertDto where
  status : Response
  etaSeconds : Option Nat
  deriving DecidableEq

/-- The columns of the profile the route hands to `createAlert`. -/
structure Requester where
  username : String
  city : Option String
  isBanned : Bool
  deriving DecidableEq

structure EmergencyAlertDto where
  id : AlertId
  alert : EmergencyAlert
  deriving DecidableEq

structure EmergencyResponderDto where
  alertId : AlertId
  responderId : UserId
  row : EmergencyResponder
  deriving DecidableEq

structure EmergencyNearbyPayload where
  alertId : AlertId
  requesterId : UserId
  requesterUsername : String
  type : EmergencyType
  latitude : ℚ
  longitude : ℚ
  distanceMeters : Int
  createdAt : Time
  deriving DecidableEq

/-- What the service hands to the gateway, to the push service and to the event bus. -/
inductive EmergencyEmission where
  | nearby (recipient : UserId) (payload : EmergencyNearbyPayload)
  | responderUpdate (alertId : AlertId) (requesterId : UserId) (responder : EmergencyResponderDto)
  | resolved (alertId : AlertId) (recipients : List UserId) (resolution : Resolution)
  | push (recipients : List UserId) (alertId : AlertId) (requesterId : UserId)
  | gamificationTrigger (userId : UserId) (alertId : AlertId)
  deriving DecidableEq

/-! ## Exceptions -/

/-- What an exception carries besides its text and code. -/
inductive ErrorDetails where
  | minHoldMs (milliseconds : Nat)
  | rateLimit (retryAfterSeconds : Int) (accountRestricted : Bool)
  deriving DecidableEq

/-- An exception of the service. Most carry no code. -/
inductive EmergencyError where
  | http (kind : ExceptionKind) (error : String) (code : Option ErrorCode)
      (details : Option ErrorDetails)
  | prisma (error : PrismaError)
  | location (error : ServiceError)
  deriving DecidableEq

/-! ## The state -/

structure State where
  /-- The riders, blocks and positions, and the clock. -/
  base : Motogram.State
  emergencyAlerts : Table AlertId EmergencyAlert
  emergencyResponders : Table (AlertId × UserId) EmergencyResponder
  /-- The column `pushEmergency` of the stored preferences. -/
  pushEmergency : UserId → Option Bool
  notifications : List Notification
  auditLog : List (UserId × Nat)
  rateCount : UserId → Option (Expiring Nat)
  adminNotifyLock : UserId → Option (Expiring Unit)
  emissions : List EmergencyEmission
  /-- The identifiers drawn so far. -/
  fresh : Nat

/-- An installation before its first alert. -/
def State.initial (base : Motogram.State) (pushEmergency : UserId → Option Bool) : State where
  base := base
  emergencyAlerts := .empty
  emergencyResponders := .empty
  pushEmergency := pushEmergency
  notifications := []
  auditLog := []
  rateCount := fun _ => none
  adminNotifyLock := fun _ => none
  emissions := []
  fresh := 0

/-! ## Constants -/

/-- `EMERGENCY_RATE`. -/
def maxAlertsPer10Min : Nat := 3
def rateWindowSeconds : Nat := 600
def sosMinHoldMs : Nat := 3000
/-- `EMERGENCY_PERF.maxRecipients`. -/
def maxRecipients : Nat := 100
/-- `DEFAULT_PREFS.pushEmergency`. -/
def defaultPushEmergency : Bool := true

/-! ## Calls and replies -/

/-- The `data` of the updates of an alert that the service makes. -/
inductive AlertPatch where
  | acknowledge
  | close (resolution : Resolution) (resolvedAt cancelledAt : Option Time)
  | notifiedCount (count : Nat)
  deriving DecidableEq

def AlertPatch.apply : AlertPatch → EmergencyAlert → EmergencyAlert
  | .acknowledge, alert => { alert with status := .acknowledged }
  | .close resolution resolvedAt cancelledAt, alert =>
    { alert with status := resolution.status, resolvedAt := resolvedAt, cancelledAt := cancelledAt }
  | .notifiedCount count, alert => { alert with notifiedCount := count }

/-- The `data` of an upsert of a responder row. A date that is absent is left as it is
by the update, and is `null` in a new row. -/
structure ResponderPatch where
  status : ResponderStatus
  etaSeconds : Option Nat
  acknowledgedAt : Option Time
  arrivedAt : Option Time
  declinedAt : Option Time
  deriving DecidableEq

def ResponderPatch.update (patch : ResponderPatch) (row : EmergencyResponder) : EmergencyResponder :=
  { row with
    status := patch.status
    etaSeconds := patch.etaSeconds
    acknowledgedAt := patch.acknowledgedAt.or row.acknowledgedAt
    arrivedAt := patch.arrivedAt.or row.arrivedAt
    declinedAt := patch.declinedAt.or row.declinedAt }

def ResponderPatch.create (patch : ResponderPatch) (id : ResponderRowId) (now : Time) :
    EmergencyResponder where
  id := id
  status := patch.status
  distanceMeters := none
  etaSeconds := patch.etaSeconds
  notifiedAt := now
  acknowledgedAt := patch.acknowledgedAt
  arrivedAt := patch.arrivedAt
  declinedAt := patch.declinedAt

inductive EmergencyCall where
  -- Prisma
  | emergencyAlertCreate (userId : UserId) (dto : CreateEmergencyAlertDto) (city : Option String)
  | emergencyAlertFindFirst (alertId : AlertId)
  | emergencyAlertUpdate (alertId : AlertId) (patch : AlertPatch)
  | emergencyResponderFindUnique (alertId : AlertId) (responderId : UserId)
  | emergencyResponderUpsert (alertId : AlertId) (responderId : UserId) (patch : ResponderPatch)
  | emergencyResponderCreateMany (alertId : AlertId) (recipients : List (UserId × Int))
  | emergencyResponderFindMany (alertId : AlertId)
  | blockFindMany (userId : UserId) (candidates : List UserId)
  | notificationPreferenceFindUnique (userId : UserId)
  | notificationCreate (notification : Notification)
  | auditLogCreate (targetId : UserId) (alertsInWindow : Nat)
  -- Redis
  | incrRateCount (userId : UserId)
  | expireRateCount (userId : UserId) (seconds : Nat)
  | ttlRateCount (userId : UserId)
  | setAdminNotifyLockNx (userId : UserId) (seconds : Nat)
  -- the location service
  | location (request : StoreCall)
  -- out
  | emit (emission : EmergencyEmission)
  -- the process
  | dateNow
  | elapse (milliseconds : Nat)

@[reducible] def EmergencyReply : EmergencyCall → Type
  | .emergencyAlertCreate _ _ _ => Except PrismaError (AlertId × EmergencyAlert)
  | .emergencyAlertFindFirst _ => Option EmergencyAlert
  | .emergencyAlertUpdate _ _ => Except PrismaError EmergencyAlert
  | .emergencyResponderFindUnique _ _ => Option EmergencyResponder
  | .emergencyResponderUpsert _ _ _ => Except PrismaError EmergencyResponder
  | .emergencyResponderCreateMany _ _ => Except PrismaError Unit
  | .emergencyResponderFindMany _ => List UserId
  | .blockFindMany _ _ => List (UserId × UserId)
  | .notificationPreferenceFindUnique _ => Option Bool
  | .notificationCreate _ => Except PrismaError Unit
  | .auditLogCreate _ _ => Unit
  | .incrRateCount _ => Nat
  | .expireRateCount _ _ => Unit
  | .ttlRateCount _ => Int
  | .setAdminNotifyLockNx _ _ => Bool
  | .location request => StoreReply request
  | .emit _ => Unit
  | .dateNow => Time
  | .elapse _ => Unit

/-! ## Writing the state -/

section Setters

variable (s : State)

@[simps -fullyApplied] def State.withBase (base : Motogram.State) : State := { s with base := base }

@[simps -fullyApplied] def State.withAlerts (emergencyAlerts : Table AlertId EmergencyAlert) :
    State :=
  { s with emergencyAlerts := emergencyAlerts }

@[simps -fullyApplied] def State.withResponders
    (emergencyResponders : Table (AlertId × UserId) EmergencyResponder) : State :=
  { s with emergencyResponders := emergencyResponders }

@[simps -fullyApplied] def State.withFresh (fresh : Nat) : State := { s with fresh := fresh }

@[simps -fullyApplied] def State.withNotification (notification : Notification) : State :=
  { s with notifications := s.notifications ++ [notification] }

@[simps -fullyApplied] def State.withAudit (targetId : UserId) (alertsInWindow : Nat) : State :=
  { s with auditLog := s.auditLog ++ [(targetId, alertsInWindow)] }

@[simps -fullyApplied] def State.withRateCount (userId : UserId) (count : Option (Expiring Nat)) :
    State :=
  { s with rateCount := Function.update s.rateCount userId count }

@[simps -fullyApplied] def State.withAdminNotifyLock (userId : UserId)
    (lock : Option (Expiring Unit)) : State :=
  { s with adminNotifyLock := Function.update s.adminNotifyLock userId lock }

@[simps -fullyApplied] def State.sent (emission : EmergencyEmission) : State :=
  { s with emissions := s.emissions ++ [emission] }

end Setters

/-! ## Answers -/

/-- The row `emergencyAlert.create` inserts. -/
def newAlert (now : Time) (userId : UserId) (dto : CreateEmergencyAlertDto) (city : Option String) :
    EmergencyAlert where
  userId := userId
  type := dto.type
  description := dto.description
  latitude := dto.latitude
  longitude := dto.longitude
  accuracyMeters := dto.accuracyMeters
  radiusMeters := dto.radiusMeters
  city := city
  status := .opened
  notifiedCount := 0
  createdAt := now
  resolvedAt := none
  cancelledAt := none
  deletedAt := none

def notifiedRow (id : ResponderRowId) (now : Time) (distanceMeters : Int) : EmergencyResponder where
  id := id
  status := .notified
  distanceMeters := some distanceMeters
  etaSeconds := none
  notifiedAt := now
  acknowledgedAt := none
  arrivedAt := none
  declinedAt := none

/-- `createMany` with `skipDuplicates`: a pair that has a row keeps it. -/
def State.notify (s : State) (alertId : AlertId) : List (UserId × Int) → State
  | [] => s
  | (userId, distanceMeters) :: rest =>
    State.notify ((s.withResponders (s.emergencyResponders.insert (alertId, userId)
      (notifiedRow s.fresh s.base.now distanceMeters))).withFresh (s.fresh + 1)) alertId rest

/-- `TTL`: -2 for an absent key, -1 for one without deadline. -/
def ttl (now : Time) (entry : Option (Expiring Nat)) : Int :=
  match live now entry with
  | none => -2
  | some stored =>
    match stored.deadline with
    | none => -1
    | some deadline => ((deadline - now + 500) / 1000 : Nat)

def answer : (call : EmergencyCall) → State → EmergencyReply call × State
  | .emergencyAlertCreate userId dto city, s =>
    match s.base.users userId with
    | none => (.error .foreignKeyViolation, s)
    | some _ =>
      (.ok (s.fresh, newAlert s.base.now userId dto city),
        (s.withAlerts (s.emergencyAlerts.insert s.fresh
          (newAlert s.base.now userId dto city))).withFresh (s.fresh + 1))
  | .emergencyAlertFindFirst alertId, s =>
    ((s.emergencyAlerts.find? alertId).filter fun alert => alert.deletedAt.isNone, s)
  | .emergencyAlertUpdate alertId patch, s =>
    match s.emergencyAlerts.find? alertId with
    | none => (.error .recordNotFound, s)
    | some alert =>
      (.ok (patch.apply alert), s.withAlerts (s.emergencyAlerts.modify alertId patch.apply))
  | .emergencyResponderFindUnique alertId responderId, s =>
    (s.emergencyResponders.find? (alertId, responderId), s)
  | .emergencyResponderUpsert alertId responderId patch, s =>
    match s.emergencyResponders.find? (alertId, responderId) with
    | some row =>
      (.ok (patch.update row),
        s.withResponders (s.emergencyResponders.modify (alertId, responderId) patch.update))
    | none =>
      if (s.emergencyAlerts.find? alertId).isSome ∧ (s.base.users responderId).isSome then
        (.ok (patch.create s.fresh s.base.now),
          (s.withResponders (s.emergencyResponders.insert (alertId, responderId)
            (patch.create s.fresh s.base.now))).withFresh (s.fresh + 1))
      else (.error .foreignKeyViolation, s)
  | .emergencyResponderCreateMany alertId recipients, s =>
    if (s.emergencyAlerts.find? alertId).isSome ∧
        ∀ recipient ∈ recipients, (s.base.users recipient.1).isSome then
      (.ok (), s.notify alertId recipients)
    else (.error .foreignKeyViolation, s)
  | .emergencyResponderFindMany alertId, s =>
    ((s.emergencyResponders.select fun key _ => decide (key.1 = alertId)).map fun entry =>
      entry.1.2, s)
  | .blockFindMany userId candidates, s =>
    (s.base.blocks.filter fun block =>
      (decide (block.1 = userId) && decide (block.2 ∈ candidates)) ||
        (decide (block.2 = userId) && decide (block.1 ∈ candidates)), s)
  | .notificationPreferenceFindUnique userId, s => (s.pushEmergency userId, s)
  | .notificationCreate notification, s =>
    match s.base.users notification.userId with
    | none => (.error .foreignKeyViolation, s)
    | some _ => (.ok (), s.withNotification notification)
  | .auditLogCreate targetId alertsInWindow, s => ((), s.withAudit targetId alertsInWindow)
  | .incrRateCount userId, s =>
    ((bumped s.base.now (s.rateCount userId)).value,
      s.withRateCount userId (some (bumped s.base.now (s.rateCount userId))))
  | .expireRateCount userId seconds, s =>
    ((), s.withRateCount userId ((live s.base.now (s.rateCount userId)).map fun stored =>
      { stored with deadline := some (s.base.after seconds) }))
  | .ttlRateCount userId, s => (ttl s.base.now (s.rateCount userId), s)
  | .setAdminNotifyLockNx userId seconds, s =>
    match live s.base.now (s.adminNotifyLock userId) with
    | some _ => (false, s)
    | none =>
      (true, s.withAdminNotifyLock userId (some ⟨(), some (s.base.after seconds)⟩))
  | .location request, s =>
    ((Motogram.answer request s.base).1, s.withBase (Motogram.answer request s.base).2)
  | .emit emission, s => ((), s.sent emission)
  | .dateNow, s => (s.base.now, s)
  | .elapse milliseconds, s => ((), s.withBase (s.base.elapsed milliseconds))

abbrev Flow (Value : Type) := Program EmergencyCall EmergencyReply EmergencyError Value

/-- Run a service function alone. -/
abbrev Flow.exec {Value : Type} (flow : Flow Value) (s : State) :
    Except EmergencyError Value × State :=
  Program.run answer flow s

/-- Make one call and return its reply. -/
abbrev call (request : EmergencyCall) : Flow (EmergencyReply request) := .call request .done

/-- Throw what Prisma threw. -/
def rethrow {Value : Type} (reply : Except PrismaError Value) : Flow Value :=
  match reply with
  | .ok value => .done value
  | .error error => .fail (.prisma error)

end Motogram.Emergency
