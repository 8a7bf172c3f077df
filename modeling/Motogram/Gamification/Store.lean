import Mathlib.Data.Nat.Sqrt
import Mathlib.Tactic.Simps.Basic
import Motogram.Foundation.Interleaving
import Motogram.Foundation.Table
import Motogram.Notifications.Preferences

/-!
# The stores of the gamification service

What `gamification.service.ts` keeps: the quests, the progress of every user in every quest, the
experience and the level of the users, their badges, and what is handed out. `QuestCall` lists the
calls, each of them atomic, and `answer` says what a call replies and changes. A quest is read with
its badge. Which quest an increment of experience is for is noted in `awards`.
-/

set_option autoImplicit false

namespace Motogram.Gamification

open Foundation
open Notifications (NotificationType NotificationPreferences)

abbrev QuestId := String
abbrev BadgeId := String

/-! ## Rows -/

inductive QuestTrigger where
  | postCreated
  | storyCreated
  | followGained
  | eventJoined
  | eventHosted
  | partyCompleted
  | partyLead
  | routeCreated
  | emergencyAcknowledged
  | profileCompleted
  | bikeAdded
  | communityJoined
  deriving DecidableEq

inductive QuestResetPeriod where
  | none
  | daily
  | weekly
  | monthly
  deriving DecidableEq

inductive BadgeRarity where
  | common
  | uncommon
  | rare
  | epic
  | legendary
  deriving DecidableEq

/-- `toBadgeDto`: the columns of a badge. -/
structure BadgeDto where
  id : BadgeId
  code : String
  name : String
  description : String
  iconUrl : Option String
  category : Option String
  rarity : BadgeRarity
  xpReward : Nat
  isActive : Bool
  deriving DecidableEq

/-- The columns of a quest that the service reads, with its badge. -/
structure Quest where
  code : String
  name : String
  trigger : QuestTrigger
  targetValue : Nat
  xpReward : Nat
  badge : Option BadgeDto
  repeatable : Bool
  resetPeriod : QuestResetPeriod
  isActive : Bool
  deriving DecidableEq

/-- A row of `quest_progress`. Its key, the pair of user and quest, is kept by the table. -/
structure QuestProgress where
  progress : Nat
  completed : Bool
  completedAt : Option Time
  resetAt : Option Time
  deriving DecidableEq

structure UserRow where
  xp : Nat
  level : Nat
  deriving DecidableEq

structure UserBadge where
  earnedAt : Time
  source : QuestId
  showcased : Bool
  deriving DecidableEq

/-! ## Requests and what is handed out -/

/-- A payload `GamificationTriggerPayloadSchema` accepts. -/
structure GamificationTriggerPayload where
  userId : UserId
  trigger : QuestTrigger
  increment : Nat
  positive : 0 < increment

structure QuestCompletedDto where
  questId : QuestId
  questCode : String
  xpAwarded : Nat
  newUserLevel : Nat
  newUserXp : Nat
  badgeUnlocked : Option BadgeDto
  deriving DecidableEq

/-- The column `data` of a notification. -/
inductive NotificationData where
  | quest (questId : QuestId) (xp : Nat)
  | badge (badgeId : BadgeId)
  deriving DecidableEq

structure Notification where
  userId : UserId
  type : NotificationType
  title : String
  body : String
  data : NotificationData
  deriving DecidableEq

inductive QuestEmission where
  | push (userId : UserId) (title body : String) (questId : QuestId)
  | questCompleted (userId : UserId) (dto : QuestCompletedDto) (questName : String)
  | badgeEarned (userId : UserId) (badge : BadgeDto)
  deriving DecidableEq

/-- An increment of experience, and the quest it is for. -/
structure Award where
  userId : UserId
  questId : QuestId
  awardedAt : Time
  deriving DecidableEq

/-! ## The state -/

structure State where
  now : Time
  quests : Table QuestId Quest
  users : Table UserId UserRow
  -- `@@id([userId, questId])`
  questProgress : Table (UserId × QuestId) QuestProgress
  -- `@@id([userId, badgeId])`
  userBadges : Table (UserId × BadgeId) UserBadge
  notificationPreferences : Table UserId NotificationPreferences
  notifications : List Notification
  emissions : List QuestEmission
  awards : List Award

section Setters

variable (s : State)

@[simps -fullyApplied] def State.withUsers (users : Table UserId UserRow) : State := { s with users := users }

@[simps -fullyApplied] def State.withProgress (questProgress : Table (UserId × QuestId) QuestProgress) :
    State :=
  { s with questProgress := questProgress }

@[simps -fullyApplied] def State.withBadges (userBadges : Table (UserId × BadgeId) UserBadge) : State :=
  { s with userBadges := userBadges }

@[simps -fullyApplied] def State.notified (notification : Notification) : State :=
  { s with notifications := s.notifications ++ [notification] }

@[simps -fullyApplied] def State.sent (emission : QuestEmission) : State :=
  { s with emissions := s.emissions ++ [emission] }

@[simps -fullyApplied] def State.awarded (award : Award) : State := { s with awards := s.awards ++ [award] }

@[simps -fullyApplied] def State.elapsed (milliseconds : Nat) : State := { s with now := s.now + milliseconds }

end Setters

/-- `xp: { increment }`. -/
def UserRow.earn (xp : Nat) (user : UserRow) : UserRow := { user with xp := user.xp + xp }

def UserRow.withLevel (level : Nat) (user : UserRow) : UserRow := { user with level := level }

/-- `where: { trigger, isActive: true }`. -/
def State.questsFor (s : State) (trigger : QuestTrigger) : List (QuestId × Quest) :=
  s.quests.select fun _ quest => decide (quest.trigger = trigger) && quest.isActive

/-! ## Calls and replies -/

/-- The calls of the service. The row that an upsert goes by, `existing`, is what was read before; the
database is given the two rows only. -/
inductive QuestCall where
  | questFindMany (trigger : QuestTrigger)
  | questProgressFindUnique (userId : UserId) (questId : QuestId)
  | questProgressUpsert (userId : UserId) (questId : QuestId) (existing : Option QuestProgress)
      (create update : QuestProgress)
  | userIncrementXp (userId : UserId) (questId : QuestId) (xpReward : Nat)
  | userUpdateLevel (userId : UserId) (level : Nat)
  | userBadgeUpsert (userId : UserId) (badgeId : BadgeId) (source : QuestId)
  | notificationPreferenceFindUnique (userId : UserId)
  | notificationCreate (notification : Notification)
  | emit (emission : QuestEmission)
  | dateNow
  | elapse (milliseconds : Nat)

@[reducible] def QuestReply : QuestCall → Type
  | .questFindMany _ => List (QuestId × Quest)
  | .questProgressFindUnique _ _ => Option QuestProgress
  | .questProgressUpsert _ _ _ _ _ => Except PrismaError Unit
  | .userIncrementXp _ _ _ => Except PrismaError Nat
  | .userUpdateLevel _ _ => Except PrismaError Unit
  | .userBadgeUpsert _ _ _ => Except PrismaError Unit
  | .notificationPreferenceFindUnique _ => Option NotificationPreferences
  | .notificationCreate _ => Except PrismaError Unit
  | .emit _ => Unit
  | .dateNow => Time
  | .elapse _ => Unit

/-! ## Answers -/

def State.upsertProgress (s : State) (userId : UserId) (questId : QuestId) (create update : QuestProgress) :
    State :=
  s.withProgress (s.questProgress.upsert (userId, questId)
    (if (s.questProgress.find? (userId, questId)).isSome then update else create))

def State.unlockBadge (s : State) (userId : UserId) (badgeId : BadgeId) (source : QuestId) : State :=
  s.withBadges (s.userBadges.insert (userId, badgeId) ⟨s.now, source, false⟩)

def answer : (call : QuestCall) → State → QuestReply call × State
  | .questFindMany trigger, s => (s.questsFor trigger, s)
  | .questProgressFindUnique userId questId, s => (s.questProgress.find? (userId, questId), s)
  | .questProgressUpsert userId questId _ create update, s =>
    if (s.users.find? userId).isNone then (.error .foreignKeyViolation, s)
    else (.ok (), s.upsertProgress userId questId create update)
  | .userIncrementXp userId questId xpReward, s =>
    match s.users.find? userId with
    | none => (.error .recordNotFound, s)
    | some user =>
      (.ok (user.earn xpReward).xp,
        (s.withUsers (s.users.modify userId (UserRow.earn xpReward))).awarded ⟨userId, questId, s.now⟩)
  | .userUpdateLevel userId level, s =>
    if (s.users.find? userId).isNone then (.error .recordNotFound, s)
    else (.ok (), s.withUsers (s.users.modify userId (UserRow.withLevel level)))
  | .userBadgeUpsert userId badgeId source, s =>
    if (s.users.find? userId).isNone then (.error .foreignKeyViolation, s)
    else (.ok (), s.unlockBadge userId badgeId source)
  | .notificationPreferenceFindUnique userId, s => (s.notificationPreferences.find? userId, s)
  | .notificationCreate notification, s =>
    if (s.users.find? notification.userId).isNone then (.error .foreignKeyViolation, s)
    else (.ok (), s.notified notification)
  | .emit emission, s => ((), s.sent emission)
  | .dateNow, s => (s.now, s)
  | .elapse milliseconds, s => ((), s.elapsed milliseconds)

abbrev Flow (Value : Type) := Program QuestCall QuestReply ServiceError Value

/-- Run a service function alone. -/
abbrev Flow.exec {Value : Type} (flow : Flow Value) (s : State) : Except ServiceError Value × State :=
  Program.run answer flow s

/-- Make one call and return its reply. -/
abbrev call (request : QuestCall) : Flow (QuestReply request) := .call request .done

/-- Throw what Prisma threw. -/
def rethrow {Value : Type} (reply : Except PrismaError Value) : Flow Value :=
  match reply with
  | .ok value => .done value
  | .error error => .fail (.prisma error)

end Motogram.Gamification
