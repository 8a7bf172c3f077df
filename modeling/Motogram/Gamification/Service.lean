import Motogram.Foundation.Calendar
import Motogram.Gamification.Store

/-!
# The gamification service

`gamification.service.ts`: what a trigger does to the quests of a user. Every function is a program
over the calls of the store, in the order of the source.
-/

set_option autoImplicit false

namespace Motogram.Gamification

open Foundation
open Calendar
open Notifications (NotificationPreferences allowsInAppFor)

/-! ## Levels and dates -/

/-- `Math.floor(Math.sqrt(xp / 50)) + 1`. -/
def levelFor (xp : Nat) : Nat := Nat.sqrt (xp / 50) + 1

/-- The date from which the progress of a period counts no longer. -/
def nextResetAt (date : Time) : QuestResetPeriod → Option Time
  | .daily => some (midnight (dayOf date + 1))
  | .weekly => some (midnight (dayOf date + daysToSunday (dayOf date)))
  | .monthly => some (midnight (monthStart (monthOf (dayOf date) + 1)))
  | .none => none

/-! ## Progress -/

/-- The progress of a repeatable quest whose date of reset has come. -/
def dueForReset (quest : Quest) (now : Time) (existing : QuestProgress) : Bool :=
  quest.repeatable && existing.resetAt.any fun resetAt => decide (resetAt ≤ now)

/-- The progress after the trigger. -/
def nextProgress (quest : Quest) (now : Time) (increment : Nat) : Option QuestProgress → Nat
  | none => increment
  | some existing => if dueForReset quest now existing then increment else existing.progress + increment

/-- The date of reset after the trigger. -/
def keptResetAt (quest : Quest) (now : Time) : Option QuestProgress → Option Time
  | none => if quest.repeatable then nextResetAt now quest.resetPeriod else none
  | some existing =>
    if dueForReset quest now existing then nextResetAt now quest.resetPeriod else existing.resetAt

/-- `existing?.completed && !quest.repeatable`. -/
def wasAlreadyCompleted (quest : Quest) (existing : Option QuestProgress) : Bool :=
  existing.any fun row => row.completed && !quest.repeatable

/-- `progress >= quest.targetValue`. -/
def completedNow (quest : Quest) (now : Time) (increment : Nat) (existing : Option QuestProgress) : Bool :=
  decide (quest.targetValue ≤ nextProgress quest now increment existing)

/-- The row that is written, with the date of completion that stays when the quest is not completed. -/
def progressRow (quest : Quest) (now : Time) (increment : Nat) (existing : Option QuestProgress)
    (completedBefore : Option Time) : QuestProgress where
  progress := nextProgress quest now increment existing
  completed := completedNow quest now increment existing
  completedAt := if completedNow quest now increment existing then some now else completedBefore
  resetAt := keptResetAt quest now existing

/-! ## Notifications -/

/-- `notifications.create`. -/
def createNotification (notification : Notification) : Flow Unit := do
  let stored : Option NotificationPreferences ← call (.notificationPreferenceFindUnique notification.userId)
  if allowsInAppFor stored notification.type then do
    let created : Except PrismaError Unit ← call (.notificationCreate notification)
    rethrow created
  else pure ()

def questNotification (userId : UserId) (questId : QuestId) (quest : Quest) : Notification where
  userId := userId
  type := .questCompleted
  title := "Gorev tamamlandi!"
  body := quest.name ++ " gorevini tamamladin ve " ++ toString quest.xpReward ++ " XP kazandin."
  data := .quest questId quest.xpReward

def badgeNotification (userId : UserId) (badge : BadgeDto) : Notification where
  userId := userId
  type := .badgeEarned
  title := "Yeni rozet kazandin!"
  body := badge.name ++ " rozetini kazandin."
  data := .badge badge.id

/-! ## A completed quest -/

def unlockBadge (userId : UserId) (questId : QuestId) : Option BadgeDto → Flow Unit
  | none => pure ()
  | some badge => do
    let earned : Except PrismaError Unit ← call (.userBadgeUpsert userId badge.id questId)
    rethrow earned

/-- The second notification, when the quest has a badge. -/
def notifyBadge (userId : UserId) : Option BadgeDto → Flow Unit
  | none => pure ()
  | some badge => createNotification (badgeNotification userId badge)

/-- `broadcastBadgeEarned`, when the quest has a badge. -/
def broadcastBadge (userId : UserId) : Option BadgeDto → Flow Unit
  | none => pure ()
  | some badge => call (.emit (.badgeEarned userId badge))

/-- What is done after the level is written. The push is given to the push service, whose failures
are swallowed. -/
def announce (userId : UserId) (questId : QuestId) (quest : Quest) (xp : Nat) : Flow QuestCompletedDto := do
  unlockBadge userId questId quest.badge
  let dto : QuestCompletedDto := ⟨questId, quest.code, quest.xpReward, levelFor xp, xp, quest.badge⟩
  createNotification (questNotification userId questId quest)
  notifyBadge userId quest.badge
  let _ : Unit ← call (.emit (.push userId "Gorev tamamlandi!"
    (quest.name ++ " (+" ++ toString quest.xpReward ++ " XP)") questId))
  let _ : Unit ← call (.emit (.questCompleted userId dto quest.name))
  broadcastBadge userId quest.badge
  pure dto

def saveLevel (userId : UserId) (questId : QuestId) (quest : Quest) (xp : Nat) : Flow QuestCompletedDto := do
  let leveled : Except PrismaError Unit ← call (.userUpdateLevel userId (levelFor xp))
  rethrow leveled
  announce userId questId quest xp

/-- From the experience on. -/
def awardQuest (userId : UserId) (questId : QuestId) (quest : Quest) : Flow QuestCompletedDto := do
  let earned : Except PrismaError Nat ← call (.userIncrementXp userId questId quest.xpReward)
  let xp ← rethrow earned
  saveLevel userId questId quest xp

/-! ## Triggers -/

/-- The body of the loop from the upsert on. -/
def saveProgress (payload : GamificationTriggerPayload) (questId : QuestId) (quest : Quest)
    (existing : Option QuestProgress) (now : Time) : Flow (Option QuestCompletedDto) := do
  let upserted : Except PrismaError Unit ← call (.questProgressUpsert payload.userId questId existing
    (progressRow quest now payload.increment existing none)
    (progressRow quest now payload.increment existing (existing.bind QuestProgress.completedAt)))
  rethrow upserted
  if completedNow quest now payload.increment existing then do
    let dto ← awardQuest payload.userId questId quest
    pure (some dto)
  else pure none

/-- The body of the loop of `triggerQuest`: the quest with the given id. -/
def questTurn (payload : GamificationTriggerPayload) (questId : QuestId) (quest : Quest) :
    Flow (Option QuestCompletedDto) := do
  let existing : Option QuestProgress ← call (.questProgressFindUnique payload.userId questId)
  let now : Time ← call .dateNow
  if wasAlreadyCompleted quest existing then pure none
  else saveProgress payload questId quest existing now

/-- The loop of `triggerQuest`, with what has been completed so far. -/
def questTurns (payload : GamificationTriggerPayload) (completed : List QuestCompletedDto) :
    List (QuestId × Quest) → Flow (List QuestCompletedDto)
  | [] => pure completed
  | (questId, quest) :: rest => do
    let dto ← questTurn payload questId quest
    questTurns payload (completed ++ dto.toList) rest

def triggerQuest (payload : GamificationTriggerPayload) : Flow (List QuestCompletedDto) := do
  let quests : List (QuestId × Quest) ← call (.questFindMany payload.trigger)
  questTurns payload [] quests

/-- `onTrigger`, of a payload that is valid: what is thrown is logged. -/
def onTrigger (payload : GamificationTriggerPayload) : Flow Unit :=
  (triggerQuest payload >>= fun _ => pure ()).rescue fun _ => pure ()

end Motogram.Gamification
