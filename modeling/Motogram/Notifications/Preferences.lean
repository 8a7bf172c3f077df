import Motogram.Entities

/-!
# The notifications a user wants

`notifications.service.ts`: which preference stands for a type of notification, and what is taken
where a user has stored none.
-/

set_option autoImplicit false

namespace Motogram.Notifications

inductive NotificationType where
  | follow
  | like
  | comment
  | mention
  | message
  | eventInvite
  | partyInvite
  | emergencyNearby
  | questCompleted
  | badgeEarned
  | groupInvite
  | system
  deriving DecidableEq

/-- A row of `notification_preferences`. Its key, the user, is kept by the table. -/
structure NotificationPreferences where
  pushFollow : Bool
  pushLike : Bool
  pushComment : Bool
  pushMention : Bool
  pushParty : Bool
  pushEmergency : Bool
  pushCommunity : Bool
  pushEvent : Bool
  emailDigest : Bool
  deriving DecidableEq

/-- `DEFAULT_PREFS`. -/
def defaultPrefs : NotificationPreferences where
  pushFollow := true
  pushLike := true
  pushComment := true
  pushMention := true
  pushParty := true
  pushEmergency := true
  pushCommunity := true
  pushEvent := true
  emailDigest := false

/-- `getPreferences`: the stored row, or the defaults. -/
def getPreferences (row : Option NotificationPreferences) : NotificationPreferences := row.getD defaultPrefs

/-- The `switch` of `allowsInAppFor`. -/
def NotificationPreferences.allows (preferences : NotificationPreferences) : NotificationType → Bool
  | .follow => preferences.pushFollow
  | .like => preferences.pushLike
  | .comment | .message => preferences.pushComment
  | .mention => preferences.pushMention
  | .partyInvite => preferences.pushParty
  | .emergencyNearby => preferences.pushEmergency
  | .groupInvite => preferences.pushCommunity
  | .eventInvite => preferences.pushEvent
  | .questCompleted | .badgeEarned | .system => true

/-- `allowsInAppFor`, of the row that is stored. -/
def allowsInAppFor (row : Option NotificationPreferences) (type : NotificationType) : Bool :=
  (getPreferences row).allows type

end Motogram.Notifications
