import Motogram.Emergency.Pushes
import Motogram.Gamification.Service
import Motogram.Messaging.Resend
import Motogram.Messaging.Sending
import Motogram.Notifications.Push

/-!
# Notifications and pushes of one installation

The emergency, message, gamification and party services notify users, of one set of preferences and
over one push service. Notifications are stored by a service that asks for the preference of their
type; pushes are sent by one that does not.

A user who has switched a type off is left alone by an operation exactly when none of those it pushes to
has switched its type off and has a device that is reached (`respects_iff`).
-/

set_option autoImplicit false

namespace Motogram.Notifications

open Foundation Program

/-! ## The installation -/

/-- The services, over one table of preferences. -/
structure Installation where
  config : PushConfig
  push : PushState
  preferences : Table UserId NotificationPreferences
  party : Motogram.State
  emergency : Emergency.State
  messaging : Messaging.State
  gamification : Gamification.State
  emergencyPreferences : ∀ userId, emergency.pushEmergency userId =
    (preferences.find? userId).map NotificationPreferences.pushEmergency
  questPreferences : gamification.notificationPreferences = preferences

inductive NotifyingOp where
  | createAlert (userId : UserId) (dto : Emergency.CreateEmergencyAlertDto) (requester : Emergency.Requester)
  | send (senderId : UserId) (dto : Messaging.SendMessageDto)
  | triggerQuest (payload : Gamification.GamificationTriggerPayload)
  | invite (inviterId : UserId) (partyId : PartyId) (invitees : List (UserId × InviteId))

/-- The type that the pushes of an operation are of; a party invitation has none. -/
def NotifyingOp.pushType : NotifyingOp → NotificationType
  | .createAlert _ _ _ => .emergencyNearby
  | .send _ _ => .message
  | .triggerQuest _ => .questCompleted
  | .invite _ _ _ => .partyInvite

/-- What an operation produces for a user: a notification that is stored, or a push that is handed to a
dispatcher. -/
inductive Outlet where
  | inApp (userId : UserId) (type : NotificationType)
  | push (dispatch : Dispatch)
  deriving DecidableEq

def Outlet.userId : Outlet → UserId
  | .inApp userId _ => userId
  | .push dispatch => dispatch.userId

def Outlet.type : Outlet → NotificationType
  | .inApp _ type => type
  | .push dispatch => dispatch.kind.type

/-- Pushes one after the other. -/
def pushAll (config : PushConfig) (now : Time) (kind : PushKind) : List (List UserId) → PushState → PushState
  | [], s => s
  | userIds :: rest, s => pushAll config now kind rest (sendToUsers config now kind userIds s).2

/-- `notifications.create`, for a user with these preferences. -/
def create (row : Option NotificationPreferences) (userId : UserId) (type : NotificationType) :
    Option (UserId × NotificationType) :=
  if allowsInAppFor row type then some (userId, type) else none

def messagePushed? : Messaging.MessagingEmission → Option (List UserId)
  | .push recipientIds _ => some recipientIds
  | _ => none

/-- The recipients of a push of the gamification service. -/
def questPushed? : Gamification.QuestEmission → Option (List UserId)
  | .push userId _ _ _ => some [userId]
  | _ => none

section Produced

variable (i : Installation) (now : Time)

def Installation.wants (userId : UserId) (type : NotificationType) : Bool :=
  allowsInAppFor (i.preferences.find? userId) type

/-- The pushes of some requests to the push service. -/
def Installation.pushes (kind : PushKind) (requests : List (List UserId)) : List Outlet :=
  (pushAll i.config now kind requests { i.push with dispatched := [] }).dispatched.map Outlet.push

/-- What an operation produces. -/
def Installation.produced : NotifyingOp → List Outlet
  | .createAlert userId dto requester =>
    let after := ((Emergency.createAlert i.emergency.base.deployment userId dto requester).exec i.emergency).2
    (after.notifications.drop i.emergency.notifications.length).map
        (fun notification => .inApp notification.userId .emergencyNearby) ++
      i.pushes now .emergencyNearby ((after.emissions.drop i.emergency.emissions.length).filterMap
        Emergency.EmergencyEmission.pushed?)
  | .send senderId dto =>
    let after := ((Messaging.send senderId dto).exec i.messaging).2
    i.pushes now .messageReceived ((after.emissions.drop i.messaging.emissions.length).filterMap messagePushed?)
  | .triggerQuest payload =>
    let after := ((Gamification.triggerQuest payload).exec i.gamification).2
    (after.notifications.drop i.gamification.notifications.length).map
        (fun notification => .inApp notification.userId notification.type) ++
      i.pushes now .questCompleted ((after.emissions.drop i.gamification.emissions.length).filterMap
        questPushed?)
  | .invite inviterId partyId invitees =>
    let after := ((Motogram.invite inviterId partyId invitees).exec i.party).2
    ((after.notifications.drop i.party.notifications.length).filterMap fun request =>
      create (i.preferences.find? request.userId) request.userId .partyInvite).map
        fun created => .inApp created.1 created.2

/-- The users an operation pushes to, as long as it concerns a type that can be switched off. -/
def Installation.pushTargets : NotifyingOp → List UserId
  | .createAlert userId dto requester => i.emergency.alertRecipients userId dto requester
  | .send senderId dto =>
    if i.messaging.accepts senderId dto then
      (i.messaging.recipients dto.conversationId senderId).filter (i.messaging.hears dto.conversationId)
    else []
  | .triggerQuest _ | .invite _ _ _ => []

/-- What the operation produces is wanted by those it is for. -/
def Installation.Respects (op : NotifyingOp) : Prop :=
  ∀ outlet ∈ i.produced now op, i.wants outlet.userId outlet.type = true

end Produced

variable {i : Installation} {now : Time}

/-! ## Pushes -/

theorem wants_pushes_iff (kind : PushKind) (recipients : List UserId) :
    (∀ outlet ∈ i.pushes now kind [recipients], i.wants outlet.userId outlet.type = true) ↔
      ∀ userId ∈ recipients, i.wants userId kind.type = true ∨ ¬ i.push.Reachable i.config userId := by
  have dispatches : ∀ dispatch, Outlet.push dispatch ∈ i.pushes now kind [recipients] ↔
      dispatch.kind = kind ∧ dispatch.userId ∈ recipients ∧ ∃ device ∈ i.push.devices,
        device.userId = dispatch.userId ∧ device.token = dispatch.token ∧ device.revokedAt = none ∧
          i.config.reaches device = true := by
    intro dispatch
    rw [Installation.pushes, List.mem_map_of_injective fun _ _ same => Outlet.push.inj same, pushAll, pushAll,
      mem_dispatched_sendToUsers]
    exact or_iff_right List.not_mem_nil
  constructor
  · intro wanted userId among
    by_cases reachable : i.push.Reachable i.config userId
    · obtain ⟨device, there, own, live, reaches⟩ := reachable
      have pushed := (dispatches ⟨userId, device.token, kind⟩).mpr
        ⟨rfl, among, device, there, own, rfl, live, reaches⟩
      exact .inl (wanted _ pushed)
    · exact .inr reachable
  · intro spared outlet member
    obtain ⟨dispatch, -, rfl⟩ := List.mem_map.mp member
    obtain ⟨rfl, among, device, there, own, -, live, reaches⟩ := (dispatches dispatch).mp member
    obtain wanted | unreachable := spared dispatch.userId among
    · exact wanted
    · exact absurd ⟨device, there, own, live, reaches⟩ unreachable

theorem kind_of_mem_pushAll {config : PushConfig} {kind : PushKind} {requests : List (List UserId)}
    {s : PushState} {dispatch : Dispatch} (before : ∀ other ∈ s.dispatched, other.kind = kind)
    (member : dispatch ∈ (pushAll config now kind requests s).dispatched) : dispatch.kind = kind := by
  induction requests generalizing s with
  | nil => exact before dispatch member
  | cons userIds rest ih =>
    refine ih (fun other among => ?_) member
    obtain earlier | ⟨same, -⟩ := mem_dispatched_sendToUsers.mp among
    · exact before other earlier
    · exact same

/-! ## The operations -/

/-- **An alert.** -/
theorem respects_createAlert (userId : UserId) (dto : Emergency.CreateEmergencyAlertDto)
    (requester : Emergency.Requester) :
    i.Respects now (.createAlert userId dto requester) ↔
      ∀ recipient ∈ i.emergency.alertRecipients userId dto requester,
        i.wants recipient .emergencyNearby = true ∨ ¬ i.push.Reachable i.config recipient := by
  obtain ⟨sent, reports, pushed⟩ := Emergency.createAlert_reports i.emergency userId dto requester
  obtain ⟨created, appended, wanted⟩ := reports.notified
  have stored : ∀ outlet ∈ created.map fun notification => Outlet.inApp notification.userId .emergencyNearby,
      i.wants outlet.userId outlet.type = true := by
    intro outlet member
    obtain ⟨notification, among, rfl⟩ := List.mem_map.mp member
    have allowed := wanted notification among
    rw [i.emergencyPreferences] at allowed
    change (getPreferences (i.preferences.find? notification.userId)).pushEmergency = true
    cases found : i.preferences.find? notification.userId with
    | none => rfl
    | some row =>
      rw [found] at allowed
      exact allowed
  rw [Installation.Respects, Installation.produced]
  simp only [appended, reports.emissions, List.drop_left, pushed]
  rw [List.forall_mem_append, and_iff_right stored]
  generalize i.emergency.alertRecipients userId dto requester = recipients
  cases recipients with
  | nil => exact ⟨fun _ _ => nofun, fun _ _ => nofun⟩
  | cons recipient rest => exact wants_pushes_iff .emergencyNearby (recipient :: rest)

/-- **A message.** -/
theorem respects_send (senderId : UserId) (dto : Messaging.SendMessageDto) :
    i.Respects now (.send senderId dto) ↔
      ∀ recipient ∈ i.pushTargets (.send senderId dto),
        i.wants recipient .message = true ∨ ¬ i.push.Reachable i.config recipient := by
  rw [Installation.Respects, Installation.produced, Installation.pushTargets]
  cases accepted : i.messaging.accepts senderId dto with
  | false =>
    simp only [Messaging.send_refused i.messaging senderId dto accepted, List.drop_length]
    exact ⟨fun _ _ none => (by cases none), fun _ _ none => by cases none⟩
  | true =>
    have emitted := Messaging.send_accepted i.messaging senderId dto accepted
    have conversation : (i.messaging.created senderId dto).message.conversationId = dto.conversationId := rfl
    simp only [emitted, List.drop_left, List.filterMap_cons, messagePushed?, Messaging.State.pushesOf,
      conversation, if_true]
    generalize i.messaging.recipients dto.conversationId senderId = recipients
    cases recipients with
    | nil => exact ⟨fun _ _ none => (by cases none), fun _ _ none => by cases none⟩
    | cons recipient rest => exact wants_pushes_iff .messageReceived _

/-- **An invitation to a party.** -/
theorem respects_invite (inviterId : UserId) (partyId : PartyId) (invitees : List (UserId × InviteId)) :
    i.Respects now (.invite inviterId partyId invitees) := by
  intro outlet member
  obtain ⟨created, among, rfl⟩ := List.mem_map.mp member
  obtain ⟨request, -, made⟩ := List.mem_filterMap.mp among
  rw [create] at made
  split at made
  · rename_i allowed
    cases made
    exact allowed
  · cases made

/-- A call of the gamification service that notifies of nothing but a quest or a badge. -/
def QuestCallAllowed : Gamification.QuestCall → Prop
  | .notificationCreate notification =>
    notification.type = .questCompleted ∨ notification.type = .badgeEarned
  | _ => True

theorem createNotification_allowed {notification : Gamification.Notification}
    (allowed : notification.type = .questCompleted ∨ notification.type = .badgeEarned) :
    (Gamification.createNotification notification).Uses QuestCallAllowed := by
  refine Uses.send trivial fun stored => ?_
  split
  · refine Uses.send allowed fun created => ?_
    cases created <;> trivial
  · trivial

theorem announce_allowed (userId : UserId) (questId : Gamification.QuestId) (quest : Gamification.Quest)
    (xp : Nat) : (Gamification.announce userId questId quest xp).Uses QuestCallAllowed := by
  have unlocks : (Gamification.unlockBadge userId questId quest.badge).Uses QuestCallAllowed := by
    cases quest.badge with
    | none => trivial
    | some badge =>
      refine Uses.send trivial fun earned => ?_
      cases earned <;> trivial
  have notifies : (Gamification.notifyBadge userId quest.badge).Uses QuestCallAllowed := by
    cases quest.badge with
    | none => trivial
    | some badge => exact createNotification_allowed (.inr rfl)
  have broadcasts : (Gamification.broadcastBadge userId quest.badge).Uses QuestCallAllowed := by
    cases quest.badge with
    | none => trivial
    | some badge => exact ⟨trivial, fun _ => trivial⟩
  refine unlocks.bind fun _ => (createNotification_allowed (.inl rfl)).bind fun _ => notifies.bind fun _ => ?_
  exact Uses.send trivial fun _ => Uses.send trivial fun _ => broadcasts.bind fun _ => trivial

variable (payload : Gamification.GamificationTriggerPayload)

theorem questTurns_allowed (completed : List Gamification.QuestCompletedDto)
    (quests : List (Gamification.QuestId × Gamification.Quest)) :
    (Gamification.questTurns payload completed quests).Uses QuestCallAllowed := by
  induction quests generalizing completed with
  | nil => trivial
  | cons entry rest ih =>
    obtain ⟨questId, quest⟩ := entry
    have awards : (Gamification.awardQuest payload.userId questId quest).Uses QuestCallAllowed := by
      refine Uses.send trivial fun earned => ?_
      refine Uses.bind (by cases earned <;> trivial) fun xp => ?_
      refine Uses.send trivial fun leveled => ?_
      exact Uses.bind (by cases leveled <;> trivial) fun _ => announce_allowed _ _ _ _
    have turn : (Gamification.questTurn payload questId quest).Uses QuestCallAllowed := by
      refine Uses.send trivial fun existing => Uses.send trivial fun now => ?_
      split
      · trivial
      · refine Uses.send trivial fun upserted => ?_
        refine Uses.bind (by cases upserted <;> trivial) fun _ => ?_
        split
        · exact awards.bind fun _ => trivial
        · trivial
    exact turn.bind fun dto => ih _

theorem triggerQuest_notifies (s : Gamification.State) :
    ∃ created, ((Gamification.triggerQuest payload).exec s).2.notifications = s.notifications ++ created ∧
      ∀ notification ∈ created, notification.type = .questCompleted ∨ notification.type = .badgeEarned := by
  let keeps (t : Gamification.State) : Prop := ∃ created, t.notifications = s.notifications ++ created ∧
    ∀ notification ∈ created, notification.type = .questCompleted ∨ notification.type = .badgeEarned
  have uses : (Gamification.triggerQuest payload).Uses QuestCallAllowed :=
    Uses.send trivial fun quests => questTurns_allowed payload [] quests
  have same : ∀ {t u : Gamification.State}, u.notifications = t.notifications → keeps t → keeps u := by
    rintro t u equal ⟨created, appended, types⟩
    exact ⟨created, equal.trans appended, types⟩
  have start : keeps s := ⟨[], (List.append_nil _).symm, fun _ => nofun⟩
  refine uses.run_keeps Gamification.answer (fun request t allowed (held : keeps t) => ?_) start
  cases request with
  | notificationCreate notification =>
    simp only [Gamification.answer]
    split
    · exact held
    · obtain ⟨created, appended, types⟩ := held
      refine ⟨created ++ [notification], ?_, fun other member => ?_⟩
      · rw [Gamification.State.notified_notifications, appended, List.append_assoc]
      · obtain earlier | last := List.mem_append.mp member
        · exact types other earlier
        · rw [List.mem_singleton.mp last]
          exact allowed
  | questProgressUpsert | userIncrementXp | userUpdateLevel | userBadgeUpsert =>
    refine same ?_ held
    simp only [Gamification.answer]
    split <;> rfl
  | _ => exact held

/-- **A quest.** No preference stands for it. -/
theorem respects_triggerQuest : i.Respects now (.triggerQuest payload) := by
  obtain ⟨created, appended, types⟩ := triggerQuest_notifies payload i.gamification
  intro outlet member
  rw [Installation.produced, appended, List.drop_left, List.mem_append] at member
  obtain stored | pushed := member
  · obtain ⟨notification, among, rfl⟩ := List.mem_map.mp stored
    obtain type | type := types notification among
    · rw [type]
      rfl
    · rw [type]
      rfl
  · obtain ⟨dispatch, among, rfl⟩ := List.mem_map.mp pushed
    have kind := kind_of_mem_pushAll (fun _ earlier => absurd earlier List.not_mem_nil) among
    rw [Outlet.type, kind]
    rfl

/-- **An operation leaves those alone who have switched its type off exactly when none of them is among
those it pushes to, with a device that is reached.** -/
theorem respects_iff (i : Installation) (now : Time) (op : NotifyingOp) :
    i.Respects now op ↔
      ∀ userId ∈ i.pushTargets op, i.wants userId op.pushType = true ∨ ¬ i.push.Reachable i.config userId := by
  cases op with
  | createAlert userId dto requester => exact respects_createAlert userId dto requester
  | send senderId dto => exact respects_send senderId dto
  | triggerQuest payload => exact iff_of_true (respects_triggerQuest payload) fun _ => nofun
  | invite inviterId partyId invitees => exact iff_of_true (respects_invite inviterId partyId invitees) fun _ => nofun

/-! ## A rider who wants no alerts -/

/-- Rider 2 has switched alerts and messages off. -/
def quietPreferences : Table UserId NotificationPreferences :=
  Table.empty.insert 2 { defaultPrefs with pushEmergency := false, pushComment := false }

/-- Riders 1 and 2 are near each other and have a conversation, and rider 2 has a phone. -/
def quietInstallation : Installation where
  config := ⟨false, fun platform => if platform = .expo then some fun _ _ => .ok else none⟩
  push := ⟨[⟨2, "token", .expo, none⟩], []⟩
  preferences := quietPreferences
  party := smallInstallation
  emergency := .initial
    (Emergency.reachedBy Emergency.quietInstallation (Emergency.neighbourIn (some "ankara"))).state
    fun userId => (quietPreferences.find? userId).map NotificationPreferences.pushEmergency
  messaging := Messaging.smallInstallation
  gamification :=
    { now := 0
      quests := .empty
      users := .empty
      questProgress := .empty
      userBadges := .empty
      notificationPreferences := quietPreferences
      notifications := []
      emissions := []
      awards := [] }
  emergencyPreferences := fun _ => rfl
  questPreferences := rfl

/-- An alert near rider 2 and a message to rider 2 are pushed to the phone. -/
theorem pushed_though_off :
    ¬ (∀ (i : Installation) (now : Time) (op : NotifyingOp), i.Respects now op) ∧
      quietInstallation.produced 0
          (.createAlert 1 Emergency.smallAlert ⟨"rider", some "ankara", false⟩) =
        [.push ⟨2, "token", .emergencyNearby⟩] ∧
      quietInstallation.produced 0 (.send 1 (Messaging.smallMessage "hello")) =
        [.push ⟨2, "token", .messageReceived⟩] := by
  have message : quietInstallation.produced 0 (.send 1 (Messaging.smallMessage "hello")) =
      [.push ⟨2, "token", .messageReceived⟩] := by
    decide +kernel
  refine ⟨fun claim => ?_, by decide +kernel, message⟩
  have wanted := claim quietInstallation 0 (.send 1 (Messaging.smallMessage "hello"))
    (.push ⟨2, "token", .messageReceived⟩) (by rw [message]; exact List.mem_singleton_self _)
  exact absurd wanted (by decide +kernel)

end Motogram.Notifications
