import Motogram.Gamification.Service

/-!
# What a trigger does

A trigger takes the quests it is for one after the other. A turn of a quest leaves everything as it
is, when the user is not there or has completed a quest that is not repeatable; or it saves the
progress; or it completes the quest, which awards experience, unlocks the badge and notifies
(`turn_exec`). A trigger is the sequence of its turns (`triggerQuest_turns`).
-/

set_option autoImplicit false

namespace Motogram.Gamification

open Foundation Program Table State
open Notifications (allowsInAppFor)

variable {s : State} {userId : UserId} {questId : QuestId} {quest : Quest}
  {payload : GamificationTriggerPayload}

/-! ## Announcing -/

def State.knows (s : State) (userId : UserId) : Bool := (s.users.find? userId).isSome

/-- The notification and the message of the badge, when the quest has one. -/
def State.badged (s : State) (userId : UserId) (questId : QuestId) : Option BadgeDto → State
  | none => s
  | some badge => s.unlockBadge userId badge.id questId

def State.badgeNotified (s : State) (userId : UserId) : Option BadgeDto → State
  | none => s
  | some badge => s.notified (badgeNotification userId badge)

def State.badgeSent (s : State) (userId : UserId) : Option BadgeDto → State
  | none => s
  | some badge => s.sent (.badgeEarned userId badge)

def State.announced (s : State) (userId : UserId) (questId : QuestId) (quest : Quest) (xp : Nat) : State :=
  let unlocked := s.badged userId questId quest.badge
  let notified := (unlocked.notified (questNotification userId questId quest)).badgeNotified userId quest.badge
  let pushed := notified.sent (.push userId "Gorev tamamlandi!"
    (quest.name ++ " (+" ++ toString quest.xpReward ++ " XP)") questId)
  (pushed.sent (.questCompleted userId ⟨questId, quest.code, quest.xpReward, levelFor xp, xp, quest.badge⟩
    quest.name)).badgeSent userId quest.badge

theorem createNotification_exec (notification : Notification) (known : s.knows notification.userId = true)
    (wanted : ∀ stored, allowsInAppFor stored notification.type = true) :
    (createNotification notification).exec s = (.ok (), s.notified notification) := by
  have asked : answer (.notificationPreferenceFindUnique notification.userId) s =
      (s.notificationPreferences.find? notification.userId, s) := rfl
  have created : answer (.notificationCreate notification) s = (.ok (), s.notified notification) := by
    obtain ⟨user, found⟩ := Option.isSome_iff_exists.mp known
    simp only [answer, found]
    rfl
  change run answer (if _ then _ else _) s = _
  rw [if_pos (wanted _)]
  exact run_call_of_answer answer created _

theorem unlockBadge_exec (known : s.knows userId = true) (questId : QuestId) (badge : Option BadgeDto) :
    (unlockBadge userId questId badge).exec s = (.ok (), s.badged userId questId badge) ∧
      (s.badged userId questId badge).users = s.users := by
  cases badge with
  | none => exact ⟨rfl, rfl⟩
  | some badge =>
    have earned : answer (.userBadgeUpsert userId badge.id questId) s =
        (.ok (), s.unlockBadge userId badge.id questId) := by
      obtain ⟨user, found⟩ := Option.isSome_iff_exists.mp known
      simp only [answer, found]
      rfl
    exact ⟨run_call_of_answer answer earned _, rfl⟩

theorem notifyBadge_exec (known : s.knows userId = true) (badge : Option BadgeDto) :
    (notifyBadge userId badge).exec s = (.ok (), s.badgeNotified userId badge) := by
  cases badge with
  | none => rfl
  | some badge => exact createNotification_exec (badgeNotification userId badge) known fun _ => rfl

theorem broadcastBadge_exec (s : State) (userId : UserId) (badge : Option BadgeDto) :
    (broadcastBadge userId badge).exec s = (.ok (), s.badgeSent userId badge) := by
  cases badge <;> rfl

theorem announce_exec (known : s.knows userId = true) (questId : QuestId) (quest : Quest) (xp : Nat) :
    (announce userId questId quest xp).exec s =
      (.ok ⟨questId, quest.code, quest.xpReward, levelFor xp, xp, quest.badge⟩,
        s.announced userId questId quest xp) := by
  obtain ⟨unlocked, users⟩ := unlockBadge_exec known questId quest.badge
  have known' : (s.badged userId questId quest.badge).knows userId = true := by
    rw [knows, users]
    exact known
  have notified := createNotification_exec (questNotification userId questId quest) known' fun _ => rfl
  have badged := notifyBadge_exec
    (s := (s.badged userId questId quest.badge).notified (questNotification userId questId quest)) known' quest.badge
  rw [announce, Flow.exec, run_bind_of_ok _ unlocked, run_bind_of_ok _ notified,
    run_bind_of_ok _ badged]
  change run answer (broadcastBadge userId quest.badge >>= _) _ = _
  rw [run_bind_of_ok _ (broadcastBadge_exec _ userId quest.badge)]
  rfl

/-! ## The turn of a quest -/

def State.rowAfter (s : State) (payload : GamificationTriggerPayload) (questId : QuestId) (quest : Quest) :
    QuestProgress :=
  progressRow quest s.now payload.increment (s.questProgress.find? (payload.userId, questId))
    ((s.questProgress.find? (payload.userId, questId)).bind QuestProgress.completedAt)

def State.saved (s : State) (payload : GamificationTriggerPayload) (questId : QuestId) (quest : Quest) : State :=
  s.withProgress (s.questProgress.upsert (payload.userId, questId) (s.rowAfter payload questId quest))

def State.rewarded (s : State) (userId : UserId) (questId : QuestId) (quest : Quest) (xp : Nat) : State :=
  let earned := (s.withUsers (s.users.modify userId (UserRow.earn quest.xpReward))).awarded ⟨userId, questId, s.now⟩
  earned.withUsers (earned.users.modify userId (UserRow.withLevel (levelFor xp)))

def State.xpAfter (s : State) (userId : UserId) (quest : Quest) : Nat :=
  ((s.users.find? userId).map fun user => user.xp + quest.xpReward).getD 0

def State.finished (s : State) (payload : GamificationTriggerPayload) (questId : QuestId) (quest : Quest) : State :=
  ((s.saved payload questId quest).rewarded payload.userId questId quest
    (s.xpAfter payload.userId quest)).announced payload.userId questId quest (s.xpAfter payload.userId quest)

/-- The trigger leaves the quest as it is: the user is not there, or has completed a quest that is not
repeatable. -/
def State.skips (s : State) (payload : GamificationTriggerPayload) (questId : QuestId) (quest : Quest) : Bool :=
  !s.knows payload.userId || wasAlreadyCompleted quest (s.questProgress.find? (payload.userId, questId))

def State.completes (s : State) (payload : GamificationTriggerPayload) (questId : QuestId) (quest : Quest) : Bool :=
  !s.skips payload questId quest &&
    completedNow quest s.now payload.increment (s.questProgress.find? (payload.userId, questId))

def State.turned (s : State) (payload : GamificationTriggerPayload) (questId : QuestId) (quest : Quest) : State :=
  if s.skips payload questId quest then s
  else if s.completes payload questId quest then s.finished payload questId quest
  else s.saved payload questId quest

theorem awardQuest_exec (known : s.knows userId = true) (questId : QuestId) (quest : Quest) :
    ∃ dto, (awardQuest userId questId quest).exec s =
      (.ok dto, (s.rewarded userId questId quest (s.xpAfter userId quest)).announced userId questId quest
        (s.xpAfter userId quest)) := by
  obtain ⟨user, found⟩ := Option.isSome_iff_exists.mp known
  let earned := (s.withUsers (s.users.modify userId (UserRow.earn quest.xpReward))).awarded ⟨userId, questId, s.now⟩
  have xp : s.xpAfter userId quest = (user.earn quest.xpReward).xp := by
    rw [xpAfter, found]
    rfl
  have earns : answer (.userIncrementXp userId questId quest.xpReward) s =
      (.ok (s.xpAfter userId quest), earned) := by
    simp only [answer, found, xp]
    rfl
  have found' : earned.users.find? userId = some (user.earn quest.xpReward) := by
    change (s.users.modify userId _).find? userId = _
    rw [find?_modify_self, found]
    rfl
  have levels : answer (.userUpdateLevel userId (levelFor (s.xpAfter userId quest))) earned =
      (.ok (), s.rewarded userId questId quest (s.xpAfter userId quest)) := by
    simp only [answer, found']
    rfl
  have known' : (s.rewarded userId questId quest (s.xpAfter userId quest)).knows userId = true := by
    change ((earned.users.modify userId _).find? userId).isSome = true
    rw [find?_modify_self, found']
    rfl
  have announced := announce_exec known' questId quest (s.xpAfter userId quest)
  exact ⟨_, (run_call_of_answer answer earns _).trans
    ((run_call_of_answer answer levels _).trans announced)⟩

theorem saveProgress_unknown (unknown : s.knows payload.userId = false) (questId : QuestId) (quest : Quest)
    (existing : Option QuestProgress) :
    (saveProgress payload questId quest existing s.now).exec s = (.error (.prisma .foreignKeyViolation), s) := by
  have absent : s.users.find? payload.userId = none := by
    rw [knows, Option.isSome_eq_false_iff, Option.isNone_iff_eq_none] at unknown
    exact unknown
  have refused : answer (.questProgressUpsert payload.userId questId existing
      (progressRow quest s.now payload.increment existing none)
      (progressRow quest s.now payload.increment existing (existing.bind QuestProgress.completedAt))) s =
      (.error .foreignKeyViolation, s) := by
    simp only [answer, absent]
    rfl
  exact run_call_of_answer answer refused _

theorem saveProgress_exec (payload : GamificationTriggerPayload) (known : s.knows payload.userId = true)
    (questId : QuestId) (quest : Quest) {existing : Option QuestProgress} (read : s.questProgress.find? (payload.userId, questId) = existing) :
    ∃ dto, (saveProgress payload questId quest existing s.now).exec s =
      (.ok dto, if completedNow quest s.now payload.increment existing then s.finished payload questId quest
        else s.saved payload questId quest) := by
  obtain ⟨user, found⟩ := Option.isSome_iff_exists.mp known
  -- without a row both rows are the same
  have row : (if existing.isSome = true then
      progressRow quest s.now payload.increment existing (existing.bind QuestProgress.completedAt)
      else progressRow quest s.now payload.increment existing none) = s.rowAfter payload questId quest := by
    rw [rowAfter, read]
    cases existing <;> rfl
  have upserted : answer (.questProgressUpsert payload.userId questId existing
      (progressRow quest s.now payload.increment existing none)
      (progressRow quest s.now payload.increment existing (existing.bind QuestProgress.completedAt))) s =
      (.ok (), s.saved payload questId quest) := by
    simp only [answer, found]
    rw [saved, ← row, ← read]
    rfl
  cases full : completedNow quest s.now payload.increment existing with
  | true =>
    obtain ⟨dto, awarded⟩ := awardQuest_exec (s := s.saved payload questId quest) known questId quest
    refine ⟨some dto, (run_call_of_answer answer upserted _).trans ?_⟩
    change run answer (if completedNow quest s.now payload.increment existing then _ else _) _ = _
    rw [if_pos full, run_bind_of_ok _ awarded]
    rfl
  | false =>
    refine ⟨none, (run_call_of_answer answer upserted _).trans ?_⟩
    change run answer (if completedNow quest s.now payload.increment existing then _ else _) _ = _
    rw [full]
    rfl

/-- **What the turn of a quest does**, and that it fails only for a user who is not there. -/
theorem turn_exec (s : State) (payload : GamificationTriggerPayload) (questId : QuestId) (quest : Quest) :
    ((questTurn payload questId quest).exec s).2 = s.turned payload questId quest ∧
      ((∃ dto, ((questTurn payload questId quest).exec s).1 = .ok dto) ∨ s.knows payload.userId = false) := by
  have asked : answer (.questProgressFindUnique payload.userId questId) s =
      (s.questProgress.find? (payload.userId, questId), s) := rfl
  have enters : (questTurn payload questId quest).exec s = run answer
      (if wasAlreadyCompleted quest (s.questProgress.find? (payload.userId, questId)) then pure none
        else saveProgress payload questId quest (s.questProgress.find? (payload.userId, questId)) s.now) s :=
    run_call_of_answer answer asked _
  rw [enters, turned, completes, skips]
  cases already : wasAlreadyCompleted quest (s.questProgress.find? (payload.userId, questId)) with
  | true =>
    rw [Bool.or_true]
    exact ⟨rfl, .inl ⟨none, rfl⟩⟩
  | false =>
    cases known : s.knows payload.userId with
    | false =>
      have failed := saveProgress_unknown known questId quest
        (s.questProgress.find? (payload.userId, questId))
      exact ⟨congrArg Prod.snd failed, .inr rfl⟩
    | true =>
      obtain ⟨dto, ran⟩ := saveProgress_exec payload known questId quest rfl
      exact ⟨congrArg Prod.snd ran, .inl ⟨dto, congrArg Prod.fst ran⟩⟩

/-! ## The fields after a turn -/

/-- The tables that an announcement leaves as they are. -/
theorem announced_same (s : State) (userId : UserId) (questId : QuestId) (quest : Quest) (xp : Nat) :
    (s.announced userId questId quest xp).now = s.now ∧ (s.announced userId questId quest xp).quests = s.quests ∧
      (s.announced userId questId quest xp).users = s.users ∧
      (s.announced userId questId quest xp).questProgress = s.questProgress ∧
      (s.announced userId questId quest xp).awards = s.awards := by
  unfold State.announced
  cases quest.badge <;> simp [State.badged, State.badgeNotified, State.badgeSent, State.unlockBadge]

theorem announced_badges (s : State) (userId : UserId) (questId : QuestId) (quest : Quest) (xp : Nat) :
    (s.announced userId questId quest xp).userBadges = (s.badged userId questId quest.badge).userBadges ∧
      (s.announced userId questId quest xp).notifications = s.notifications ++
        questNotification userId questId quest :: (quest.badge.map (badgeNotification userId)).toList := by
  rw [State.announced]
  cases quest.badge with
  | none => exact ⟨rfl, rfl⟩
  | some badge => exact ⟨rfl, List.append_assoc _ _ _⟩

@[simp] theorem turned_now (s : State) (payload : GamificationTriggerPayload) (questId : QuestId) (quest : Quest) :
    (s.turned payload questId quest).now = s.now := by
  rw [turned]
  split
  · rfl
  · split
    · exact (announced_same _ _ _ _ _).1
    · rfl

@[simp] theorem turned_quests (s : State) (payload : GamificationTriggerPayload) (questId : QuestId) (quest : Quest) :
    (s.turned payload questId quest).quests = s.quests := by
  rw [turned]
  split
  · rfl
  · split
    · exact (announced_same _ _ _ _ _).2.1
    · rfl

@[simp] theorem turned_knows (s : State) (payload : GamificationTriggerPayload) (questId : QuestId) (quest : Quest)
    (other : UserId) : (s.turned payload questId quest).knows other = s.knows other := by
  rw [turned]
  split
  · rfl
  · split
    · rw [knows, finished, (announced_same _ _ _ _ _).2.2.1]
      change (((s.users.modify _ _).modify _ _).find? other).isSome = _
      rw [isSome_find?_modify, isSome_find?_modify]
      rfl
    · rfl

theorem turned_questProgress (s : State) (payload : GamificationTriggerPayload) (questId : QuestId) (quest : Quest) :
    (s.turned payload questId quest).questProgress =
      if s.skips payload questId quest then s.questProgress
      else s.questProgress.upsert (payload.userId, questId) (s.rowAfter payload questId quest) := by
  rw [turned]
  split
  · rfl
  · split
    · exact (announced_same _ _ _ _ _).2.2.2.1
    · rfl

theorem turned_awards (s : State) (payload : GamificationTriggerPayload) (questId : QuestId) (quest : Quest) :
    (s.turned payload questId quest).awards =
      if s.completes payload questId quest then s.awards ++ [⟨payload.userId, questId, s.now⟩] else s.awards := by
  rw [turned]
  cases skips : s.skips payload questId quest with
  | true =>
    rw [completes, skips]
    rfl
  | false =>
    rw [if_neg Bool.false_ne_true]
    split
    · exact (announced_same _ _ _ _ _).2.2.2.2
    · rfl

theorem turned_userBadges (s : State) (payload : GamificationTriggerPayload) (questId : QuestId) (quest : Quest) :
    (s.turned payload questId quest).userBadges =
      if s.completes payload questId quest then (s.badged payload.userId questId quest.badge).userBadges
      else s.userBadges := by
  rw [turned]
  cases skips : s.skips payload questId quest with
  | true =>
    rw [completes, skips]
    rfl
  | false =>
    rw [if_neg Bool.false_ne_true]
    split
    · refine (announced_badges _ _ _ _ _).1.trans ?_
      cases quest.badge <;> rfl
    · rfl

theorem turned_notifications (s : State) (payload : GamificationTriggerPayload) (questId : QuestId)
    (quest : Quest) : (s.turned payload questId quest).notifications =
      if s.completes payload questId quest then s.notifications ++
        questNotification payload.userId questId quest ::
          (quest.badge.map (badgeNotification payload.userId)).toList
      else s.notifications := by
  rw [turned]
  cases skips : s.skips payload questId quest with
  | true =>
    rw [completes, skips]
    rfl
  | false =>
    rw [if_neg Bool.false_ne_true]
    split
    · exact (announced_badges _ _ _ _ _).2
    · rfl

/-! ## A trigger is its turns -/

/-- The turn of a quest, or time passing. -/
inductive Turn where
  | take (payload : GamificationTriggerPayload) (questId : QuestId)
  | elapse (milliseconds : Nat)

def turnStep (s : State) : Turn → State
  | .take payload questId =>
    match s.quests.find? questId with
    | some quest => s.turned payload questId quest
    | none => s
  | .elapse milliseconds => s.elapsed milliseconds

/-- A trigger, or time passing. -/
inductive QuestOp where
  | trigger (payload : GamificationTriggerPayload)
  | elapse (milliseconds : Nat)

def questStep (s : State) : QuestOp → State
  | .trigger payload => ((triggerQuest payload).exec s).2
  | .elapse milliseconds => s.elapsed milliseconds

def turnsOf (s : State) : QuestOp → List Turn
  | .trigger payload => (s.questsFor payload.trigger).map fun entry => .take payload entry.1
  | .elapse milliseconds => [.elapse milliseconds]

theorem turnStep_take (payload : GamificationTriggerPayload) (found : s.quests.find? questId = some quest) :
    turnStep s (.take payload questId) = s.turned payload questId quest := by
  rw [turnStep, found]

theorem turnStep_quests (s : State) (turn : Turn) : (turnStep s turn).quests = s.quests := by
  cases turn with
  | take payload questId =>
    rw [turnStep]
    split
    · exact turned_quests s payload questId _
    · rfl
  | elapse milliseconds => rfl

theorem follow_quests (s : State) (turns : List Turn) : (follow turnStep s turns).quests = s.quests := by
  induction turns generalizing s with
  | nil => rfl
  | cons turn rest ih => rw [follow_cons, ih, turnStep_quests]

theorem follow_unknown (unknown : s.knows payload.userId = false) (entries : List (QuestId × Quest)) :
    follow turnStep s (entries.map fun entry => .take payload entry.1) = s := by
  induction entries with
  | nil => rfl
  | cons entry rest ih =>
    have skips : turnStep s (.take payload entry.1) = s := by
      rw [turnStep]
      split
      · rw [turned, skips, unknown]
        rfl
      · rfl
    rw [List.map_cons, follow_cons, skips]
    exact ih

theorem questTurns_exec (s : State) (payload : GamificationTriggerPayload) (completed : List QuestCompletedDto)
    (entries : List (QuestId × Quest)) (listed : ∀ entry ∈ entries, s.quests.find? entry.1 = some entry.2) :
    ((questTurns payload completed entries).exec s).2 =
      follow turnStep s (entries.map fun entry => .take payload entry.1) := by
  induction entries generalizing s completed with
  | nil => rfl
  | cons entry rest ih =>
    obtain ⟨questId, quest⟩ := entry
    obtain ⟨after, ends⟩ := turn_exec s payload questId quest
    have found : s.quests.find? questId = some quest := listed (questId, quest) List.mem_cons_self
    rw [List.map_cons, follow_cons, turnStep_take payload found, questTurns, Flow.exec]
    cases outcome : ((questTurn payload questId quest).exec s).1 with
    | ok dto =>
      have ran : run answer (questTurn payload questId quest) s =
          (.ok dto, s.turned payload questId quest) := Prod.ext outcome after
      rw [run_bind_of_ok _ ran]
      refine ih (s.turned payload questId quest) _ fun entry among => ?_
      rw [turned_quests]
      exact listed entry (List.mem_cons_of_mem _ among)
    | error error =>
      have ran : run answer (questTurn payload questId quest) s =
          (.error error, s.turned payload questId quest) := Prod.ext outcome after
      have unknown : s.knows payload.userId = false := by
        obtain ⟨dto, returned⟩ | unknown := ends
        · cases outcome.symm.trans returned
        · exact unknown
      have unknown' : (s.turned payload questId quest).knows payload.userId = false := by
        rw [turned_knows, unknown]
      rw [run_bind_of_error _ ran, follow_unknown unknown']

/-- **A trigger is the sequence of its turns.** -/
theorem questStep_turns (s : State) (op : QuestOp) : questStep s op = follow turnStep s (turnsOf s op) := by
  cases op with
  | trigger payload =>
    have asked : answer (.questFindMany payload.trigger) s = (s.questsFor payload.trigger, s) := rfl
    have enters : (triggerQuest payload).exec s =
        (questTurns payload [] (s.questsFor payload.trigger)).exec s :=
      run_call_of_answer answer asked _
    rw [questStep, enters, questTurns_exec]
    · rfl
    · rintro ⟨questId, quest⟩ among
      exact (mem_select.mp among).1
  | elapse milliseconds => rfl

/-- A run of triggers is the run of its turns. -/
theorem follow_questStep (s : State) (ops : List QuestOp) :
    follow questStep s ops = follow turnStep s (ops.flatMap (turnsOf s)) := by
  induction ops generalizing s with
  | nil => rfl
  | cons op rest ih =>
    have same : turnsOf (questStep s op) = turnsOf s := by
      funext other
      cases other with
      | trigger payload =>
        rw [turnsOf, turnsOf, questsFor, questsFor, questStep_turns, follow_quests]
      | elapse milliseconds => rfl
    rw [follow_cons, ih, same, List.flatMap_cons, follow_append, questStep_turns]

end Motogram.Gamification
