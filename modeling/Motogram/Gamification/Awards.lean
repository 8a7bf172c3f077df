import Motogram.Gamification.Turns

/-!
# Awards of a repeatable quest

The date of reset that a row keeps is the end of the period of its last trigger, so a row is due for
a reset exactly when a new period has begun. Until then a completed quest stays completed, and since
its progress only grows, each further trigger completes it again: experience is awarded anew, and a
notification is made for the badge the user has already.

No period of a quest has two awards exactly when no turn takes the quest while it stands completed,
and no badge has two notifications exactly when no turn completes a quest whose badge the user has
(`quest_awards_iff`).
-/

set_option autoImplicit false

namespace Motogram.Gamification

open Foundation Table
open Calendar

variable {s : State} {userId : UserId} {questId : QuestId} {quest : Quest} {badgeId : BadgeId}

/-! ## Periods -/

/-- The dates at which the periods of a kind begin and end. -/
def Boundary : QuestResetPeriod → Time → Prop
  | .daily => MidnightOf fun _ => True
  | .weekly => MidnightOf fun day => weekday day = 0
  | .monthly => MidnightOf fun day => ∃ month, day = monthStart month
  | .none => fun _ => False

theorem nextResetAt_isNext {date resetAt : Time} {period : QuestResetPeriod}
    (resets : nextResetAt date period = some resetAt) : IsNext (Boundary period) date resetAt := by
  cases period with
  | daily =>
    cases resets
    exact isNext_day date
  | weekly =>
    cases resets
    exact isNext_sunday date
  | monthly =>
    cases resets
    exact isNext_month date
  | none => cases resets

/-- Two dates have the same date of reset as long as that date has not come. -/
theorem nextResetAt_eq {first second : Time} {period : QuestResetPeriod} (after : first ≤ second)
    (within : ∀ resetAt, nextResetAt first period = some resetAt → second < resetAt) :
    nextResetAt second period = nextResetAt first period := by
  cases one : nextResetAt first period with
  | none =>
    cases period with
    | none => rfl
    | daily | weekly | monthly => cases one
  | some resetAt =>
    have before := within resetAt one
    cases two : nextResetAt second period with
    | none =>
      cases period with
      | none => cases one
      | daily | weekly | monthly => cases two
    | some resetAt' =>
      have same := ((nextResetAt_isNext one).later after before).unique (nextResetAt_isNext two)
      rw [same]

/-- When the date of reset has come, the new one is later than those of all earlier dates. -/
theorem nextResetAt_ne {first second third : Time} {period : QuestResetPeriod} {resetAt : Time}
    (after : first ≤ second) (resets : nextResetAt second period = some resetAt) (come : resetAt ≤ third) :
    nextResetAt first period ≠ nextResetAt third period := by
  intro same
  cases two : nextResetAt third period with
  | none =>
    cases period with
    | none => cases resets
    | daily | weekly | monthly => cases two
  | some later =>
    rw [two] at same
    have bound := (nextResetAt_isNext same).le (nextResetAt_isNext resets) after
    have future := (nextResetAt_isNext two).lt
    exact absurd (bound.trans come) (Nat.not_le_of_lt future)

/-! ## What is asked of a run -/

/-- The dates at which the user was awarded experience for the quest. -/
def State.awardsOf (s : State) (userId : UserId) (questId : QuestId) : List Time :=
  (s.awards.filter fun award => decide (award.userId = userId) && decide (award.questId = questId)).map
    Award.awardedAt

/-- No two awards of the quest fall into one period. -/
def State.AwardedOnce (s : State) (userId : UserId) (questId : QuestId) (quest : Quest) : Prop :=
  (s.awardsOf userId questId).Pairwise fun first second =>
    nextResetAt first quest.resetPeriod ≠ nextResetAt second quest.resetPeriod

def Notification.isFor (userId : UserId) (badgeId : BadgeId) (notification : Notification) : Bool :=
  decide (notification.userId = userId) && decide (notification.type = .badgeEarned) &&
    decide (notification.data = .badge badgeId)

/-- At most one notification tells the user of the badge. -/
def State.BadgedOnce (s : State) (userId : UserId) (badgeId : BadgeId) : Prop :=
  s.notifications.countP (Notification.isFor userId badgeId) ≤ 1

/-- The quest stands completed: the row says so, and its date of reset has not come. -/
def State.stands (s : State) (userId : UserId) (questId : QuestId) (quest : Quest) : Bool :=
  (s.questProgress.find? (userId, questId)).any fun row => row.completed && !dueForReset quest s.now row

def State.Waits (userId : UserId) (questId : QuestId) (quest : Quest) (s : State) : Turn → Prop
  | .take payload taken =>
    payload.userId = userId → taken = questId → s.stands userId questId quest = false
  | .elapse _ => True

def State.FirstBadge (userId : UserId) (badgeId : BadgeId) (s : State) : Turn → Prop
  | .take payload taken =>
    payload.userId = userId → ∀ quest, s.quests.find? taken = some quest →
      quest.badge.map BadgeDto.id = some badgeId → s.completes payload taken quest = true →
        s.userBadges.find? (userId, badgeId) = none
  | .elapse _ => True

/-! ## The awards of one quest -/

/-- A row goes with the awards: its date of reset is the end of the period of its last trigger, no
award is later, and the quest is completed when the period has an award. -/
structure RowAccounts (quest : Quest) (awards : List Time) (now : Time) (row : QuestProgress) : Prop where
  written : ∃ date ≤ now, row.resetAt = nextResetAt date quest.resetPeriod ∧ ∀ award ∈ awards, award ≤ date
  completed : ∀ award ∈ awards, nextResetAt award quest.resetPeriod = row.resetAt → row.completed = true
  reached : row.completed = true → quest.targetValue ≤ row.progress
  awarded : row.completed = true → ∃ award ∈ awards, nextResetAt award quest.resetPeriod = row.resetAt

structure State.Accounts (s : State) (userId : UserId) (questId : QuestId) (quest : Quest) : Prop where
  known : (s.questProgress.find? (userId, questId)).isSome → s.knows userId = true
  absent : s.questProgress.find? (userId, questId) = none → s.awardsOf userId questId = []
  present : ∀ row, s.questProgress.find? (userId, questId) = some row →
    RowAccounts quest (s.awardsOf userId questId) s.now row

theorem awardsOf_append (s : State) (award : Award) (userId : UserId) (questId : QuestId) :
    (s.awarded award).awardsOf userId questId =
      if award.userId = userId ∧ award.questId = questId then s.awardsOf userId questId ++ [award.awardedAt]
      else s.awardsOf userId questId := by
  by_cases own : award.userId = userId ∧ award.questId = questId
  · simp [State.awardsOf, own]
  · rw [if_neg own]
    have others : (decide (award.userId = userId) && decide (award.questId = questId)) = false := by
      simpa using own
    simp [State.awardsOf, others]

section Steps

variable {payload : GamificationTriggerPayload}

theorem turned_awardsOf (s : State) (payload : GamificationTriggerPayload) (taken : QuestId) (quest : Quest)
    (userId : UserId) (questId : QuestId) : (s.turned payload taken quest).awardsOf userId questId =
      if s.completes payload taken quest = true ∧ payload.userId = userId ∧ taken = questId then
        s.awardsOf userId questId ++ [s.now]
      else s.awardsOf userId questId := by
  have appended := awardsOf_append s ⟨payload.userId, taken, s.now⟩ userId questId
  have same : ∀ t : State, t.awards = (s.turned payload taken quest).awards →
      (s.turned payload taken quest).awardsOf userId questId = t.awardsOf userId questId := by
    intro t equal
    rw [State.awardsOf, State.awardsOf, equal]
  cases completes : s.completes payload taken quest with
  | true =>
    rw [same (s.awarded ⟨payload.userId, taken, s.now⟩) (by rw [turned_awards, completes]; rfl), appended]
    simp only [true_and]
  | false =>
    rw [same s (by rw [turned_awards, completes]; rfl), if_neg fun both => nomatch both.1]

theorem turned_row_of_ne (s : State) (payload : GamificationTriggerPayload) (taken : QuestId) (quest : Quest)
    (other : (userId, questId) ≠ (payload.userId, taken)) :
    (s.turned payload taken quest).questProgress.find? (userId, questId) =
      s.questProgress.find? (userId, questId) := by
  rw [turned_questProgress]
  split
  · rfl
  · rw [find?_upsert, if_neg other]

theorem turned_row (s : State) (payload : GamificationTriggerPayload) (questId : QuestId) (quest : Quest)
    (goesOn : s.skips payload questId quest = false) :
    (s.turned payload questId quest).questProgress.find? (payload.userId, questId) =
      some (s.rowAfter payload questId quest) := by
  rw [turned_questProgress, goesOn, if_neg Bool.false_ne_true, find?_upsert, if_pos rfl]

variable {awards : List Time} {now : Time} {row : QuestProgress}

/-- The date of reset after a turn is the end of the period the turn is in. -/
theorem RowAccounts.keptResetAt (accounts : RowAccounts quest awards now row)
    (repeats : quest.repeatable = true) :
    keptResetAt quest now (some row) = nextResetAt now quest.resetPeriod := by
  obtain ⟨date, past, resets, -⟩ := accounts.written
  rw [Gamification.keptResetAt]
  cases due : dueForReset quest now row with
  | true => rw [if_pos rfl]
  | false =>
    rw [resets]
    refine (nextResetAt_eq past fun resetAt end_ => ?_).symm
    rw [dueForReset, repeats, resets, end_, Bool.true_and, Option.any_some, decide_eq_false_iff_not] at due
    exact Nat.lt_of_not_le due

theorem RowAccounts.unawarded (accounts : RowAccounts quest awards now row) (repeats : quest.repeatable = true)
    (waits : (row.completed && !dueForReset quest now row) = false) {award : Time} (earlier : award ∈ awards) :
    nextResetAt award quest.resetPeriod ≠ nextResetAt now quest.resetPeriod := by
  obtain ⟨date, past, resets, before⟩ := accounts.written
  cases due : dueForReset quest now row with
  | true =>
    -- the period of the row is over
    rw [dueForReset, Bool.and_eq_true, Option.any_eq_true] at due
    obtain ⟨-, resetAt, kept, come⟩ := due
    rw [resets] at kept
    exact nextResetAt_ne (before award earlier) kept (of_decide_eq_true come)
  | false =>
    rw [due, Bool.not_false, Bool.and_true] at waits
    have kept := accounts.keptResetAt repeats
    rw [Gamification.keptResetAt, due] at kept
    intro same
    have completed := accounts.completed award earlier (same.trans kept.symm)
    rw [waits] at completed
    cases completed

theorem rowAccounts_turn {increment : Nat} {existing : Option QuestProgress} {now : Time}
    (completedAt : Option Time)
    (resets : keptResetAt quest now existing = nextResetAt now quest.resetPeriod)
    (past : ∀ award ∈ awards, award ≤ now)
    (unawarded : ∀ award ∈ awards, nextResetAt award quest.resetPeriod ≠ nextResetAt now quest.resetPeriod) :
    RowAccounts quest (if completedNow quest now increment existing then awards ++ [now] else awards) now
      (progressRow quest now increment existing completedAt) := by
  have among : ∀ award ∈ (if completedNow quest now increment existing then awards ++ [now] else awards),
      award ∈ awards ∨ (award = now ∧ completedNow quest now increment existing = true) := by
    intro award listed
    split at listed
    · rename_i full
      obtain earlier | own := List.mem_append.mp listed
      · exact .inl earlier
      · exact .inr ⟨List.mem_singleton.mp own, full⟩
    · exact .inl listed
  refine ⟨⟨now, Nat.le_refl _, resets, fun award listed => ?_⟩, fun award listed same => ?_, ?_, fun full => ?_⟩
  · obtain earlier | ⟨rfl, -⟩ := among award listed
    · exact past award earlier
    · exact Nat.le_refl _
  · obtain earlier | ⟨-, full⟩ := among award listed
    · exact absurd (same.trans resets) (unawarded award earlier)
    · exact full
  · exact of_decide_eq_true
  · have full : completedNow quest now increment existing = true := full
    refine ⟨now, ?_, resets.symm⟩
    rw [if_pos full]
    exact List.mem_append_right _ List.mem_cons_self

theorem RowAccounts.later {later : Time} {row : QuestProgress} (accounts : RowAccounts quest awards now row)
    (passes : now ≤ later) : RowAccounts quest awards later row := by
  obtain ⟨date, past, rest⟩ := accounts.written
  exact ⟨⟨date, past.trans passes, rest⟩, accounts.completed, accounts.reached, accounts.awarded⟩

theorem skips_of_repeatable (repeats : quest.repeatable = true) (payload : GamificationTriggerPayload)
    (questId : QuestId) : s.skips payload questId quest = !s.knows payload.userId := by
  have open_ : wasAlreadyCompleted quest (s.questProgress.find? (payload.userId, questId)) = false := by
    rw [wasAlreadyCompleted, repeats]
    cases s.questProgress.find? (payload.userId, questId) <;> simp
  rw [State.skips, open_, Bool.or_false]

/-- **A turn of the quest that waits keeps the accounts**, and awards nothing twice in a period. -/
theorem State.Accounts.waits (accounts : s.Accounts payload.userId questId quest) (repeats : quest.repeatable = true)
    (waits : s.stands payload.userId questId quest = false)
    (once : s.AwardedOnce payload.userId questId quest) :
    (s.turned payload questId quest).Accounts payload.userId questId quest ∧
      (s.turned payload questId quest).AwardedOnce payload.userId questId quest := by
  have skips := skips_of_repeatable (s := s) repeats payload questId
  cases known : s.knows payload.userId with
  | false =>
    rw [known] at skips
    rw [State.turned, skips, Bool.not_false]
    exact ⟨accounts, once⟩
  | true =>
    rw [known, Bool.not_true] at skips
    have row := turned_row s payload questId quest skips
    have completes : s.completes payload questId quest =
        completedNow quest s.now payload.increment (s.questProgress.find? (payload.userId, questId)) := by
      rw [State.completes, skips, Bool.not_false, Bool.true_and]
    have awards := turned_awardsOf s payload questId quest payload.userId questId
    rw [completes] at awards
    simp only [and_true] at awards
    -- the period of the turn has no award yet
    have period : keptResetAt quest s.now (s.questProgress.find? (payload.userId, questId)) =
          nextResetAt s.now quest.resetPeriod ∧
        (∀ award ∈ s.awardsOf payload.userId questId, award ≤ s.now) ∧
        ∀ award ∈ s.awardsOf payload.userId questId,
          nextResetAt award quest.resetPeriod ≠ nextResetAt s.now quest.resetPeriod := by
      cases existing : s.questProgress.find? (payload.userId, questId) with
      | none =>
        rw [accounts.absent existing, keptResetAt, if_pos repeats]
        refine ⟨rfl, ?_, ?_⟩
        · rintro award ⟨⟩
        · rintro award ⟨⟩
      | some before =>
        rw [State.stands, existing] at waits
        have present := accounts.present before existing
        obtain ⟨date, past, -, earlier⟩ := present.written
        exact ⟨present.keptResetAt repeats, fun award listed => (earlier award listed).trans past,
          fun award listed => present.unawarded repeats waits listed⟩
    obtain ⟨resets, past, unawarded⟩ := period
    refine ⟨⟨fun _ => ?_, fun free => ?_, fun after found => ?_⟩, ?_⟩
    · rw [turned_knows]
      exact known
    · rw [row] at free
      cases free
    · rw [row] at found
      cases found
      rw [awards, turned_now]
      exact rowAccounts_turn _ resets past unawarded
    · rw [State.AwardedOnce, awards]
      split
      · refine List.pairwise_append.mpr ⟨once, List.pairwise_singleton _ _, fun award listed other own => ?_⟩
        rw [List.mem_singleton.mp own]
        exact unawarded award listed
      · exact once

theorem State.Accounts.stands (accounts : s.Accounts payload.userId questId quest)
    (repeats : quest.repeatable = true) (stands : s.stands payload.userId questId quest = true) :
    ¬ (s.turned payload questId quest).AwardedOnce payload.userId questId quest := by
  rw [State.stands, Option.any_eq_true] at stands
  obtain ⟨row, existing, stands⟩ := stands
  rw [Bool.and_eq_true, Bool.not_eq_true'] at stands
  have present := accounts.present row existing
  have known := accounts.known (Option.isSome_of_eq_some existing)
  obtain ⟨award, listed, same⟩ := present.awarded stands.1
  have kept := present.keptResetAt repeats
  rw [keptResetAt, stands.2] at kept
  -- the progress has been reached, and grows
  have completes : s.completes payload questId quest = true := by
    rw [State.completes, skips_of_repeatable repeats, known, existing, completedNow, nextProgress, stands.2]
    have reached := present.reached stands.1
    simp only [Bool.not_true, Bool.not_false, Bool.true_and, Bool.false_eq_true, if_false, decide_eq_true_eq]
    omega
  intro once
  rw [State.AwardedOnce, turned_awardsOf, if_pos ⟨completes, rfl, rfl⟩, List.pairwise_append] at once
  exact once.2.2 award listed s.now (List.mem_singleton.mpr rfl) (same.trans kept)

theorem turned_other (s : State) (payload : GamificationTriggerPayload) (taken : QuestId) (quest other : Quest)
    (apart : ¬ (payload.userId = userId ∧ taken = questId)) (accounts : s.Accounts userId questId quest) :
    (s.turned payload taken other).Accounts userId questId quest ∧
      (s.turned payload taken other).awardsOf userId questId = s.awardsOf userId questId := by
  have apart' : (userId, questId) ≠ (payload.userId, taken) := fun same =>
    apart ⟨(congrArg Prod.fst same).symm, (congrArg Prod.snd same).symm⟩
  have row := turned_row_of_ne s payload taken other apart'
  have awards : (s.turned payload taken other).awardsOf userId questId = s.awardsOf userId questId := by
    rw [turned_awardsOf, if_neg fun both => apart both.2]
  refine ⟨⟨fun present => ?_, fun free => ?_, fun after found => ?_⟩, awards⟩
  · rw [row] at present
    rw [turned_knows]
    exact accounts.known present
  · rw [row] at free
    rw [awards]
    exact accounts.absent free
  · rw [row] at found
    rw [awards, turned_now]
    exact accounts.present after found

end Steps

/-! ## The awards over a run -/

/-- What the turns keep: the quest is the one there is, its row goes with the awards, and no period has
two. -/
structure State.AwardsSound (userId : UserId) (questId : QuestId) (quest : Quest) (s : State) : Prop where
  found : s.quests.find? questId = some quest
  accounts : s.Accounts userId questId quest
  once : s.AwardedOnce userId questId quest

theorem State.AwardsSound.step (sound : s.AwardsSound userId questId quest) (repeats : quest.repeatable = true)
    {turn : Turn} (waits : s.Waits userId questId quest turn) :
    (turnStep s turn).AwardsSound userId questId quest := by
  obtain ⟨found, accounts, once⟩ := sound
  have kept : (turnStep s turn).quests.find? questId = some quest := by
    rw [turnStep_quests]
    exact found
  cases turn with
  | elapse milliseconds =>
    refine ⟨kept, ⟨accounts.known, accounts.absent, fun row here => ?_⟩, once⟩
    exact (accounts.present row here).later (Nat.le_add_right _ _)
  | take payload taken =>
    by_cases own : payload.userId = userId ∧ taken = questId
    · obtain ⟨rfl, rfl⟩ := own
      rw [turnStep_take payload found] at kept ⊢
      obtain ⟨accounts', once'⟩ := accounts.waits repeats (waits rfl rfl) once
      exact ⟨kept, accounts', once'⟩
    · cases other : s.quests.find? taken with
      | none =>
        have same : turnStep s (.take payload taken) = s := by rw [turnStep, other]
        rw [same]
        exact ⟨found, accounts, once⟩
      | some otherQuest =>
        rw [turnStep_take payload other] at kept ⊢
        obtain ⟨accounts', awards⟩ := turned_other s payload taken quest otherQuest own accounts
        refine ⟨kept, accounts', ?_⟩
        rw [State.AwardedOnce, awards]
        exact once

theorem State.AwardsSound.spoils (sound : s.AwardsSound userId questId quest) (repeats : quest.repeatable = true)
    {turn : Turn} (early : ¬ s.Waits userId questId quest turn) :
    ¬ (turnStep s turn).AwardedOnce userId questId quest := by
  cases turn with
  | elapse milliseconds => exact absurd trivial early
  | take payload taken =>
    rw [State.Waits] at early
    push Not at early
    obtain ⟨rfl, rfl, stands⟩ := early
    rw [turnStep_take payload sound.found]
    exact sound.accounts.stands repeats (by simpa using stands)

theorem awardedOnce_of_step {turn : Turn} (once : (turnStep s turn).AwardedOnce userId questId quest) :
    s.AwardedOnce userId questId quest := by
  cases turn with
  | elapse milliseconds => exact once
  | take payload taken =>
    rw [turnStep] at once
    split at once
    · rw [State.AwardedOnce, turned_awardsOf] at once
      split at once
      · exact (List.pairwise_append.mp once).1
      · exact once
    · exact once

theorem awardedOnce_iff (sound : s.AwardsSound userId questId quest) (repeats : quest.repeatable = true)
    (turns : List Turn) : (follow turnStep s turns).AwardedOnce userId questId quest ↔
      EachStep turnStep (State.Waits userId questId quest) s turns := by
  have keeps : ∀ t turn, State.AwardsSound userId questId quest t → State.Waits userId questId quest t turn →
      State.AwardsSound userId questId quest (turnStep t turn) :=
    fun _ _ sound waits => sound.step repeats waits
  constructor
  · intro once
    have spoils : ∀ t turn, State.AwardsSound userId questId quest t →
        ¬ State.Waits userId questId quest t turn → ¬ State.AwardedOnce (turnStep t turn) userId questId quest :=
      fun _ _ sound early => sound.spoils repeats early
    have stuck : ∀ t turn, ¬ State.AwardedOnce t userId questId quest →
        ¬ State.AwardedOnce (turnStep t turn) userId questId quest :=
      fun _ _ twice once => twice (awardedOnce_of_step once)
    exact eachStep_of_unspoiled keeps spoils stuck sound (not_not.mpr once)
  · intro waits
    exact (last_of_keeps keeps sound waits).once

/-! ## The notifications of one badge -/

theorem turned_badgeCount (s : State) (payload : GamificationTriggerPayload) (taken : QuestId) (quest : Quest)
    (userId : UserId) (badgeId : BadgeId) :
    (s.turned payload taken quest).notifications.countP (Notification.isFor userId badgeId) =
      s.notifications.countP (Notification.isFor userId badgeId) +
        if s.completes payload taken quest = true ∧ payload.userId = userId ∧
          quest.badge.map BadgeDto.id = some badgeId then 1 else 0 := by
  rw [turned_notifications]
  cases s.completes payload taken quest with
  | false => simp
  | true =>
    cases quest.badge with
    | none => simp [questNotification, Notification.isFor]
    | some badge => simp [questNotification, badgeNotification, Notification.isFor]

theorem turned_owns (s : State) (payload : GamificationTriggerPayload) (taken : QuestId) (quest : Quest)
    (userId : UserId) (badgeId : BadgeId) :
    ((s.turned payload taken quest).userBadges.find? (userId, badgeId)).isSome =
      ((s.userBadges.find? (userId, badgeId)).isSome ||
        decide (s.completes payload taken quest = true ∧ payload.userId = userId ∧
          quest.badge.map BadgeDto.id = some badgeId)) := by
  rw [turned_userBadges]
  cases s.completes payload taken quest with
  | false => simp
  | true =>
    cases quest.badge with
    | none => simp [State.badged]
    | some badge =>
      change ((s.userBadges.insert (payload.userId, badge.id) _).find? (userId, badgeId)).isSome = _
      rw [find?_insert]
      by_cases own : (userId, badgeId) = (payload.userId, badge.id)
      · cases own
        cases s.userBadges.find? (payload.userId, badge.id) <;> simp
      · rw [if_neg fun both => own both.1]
        have apart : ¬ (payload.userId = userId ∧ badge.id = badgeId) := fun both =>
          own (Prod.ext both.1.symm both.2.symm)
        simp [apart]

/-- A badge the user has was told of once, and one the user does not have was not told of. -/
def State.BadgeSound (userId : UserId) (badgeId : BadgeId) (s : State) : Prop :=
  s.notifications.countP (Notification.isFor userId badgeId) =
    (s.userBadges.find? (userId, badgeId)).isSome.toNat

theorem State.BadgeSound.once (sound : s.BadgeSound userId badgeId) : s.BadgedOnce userId badgeId := by
  rw [State.BadgedOnce, sound]
  exact Bool.toNat_le _

theorem State.BadgeSound.step (sound : s.BadgeSound userId badgeId) {turn : Turn}
    (first : s.FirstBadge userId badgeId turn) : (turnStep s turn).BadgeSound userId badgeId := by
  cases turn with
  | elapse milliseconds => exact sound
  | take payload taken =>
    rw [turnStep]
    split
    · rename_i quest found
      rw [State.BadgeSound, turned_badgeCount, turned_owns, sound]
      by_cases earns : s.completes payload taken quest = true ∧ payload.userId = userId ∧
          quest.badge.map BadgeDto.id = some badgeId
      · have free := first earns.2.1 quest found earns.2.2 earns.1
        simp [earns, free]
      · rw [if_neg earns, decide_eq_false earns, Bool.or_false]
        rfl
    · exact sound

theorem State.BadgeSound.spoils (sound : s.BadgeSound userId badgeId) {turn : Turn}
    (again : ¬ s.FirstBadge userId badgeId turn) : ¬ (turnStep s turn).BadgedOnce userId badgeId := by
  cases turn with
  | elapse milliseconds => exact absurd trivial again
  | take payload taken =>
    rw [State.FirstBadge] at again
    push Not at again
    obtain ⟨own, quest, found, badge, completes, has⟩ := again
    have owned : (s.userBadges.find? (userId, badgeId)).isSome = true := Option.isSome_iff_ne_none.mpr has
    rw [turnStep_take payload found, State.BadgedOnce, turned_badgeCount, sound, owned,
      if_pos ⟨completes, own, badge⟩]
    decide

/-- No notification is taken back. -/
theorem badgedOnce_of_step {turn : Turn} (once : (turnStep s turn).BadgedOnce userId badgeId) :
    s.BadgedOnce userId badgeId := by
  cases turn with
  | elapse milliseconds => exact once
  | take payload taken =>
    rw [turnStep] at once
    split at once
    · rw [State.BadgedOnce, turned_badgeCount] at once
      exact (Nat.le_add_right _ _).trans once
    · exact once

/-- No badge has two notifications in the end exactly when every quest that is completed has a badge the
user does not have. -/
theorem badgedOnce_iff (sound : s.BadgeSound userId badgeId) (turns : List Turn) :
    (follow turnStep s turns).BadgedOnce userId badgeId ↔
      EachStep turnStep (State.FirstBadge userId badgeId) s turns := by
  have keeps : ∀ t turn, State.BadgeSound userId badgeId t → State.FirstBadge userId badgeId t turn →
      State.BadgeSound userId badgeId (turnStep t turn) := fun _ _ sound first => sound.step first
  constructor
  · intro once
    have spoils : ∀ t turn, State.BadgeSound userId badgeId t → ¬ State.FirstBadge userId badgeId t turn →
        ¬ State.BadgedOnce (turnStep t turn) userId badgeId := fun _ _ sound again => sound.spoils again
    have stuck : ∀ t turn, ¬ State.BadgedOnce t userId badgeId →
        ¬ State.BadgedOnce (turnStep t turn) userId badgeId :=
      fun _ _ twice once => twice (badgedOnce_of_step once)
    exact eachStep_of_unspoiled keeps spoils stuck sound (not_not.mpr once)
  · intro first
    exact (last_of_keeps keeps sound first).once

/-! ## The whole run -/

theorem awardsSound_of_new (found : s.quests.find? questId = some quest)
    (row : s.questProgress.find? (userId, questId) = none) (awards : s.awardsOf userId questId = []) :
    s.AwardsSound userId questId quest := by
  refine ⟨found, ⟨fun present => ?_, fun _ => awards, fun before there => ?_⟩, ?_⟩
  · rw [row] at present
    cases present
  · rw [row] at there
    cases there
  · rw [State.AwardedOnce, awards]
    exact List.Pairwise.nil

/-- **No period of a repeatable quest has two awards exactly when no turn takes the quest while it
stands completed, and no badge has two notifications exactly when no turn completes a quest whose badge
the user has.** -/
theorem quest_awards_iff (repeats : quest.repeatable = true) (awards : s.AwardsSound userId questId quest)
    (badges : s.BadgeSound userId badgeId) (ops : List QuestOp) :
    ((follow questStep s ops).AwardedOnce userId questId quest ↔
        EachStep turnStep (State.Waits userId questId quest) s (ops.flatMap (turnsOf s))) ∧
      ((follow questStep s ops).BadgedOnce userId badgeId ↔
        EachStep turnStep (State.FirstBadge userId badgeId) s (ops.flatMap (turnsOf s))) := by
  rw [follow_questStep]
  exact ⟨awardedOnce_iff awards repeats _, badgedOnce_iff badges _⟩

/-! ## A daily quest -/

def storyBadge : BadgeDto :=
  ⟨"storyteller", "STORYTELLER", "Storyteller", "", none, some "social", .common, 10, true⟩

/-- A story a day. -/
def dailyStory : Quest where
  code := "DAILY_STORY"
  name := "Daily story"
  trigger := .storyCreated
  targetValue := 1
  xpReward := 10
  badge := some storyBadge
  repeatable := true
  resetPeriod := .daily
  isActive := true

def smallInstallation : State where
  now := 0
  quests := empty.insert "daily" dailyStory
  users := empty.insert 1 ⟨0, 1⟩
  questProgress := .empty
  userBadges := .empty
  notificationPreferences := .empty
  notifications := []
  emissions := []
  awards := []

def storyPosted : QuestOp := .trigger ⟨1, .storyCreated, 1, by decide⟩

theorem smallInstallation_badges : smallInstallation.BadgeSound 1 "storyteller" := rfl

theorem quest_awards_small :
    ((follow questStep smallInstallation [storyPosted, .elapse 5]).AwardedOnce 1 "daily" dailyStory ↔
        EachStep turnStep (State.Waits 1 "daily" dailyStory) smallInstallation
          ([storyPosted, .elapse 5].flatMap (turnsOf smallInstallation))) ∧
      ((follow questStep smallInstallation [storyPosted, .elapse 5]).BadgedOnce 1 "storyteller" ↔
        EachStep turnStep (State.FirstBadge 1 "storyteller") smallInstallation
          ([storyPosted, .elapse 5].flatMap (turnsOf smallInstallation))) :=
  quest_awards_iff rfl (awardsSound_of_new rfl rfl rfl) smallInstallation_badges _

/-- Two stories on one day are awarded twice, and the story of the next day brings the badge again. -/
theorem awarded_twice :
    (¬ ∀ ops, (follow questStep smallInstallation ops).AwardedOnce 1 "daily" dailyStory) ∧
      ¬ ∀ ops, (follow questStep smallInstallation ops).BadgedOnce 1 "storyteller" := by
  constructor
  · intro claim
    have once := claim [storyPosted, storyPosted]
    have awards : (follow questStep smallInstallation [storyPosted, storyPosted]).awardsOf 1 "daily" = [0, 0] := by
      decide +kernel
    rw [State.AwardedOnce, awards, List.pairwise_pair] at once
    exact once rfl
  · intro claim
    have once := claim [storyPosted, .elapse dayMs, storyPosted]
    have notified : (follow questStep smallInstallation [storyPosted, .elapse dayMs, storyPosted]).notifications.countP
        (Notification.isFor 1 "storyteller") = 2 := by
      decide +kernel
    rw [State.BadgedOnce, notified] at once
    exact absurd once (by decide)

end Motogram.Gamification
