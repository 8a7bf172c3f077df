import Motogram.Foundation.Staging
import Motogram.Foundation.Tally
import Motogram.Gamification.Turns

/-!
# Triggers that overlap

Any number of triggers of one user, each call of a store atomic, in every order. The progress of a
quest is read and later written as a whole, the experience is added to, and the level is computed from
what the addition returns and written later.

A write of progress is undisturbed when the row still is the one that was read, and a level is current
when it is that of the experience there is, or when another trigger still has to write its own. When
all writes are so and all triggers have ended, a quest that is not repeatable has been awarded at most
once, its progress is the sum of the increments unless it was completed, and the level is that of the
experience (`triggers_settle`).
-/

set_option autoImplicit false

namespace Motogram.Gamification

open Foundation Program Function Table Pool State

variable {Index : Type} {s start : State} {userId : UserId} {questId : QuestId} {quest : Quest}
  {payload : GamificationTriggerPayload}

/-! ## The calls -/

abbrev TriggerPool (Index : Type) :=
  Pool Index QuestCall QuestReply ServiceError (List QuestCompletedDto) State

/-- Triggers that have not begun. -/
def triggerPool (payloads : Index → GamificationTriggerPayload) (s : State) : TriggerPool Index where
  threads := fun index => triggerQuest (payloads index)
  store := s

def GamificationTriggerPayload.adds (payload : GamificationTriggerPayload) (quest : Quest) : Nat :=
  if quest.trigger = payload.trigger ∧ quest.isActive = true then payload.increment else 0

def State.progressOf (s : State) (userId : UserId) (questId : QuestId) : Nat :=
  ((s.questProgress.find? (userId, questId)).map QuestProgress.progress).getD 0

def State.hasCompleted (s : State) (userId : UserId) (questId : QuestId) : Bool :=
  (s.questProgress.find? (userId, questId)).any QuestProgress.completed

/-- How often the user was awarded experience for the quest. -/
def State.awardCount (s : State) (userId : UserId) (questId : QuestId) : Nat :=
  s.awards.countP fun award => decide (award.userId = userId) && decide (award.questId = questId)

def State.LevelRight (s : State) (userId : UserId) : Prop :=
  ∀ user, s.users.find? userId = some user → user.level = levelFor user.xp

/-- What is asked of the state when all triggers have ended: a quest that is not repeatable has been
awarded at most once, and not again when it was completed before; when it never was completed its
progress is the sum of the increments; the level is that of the experience. -/
structure Settled [Fintype Index] (payloads : Index → GamificationTriggerPayload) (start : State)
    (userId : UserId) (s : State) : Prop where
  once : ∀ questId quest, start.quests.find? questId = some quest → quest.repeatable = false →
    s.awardCount userId questId + (start.hasCompleted userId questId).toNat ≤ 1
  progress : ∀ questId quest, start.quests.find? questId = some quest → quest.repeatable = false →
    start.hasCompleted userId questId = false → s.awardCount userId questId = 0 →
      s.progressOf userId questId = start.progressOf userId questId + ∑ index, (payloads index).adds quest
  level : s.LevelRight userId

def QuestCall.writesLevel : QuestCall → Bool
  | .userUpdateLevel _ _ => true
  | _ => false

/-- The row that the progress of a quest that is not repeatable is computed from still is the one there
is when it is written, and the level that is written is that of the experience there is, or another
trigger still has to write its own. -/
def UpToDate (pool : TriggerPool Index) (index : Index) : Prop :=
  match pool.next? index with
  | some (.questProgressUpsert userId questId existing _ _) =>
    ∀ quest ∈ pool.store.quests.find? questId, quest.repeatable = false →
      pool.store.questProgress.find? (userId, questId) = existing
  | some (.userUpdateLevel userId level) =>
    (∀ user ∈ pool.store.users.find? userId, level = levelFor user.xp) ∨
      ∃ other, other ≠ index ∧ (pool.next? other).any QuestCall.writesLevel = true
  | _ => True

instance [Fintype Index] [DecidableEq Index] (pool : TriggerPool Index) (index : Index) :
    Decidable (UpToDate pool index) := by
  unfold UpToDate
  split <;> infer_instance

/-! ## Stages -/

def Known (userId : UserId) (s : State) : Prop := s.knows userId = true

/-- A call that writes neither progress nor experience nor a level. -/
def QuestCall.Quiet : QuestCall → Prop
  | .questProgressUpsert _ _ _ _ _ | .userIncrementXp _ _ _ | .userUpdateLevel _ _ => False
  | _ => True

/-- How far a trigger has come: with the quests that are completed so far and those to come. -/
inductive TriggerStage where
  | start
  | turn (completed : List QuestCompletedDto) (rest : List (QuestId × Quest))
  | read (completed : List QuestCompletedDto) (questId : QuestId) (quest : Quest)
      (rest : List (QuestId × Quest)) (existing : Option QuestProgress)
  | save (completed : List QuestCompletedDto) (questId : QuestId) (quest : Quest)
      (rest : List (QuestId × Quest)) (existing : Option QuestProgress) (now : Time)
  | earn (completed : List QuestCompletedDto) (questId : QuestId) (quest : Quest)
      (rest : List (QuestId × Quest))
  | level (completed : List QuestCompletedDto) (questId : QuestId) (quest : Quest)
      (rest : List (QuestId × Quest)) (xp : Nat)
  | after (completed : List QuestCompletedDto) (rest : List (QuestId × Quest)) (part : Flow QuestCompletedDto)

/-- The body of the loop from the clock on. -/
def clockTurn (payload : GamificationTriggerPayload) (questId : QuestId) (quest : Quest)
    (existing : Option QuestProgress) : Flow (Option QuestCompletedDto) := do
  let now : Time ← call .dateNow
  if wasAlreadyCompleted quest existing then pure none
  else saveProgress payload questId quest existing now

def TriggerStage.program (payload : GamificationTriggerPayload) : TriggerStage → Flow (List QuestCompletedDto)
  | .start => triggerQuest payload
  | .turn completed rest => questTurns payload completed rest
  | .read completed questId quest rest existing => do
    let dto ← clockTurn payload questId quest existing
    questTurns payload (completed ++ dto.toList) rest
  | .save completed questId quest rest existing now => do
    let dto ← saveProgress payload questId quest existing now
    questTurns payload (completed ++ dto.toList) rest
  | .earn completed questId quest rest => do
    let dto ← awardQuest payload.userId questId quest
    questTurns payload (completed ++ [dto]) rest
  | .level completed questId quest rest xp => do
    let dto ← saveLevel payload.userId questId quest xp
    questTurns payload (completed ++ [dto]) rest
  | .after completed rest part => do
    let dto ← part
    questTurns payload (completed ++ [dto]) rest

/-- The next quest is taken when a part has returned. -/
def TriggerStage.settle (completed : List QuestCompletedDto) (rest : List (QuestId × Quest)) :
    Flow QuestCompletedDto → TriggerStage
  | .done dto => .turn (completed ++ [dto]) rest
  | .fail error => .after completed rest (.fail error)
  | .call request next => .after completed rest (.call request next)

theorem settle_program (completed : List QuestCompletedDto) (rest : List (QuestId × Quest))
    (part : Flow QuestCompletedDto) :
    (TriggerStage.settle completed rest part).program payload =
      part >>= fun dto => questTurns payload (completed ++ [dto]) rest := by
  cases part <;> rfl

inductive TriggerMoves (payload : GamificationTriggerPayload) (s : State) :
    TriggerStage → QuestCall → TriggerStage → Prop where
  | find : TriggerMoves payload s .start (.questFindMany payload.trigger)
      (.turn [] (s.questsFor payload.trigger))
  | look {completed : List QuestCompletedDto} {questId : QuestId} {quest : Quest}
      {rest : List (QuestId × Quest)} :
      TriggerMoves payload s (.turn completed ((questId, quest) :: rest))
        (.questProgressFindUnique payload.userId questId)
        (.read completed questId quest rest (s.questProgress.find? (payload.userId, questId)))
  | skip {completed : List QuestCompletedDto} {questId : QuestId} {quest : Quest}
      {rest : List (QuestId × Quest)} {existing : Option QuestProgress}
      (already : wasAlreadyCompleted quest existing = true) :
      TriggerMoves payload s (.read completed questId quest rest existing) .dateNow
        (.turn (completed ++ []) rest)
  | clock {completed : List QuestCompletedDto} {questId : QuestId} {quest : Quest}
      {rest : List (QuestId × Quest)} {existing : Option QuestProgress}
      (goesOn : wasAlreadyCompleted quest existing = false) :
      TriggerMoves payload s (.read completed questId quest rest existing) .dateNow
        (.save completed questId quest rest existing s.now)
  | short {completed : List QuestCompletedDto} {questId : QuestId} {quest : Quest}
      {rest : List (QuestId × Quest)} {existing : Option QuestProgress} {now : Time}
      (short : completedNow quest now payload.increment existing = false) :
      TriggerMoves payload s (.save completed questId quest rest existing now)
        (.questProgressUpsert payload.userId questId existing
          (progressRow quest now payload.increment existing none)
          (progressRow quest now payload.increment existing (existing.bind QuestProgress.completedAt)))
        (.turn (completed ++ []) rest)
  | full {completed : List QuestCompletedDto} {questId : QuestId} {quest : Quest}
      {rest : List (QuestId × Quest)} {existing : Option QuestProgress} {now : Time}
      (full : completedNow quest now payload.increment existing = true) :
      TriggerMoves payload s (.save completed questId quest rest existing now)
        (.questProgressUpsert payload.userId questId existing
          (progressRow quest now payload.increment existing none)
          (progressRow quest now payload.increment existing (existing.bind QuestProgress.completedAt)))
        (.earn completed questId quest rest)
  | earn {completed : List QuestCompletedDto} {questId : QuestId} {quest : Quest}
      {rest : List (QuestId × Quest)} {user : UserRow} (found : s.users.find? payload.userId = some user) :
      TriggerMoves payload s (.earn completed questId quest rest)
        (.userIncrementXp payload.userId questId quest.xpReward)
        (.level completed questId quest rest (user.xp + quest.xpReward))
  | level {completed : List QuestCompletedDto} {questId : QuestId} {quest : Quest}
      {rest : List (QuestId × Quest)} {xp : Nat} :
      TriggerMoves payload s (.level completed questId quest rest xp)
        (.userUpdateLevel payload.userId (levelFor xp))
        (.settle completed rest (announce payload.userId questId quest xp))
  | quiet {completed : List QuestCompletedDto} {rest : List (QuestId × Quest)}
      {part part' : Flow QuestCompletedDto} {request : QuestCall} (quiet : request.Quiet)
      (finishes : part'.Finishes answer QuestCall.Quiet (Known payload.userId)) :
      TriggerMoves payload s (.after completed rest part) request (.settle completed rest part')

/-- The quests of a list are those there are, each once. -/
structure Listed (quests : Table QuestId Quest) (entries : List (QuestId × Quest)) : Prop where
  found : ∀ entry ∈ entries, quests.find? entry.1 = some entry.2
  nodup : (entries.map Prod.fst).Nodup

/-- The quests whose progress is still to be written. -/
def TriggerStage.pending (s : State) (payload : GamificationTriggerPayload) :
    TriggerStage → List (QuestId × Quest)
  | .start => s.questsFor payload.trigger
  | .turn _ rest => rest
  | .read _ questId quest rest _ => (questId, quest) :: rest
  | .save _ questId quest rest _ _ => (questId, quest) :: rest
  | .earn _ _ _ rest => rest
  | .level _ _ _ rest _ => rest
  | .after _ rest _ => rest

/-- What the stage itself says: a quest that is not skipped was not completed when it was read, and
after the level is written nothing is written that matters and nothing fails. -/
def TriggerStage.Valid (userId : UserId) : TriggerStage → Prop
  | .save _ _ quest _ existing _ => wasAlreadyCompleted quest existing = false
  | .after _ _ part =>
    part.Finishes answer QuestCall.Quiet (Known userId) ∧ ∀ dto, part ≠ .done dto
  | _ => True

theorem settle_valid {completed : List QuestCompletedDto} {rest : List (QuestId × Quest)}
    {part : Flow QuestCompletedDto} (finishes : part.Finishes answer QuestCall.Quiet (Known userId)) :
    (TriggerStage.settle completed rest part).Valid userId := by
  cases part with
  | done dto => trivial
  | fail error => exact finishes.elim
  | call request next => exact ⟨finishes, fun _ => nofun⟩

theorem createNotification_finishes (notification : Notification) :
    (createNotification notification).Finishes answer QuestCall.Quiet (Known notification.userId) := by
  refine ⟨trivial, fun s known => ?_⟩
  change Finishes _ _ _ (if _ then _ else _)
  split
  · refine ⟨trivial, fun s known => ?_⟩
    obtain ⟨user, found⟩ := Option.isSome_iff_exists.mp known
    simp only [answer, found]
    trivial
  · trivial

theorem announce_finishes (userId : UserId) (questId : QuestId) (quest : Quest) (xp : Nat) :
    (announce userId questId quest xp).Finishes answer QuestCall.Quiet (Known userId) := by
  have unlocks : (unlockBadge userId questId quest.badge).Finishes answer QuestCall.Quiet
      (Known userId) := by
    cases quest.badge with
    | none => trivial
    | some badge =>
      refine ⟨trivial, fun s known => ?_⟩
      obtain ⟨user, found⟩ := Option.isSome_iff_exists.mp known
      simp only [answer, found]
      trivial
  have notifies : (notifyBadge userId quest.badge).Finishes answer QuestCall.Quiet (Known userId) := by
    cases quest.badge with
    | none => trivial
    | some badge => exact createNotification_finishes (badgeNotification userId badge)
  have broadcasts : (broadcastBadge userId quest.badge).Finishes answer QuestCall.Quiet
      (Known userId) := by
    cases quest.badge with
    | none => trivial
    | some badge => exact ⟨trivial, fun _ _ => trivial⟩
  have announced := createNotification_finishes (questNotification userId questId quest)
  refine unlocks.bind fun _ => announced.bind fun _ => notifies.bind fun _ => ?_
  exact ⟨trivial, fun _ _ => ⟨trivial, fun _ _ => broadcasts.bind fun _ => trivial⟩⟩

/-- **A trigger of a user who is there makes the moves of its stages.** -/
theorem trigger_follows (stage : TriggerStage) (valid : stage.Valid payload.userId)
    (known : s.knows payload.userId = true) :
    Follows answer (TriggerStage.program payload) (TriggerMoves payload) stage s := by
  obtain ⟨user, found⟩ := Option.isSome_iff_exists.mp known
  cases stage with
  | start => exact .inr ⟨_, _, _, rfl, .find, rfl⟩
  | turn completed rest =>
    cases rest with
    | nil => exact .inl rfl
    | cons entry rest => exact .inr ⟨_, _, _, rfl, .look, rfl⟩
  | read completed questId quest rest existing =>
    cases already : wasAlreadyCompleted quest existing with
    | true =>
      refine .inr ⟨_, _, _, rfl, .skip already, ?_⟩
      change Program.bind (if _ then _ else _) _ = _
      rw [if_pos already]
      rfl
    | false =>
      refine .inr ⟨_, _, _, rfl, .clock already, ?_⟩
      change Program.bind (if wasAlreadyCompleted quest existing = true then _ else _) _ = _
      rw [already]
      rfl
  | save completed questId quest rest existing now =>
    have upserted : (answer (.questProgressUpsert payload.userId questId existing
        (progressRow quest now payload.increment existing none)
        (progressRow quest now payload.increment existing (existing.bind QuestProgress.completedAt))) s).1 =
        .ok () := by
      simp only [answer, found]
      rfl
    cases full : completedNow quest now payload.increment existing with
    | true =>
      refine .inr ⟨_, _, _, rfl, .full full, ?_⟩
      rw [upserted]
      change Program.bind (if completedNow quest now payload.increment existing = true then _ else _) _ = _
      rw [if_pos full]
      exact bind_assoc _ _ _
    | false =>
      refine .inr ⟨_, _, _, rfl, .short full, ?_⟩
      rw [upserted]
      change Program.bind (if completedNow quest now payload.increment existing = true then _ else _) _ = _
      rw [full]
      rfl
  | earn completed questId quest rest =>
    have earned : (answer (.userIncrementXp payload.userId questId quest.xpReward) s).1 =
        .ok (user.xp + quest.xpReward) := by
      simp only [answer, found]
      rfl
    refine .inr ⟨_, _, _, rfl, .earn found, ?_⟩
    rw [earned]
    rfl
  | level completed questId quest rest xp =>
    have leveled : (answer (.userUpdateLevel payload.userId (levelFor xp)) s).1 = .ok () := by
      simp only [answer, found]
      rfl
    refine .inr ⟨_, _, _, rfl, .level, ?_⟩
    rw [leveled, settle_program]
    rfl
  | after completed rest part =>
    cases part with
    | done dto => exact absurd rfl (valid.2 dto)
    | fail error => exact valid.1.elim
    | call request next =>
      obtain ⟨quiet, finishes⟩ := valid.1
      exact .inr ⟨request, _, _, rfl, .quiet quiet (finishes s known), (settle_program _ _ _).symm⟩

/-! ## What the calls leave -/

theorem knows_answer (request : QuestCall) (s : State) (userId : UserId) :
    (answer request s).2.knows userId = s.knows userId := by
  cases request with
  | questProgressUpsert | userBadgeUpsert | notificationCreate =>
    simp only [answer]
    split <;> rfl
  | userIncrementXp | userUpdateLevel =>
    simp only [answer]
    split
    · rfl
    · exact isSome_find?_modify _ _ _ _
  | _ => rfl

theorem quests_answer (request : QuestCall) (s : State) : (answer request s).2.quests = s.quests := by
  cases request with
  | questProgressUpsert | userIncrementXp | userUpdateLevel | userBadgeUpsert | notificationCreate =>
    simp only [answer]
    split <;> rfl
  | _ => rfl

/-- Progress, experience and awards are as they were. -/
structure Untouched (s t : State) : Prop where
  questProgress : t.questProgress = s.questProgress
  users : t.users = s.users
  awards : t.awards = s.awards

theorem quiet_answer {request : QuestCall} (quiet : request.Quiet) (s : State) :
    Untouched s (answer request s).2 := by
  cases request with
  | questProgressUpsert | userIncrementXp | userUpdateLevel => cases quiet
  | userBadgeUpsert | notificationCreate =>
    simp only [answer]
    split <;> exact ⟨rfl, rfl, rfl⟩
  | _ => exact ⟨rfl, rfl, rfl⟩

structure Underway (payloads : Index → GamificationTriggerPayload) (start : State) (userId : UserId)
    (stages : Index → TriggerStage) (s : State) : Prop where
  known : s.knows userId = true
  quests : s.quests = start.quests
  valid : ∀ index, (stages index).Valid (payloads index).userId
  listed : ∀ index, Listed start.quests ((stages index).pending start (payloads index))

/-- A move leaves the quests to come, but for the one whose progress is written or that is skipped. -/
theorem TriggerMoves.pending {stage stage' : TriggerStage} {request : QuestCall}
    (moved : TriggerMoves payload s stage request stage') (quests : s.quests = start.quests) :
    stage.pending start payload = stage'.pending start payload ∨
      ∃ entry, stage.pending start payload = entry :: stage'.pending start payload := by
  cases moved with
  | find =>
    refine .inl ?_
    rw [TriggerStage.pending, TriggerStage.pending, questsFor, questsFor, quests]
  | skip | short | full => exact .inr ⟨_, rfl⟩
  | look | clock | earn => exact .inl rfl
  | @level completed questId quest rest xp =>
    refine .inl ?_
    cases announce payload.userId questId quest xp <;> rfl
  | @quiet completed rest part part' =>
    refine .inl ?_
    cases part' <;> rfl

theorem TriggerMoves.valid {stage stage' : TriggerStage} {request : QuestCall}
    (moved : TriggerMoves payload s stage request stage') : stage'.Valid payload.userId := by
  cases moved with
  | clock goesOn => exact goesOn
  | level => exact settle_valid (announce_finishes _ _ _ _)
  | quiet quiet finishes => exact settle_valid finishes
  | _ => trivial

theorem Listed.tail {quests : Table QuestId Quest} {entry : QuestId × Quest} {rest : List (QuestId × Quest)}
    (listed : Listed quests (entry :: rest)) : Listed quests rest :=
  ⟨fun other among => listed.found other (List.mem_cons_of_mem _ among), (List.nodup_cons.mp listed.nodup).2⟩

/-! ## A quest that is done once -/

theorem nextProgress_of_once (once : quest.repeatable = false) (now : Time) (increment : Nat)
    (existing : Option QuestProgress) :
    nextProgress quest now increment existing = (existing.map QuestProgress.progress).getD 0 + increment := by
  cases existing with
  | none => exact (Nat.zero_add increment).symm
  | some row =>
    have stays : dueForReset quest now row = false := by rw [dueForReset, once, Bool.false_and]
    simp only [nextProgress, stays]
    rfl

theorem wasAlreadyCompleted_of_once (once : quest.repeatable = false) (existing : Option QuestProgress) :
    wasAlreadyCompleted quest existing = existing.any QuestProgress.completed := by
  simp only [wasAlreadyCompleted, once, Bool.not_false, Bool.and_true]

theorem find?_written (known : s.knows userId = true) (existing : Option QuestProgress)
    (create update : QuestProgress) (other : QuestId) :
    (answer (.questProgressUpsert userId questId existing create update) s).2.questProgress.find?
        (userId, other) =
      if other = questId then
        some (if (s.questProgress.find? (userId, questId)).isSome then update else create)
      else s.questProgress.find? (userId, other) := by
  obtain ⟨user, found⟩ := Option.isSome_iff_exists.mp known
  have written : (answer (.questProgressUpsert userId questId existing create update) s).2 =
      s.upsertProgress userId questId create update := by
    simp only [answer, found]
    rfl
  rw [written, upsertProgress, withProgress_questProgress, find?_upsert]
  by_cases same : other = questId
  · subst same
    rw [if_pos rfl, if_pos rfl]
  · rw [if_neg same, if_neg fun equal => same (Prod.mk.inj equal).2]

theorem awards_written (existing : Option QuestProgress) (create update : QuestProgress) :
    (answer (.questProgressUpsert userId questId existing create update) s).2.awards = s.awards := by
  simp only [answer]
  split <;> rfl

section Moves

variable [DecidableEq Index] {payloads : Index → GamificationTriggerPayload} {stages : Index → TriggerStage}
  {index : Index} {stage' : TriggerStage} {request : QuestCall}

theorem Underway.move (underway : Underway payloads start userId stages s)
    (moved : TriggerMoves (payloads index) s (stages index) request stage') :
    Underway payloads start userId (update stages index stage') (answer request s).2 := by
  refine ⟨?_, ?_, fun other => ?_, fun other => ?_⟩
  · rw [knows_answer]
    exact underway.known
  · rw [quests_answer]
    exact underway.quests
  · by_cases same : other = index
    · subst same
      rw [update_self]
      exact moved.valid
    · rw [update_of_ne same]
      exact underway.valid other
  · by_cases same : other = index
    · subst same
      rw [update_self]
      have listed := underway.listed other
      obtain equal | ⟨entry, equal⟩ := moved.pending underway.quests
      · rw [equal] at listed
        exact listed
      · rw [equal] at listed
        exact listed.tail
    · rw [update_of_ne same]
      exact underway.listed other

/-! ## One quest that is not repeatable -/

/-- The stage is about to award experience for the quest. -/
def TriggerStage.earns (questId : QuestId) : TriggerStage → Bool
  | .earn _ taken _ _ => decide (taken = questId)
  | _ => false

/-- What a trigger still adds to the quest. -/
def left (payloads : Index → GamificationTriggerPayload) (start : State) (questId : QuestId) (index : Index)
    (stage : TriggerStage) : Nat :=
  if questId ∈ (stage.pending start (payloads index)).map Prod.fst then (payloads index).increment else 0

/-- The quest that is not repeatable: it has been or is about to be awarded when it is completed, once;
until then its progress and what the triggers still add are what the triggers add at all. -/
structure QuestSound [Fintype Index] (payloads : Index → GamificationTriggerPayload) (start : State)
    (userId : UserId) (questId : QuestId) (stages : Index → TriggerStage) (s : State) : Prop where
  readers : ∀ index completed taken rest existing, stages index = .read completed questId taken rest existing →
    existing.any QuestProgress.completed = true → s.hasCompleted userId questId = true
  counted : s.awardCount userId questId + tally (TriggerStage.earns questId) stages +
    (start.hasCompleted userId questId).toNat = (s.hasCompleted userId questId).toNat
  summed : s.hasCompleted userId questId = false →
    s.progressOf userId questId + total (left payloads start questId) stages =
      start.progressOf userId questId + total (left payloads start questId) fun _ => .start

variable [Fintype Index]

/-- A move that changes neither the row of the quest nor the awards there are or are to come. -/
theorem QuestSound.keep (sound : QuestSound payloads start userId questId stages s) {t : State}
    (row : t.questProgress.find? (userId, questId) = s.questProgress.find? (userId, questId))
    (awards : t.awardCount userId questId + (stage'.earns questId).toNat =
      s.awardCount userId questId + ((stages index).earns questId).toNat)
    (adds : s.hasCompleted userId questId = false →
      left payloads start questId index stage' = left payloads start questId index (stages index))
    (reads : ∀ completed taken rest existing, stage' = .read completed questId taken rest existing →
      existing.any QuestProgress.completed = true → s.hasCompleted userId questId = true) :
    QuestSound payloads start userId questId (update stages index stage') t := by
  have completed : t.hasCompleted userId questId = s.hasCompleted userId questId := by
    rw [hasCompleted, row]
    rfl
  have progress : t.progressOf userId questId = s.progressOf userId questId := by
    rw [progressOf, row]
    rfl
  refine ⟨fun other done taken rest existing here finished => ?_, ?_, fun unfinished => ?_⟩
  · rw [completed]
    obtain ⟨rfl, here'⟩ | ⟨-, here'⟩ := eq_of_update here
    · exact reads done taken rest existing here' finished
    · exact sound.readers other done taken rest existing here' finished
  · have counts := tally_update (TriggerStage.earns questId) stages index stage'
    have before := sound.counted
    rw [completed]
    omega
  · rw [completed] at unfinished
    have sums := total_update (left payloads start questId) stages index stage'
    have before := sound.summed unfinished
    rw [adds unfinished] at sums
    omega

omit [DecidableEq Index] [Fintype Index] in
theorem Underway.quest_of_pending (underway : Underway payloads start userId stages s)
    {taken : Quest} {rest : List (QuestId × Quest)}
    (pending : (stages index).pending start (payloads index) = (questId, taken) :: rest)
    (found : start.quests.find? questId = some quest) : taken = quest := by
  have here := (underway.listed index).found (questId, taken) (by rw [pending]; exact List.mem_cons_self)
  exact Option.some.inj (here.symm.trans found)

omit [DecidableEq Index] [Fintype Index] in
theorem Underway.left_of_turned (underway : Underway payloads start userId stages s)
    {entry : QuestId × Quest} {rest : List (QuestId × Quest)}
    (pending : (stages index).pending start (payloads index) = entry :: rest)
    (turned : stage'.pending start (payloads index) = rest) :
    left payloads start entry.1 index stage' = 0 ∧
      left payloads start entry.1 index (stages index) = (payloads index).increment := by
  have nodup := (underway.listed index).nodup
  rw [pending, List.map_cons, List.nodup_cons] at nodup
  constructor
  · rw [left, turned, if_neg nodup.1]
  · rw [left, pending, List.map_cons, if_pos List.mem_cons_self]

omit [DecidableEq Index] [Fintype Index] in
theorem left_of_apart {entry : QuestId × Quest} {rest : List (QuestId × Quest)}
    (pending : (stages index).pending start (payloads index) = entry :: rest)
    (turned : stage'.pending start (payloads index) = rest) (apart : entry.1 ≠ questId) :
    left payloads start questId index stage' = left payloads start questId index (stages index) := by
  have others : questId ∈ rest.map Prod.fst ↔ questId ∈ (entry :: rest).map Prod.fst := by
    rw [List.map_cons, List.mem_cons, or_iff_right fun equal => apart equal.symm]
  rw [left, left, turned, pending]
  exact if_congr others rfl rfl

theorem QuestSound.write (sound : QuestSound payloads start userId questId stages s) {t : State}
    (underway : Underway payloads start userId stages s) {row : QuestProgress}
    {rest : List (QuestId × Quest)} (unfinished : s.hasCompleted userId questId = false)
    (pending : (stages index).pending start (payloads index) = (questId, quest) :: rest)
    (turned : stage'.pending start (payloads index) = rest)
    (idle : (stages index).earns questId = false) (earns : stage'.earns questId = row.completed)
    (written : t.questProgress.find? (userId, questId) = some row) (awards : t.awards = s.awards)
    (next : row.progress = s.progressOf userId questId + (payloads index).increment)
    (reads : ∀ completed taken rest existing, stage' ≠ .read completed questId taken rest existing) :
    QuestSound payloads start userId questId (update stages index stage') t := by
  have completed : t.hasCompleted userId questId = row.completed := by
    rw [hasCompleted, written]
    rfl
  have progress : t.progressOf userId questId = row.progress := by
    rw [progressOf, written]
    rfl
  have counts : t.awardCount userId questId = s.awardCount userId questId := by
    rw [awardCount, awards]
    rfl
  obtain ⟨nothing, whole⟩ := underway.left_of_turned pending turned
  refine ⟨fun other done taken rest existing here finished => ?_, ?_, fun still => ?_⟩
  · obtain ⟨rfl, here'⟩ | ⟨-, here'⟩ := eq_of_update here
    · exact absurd here' (reads done taken rest existing)
    · have before := sound.readers other done taken rest existing here' finished
      rw [unfinished] at before
      cases before
  · have tallied := tally_update (TriggerStage.earns questId) stages index stage'
    have before := sound.counted
    rw [earns, idle, Bool.toNat_false] at tallied
    rw [unfinished, Bool.toNat_false] at before
    rw [completed]
    omega
  · have sums := total_update (left payloads start questId) stages index stage'
    have before := sound.summed unfinished
    rw [nothing, whole] at sums
    omega


/-- The write of a trigger, for the quest and for any other. -/
theorem QuestSound.save (sound : QuestSound payloads start userId questId stages s)
    (underway : Underway payloads start userId stages s) (found : start.quests.find? questId = some quest)
    (once : quest.repeatable = false) (own : (payloads index).userId = userId)
    {completed : List QuestCompletedDto} {taken : QuestId} {turn : Quest}
    {rest : List (QuestId × Quest)} {existing : Option QuestProgress} {now : Time}
    (here : stages index = .save completed taken turn rest existing now)
    (undisturbed : taken = questId → s.questProgress.find? (userId, questId) = existing)
    (turned : stage'.pending start (payloads index) = rest)
    (earns : stage'.earns questId =
      (decide (taken = questId) && completedNow turn now (payloads index).increment existing))
    (reads : ∀ completed taken rest existing, stage' ≠ .read completed questId taken rest existing) :
    QuestSound payloads start userId questId (update stages index stage')
      (answer (.questProgressUpsert (payloads index).userId taken existing
        (progressRow turn now (payloads index).increment existing none)
        (progressRow turn now (payloads index).increment existing
          (existing.bind QuestProgress.completedAt))) s).2 := by
  rw [own]
  have pending : (stages index).pending start (payloads index) = (taken, turn) :: rest := by
    rw [here]
    rfl
  have idle : (stages index).earns questId = false := by
    rw [here]
    rfl
  by_cases same : taken = questId
  · subst same
    have sameQuest := underway.quest_of_pending pending found
    subst sameQuest
    have row := undisturbed rfl
    have goesOn : wasAlreadyCompleted turn existing = false := by
      have valid := underway.valid index
      rw [here] at valid
      exact valid
    rw [wasAlreadyCompleted_of_once once] at goesOn
    have unfinished : s.hasCompleted userId taken = false := by
      rw [hasCompleted, row]
      exact goesOn
    refine sound.write underway unfinished pending turned idle ?_ ((find?_written underway.known
      existing _ _ taken).trans (if_pos rfl)) (awards_written _ _ _) ?_ reads
    · rw [earns, decide_eq_true rfl]
      split <;> rfl
    · rw [progressOf, row]
      split <;> exact nextProgress_of_once once _ _ _
  · refine sound.keep ((find?_written underway.known existing _ _ questId).trans
      (if_neg fun equal => same equal.symm)) ?_ (fun _ => ?_) fun completed taken rest existing reading =>
        absurd reading (reads completed taken rest existing)
    · rw [earns, idle, decide_eq_false same, awardCount, awards_written]
      rfl
    · exact left_of_apart pending turned same

omit [DecidableEq Index] [Fintype Index] in
theorem settle_earns (questId : QuestId) (completed : List QuestCompletedDto) (rest : List (QuestId × Quest))
    (part : Flow QuestCompletedDto) : (TriggerStage.settle completed rest part).earns questId = false := by
  cases part <;> rfl

variable (completed : List QuestCompletedDto) (rest : List (QuestId × Quest))
  (part : Flow QuestCompletedDto)

omit [DecidableEq Index] [Fintype Index] in
theorem settle_pending : (TriggerStage.settle completed rest part).pending start payload = rest := by
  cases part <;> rfl

omit [DecidableEq Index] [Fintype Index] in
theorem settle_ne_read (done : List QuestCompletedDto) (turn : Quest) (others : List (QuestId × Quest))
    (existing : Option QuestProgress) :
    TriggerStage.settle completed rest part ≠ .read done questId turn others existing := by
  cases part <;> exact nofun

/-- **A move that writes no stale progress keeps a quest that is not repeatable sound.** -/
theorem QuestSound.move (sound : QuestSound payloads start userId questId stages s)
    (underway : Underway payloads start userId stages s) (found : start.quests.find? questId = some quest)
    (once : quest.repeatable = false) (own : (payloads index).userId = userId)
    (moved : TriggerMoves (payloads index) s (stages index) request stage')
    (stands : ∀ existing create update, request = .questProgressUpsert userId questId existing create update →
      s.questProgress.find? (userId, questId) = existing) :
    QuestSound payloads start userId questId (update stages index stage') (answer request s).2 := by
  generalize here : stages index = stage at moved
  cases moved with
  | find =>
    refine sound.keep rfl (by rw [here]; rfl) (fun _ => ?_) fun _ _ _ _ same => by cases same
    rw [left, left, here, TriggerStage.pending, TriggerStage.pending, questsFor, questsFor,
      underway.quests]
  | look =>
    refine sound.keep rfl (by rw [here]; rfl) (fun _ => by rw [here]; rfl) ?_
    intro completed taken rest existing reading finished
    cases reading
    rw [own] at finished
    exact finished
  | @skip completed taken turn rest existing already =>
    refine sound.keep rfl (by rw [here]; rfl) (fun unfinished => ?_) fun _ _ _ _ same => by cases same
    have pending : (stages index).pending start (payloads index) = (taken, turn) :: rest := by
      rw [here]
      rfl
    by_cases same : taken = questId
    · subst same
      have sameQuest := underway.quest_of_pending pending found
      subst sameQuest
      rw [wasAlreadyCompleted_of_once once] at already
      have finished := sound.readers index completed turn rest existing here already
      rw [unfinished] at finished
      cases finished
    · exact left_of_apart pending rfl same
  | clock =>
    exact sound.keep rfl (by rw [here]; rfl) (fun _ => by rw [here]; rfl) fun _ _ _ _ same => by cases same
  | @short completed taken turn rest existing now short =>
    refine sound.save underway found once own here (fun same => ?_) rfl ?_ fun _ _ _ _ same => by cases same
    · subst same
      exact stands existing _ _ (by rw [own])
    · rw [short, Bool.and_false]
      rfl
  | @full completed taken turn rest existing now full =>
    refine sound.save underway found once own here (fun same => ?_) rfl ?_ fun _ _ _ _ same => by cases same
    · subst same
      exact stands existing _ _ (by rw [own])
    · rw [full, Bool.and_true]
      rfl
  | @earn completed taken turn rest user known =>
    have earned : (answer (.userIncrementXp (payloads index).userId taken turn.xpReward) s).2 =
        (s.withUsers (s.users.modify (payloads index).userId (UserRow.earn turn.xpReward))).awarded
          ⟨(payloads index).userId, taken, s.now⟩ := by
      simp only [answer, known]
    rw [earned]
    refine sound.keep rfl ?_ (fun _ => by rw [here]; rfl) fun _ _ _ _ same => by cases same
    rw [here, own, awardCount, awarded_awards, List.countP_append, List.countP_singleton,
      decide_eq_true rfl]
    by_cases same : taken = questId
    · simp only [TriggerStage.earns, decide_eq_true same]
      rfl
    · simp only [TriggerStage.earns, decide_eq_false same]
      rfl
  | @level completed taken turn rest xp =>
    have leveled : (answer (.userUpdateLevel (payloads index).userId (levelFor xp)) s).2.questProgress =
          s.questProgress ∧
        (answer (.userUpdateLevel (payloads index).userId (levelFor xp)) s).2.awards = s.awards := by
      simp only [answer]
      split <;> exact ⟨rfl, rfl⟩
    refine sound.keep (by rw [leveled.1]) ?_ (fun _ => ?_) fun done turn' others existing reading =>
      absurd reading (settle_ne_read _ _ _ done turn' others existing)
    · rw [settle_earns, here, awardCount, leveled.2]
      rfl
    · rw [left, settle_pending, here]
      rfl
  | quiet quiet finishes =>
    obtain ⟨rows, -, awards⟩ := quiet_answer quiet s
    refine sound.keep (by rw [rows]) ?_ (fun _ => ?_) fun done turn' others existing reading =>
      absurd reading (settle_ne_read _ _ _ done turn' others existing)
    · rw [settle_earns, here, awardCount, awards]
      rfl
    · rw [left, settle_pending, here]
      rfl

end Moves

/-! ## The level -/

/-- The stage is about to write a level. -/
def TriggerStage.Levels : TriggerStage → Prop
  | .level _ _ _ _ _ => True
  | _ => False

/-- A level is still to be written, or it is that of the experience. -/
def LevelSound (userId : UserId) (stages : Index → TriggerStage) (s : State) : Prop :=
  (∃ index, (stages index).Levels) ∨ s.LevelRight userId

theorem levels_of_next? {stage : TriggerStage} (valid : stage.Valid userId)
    (asked : (stage.program payload).next?.any QuestCall.writesLevel = true) : stage.Levels := by
  cases stage with
  | level => trivial
  | turn completed rest =>
    cases rest with
    | nil | cons => cases asked
  | after completed rest part =>
    cases part with
    | done dto => exact (valid.2 dto rfl).elim
    | fail error => cases asked
    | call request next =>
      have quiet := valid.1.1
      cases request with
      | userUpdateLevel => exact quiet.elim
      | _ => cases asked
  | _ => cases asked

section LevelMoves

variable [DecidableEq Index] {payloads : Index → GamificationTriggerPayload} {stages : Index → TriggerStage}
  {index : Index} {stage' : TriggerStage} {request : QuestCall}

theorem LevelSound.keep (sound : LevelSound userId stages s) {t : State} (users : t.users = s.users)
    (idle : ¬ (stages index).Levels) : LevelSound userId (update stages index stage') t := by
  obtain ⟨other, levels⟩ | right := sound
  · have apart : other ≠ index := by
      intro same
      subst same
      exact idle levels
    refine .inl ⟨other, ?_⟩
    rw [update_of_ne apart]
    exact levels
  · refine .inr fun user found => right user ?_
    rw [← users]
    exact found

/-- **A move that writes no stale level keeps the level sound.** -/
theorem LevelSound.move (sound : LevelSound userId stages s) (own : (payloads index).userId = userId)
    (moved : TriggerMoves (payloads index) s (stages index) request stage')
    (current : ∀ level, request = .userUpdateLevel userId level →
      (∀ user, s.users.find? userId = some user → level = levelFor user.xp) ∨
        ∃ other, other ≠ index ∧ (stages other).Levels) :
    LevelSound userId (update stages index stage') (answer request s).2 := by
  generalize here : stages index = stage at moved
  have idle : ¬ stage.Levels → ¬ (stages index).Levels := by
    rw [here]
    exact id
  cases moved with
  | find | look | skip | clock => exact sound.keep rfl (idle id)
  | short | full =>
    refine sound.keep ?_ (idle id)
    simp only [answer]
    split <;> rfl
  | earn =>
    refine .inl ⟨index, ?_⟩
    rw [update_self]
    trivial
  | @level completed taken turn rest xp =>
    rw [own]
    obtain latest | ⟨other, apart, levels⟩ := current (levelFor xp) (by rw [own])
    · refine .inr fun user found => ?_
      simp only [answer] at found
      split at found
      · rename_i unknown
        rw [found] at unknown
        cases unknown
      · rw [withUsers_users, find?_modify_self, Option.map_eq_some_iff] at found
        obtain ⟨before, known, rfl⟩ := found
        exact latest before known
    · refine .inl ⟨other, ?_⟩
      rw [update_of_ne apart]
      exact levels
  | quiet quiet finishes => exact sound.keep (quiet_answer quiet s).users (idle id)

end LevelMoves

/-! ## Whole interleavings -/

theorem listed_questsFor (s : State) (trigger : QuestTrigger) : Listed s.quests (s.questsFor trigger) where
  found := fun _ among => (mem_select.mp among).1
  nodup := s.quests.nodup_select _

theorem TriggerStage.ended {stage : TriggerStage} (valid : stage.Valid userId)
    (ended : (stage.program payload).Ended) :
    stage.pending start payload = [] ∧ (∀ questId, stage.earns questId = false) ∧ ¬ stage.Levels := by
  cases stage with
  | turn completed rest =>
    cases rest with
    | nil => exact ⟨rfl, fun _ => rfl, id⟩
    | cons => cases ended
  | after completed rest part =>
    cases part with
    | done dto => exact (valid.2 dto rfl).elim
    | fail error => exact valid.1.elim
    | call request next => cases ended
  | _ => cases ended

theorem left_start (payloads : Index → GamificationTriggerPayload) (index : Index)
    (found : start.quests.find? questId = some quest) :
    left payloads start questId index .start = (payloads index).adds quest := by
  have among : questId ∈ (start.questsFor (payloads index).trigger).map Prod.fst ↔
      quest.trigger = (payloads index).trigger ∧ quest.isActive = true := by
    rw [List.mem_map]
    constructor
    · rintro ⟨⟨id, other⟩, member, rfl⟩
      obtain ⟨there, passes⟩ := mem_select.mp member
      rw [found] at there
      cases there
      rw [Bool.and_eq_true, decide_eq_true_eq] at passes
      exact passes
    · intro passes
      refine ⟨(questId, quest), mem_select.mpr ⟨found, ?_⟩, rfl⟩
      rw [Bool.and_eq_true, decide_eq_true_eq]
      exact passes
  exact if_congr among rfl rfl

section Whole

variable [DecidableEq Index] [Fintype Index] {payloads : Index → GamificationTriggerPayload}

/-- The invariant of an interleaving of undisturbed triggers. -/
structure TriggersSound (payloads : Index → GamificationTriggerPayload) (start : State) (userId : UserId)
    (stages : Index → TriggerStage) (s : State) : Prop where
  underway : Underway payloads start userId stages s
  quest : ∀ questId quest, start.quests.find? questId = some quest → quest.repeatable = false →
    QuestSound payloads start userId questId stages s
  level : LevelSound userId stages s

omit [DecidableEq Index] in
theorem triggersSound_start (known : start.knows userId = true) (right : start.LevelRight userId)
    (fresh : start.awards = []) :
    TriggersSound payloads start userId (fun _ => .start) start where
  underway := ⟨known, rfl, fun _ => trivial, fun index => listed_questsFor start _⟩
  quest := by
    intro questId quest found once
    refine ⟨fun _ _ _ _ _ => nofun, ?_, fun _ => rfl⟩
    have idle : tally (TriggerStage.earns questId) (fun _ : Index => .start) = 0 :=
      tally_eq_zero fun _ => rfl
    rw [idle, awardCount, fresh]
    exact Nat.zero_add _
  level := .inr right

omit [DecidableEq Index] in
theorem TriggersSound.settled {stages : Index → TriggerStage} {s : State}
    (sound : TriggersSound payloads start userId stages s)
    (ended : ∀ index, ((stages index).program (payloads index)).Ended) : Settled payloads start userId s := by
  have finished : ∀ index, (stages index).pending start (payloads index) = [] ∧
      (∀ questId, (stages index).earns questId = false) ∧ ¬ (stages index).Levels :=
    fun index => TriggerStage.ended (sound.underway.valid index) (ended index)
  have idle : ∀ questId, tally (TriggerStage.earns questId) stages = 0 :=
    fun questId => tally_eq_zero fun index => (finished index).2.1 questId
  refine ⟨fun questId quest found once => ?_, fun questId quest found once open_ unawarded => ?_, ?_⟩
  · have counts := (sound.quest questId quest found once).counted
    have bound := Bool.toNat_le (s.hasCompleted userId questId)
    rw [idle, Nat.add_zero] at counts
    omega
  · have counts := (sound.quest questId quest found once).counted
    rw [idle, unawarded, open_] at counts
    have unfinished : s.hasCompleted userId questId = false := by
      cases completed : s.hasCompleted userId questId with
      | false => rfl
      | true =>
        rw [completed] at counts
        cases counts
    have sums := (sound.quest questId quest found once).summed unfinished
    have nothing : total (left payloads start questId) stages = 0 := by
      refine Finset.sum_eq_zero fun index _ => ?_
      rw [left, (finished index).1]
      exact if_neg List.not_mem_nil
    have whole : total (left payloads start questId) (fun _ => .start) =
        ∑ index, (payloads index).adds quest :=
      Finset.sum_congr rfl fun index _ => left_start payloads index found
    rw [nothing, whole] at sums
    exact sums
  · obtain ⟨index, levels⟩ | right := sound.level
    · exact absurd levels (finished index).2.2
    · exact right

theorem TriggersSound.move (own : ∀ index, (payloads index).userId = userId) {pool : TriggerPool Index}
    {stages : Index → TriggerStage} {index : Index} {request : QuestCall} {stage' : TriggerStage}
    (staged : pool.InStages (fun index => TriggerStage.program (payloads index)) stages)
    (sound : TriggersSound payloads start userId stages pool.store)
    (current : UpToDate pool index) (asked : pool.next? index = some request)
    (moved : TriggerMoves (payloads index) pool.store (stages index) request stage') :
    TriggersSound payloads start userId (update stages index stage') (answer request pool.store).2 := by
  rw [UpToDate, asked] at current
  refine ⟨sound.underway.move moved, fun questId quest found once => ?_, ?_⟩
  · refine (sound.quest questId quest found once).move sound.underway found once (own index) moved ?_
    rintro existing create update rfl
    exact current quest (by rw [sound.underway.quests]; exact found) once
  · refine sound.level.move (own index) moved ?_
    rintro level rfl
    obtain latest | ⟨other, apart, waits⟩ := current
    · exact .inl latest
    · rw [staged.next? other] at waits
      exact .inr ⟨other, apart, levels_of_next? (sound.underway.valid other) waits⟩

/-- **Triggers of one user whose writes of progress go by the row there is, and whose last level is
that of the experience, leave the quests and the level in order**, in whatever order their calls are
made. -/
theorem triggers_settle (payloads : Index → GamificationTriggerPayload) (start : State) (userId : UserId)
    (own : ∀ index, (payloads index).userId = userId) (known : start.knows userId = true)
    (right : start.LevelRight userId) (fresh : start.awards = []) (schedule : List Index)
    (steps : EachStep (advance answer) UpToDate (triggerPool payloads start) schedule)
    (ended : ∀ index,
      ((follow (advance answer) (triggerPool payloads start) schedule).threads index).Ended) :
    Settled payloads start userId
      (follow (advance answer) (triggerPool payloads start) schedule).store := by
  have staged : (triggerPool payloads start).InStages
      (fun index => TriggerStage.program (payloads index)) fun _ => .start := fun _ => rfl
  have through := throughout_of_stages (fun index => TriggerMoves (payloads index))
    (TriggersSound payloads start userId) UpToDate
    (fun stages s index sound => trigger_follows (stages index) (sound.underway.valid index)
      (by rw [own index]; exact sound.underway.known))
    (fun pool stages index request stage' staged sound met asked moved =>
      sound.move own staged met asked moved)
    staged (triggersSound_start known right fresh) steps
  obtain ⟨stages, staged', sound⟩ := through.last
  refine sound.settled fun index => ?_
  have stopped := ended index
  rw [staged' index] at stopped
  exact stopped

end Whole

/-! ## Two triggers -/

def storyQuest (targetValue xpReward : Nat) (repeatable : Bool) : Quest where
  code := "STORIES"
  name := "Stories"
  trigger := .storyCreated
  targetValue := targetValue
  xpReward := xpReward
  badge := none
  repeatable := repeatable
  resetPeriod := .none
  isActive := true

/-- Rider 1 and a quest. -/
def installed (quest : Quest) : State where
  now := 0
  quests := empty.insert "stories" quest
  users := empty.insert 1 ⟨0, 1⟩
  questProgress := .empty
  userBadges := .empty
  notificationPreferences := .empty
  notifications := []
  emissions := []
  awards := []

/-- Rider 1 posts two stories. -/
def twoStories (_ : Bool) : GamificationTriggerPayload := ⟨1, .storyCreated, 1, Nat.one_pos⟩

theorem installed_levelRight (quest : Quest) : (installed quest).LevelRight 1 := by
  rintro user ⟨⟩
  rfl

/-- The second story after the first, which completes a quest of two stories. -/
theorem triggers_settle_small :
    Settled twoStories (installed (storyQuest 2 50 false)) 1
      (follow (advance answer) (triggerPool twoStories (installed (storyQuest 2 50 false)))
        (List.replicate 4 false ++ List.replicate 10 true)).store := by
  have steps : EachStep (advance answer) UpToDate
      (triggerPool twoStories (installed (storyQuest 2 50 false)))
      (List.replicate 4 false ++ List.replicate 10 true) := by
    decide +kernel
  have ended : ∀ index, ((follow (advance answer)
      (triggerPool twoStories (installed (storyQuest 2 50 false)))
      (List.replicate 4 false ++ List.replicate 10 true)).threads index).Ended := by
    decide +kernel
  exact triggers_settle twoStories _ 1 (fun _ => rfl) rfl (installed_levelRight _) rfl _ steps ended

/-- Two stories that both find no row count as one, or complete a quest of one story twice; and the
level that is written last is that of the first experience: 500 points are level 4. -/
theorem triggers_overlap :
    ¬ (∀ (quest : Quest) (schedule : List Bool),
        (∀ index, ((follow (advance answer) (triggerPool twoStories (installed quest))
          schedule).threads index).Ended) →
        Settled twoStories (installed quest) 1
          (follow (advance answer) (triggerPool twoStories (installed quest)) schedule).store) ∧
      (follow (advance answer) (triggerPool twoStories (installed (storyQuest 3 50 false)))
        [false, false, true, true, false, false, true, true]).store.progressOf 1 "stories" = 1 ∧
      (follow (advance answer) (triggerPool twoStories (installed (storyQuest 1 50 false)))
        ([false, false, true, true] ++ List.replicate 8 false ++
          List.replicate 8 true)).store.awardCount 1 "stories" = 2 ∧
      (follow (advance answer) (triggerPool twoStories (installed (storyQuest 1 250 true)))
        (List.replicate 5 false ++ List.replicate 10 true ++
          List.replicate 5 false)).store.users.find? 1 = some ⟨500, 3⟩ := by
  refine ⟨fun claim => ?_, by decide +kernel, by decide +kernel, by decide +kernel⟩
  have settled := claim (storyQuest 3 50 false) [false, false, true, true, false, false, true, true]
    (by decide +kernel)
  have lost := settled.progress "stories" _ rfl rfl rfl (by decide +kernel)
  have one : (follow (advance answer) (triggerPool twoStories (installed (storyQuest 3 50 false)))
      [false, false, true, true, false, false, true, true]).store.progressOf 1 "stories" = 1 := by
    decide +kernel
  exact absurd lost (by decide +kernel)

end Motogram.Gamification
