import Motogram.Communities.Runs
import Motogram.Messaging.Resend
import Motogram.Messaging.Sending

/-!
# The chat of a community

`createConversation` opens a conversation of any type. For the chat of a community it asks the
members of the community service whether the user is an active one, returns the chat that is there,
and creates one with the user as its only participant when there is none. What `send` asks later is
whether the sender is an active participant. The two services do not tell each other of a change: a
member who opens a chat that is there is not added to it, and a member who leaves the community stays
in the chat.

A user who has opened the chat of a community can send to it exactly while an active member, in every
state of a run, exactly when every chat that is opened anew is opened by a participant and nobody who
has opened it leaves the community (`chat_matches_iff`).
-/

set_option autoImplicit false

namespace Motogram.Messaging

open Foundation Program Table

/-! ## Requests -/

/-- A body `CreateConversationSchema` accepts. -/
structure CreateConversationDto where
  type : ConversationType
  userIds : List UserId
  name : Option String
  communityId : Option CommunityId
  deriving DecidableEq

def requiresTarget : ServiceError :=
  .http .badRequest "DIRECT conversation requires target user" .validationFailed none
def requiresCommunityId : ServiceError :=
  .http .badRequest "COMMUNITY_CHAT requires communityId" .validationFailed none
def mustBeMember : ServiceError := .http .forbidden "Must be active community member" .forbidden none
def requiresThree : ServiceError :=
  .http .badRequest "GROUP_CHAT requires at least 3 participants" .validationFailed none

/-! ## Rows -/

/-- The participants `participants: { create }` lists. -/
def newParticipants (now : Time) (userIds : List UserId) : Table UserId ConversationParticipant :=
  userIds.foldl (fun table userId => table.insert userId (newParticipant now)) .empty

/-- The row `conversation.create` inserts for a community or a group. -/
def newConversation (now : Time) (type : ConversationType) (communityId : Option CommunityId)
    (name : Option String) (userIds : List UserId) : Conversation where
  type := type
  name := name
  avatarUrl := none
  communityId := communityId
  lastMessageAt := none
  createdAt := now
  deletedAt := none
  participants := newParticipants now userIds

/-- `where: { communityId, type: 'COMMUNITY_CHAT', deletedAt: null }`. -/
def Conversation.isChatOf (conversation : Conversation) (communityId : CommunityId) : Bool :=
  decide (conversation.communityId = some communityId) && decide (conversation.type = .communityChat) &&
    conversation.deletedAt.isNone

def State.chatOf? (s : State) (communityId : CommunityId) : Option (ConversationId × Conversation) :=
  s.conversations.entries.find? fun entry => entry.2.isChatOf communityId

def State.createConversation (s : State) (conversation : Conversation) : State :=
  (s.withConversations (s.conversations.insert (s.deployment.uuid s.fresh) conversation)).withFresh
    (s.fresh + 1)

/-- `conversation.create`: its participants have to be users. -/
def State.insertConversation (s : State) (conversation : Conversation) (userIds : List UserId) :
    Except PrismaError ConversationWithUsers × State :=
  if userIds.all fun userId => (s.users.find? userId).isSome then
    (.ok (s.withItsUsers (s.deployment.uuid s.fresh, conversation)), s.createConversation conversation)
  else (.error .foreignKeyViolation, s)

/-! ## The stores of the two services -/

/-- What the community service and the message service keep, and who has opened which conversation of
which community. -/
structure Hub where
  community : Communities.State
  messaging : State
  opened : List (CommunityId × UserId × ConversationId)

@[simps -fullyApplied] def Hub.withCommunity (h : Hub) (community : Communities.State) : Hub :=
  { h with community := community }

@[simps -fullyApplied] def Hub.withMessaging (h : Hub) (messaging : State) : Hub :=
  { h with messaging := messaging }

/-- The calls of `createConversation`: those of either service, and those for the two types of
conversation that no other function reads or creates. -/
inductive HubCall where
  | community (request : Communities.CommunityCall)
  | messaging (request : MessagingCall)
  | conversationFindFirstCommunityChat (communityId : CommunityId)
  | conversationCreateCommunityChat (communityId : CommunityId) (name : Option String) (creatorId : UserId)
  | conversationCreateGroupChat (name : Option String) (participantIds : List UserId)

@[reducible] def HubReply : HubCall → Type
  | .community request => Communities.CommunityReply request
  | .messaging request => MessagingReply request
  | .conversationFindFirstCommunityChat _ => Option ConversationWithUsers
  | .conversationCreateCommunityChat _ _ _ => Except PrismaError ConversationWithUsers
  | .conversationCreateGroupChat _ _ => Except PrismaError ConversationWithUsers

def hubAnswer : (call : HubCall) → Hub → HubReply call × Hub
  | .community request, h =>
    ((Communities.answer request h.community).1, h.withCommunity (Communities.answer request h.community).2)
  | .messaging request, h => ((answer request h.messaging).1, h.withMessaging (answer request h.messaging).2)
  | .conversationFindFirstCommunityChat communityId, h =>
    ((h.messaging.chatOf? communityId).map h.messaging.withItsUsers, h)
  | .conversationCreateCommunityChat communityId name creatorId, h =>
    -- `communityId` is a foreign key too
    if (h.community.communities.find? communityId).isNone then (.error .foreignKeyViolation, h)
    else
      let inserted := h.messaging.insertConversation
        (newConversation h.messaging.now .communityChat (some communityId) name [creatorId]) [creatorId]
      (inserted.1, h.withMessaging inserted.2)
  | .conversationCreateGroupChat name participantIds, h =>
    let inserted := h.messaging.insertConversation
      (newConversation h.messaging.now .groupChat none name participantIds) participantIds
    (inserted.1, h.withMessaging inserted.2)

abbrev HubFlow (Value : Type) := Program HubCall HubReply ServiceError Value

abbrev HubFlow.exec {Value : Type} (flow : HubFlow Value) (h : Hub) : Except ServiceError Value × Hub :=
  run hubAnswer flow h

abbrev hubCall (request : HubCall) : HubFlow (HubReply request) := .call request .done

/-- A function of the message service. -/
def messaging {Value : Type} (flow : Flow Value) : HubFlow Value :=
  flow.embed (fun request => hubCall (.messaging request)) id

/-! ## Opening a conversation -/

/-- The end of `createConversation`: throw what Prisma threw, or return the conversation. -/
def detailOf (reply : Except PrismaError ConversationWithUsers) : HubFlow ConversationDetail :=
  match reply with
  | .ok created => pure (toDetail created)
  | .error error => .fail (.prisma error)

/-- `createConversation` for the chat of a community, after its check. -/
def findOrCreateChat (creatorId : UserId) (communityId : CommunityId) (name : Option String) :
    HubFlow ConversationDetail := do
  let existing : Option ConversationWithUsers ← hubCall (.conversationFindFirstCommunityChat communityId)
  match existing with
  | some found => pure (toDetail found)
  | none => do
    let created : Except PrismaError ConversationWithUsers ←
      hubCall (.conversationCreateCommunityChat communityId name creatorId)
    detailOf created

/-- `createConversation` for the chat of a community. -/
def createCommunityChat (creatorId : UserId) (communityId : CommunityId) (name : Option String) :
    HubFlow ConversationDetail := do
  let membership : Option Communities.CommunityMember ←
    hubCall (.community (.communityMemberFindUnique communityId creatorId))
  throwIf (Communities.isActive membership = false) mustBeMember
  findOrCreateChat creatorId communityId name

/-- `Array.from(new Set([...dto.userIds, creatorId]))`. -/
def CreateConversationDto.participantIds (dto : CreateConversationDto) (creatorId : UserId) : List UserId :=
  (dto.userIds ++ [creatorId]).eraseDups

/-- `createConversation` for a group. -/
def createGroupChat (creatorId : UserId) (dto : CreateConversationDto) : HubFlow ConversationDetail := do
  throwIf ((dto.participantIds creatorId).length < 3) requiresThree
  let created : Except PrismaError ConversationWithUsers ←
    hubCall (.conversationCreateGroupChat dto.name (dto.participantIds creatorId))
  detailOf created

def createConversation (creatorId : UserId) (dto : CreateConversationDto) : HubFlow ConversationDetail :=
  match dto.type with
  | .direct =>
    match dto.userIds.head? with
    | none => .fail requiresTarget
    | some target => messaging (findOrCreateDirect creatorId target)
  | .communityChat =>
    match dto.communityId with
    | none => .fail requiresCommunityId
    | some communityId => createCommunityChat creatorId communityId dto.name
  | .groupChat => createGroupChat creatorId dto

/-! ## Runs -/

/-- An operation: a conversation is opened, a message is sent, or the community service does
something, the passing of time included. -/
inductive HubOp where
  | createConversation (creatorId : UserId) (dto : CreateConversationDto)
  | send (senderId : UserId) (dto : SendMessageDto)
  | community (op : Communities.CommunityOp)

def CreateConversationDto.AsksFor (dto : CreateConversationDto) (communityId : CommunityId) : Prop :=
  dto.type = .communityChat ∧ dto.communityId = some communityId

instance (dto : CreateConversationDto) (communityId : CommunityId) : Decidable (dto.AsksFor communityId) :=
  inferInstanceAs (Decidable (_ ∧ _))

/-- The community whose chat is asked for. -/
def CreateConversationDto.community? (dto : CreateConversationDto) : Option CommunityId :=
  if dto.type = .communityChat then dto.communityId else none

def Hub.recorded (h : Hub) (creatorId : UserId) (dto : CreateConversationDto) :
    Except ServiceError ConversationDetail → Hub
  | .ok detail =>
    match dto.community? with
    | some communityId => { h with opened := (communityId, creatorId, detail.id) :: h.opened }
    | none => h
  | .error _ => h

/-- The milliseconds that pass. -/
def passing : Communities.CommunityOp → Nat
  | .elapse milliseconds => milliseconds
  | _ => 0

/-- The stores after an operation. -/
def hubStep (h : Hub) : HubOp → Hub
  | .createConversation creatorId dto =>
    let ended := (createConversation creatorId dto).exec h
    ended.2.recorded creatorId dto ended.1
  | .send senderId dto => h.withMessaging ((send senderId dto).exec h.messaging).2
  | .community op =>
    (h.withCommunity (Communities.communityStep h.community op)).withMessaging
      (h.messaging.elapsed (passing op))

/-! ## What is asked of a run -/

/-- No message of the user to the conversation is refused for anything but the rate limit. -/
def State.CanSend (s : State) (userId : UserId) (conversationId : ConversationId) : Prop :=
  ∀ dto : SendMessageDto, dto.conversationId = conversationId → ∀ error,
    ((send userId dto).exec s).1 = .error error → error = tooManyMessages

/-- Who has opened the chat of the community can send to it exactly while an active member. -/
def Hub.Matches (communityId : CommunityId) (h : Hub) : Prop :=
  ∀ userId conversationId, (communityId, userId, conversationId) ∈ h.opened →
    (h.messaging.CanSend userId conversationId ↔ h.community.activeIn communityId userId = true)

def Hub.HasOpened (h : Hub) (communityId : CommunityId) (userId : UserId) : Prop :=
  ∃ conversationId, (communityId, userId, conversationId) ∈ h.opened

def CanLeave (s : Communities.State) (communityId : CommunityId) (userId : UserId) : Prop :=
  ∃ member, s.members.find? (communityId, userId) = some member ∧ member.status = .active ∧
    member.role ≠ .owner ∧ (s.communities.find? communityId).isSome

/-- An active member who opens the chat that is there is a participant of it, and nobody who has
opened it leaves the community. -/
def Hub.Orderly (communityId : CommunityId) (h : Hub) : HubOp → Prop
  | .createConversation creatorId dto =>
    dto.AsksFor communityId → h.community.activeIn communityId creatorId = true →
      ∀ chat, h.messaging.chatOf? communityId = some chat → chat.2.hasActive creatorId = true
  | .community (.leaveCommunity userId left) =>
    left = communityId → h.HasOpened communityId userId → ¬ CanLeave h.community communityId userId
  | _ => True

/-! ## What an operation does to the conversations -/

variable {s t u : State} {h : Hub} {communityId : CommunityId} {conversationId : ConversationId}
  {userId creatorId senderId : UserId}

/-- The identifiers still to be drawn are free. -/
def State.Unused (s : State) : Prop :=
  ∀ count, s.fresh ≤ count → s.conversations.find? (s.deployment.uuid count) = none

def State.Attends (s : State) (conversationId : ConversationId) (userId : UserId) : Prop :=
  ∃ conversation, s.conversations.find? conversationId = some conversation ∧
    conversation.type ≠ .direct ∧ conversation.hasActive userId = true

/-- Who attends a conversation goes on attending it, and free identifiers stay free. -/
structure Stays (s t : State) : Prop where
  unused : t.Unused
  attends : ∀ conversationId userId, s.Attends conversationId userId → t.Attends conversationId userId

theorem Stays.refl (unused : s.Unused) : Stays s s := ⟨unused, fun _ _ attends => attends⟩

theorem Stays.trans (first : Stays s t) (second : Stays t u) : Stays s u :=
  ⟨second.unused, fun _ _ attends => second.attends _ _ (first.attends _ _ attends)⟩

/-- A change of the conversations that keeps their types and their participants' `leftAt`. -/
theorem stays_of_rows (unused : s.Unused) (fresh : s.fresh ≤ t.fresh) (deployment : t.deployment = s.deployment)
    (rows : ∀ id, (s.conversations.find? id = none → t.conversations.find? id = none) ∧
      ∀ conversation, s.conversations.find? id = some conversation →
        ∃ after, t.conversations.find? id = some after ∧ after.type = conversation.type ∧
          ∀ userId, after.hasActive userId = conversation.hasActive userId) : Stays s t := by
  refine ⟨fun count later => ?_, ?_⟩
  · rw [deployment]
    exact (rows _).1 (unused count (fresh.trans later))
  · rintro conversationId userId ⟨conversation, found, type, active⟩
    obtain ⟨after, found', type', active'⟩ := (rows conversationId).2 conversation found
    exact ⟨after, found', type'.symm ▸ type, (active' userId).trans active⟩

theorem stays_of_conversations (unused : s.Unused) (fresh : s.fresh ≤ t.fresh)
    (deployment : t.deployment = s.deployment) (same : t.conversations = s.conversations) : Stays s t := by
  refine stays_of_rows unused fresh deployment fun id => ⟨fun free => ?_, fun conversation found => ?_⟩
  · rw [same]
    exact free
  · exact ⟨conversation, same ▸ found, rfl, fun _ => rfl⟩

theorem stays_of_modify (change : Conversation → Conversation) (unused : s.Unused) (fresh : s.fresh ≤ t.fresh)
    (deployment : t.deployment = s.deployment) (rows : t.conversations = s.conversations.modify conversationId change)
    (type : ∀ conversation, (change conversation).type = conversation.type)
    (active : ∀ conversation userId, (change conversation).hasActive userId = conversation.hasActive userId) :
    Stays s t := by
  refine stays_of_rows unused fresh deployment fun id => ?_
  rw [rows, find?_modify]
  by_cases here : id = conversationId
  · rw [if_pos here]
    refine ⟨fun free => by rw [free]; rfl, fun conversation found => ?_⟩
    exact ⟨change conversation, by rw [found]; rfl, type conversation, active conversation⟩
  · rw [if_neg here]
    exact ⟨fun free => free, fun conversation found => ⟨conversation, found, rfl, fun _ => rfl⟩⟩

theorem find?_createConversation (unused : s.Unused) (conversation : Conversation) (id : ConversationId) :
    (s.createConversation conversation).conversations.find? id =
      if id = s.deployment.uuid s.fresh then some conversation else s.conversations.find? id := by
  change (s.conversations.insert _ _).find? id = _
  by_cases new : id = s.deployment.uuid s.fresh
  · rw [if_pos new, new]
    exact find?_insert_self (unused s.fresh (Nat.le_refl _)) _
  · rw [if_neg new]
    exact find?_insert_of_ne _ new _

theorem stays_createConversation (unused : s.Unused) (conversation : Conversation) :
    Stays s (s.createConversation conversation) := by
  refine ⟨fun count later => ?_, ?_⟩
  · have drawn : s.fresh + 1 ≤ count := later
    have apart : s.deployment.uuid count ≠ s.deployment.uuid s.fresh := by
      intro same
      have := s.deployment.uuid_injective same
      omega
    change (s.createConversation conversation).conversations.find? (s.deployment.uuid count) = none
    rw [find?_createConversation unused, if_neg apart]
    exact unused count (by omega)
  · rintro conversationId userId ⟨before, found, rest⟩
    refine ⟨before, ?_, rest⟩
    rw [find?_createConversation unused, if_neg, found]
    rintro rfl
    rw [unused s.fresh (Nat.le_refl _)] at found
    cases found

theorem stays_insertConversation (unused : s.Unused) (conversation : Conversation) (userIds : List UserId) :
    Stays s (s.insertConversation conversation userIds).2 := by
  rw [State.insertConversation]
  split
  · exact stays_createConversation unused conversation
  · exact Stays.refl unused

/-- A participant row is modified, but for its `leftAt`. -/
theorem stays_withParticipant (unused : s.Unused) (conversationId : ConversationId) (userId : UserId)
    {change : ConversationParticipant → ConversationParticipant}
    (keeps : ∀ row, (change row).leftAt = row.leftAt) :
    Stays s (s.withParticipant conversationId userId change) := by
  refine stays_of_modify (fun conversation =>
    { conversation with participants := conversation.participants.modify userId change })
      unused (Nat.le_refl _) rfl rfl (fun _ => rfl) fun conversation member => ?_
  rw [Conversation.hasActive, Conversation.hasActive, find?_modify]
  by_cases same : member = userId
  · rw [if_pos same]
    cases conversation.participants.find? member with
    | none => rfl
    | some row => exact congrArg Option.isNone (keeps row)
  · rw [if_neg same]

def NotLeaving : MessagingCall → Prop
  | .conversationParticipantUpdateLeftAt _ _ _ => False
  | _ => True

theorem stays_answer {request : MessagingCall} (staying : NotLeaving request) (unused : s.Unused) :
    Stays s (answer request s).2 := by
  cases request with
  | conversationParticipantUpdateLastReadAt other reader lastReadAt =>
    simp only [answer]
    split
    · exact Stays.refl unused
    · exact stays_withParticipant unused other reader fun _ => rfl
  | createMessageTransaction sender dto inviteData =>
    simp only [answer]
    split
    · exact Stays.refl unused
    · split
      · exact stays_of_modify (fun conversation => { conversation with lastMessageAt := some s.now })
          unused (Nat.le_succ _) rfl rfl (fun _ => rfl) fun _ _ => rfl
      · exact Stays.refl unused
  | conversationCreateDirect first second =>
    simp only [answer]
    split
    · exact stays_createConversation unused _
    · exact Stays.refl unused
  | messageReactionDelete | messageUpdateDeleted =>
    simp only [answer]
    split
    · exact Stays.refl unused
    · exact stays_of_conversations unused (Nat.le_refl _) rfl rfl
  | messageReactionUpsert =>
    simp only [answer]
    split
    · exact Stays.refl unused
    · split
      · exact Stays.refl unused
      · exact stays_of_conversations unused (Nat.le_refl _) rfl rfl
  | conversationParticipantUpdateLeftAt => cases staying
  | incrRateMsg | expireRateMsg | emit | elapse =>
    exact stays_of_conversations unused (Nat.le_refl _) rfl rfl
  | _ => exact Stays.refl unused

/-- **A program that is not a leave keeps who attends a conversation.** -/
theorem stays_exec {Value : Type} {flow : Flow Value} (uses : flow.Uses NotLeaving) (unused : s.Unused) :
    Stays s (flow.exec s).2 :=
  uses.run_keeps answer (fun _ t staying (stays : Stays s t) =>
    stays.trans (stays_answer staying stays.unused)) (Stays.refl unused)

/-! ## Who can send -/

theorem State.Attends.canSend (attends : s.Attends conversationId userId) : s.CanSend userId conversationId := by
  obtain ⟨conversation, found, type, active⟩ := attends
  rintro dto rfl error failed
  cases send_fails failed with
  | absent absent =>
    have present := State.activeIn_eq_true.mpr ⟨conversation, found, active⟩
    rw [present] at absent
    cases absent
  | often => rfl
  | blocked partner =>
    rw [State.partnerOf, found, Option.bind_some, Conversation.directPartner, if_neg type] at partner
    cases partner

theorem State.CanSend.activeIn (canSend : s.CanSend userId conversationId) :
    s.activeIn conversationId userId = true := by
  by_contra inactive
  let dto : SendMessageDto := ⟨conversationId, "", .text, none, [], none, none⟩
  have asserted := assertParticipant_exec s conversationId userId
  rw [if_neg inactive] at asserted
  have failed : (send userId dto).exec s = (.error notParticipant, s) := by
    rw [send, Flow.exec, run_bind_of_error _ asserted]
  have refused := canSend dto rfl _ (congrArg Prod.fst failed)
  simp [notParticipant, tooManyMessages] at refused

/-! ## Who is a member -/

section Members

variable {s : Communities.State}

theorem leaveCommunity_exec (s : Communities.State) (userId : UserId) (communityId : CommunityId) :
    (CanLeave s communityId userId ∧
      (Communities.communityStep s (.leaveCommunity userId communityId)).activeIn communityId userId = false) ∨
    (¬ CanLeave s communityId userId ∧ Communities.communityStep s (.leaveCommunity userId communityId) = s) := by
  rw [Communities.communityStep, Communities.Flow.exec, Communities.leaveCommunity,
    run_bind_of_ok _ (Communities.getMembership_exec s communityId userId)]
  cases found : s.members.find? (communityId, userId) with
  | none =>
    refine .inr ⟨?_, rfl⟩
    rintro ⟨member, found', -⟩
    cases found.symm.trans found'
  | some member =>
    by_cases active : member.status = .active
    · dsimp only
      rw [if_neg (not_not.mpr active)]
      by_cases owner : member.role = .owner
      · refine .inr ⟨?_, by rw [throwIf_of owner]; rfl⟩
        rintro ⟨other, found', -, plain, -⟩
        cases found.symm.trans found'
        exact plain owner
      · rw [throwIf_of_not owner, done_bind, call_bind,
          run_call]
        dsimp only [Communities.answer]
        have deleted : s.deleteMember communityId userId =
            .ok (s.withMembers (s.members.erase (communityId, userId))) := by
          rw [Communities.State.deleteMember, found, if_neg (by simp)]
        have leaves : s.leave communityId userId =
            (s.withMembers (s.members.erase (communityId, userId))).countMembers communityId (-1) := by
          rw [Communities.State.leave, deleted]
          rfl
        cases there : s.communities.find? communityId with
        | none =>
          have outcome : s.leave communityId userId = .error .recordNotFound := by
            rw [leaves, Communities.State.countMembers, Communities.State.withMembers_communities, there]
            rfl
          rw [outcome]
          refine .inr ⟨?_, rfl⟩
          rintro ⟨-, -, -, -, present⟩
          rw [there] at present
          cases present
        | some community =>
          cases outcome : s.leave communityId userId with
          | error error =>
            rw [leaves, Communities.State.countMembers, Communities.State.withMembers_communities,
              there] at outcome
            cases outcome
          | ok t =>
            refine .inl ⟨⟨member, found, active, owner, by rw [there]; rfl⟩, ?_⟩
            change t.activeIn communityId userId = false
            rw [Communities.State.activeIn, (Communities.leave_effect outcome).1.writes.own]
            rfl
    · refine .inr ⟨?_, by dsimp only; rw [if_pos active]; rfl⟩
      rintro ⟨other, found', active', -⟩
      cases found.symm.trans found'
      exact active active'

theorem activeIn_eq_true : s.activeIn communityId userId = true ↔
    ∃ member, s.members.find? (communityId, userId) = some member ∧ member.status = .active := by
  rw [Communities.State.activeIn, Communities.isActive, Option.any_eq_true]
  simp only [decide_eq_true_eq]

/-- **An active member stays one, but for a leave.** -/
theorem activeIn_communityStep (op : Communities.CommunityOp) (active : s.activeIn communityId userId = true)
    (stays : op = .leaveCommunity userId communityId → ¬ CanLeave s communityId userId) :
    (Communities.communityStep s op).activeIn communityId userId = true := by
  by_cases leaves : op = .leaveCommunity userId communityId
  · obtain ⟨canLeave, -⟩ | ⟨-, same⟩ := leaveCommunity_exec s userId communityId
    · exact absurd canLeave (stays leaves)
    · rw [leaves, same]
      exact active
  · obtain ⟨member, found, status⟩ := activeIn_eq_true.mp active
    -- a row that is written is another's, or active again
    have others : ∀ {t : Communities.State} {other user row}, Communities.Writes s t other user row →
        (other = communityId → user = userId → Communities.isActive row = true) →
          t.activeIn communityId userId = true := by
      intro t other user row writes own
      by_cases same : (communityId, userId) = (other, user)
      · cases same
        rw [Communities.State.activeIn, writes.own]
        exact own rfl rfl
      · rw [Communities.State.activeIn, writes.find?_of_ne same]
        exact active
    have effect := Communities.effect s op
    generalize Communities.communityStep s op = t at effect
    cases effect with
    | nothing | elapsed | updated => exact active
    | created ownerId dto =>
      refine activeIn_eq_true.mpr ⟨member, ?_, status⟩
      change (s.members.insert (s.fresh, ownerId) _).find? _ = _
      rw [find?_insert, if_neg, found]
      rintro ⟨same, free⟩
      rw [← same, found] at free
      cases free
    | joined user other nextStatus t inactive there counts =>
      refine others counts.writes fun same same' => ?_
      rw [same, same', active] at inactive
      cases inactive
    | accepted actor dto other t found' pending counts =>
      exact others counts.writes fun _ _ => rfl
    | rejected actor dto other t found' pending counts =>
      refine others counts.writes fun same same' => ?_
      rw [same, same', found] at found'
      cases found'
      rw [status] at pending
      cases pending
    | left user other row t found' plain counts =>
      refine others counts.writes fun same same' => ?_
      rw [same, same'] at leaves
      exact absurd rfl leaves
    | changed actor dto other t holds plain found' status' counts =>
      refine others counts.writes fun _ _ => ?_
      rw [Communities.isActive, Option.any_some, decide_eq_true_eq]
      exact status'

end Members

/-! ## Opening the chat -/

theorem State.chatOf?_eq_some {chat : ConversationId × Conversation} (chosen : s.chatOf? communityId = some chat) :
    s.conversations.find? chat.1 = some chat.2 ∧ chat.2.type = .communityChat := by
  have listed := List.mem_of_find?_eq_some chosen
  have test := List.find?_some chosen
  simp only [Conversation.isChatOf, Bool.and_eq_true, decide_eq_true_eq] at test
  exact ⟨(mem_entries_iff _).mp listed, test.1.2⟩

theorem createCommunityChat_exec (h : Hub) (creatorId : UserId) (communityId : CommunityId) (name : Option String) :
    (createCommunityChat creatorId communityId name).exec h =
      if h.community.activeIn communityId creatorId = true then
        (findOrCreateChat creatorId communityId name).exec h
      else (.error mustBeMember, h) := by
  have asked : hubAnswer (.community (.communityMemberFindUnique communityId creatorId)) h =
      (h.community.members.find? (communityId, creatorId), h) := rfl
  refine (run_call_of_answer hubAnswer asked _).trans ?_
  change run hubAnswer (throwIf (h.community.activeIn communityId creatorId = false) _ >>= _) h = _
  cases h.community.activeIn communityId creatorId <;> rfl

theorem findOrCreateChat_found (name : Option String) {chat : ConversationId × Conversation}
    (chosen : h.messaging.chatOf? communityId = some chat) :
    (findOrCreateChat creatorId communityId name).exec h =
      (.ok (toDetail (h.messaging.withItsUsers chat)), h) := by
  have looked : hubAnswer (.conversationFindFirstCommunityChat communityId) h =
      (some (h.messaging.withItsUsers chat), h) := by
    simp only [hubAnswer, chosen]
    rfl
  exact run_call_of_answer hubAnswer looked _

/-- The conversation that is created for an active member. -/
def Hub.newChat (h : Hub) (communityId : CommunityId) (name : Option String) (creatorId : UserId) : Conversation :=
  newConversation h.messaging.now .communityChat (some communityId) name [creatorId]

theorem findOrCreateChat_created (creatorId : UserId) (name : Option String) (absent : h.messaging.chatOf? communityId = none) :
    (∃ error, (findOrCreateChat creatorId communityId name).exec h = (.error error, h)) ∨
    (findOrCreateChat creatorId communityId name).exec h =
      (.ok (toDetail (h.messaging.withItsUsers (h.messaging.deployment.uuid h.messaging.fresh,
          h.newChat communityId name creatorId))),
        h.withMessaging (h.messaging.createConversation (h.newChat communityId name creatorId))) := by
  have looked : hubAnswer (.conversationFindFirstCommunityChat communityId) h = (none, h) := by
    simp only [hubAnswer, absent]
    rfl
  have enters : (findOrCreateChat creatorId communityId name).exec h =
      run hubAnswer (hubCall (.conversationCreateCommunityChat communityId name creatorId) >>= detailOf) h :=
    run_call_of_answer hubAnswer looked _
  rw [enters]
  -- the community and the user have to be there
  have refusal : hubAnswer (.conversationCreateCommunityChat communityId name creatorId) h =
      (.error .foreignKeyViolation, h) → ∃ error, run hubAnswer
        (hubCall (.conversationCreateCommunityChat communityId name creatorId) >>= detailOf) h =
          (.error error, h) :=
    fun refused => ⟨.prisma .foreignKeyViolation, run_call_of_answer hubAnswer refused _⟩
  cases there : h.community.communities.find? communityId with
  | none =>
    refine .inl (refusal ?_)
    simp only [hubAnswer, there]
    rfl
  | some community =>
    cases user : h.messaging.users.find? creatorId with
    | none =>
      refine .inl (refusal ?_)
      simp only [hubAnswer, there, State.insertConversation, List.all_cons, user]
      rfl
    | some profile =>
      have created : hubAnswer (.conversationCreateCommunityChat communityId name creatorId) h =
          (.ok (h.messaging.withItsUsers (h.messaging.deployment.uuid h.messaging.fresh,
            h.newChat communityId name creatorId)),
          h.withMessaging (h.messaging.createConversation (h.newChat communityId name creatorId))) := by
        simp only [hubAnswer, there, State.insertConversation, List.all_cons, user]
        rfl
      exact .inr (run_call_of_answer hubAnswer created _)

theorem attends_newChat (unused : h.messaging.Unused) (communityId : CommunityId) (name : Option String)
    (creatorId : UserId) :
    (h.messaging.createConversation (h.newChat communityId name creatorId)).Attends
      (h.messaging.deployment.uuid h.messaging.fresh) creatorId := by
  refine ⟨h.newChat communityId name creatorId, ?_, nofun, ?_⟩
  · rw [find?_createConversation unused, if_pos rfl]
  · have listed : (newParticipants h.messaging.now [creatorId]).find? creatorId =
        some (newParticipant h.messaging.now) := find?_insert_self (find?_empty _) _
    change ((newParticipants h.messaging.now [creatorId]).find? creatorId).any _ = true
    rw [listed]
    rfl

/-- The members are as they were, and who attends a conversation goes on attending it. -/
structure HubStays (h after : Hub) : Prop where
  community : after.community = h.community
  opened : after.opened = h.opened
  messaging : Stays h.messaging after.messaging

theorem findOrCreateDirect_stays (first second : UserId) : (findOrCreateDirect first second).Uses NotLeaving := by
  refine (uses_throwIf _ _).bind fun _ => ?_
  refine Uses.bind (Uses.send trivial fun _ => uses_throwIf _ _) fun _ => ?_
  refine Uses.send trivial fun existing => ?_
  cases existing with
  | some found => trivial
  | none =>
    refine Uses.send trivial fun reply => ?_
    cases reply <;> trivial

theorem messaging_stays {Value : Type} {flow : Flow Value} (uses : flow.Uses NotLeaving)
    (unused : h.messaging.Unused) : HubStays h ((messaging flow).exec h).2 := by
  have ran : (messaging flow).exec h =
      ((flow.exec h.messaging).1.mapError id, h.withMessaging (flow.exec h.messaging).2) :=
    run_embed answer id Hub.messaging Hub.withMessaging (fun _ _ => rfl) (fun _ _ => rfl)
      (fun _ _ _ => rfl) (fun _ => rfl) flow h
  rw [ran]
  exact ⟨rfl, rfl, stays_exec uses unused⟩

theorem createCommunityChat_stays (unused : h.messaging.Unused) (name : Option String) :
    HubStays h ((createCommunityChat creatorId communityId name).exec h).2 := by
  rw [createCommunityChat_exec]
  split
  · cases chosen : h.messaging.chatOf? communityId with
    | some chat =>
      rw [findOrCreateChat_found name chosen]
      exact ⟨rfl, rfl, Stays.refl unused⟩
    | none =>
      obtain ⟨error, failed⟩ | created := findOrCreateChat_created creatorId name chosen
      · rw [failed]
        exact ⟨rfl, rfl, Stays.refl unused⟩
      · rw [created]
        exact ⟨rfl, rfl, stays_createConversation unused _⟩
  · exact ⟨rfl, rfl, Stays.refl unused⟩

theorem createGroupChat_stays (unused : h.messaging.Unused) (dto : CreateConversationDto) :
    HubStays h ((createGroupChat creatorId dto).exec h).2 := by
  rw [createGroupChat, HubFlow.exec, run_throwIf_bind]
  split
  · exact ⟨rfl, rfl, Stays.refl unused⟩
  · have inserts := stays_insertConversation unused
      (newConversation h.messaging.now .groupChat none dto.name (dto.participantIds creatorId))
      (dto.participantIds creatorId)
    rw [call_bind, run_call]
    dsimp only [hubAnswer]
    cases (h.messaging.insertConversation (newConversation h.messaging.now .groupChat none dto.name
      (dto.participantIds creatorId)) (dto.participantIds creatorId)).1 <;> exact ⟨rfl, rfl, inserts⟩

theorem createConversation_stays (unused : h.messaging.Unused) (creatorId : UserId) (dto : CreateConversationDto) :
    HubStays h ((createConversation creatorId dto).exec h).2 := by
  rw [createConversation]
  split
  · split
    · exact ⟨rfl, rfl, Stays.refl unused⟩
    · exact messaging_stays (findOrCreateDirect_stays _ _) unused
  · split
    · exact ⟨rfl, rfl, Stays.refl unused⟩
    · exact createCommunityChat_stays unused dto.name
  · exact createGroupChat_stays unused dto

/-! ## One step -/

/-- Who has opened the chat is an active member and attends it. -/
structure Hub.Sound (communityId : CommunityId) (h : Hub) : Prop where
  unused : h.messaging.Unused
  opened : ∀ userId conversationId, (communityId, userId, conversationId) ∈ h.opened →
    h.messaging.Attends conversationId userId ∧ h.community.activeIn communityId userId = true

theorem Hub.Sound.matches (sound : h.Sound communityId) : h.Matches communityId := by
  intro userId conversationId opened
  obtain ⟨attends, active⟩ := sound.opened userId conversationId opened
  exact ⟨fun _ => active, fun _ => attends.canSend⟩

theorem mem_recorded {dto : CreateConversationDto} {outcome : Except ServiceError ConversationDetail} :
    (communityId, userId, conversationId) ∈ (h.recorded creatorId dto outcome).opened ↔
      (communityId, userId, conversationId) ∈ h.opened ∨
        (dto.AsksFor communityId ∧ userId = creatorId ∧
          ∃ detail, outcome = .ok detail ∧ conversationId = detail.id) := by
  have asks : dto.AsksFor communityId ↔ dto.community? = some communityId := by
    rw [CreateConversationDto.AsksFor, CreateConversationDto.community?]
    split <;> simp_all
  rw [asks]
  cases outcome with
  | error error => simp [Hub.recorded]
  | ok detail =>
    rw [Hub.recorded]
    cases dto.community? with
    | none => simp
    | some asked =>
      simp only [List.mem_cons, Prod.mk.injEq, Option.some.injEq, Except.ok.injEq, exists_eq_left']
      exact ⟨fun mem => mem.symm.imp id fun same => ⟨same.1.symm, same.2⟩,
        fun mem => mem.symm.imp (fun same => ⟨same.1.symm, same.2⟩) id⟩

theorem recorded_community (h : Hub) (creatorId : UserId) (dto : CreateConversationDto)
    (outcome : Except ServiceError ConversationDetail) :
    (h.recorded creatorId dto outcome).community = h.community ∧
      (h.recorded creatorId dto outcome).messaging = h.messaging := by
  cases outcome with
  | error error => exact ⟨rfl, rfl⟩
  | ok detail =>
    rw [Hub.recorded]
    cases dto.community? <;> exact ⟨rfl, rfl⟩

theorem createConversation_of_asks {dto : CreateConversationDto} (asks : dto.AsksFor communityId)
    (creatorId : UserId) :
    createConversation creatorId dto = createCommunityChat creatorId communityId dto.name := by
  rw [createConversation, asks.1, asks.2]

theorem Hub.Sound.returns (sound : h.Sound communityId) {dto : CreateConversationDto}
    (orderly : h.Orderly communityId (.createConversation creatorId dto)) (asks : dto.AsksFor communityId)
    {detail : ConversationDetail} (returned : ((createConversation creatorId dto).exec h).1 = .ok detail) :
    ((createConversation creatorId dto).exec h).2.messaging.Attends detail.id creatorId ∧
      h.community.activeIn communityId creatorId = true := by
  rw [createConversation_of_asks asks, createCommunityChat_exec] at returned ⊢
  cases active : h.community.activeIn communityId creatorId with
  | false =>
    rw [active] at returned
    cases returned
  | true =>
    rw [active] at returned
    refine ⟨?_, rfl⟩
    cases chosen : h.messaging.chatOf? communityId with
    | some chat =>
      rw [findOrCreateChat_found dto.name chosen] at returned ⊢
      obtain ⟨found, type⟩ := State.chatOf?_eq_some chosen
      cases returned
      exact ⟨chat.2, found, type ▸ nofun, orderly asks active chat chosen⟩
    | none =>
      obtain ⟨error, failed⟩ | created := findOrCreateChat_created creatorId dto.name chosen
      · rw [failed] at returned
        cases returned
      · rw [created] at returned ⊢
        cases returned
        exact attends_newChat sound.unused communityId dto.name creatorId

/-- **An orderly step keeps it that who has opened the chat attends it and is a member.** -/
theorem Hub.Sound.step (sound : h.Sound communityId) {op : HubOp} (orderly : h.Orderly communityId op) :
    (hubStep h op).Sound communityId := by
  cases op with
  | createConversation creatorId dto =>
    have stays := createConversation_stays sound.unused creatorId dto
    obtain ⟨community, messaging⟩ := recorded_community ((createConversation creatorId dto).exec h).2 creatorId dto
      ((createConversation creatorId dto).exec h).1
    rw [hubStep]
    refine ⟨messaging ▸ stays.messaging.unused, fun userId conversationId opened => ?_⟩
    rw [community, messaging, stays.community]
    rw [mem_recorded, stays.opened] at opened
    obtain earlier | ⟨asks, rfl, detail, returned, rfl⟩ := opened
    · obtain ⟨attends, active⟩ := sound.opened userId conversationId earlier
      exact ⟨stays.messaging.attends _ _ attends, active⟩
    · exact sound.returns orderly asks returned
  | send senderId dto =>
    have staying : ∀ request, KeepsActive request → NotLeaving request := by
      intro request keeps
      cases request <;> trivial
    have stays := stays_exec ((send_uses senderId dto).mono staying) sound.unused
    refine ⟨stays.unused, fun userId conversationId opened => ?_⟩
    obtain ⟨attends, active⟩ := sound.opened userId conversationId opened
    exact ⟨stays.attends _ _ attends, active⟩
  | community op =>
    refine ⟨sound.unused, fun userId conversationId opened => ?_⟩
    obtain ⟨attends, active⟩ := sound.opened userId conversationId opened
    refine ⟨attends, activeIn_communityStep op active fun leaves => ?_⟩
    subst leaves
    exact orderly rfl ⟨conversationId, opened⟩

theorem Hub.Sound.separates (sound : h.Sound communityId) {op : HubOp} (disorderly : ¬ h.Orderly communityId op) :
    ¬ (hubStep h op).Matches communityId := by
  cases op with
  | createConversation creatorId dto =>
    rw [Hub.Orderly] at disorderly
    push Not at disorderly
    obtain ⟨asks, active, chat, chosen, outside⟩ := disorderly
    intro agrees
    have ran : (createConversation creatorId dto).exec h =
        (.ok (toDetail (h.messaging.withItsUsers chat)), h) := by
      rw [createConversation_of_asks asks, createCommunityChat_exec, if_pos active,
        findOrCreateChat_found dto.name chosen]
    obtain ⟨community, messaging⟩ := recorded_community h creatorId dto
      (.ok (toDetail (h.messaging.withItsUsers chat)))
    rw [hubStep, ran] at agrees
    have opened : (communityId, creatorId, chat.1) ∈ (h.recorded creatorId dto
        (.ok (toDetail (h.messaging.withItsUsers chat)))).opened :=
      mem_recorded.mpr (.inr ⟨asks, rfl, _, rfl, rfl⟩)
    have canSend := (agrees creatorId chat.1 opened).mpr (community ▸ active)
    rw [messaging] at canSend
    -- a participant of the chat that is there, against what has been found
    obtain ⟨conversation, found, attends⟩ := State.activeIn_eq_true.mp canSend.activeIn
    rw [(State.chatOf?_eq_some chosen).1] at found
    cases found
    exact outside attends
  | send senderId dto => exact absurd trivial disorderly
  | community op =>
    cases op with
    | leaveCommunity userId left =>
      rw [Hub.Orderly] at disorderly
      push Not at disorderly
      obtain ⟨rfl, ⟨conversationId, opened⟩, canLeave⟩ := disorderly
      intro agrees
      obtain ⟨-, gone⟩ | ⟨cannot, -⟩ := leaveCommunity_exec h.community userId left
      · have attends := (sound.opened userId conversationId opened).1
        have sends : (h.messaging.elapsed 0).Attends conversationId userId := attends
        have member := (agrees userId conversationId opened).mp sends.canSend
        exact Bool.noConfusion (gone.symm.trans member)
      · exact cannot canLeave
    | _ => exact absurd trivial disorderly

/-! ## The whole run -/

/-- **Who has opened the chat of a community can send to it exactly while an active member, in every
state of a run, exactly when every active member who opens a chat that is there is a participant of
it, and nobody who has opened it leaves the community.** -/
theorem chat_matches_iff (communityId : CommunityId) (unused : h.messaging.Unused) (nobody : h.opened = [])
    (ops : List HubOp) :
    Throughout hubStep (Hub.Matches communityId) h ops ↔ EachStep hubStep (Hub.Orderly communityId) h ops := by
  have initially : h.Sound communityId := by
    refine ⟨unused, fun userId conversationId opened => ?_⟩
    rw [nobody] at opened
    cases opened
  have gives : ∀ h : Hub, h.Sound communityId → h.Matches communityId := fun _ sound => sound.matches
  exact throughout_iff_eachStep gives (fun _ _ sound orderly => sound.step orderly)
    (fun _ _ sound disorderly => sound.separates disorderly) initially ops

/-! ## A chat of two -/

def smallHub : Hub where
  community := Communities.smallInstallation
  messaging := { smallInstallation with conversations := .empty }
  opened := []

def askForChat : CreateConversationDto := ⟨.communityChat, [1], none, some 1⟩

def chatOpened : List HubOp :=
  [.community (.createCommunity 1 (Communities.smallCommunity .isPublic)), .createConversation 1 askForChat,
    .community (.joinCommunity 2 1)]

theorem chat_matches_small :
    Throughout hubStep (Hub.Matches 1) smallHub chatOpened ↔ EachStep hubStep (Hub.Orderly 1) smallHub chatOpened :=
  chat_matches_iff 1 (fun _ _ => rfl) rfl chatOpened

/-- Rider 2 opens the chat too, and cannot send to it. -/
theorem chat_without_member :
    ¬ ∀ (communityId : CommunityId) (ops : List HubOp), Throughout hubStep (Hub.Matches communityId) smallHub ops := by
  intro claim
  have agrees := (claim 1 (chatOpened ++ [.createConversation 2 askForChat])).last
  have opened : (1, 2, "") ∈ (follow hubStep smallHub
      (chatOpened ++ [.createConversation 2 askForChat])).opened := by decide +kernel
  have member : (follow hubStep smallHub
      (chatOpened ++ [.createConversation 2 askForChat])).community.activeIn 1 2 = true := by decide +kernel
  have absent : (follow hubStep smallHub
      (chatOpened ++ [.createConversation 2 askForChat])).messaging.activeIn "" 2 = false := by decide +kernel
  have active := ((agrees 2 "" opened).mpr member).activeIn
  rw [absent] at active
  cases active

end Motogram.Messaging
