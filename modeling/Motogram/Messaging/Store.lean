import Mathlib.Tactic.Simps.Basic
import Motogram.Store

/-!
# The stores of the message service

What `message.service.ts` and `conversation.service.ts` keep: the users, the conversations
with their participants, the messages with their reactions, the blocks, the rate counters,
the events handed out, and the clock.

Two constraints of the database are kept by construction. A participant is a row inside
its conversation, so that no participant is without one. A message table never holds two
messages of one conversation with one `clientId` (`MessageTable.unique`).
-/

set_option autoImplicit false

namespace Motogram.Messaging

open Foundation

abbrev ConversationId := String
abbrev MessageId := String
abbrev ClientId := String
abbrev CommunityId := Nat

/-! ## Rows -/

inductive ConversationType where
  | direct
  | groupChat
  | communityChat
  deriving DecidableEq

inductive MessageType where
  | text
  | image
  | video
  | file
  | rideInvite
  | eventInvite
  | system
  deriving DecidableEq

structure RideInviteData where
  partyId : String
  partyName : String
  leaderName : String
  routeId : Option String
  deriving DecidableEq

structure EventInviteData where
  eventId : String
  title : String
  meetingPointName : String
  startTime : String
  deriving DecidableEq

/-- The column `inviteData`. -/
inductive InviteData where
  | ride (data : RideInviteData)
  | event (data : EventInviteData)
  deriving DecidableEq

/-- What a conversation shows of a user. -/
structure Profile where
  username : String
  avatarUrl : Option String
  deriving DecidableEq

/-- A participant row. Its key, the pair of conversation and user, is kept by the tables. A client may
send any date as `lastReadAt`, also one before the epoch. -/
structure ConversationParticipant where
  isMuted : Bool
  mutedUntil : Option Time
  lastReadAt : Option Int
  joinedAt : Time
  leftAt : Option Time
  deriving DecidableEq

/-- The columns of a conversation that the services read, with its participants. -/
structure Conversation where
  type : ConversationType
  name : Option String
  avatarUrl : Option String
  communityId : Option CommunityId
  lastMessageAt : Option Time
  createdAt : Time
  deletedAt : Option Time
  participants : Table UserId ConversationParticipant

structure Message where
  conversationId : ConversationId
  senderId : UserId
  clientId : Option ClientId
  content : Option String
  mediaUrls : List String
  messageType : MessageType
  inviteData : Option InviteData
  isDeleted : Bool
  createdAt : Time
  deriving DecidableEq

/-- `@@unique([conversationId, clientId])`: where both are there and agree, the rows are
the same. -/
def UniqueClientIds (rows : Table MessageId Message) : Prop :=
  ∀ first second row row', rows.find? first = some row → rows.find? second = some row' →
    row.conversationId = row'.conversationId → row.clientId = row'.clientId →
      row.clientId.isSome → first = second

/-- The messages, no two of one conversation with one `clientId`. -/
structure MessageTable where
  rows : Table MessageId Message
  unique : UniqueClientIds rows

/-- The message of a conversation with a `clientId`. -/
def MessageTable.byClientId? (messages : MessageTable) (conversationId : ConversationId)
    (clientId : ClientId) : Option (MessageId × Message) :=
  messages.rows.entries.find? fun entry => decide (entry.2.conversationId = conversationId) &&
    decide (entry.2.clientId = some clientId)

theorem MessageTable.byClientId?_eq_some {messages : MessageTable} {conversationId : ConversationId}
    {clientId : ClientId} {id : MessageId} {row : Message}
    (found : messages.byClientId? conversationId clientId = some (id, row)) :
    messages.rows.find? id = some row ∧ row.conversationId = conversationId ∧ row.clientId = some clientId := by
  have listed := List.mem_of_find?_eq_some found
  have test := List.find?_some found
  simp only [Bool.and_eq_true, decide_eq_true_eq] at test
  exact ⟨(messages.rows.mem_entries_iff).mp listed, test⟩

theorem MessageTable.byClientId?_eq_none {messages : MessageTable} {conversationId : ConversationId}
    {clientId : ClientId} (free : messages.byClientId? conversationId clientId = none) {id : MessageId}
    {row : Message} (found : messages.rows.find? id = some row) (same : row.conversationId = conversationId) :
    row.clientId ≠ some clientId := by
  intro taken
  have listed := (messages.rows.mem_entries_iff).mpr found
  have fails := List.find?_eq_none.mp free (id, row) listed
  simp [same, taken] at fails

/-- Insert a message when its conversation has none with its `clientId`. -/
def MessageTable.create (messages : MessageTable) (id : MessageId) (row : Message)
    (free : ∀ clientId, row.clientId = some clientId →
      messages.byClientId? row.conversationId clientId = none) : MessageTable where
  rows := messages.rows.insert id row
  unique := by
    have apart : ∀ other row', messages.rows.find? other = some row' →
        row'.conversationId = row.conversationId → row'.clientId = row.clientId →
          row.clientId.isSome → False := by
      intro other row' found conversation client present
      obtain ⟨clientId, here⟩ := Option.isSome_iff_exists.mp present
      exact MessageTable.byClientId?_eq_none (free clientId here) found conversation
        (client.trans here)
    intro first second rowFirst rowSecond one two conversation client present
    rw [Table.find?_insert] at one two
    split at one
    · rename_i here
      cases one
      split at two
      · rename_i there
        exact here.1.trans there.1.symm
      · exact (apart second rowSecond two conversation.symm client.symm present).elim
    · split at two
      · cases two
        exact (apart first rowFirst one conversation client (client ▸ present)).elim
      · exact messages.unique first second rowFirst rowSecond one two conversation client present

/-- Change a message, though not its conversation nor its `clientId`. -/
def MessageTable.modify (messages : MessageTable) (id : MessageId) (change : Message → Message)
    (keeps : ∀ row, (change row).conversationId = row.conversationId ∧ (change row).clientId = row.clientId) :
    MessageTable where
  rows := messages.rows.modify id change
  unique := by
    have before : ∀ other row, (messages.rows.modify id change).find? other = some row →
        ∃ row', messages.rows.find? other = some row' ∧ row.conversationId = row'.conversationId ∧
          row.clientId = row'.clientId := by
      intro other row found
      rw [Table.find?_modify] at found
      split at found
      · obtain ⟨row', found', rfl⟩ := Option.map_eq_some_iff.mp found
        exact ⟨row', found', keeps row'⟩
      · exact ⟨row, found, rfl, rfl⟩
    intro first second rowFirst rowSecond one two conversation client present
    obtain ⟨first', one', sameConversation, sameClient⟩ := before first rowFirst one
    obtain ⟨second', two', sameConversation', sameClient'⟩ := before second rowSecond two
    rw [sameConversation, sameConversation'] at conversation
    rw [sameClient] at client present
    rw [sameClient'] at client
    exact messages.unique first second first' second' one' two' conversation client present

def MessageTable.empty : MessageTable where
  rows := .empty
  unique := by
    intro first second row row' found
    cases found

structure MessageReaction where
  createdAt : Time
  deriving DecidableEq

/-! ## Requests and responses -/

/-- A body `SendMessageSchema` accepts. -/
structure SendMessageDto where
  conversationId : ConversationId
  clientId : ClientId
  messageType : MessageType
  content : Option String
  mediaUrls : List String
  rideInvite : Option RideInviteData
  eventInvite : Option EventInviteData
  deriving DecidableEq

/-- A body `ReactMessageSchema` accepts. -/
structure ReactMessageDto where
  messageId : MessageId
  emoji : String
  remove : Bool
  deriving DecidableEq

structure MessageReactionDto where
  messageId : MessageId
  userId : UserId
  emoji : String
  createdAt : Time
  deriving DecidableEq

/-- `toDto`: a message with its reactions. -/
structure MessageDto where
  id : MessageId
  message : Message
  reactions : List MessageReactionDto
  deriving DecidableEq

/-- What `send` returns. -/
structure SendResult where
  message : MessageDto
  recipientIds : List UserId
  duplicate : Bool
  deriving DecidableEq

/-- What `react` returns. -/
structure ReactResult where
  removed : Bool
  reaction : MessageReactionDto
  conversationId : ConversationId
  message : MessageDto
  recipientIds : List UserId
  deriving DecidableEq

/-- A conversation with its participants and their users, as the queries include them. -/
structure ConversationWithUsers where
  id : ConversationId
  conversation : Conversation
  participants : List (UserId × ConversationParticipant × Profile)

structure ParticipantDto where
  userId : UserId
  username : String
  avatarUrl : Option String
  isMuted : Bool
  mutedUntil : Option Time
  lastReadAt : Option Int
  joinedAt : Time
  leftAt : Option Time
  deriving DecidableEq

structure ConversationDetail where
  id : ConversationId
  type : ConversationType
  name : Option String
  avatarUrl : Option String
  communityId : Option CommunityId
  participants : List ParticipantDto
  createdAt : Time
  deriving DecidableEq

/-- What the callbacks of the gateway hand out. -/
inductive MessagingEmission where
  | received (message : MessageDto) (recipientIds : List UserId)
  | push (recipientIds : List UserId) (message : MessageDto)
  | reactionUpdated (conversationId : ConversationId) (messageId : MessageId) (removed : Bool)
      (reaction : MessageReactionDto) (recipientIds : List UserId)
  deriving DecidableEq

/-! ## The state -/

/-- What the installation fixes: how identifiers are drawn. -/
structure Deployment where
  uuid : Nat → String
  uuid_injective : Function.Injective uuid

structure State where
  deployment : Deployment
  now : Time
  users : Table UserId Profile
  conversations : Table ConversationId Conversation
  messages : MessageTable
  messageReactions : Table (MessageId × UserId × String) MessageReaction
  blocks : List (UserId × UserId)
  rateMsg : UserId → Option (Expiring Nat)
  emissions : List MessagingEmission
  /-- The identifiers drawn so far. -/
  fresh : Nat

/-! ## Constants -/

def msgRateLimit : Nat := 60
def msgRateWindowSecs : Nat := 60

/-! ## Calls and replies -/

inductive MessagingCall where
  -- Prisma
  | conversationParticipantFindUnique (conversationId : ConversationId) (userId : UserId)
  | conversationFindUniqueWithParticipants (conversationId : ConversationId)
  | conversationParticipantFindManyActive (conversationId : ConversationId)
  | conversationParticipantFindManyMuting (conversationId : ConversationId) (userIds : List UserId)
  | conversationParticipantUpdateLastReadAt (conversationId : ConversationId) (userId : UserId)
      (lastReadAt : Int)
  | conversationFindFirstDirect (userAId userBId : UserId)
  | conversationCreateDirect (userAId userBId : UserId)
  | conversationFindFirstType (conversationId : ConversationId)
  | conversationParticipantCountActive (conversationId : ConversationId)
  | conversationParticipantUpdateLeftAt (conversationId : ConversationId) (userId : UserId)
      (leftAt : Time)
  | blockFindFirst (userId otherId : UserId)
  | messageFindUniqueByClientId (conversationId : ConversationId) (clientId : ClientId)
  | messageFindUnique (messageId : MessageId)
  | createMessageTransaction (senderId : UserId) (dto : SendMessageDto)
      (inviteData : Option InviteData)
  | messageUpdateDeleted (messageId : MessageId)
  | messageReactionDelete (messageId : MessageId) (userId : UserId) (emoji : String)
  | messageReactionUpsert (messageId : MessageId) (userId : UserId) (emoji : String)
  -- Redis
  | incrRateMsg (userId : UserId)
  | expireRateMsg (userId : UserId) (seconds : Nat)
  -- out
  | emit (emission : MessagingEmission)
  -- the process
  | dateNow
  | elapse (milliseconds : Nat)

@[reducible] def MessagingReply : MessagingCall → Type
  | .conversationParticipantFindUnique _ _ => Option ConversationParticipant
  | .conversationFindUniqueWithParticipants _ => Option Conversation
  | .conversationParticipantFindManyActive _ => List UserId
  | .conversationParticipantFindManyMuting _ _ => List (UserId × Bool × Option Time)
  | .conversationParticipantUpdateLastReadAt _ _ _ => Except PrismaError Unit
  | .conversationFindFirstDirect _ _ => Option ConversationWithUsers
  | .conversationCreateDirect _ _ => Except PrismaError ConversationWithUsers
  | .conversationFindFirstType _ => Option ConversationType
  | .conversationParticipantCountActive _ => Nat
  | .conversationParticipantUpdateLeftAt _ _ _ => Except PrismaError Unit
  | .blockFindFirst _ _ => Bool
  | .messageFindUniqueByClientId _ _ => Option MessageDto
  | .messageFindUnique _ => Option MessageDto
  | .createMessageTransaction _ _ _ => Except PrismaError MessageDto
  | .messageUpdateDeleted _ => Except PrismaError MessageDto
  | .messageReactionDelete _ _ _ => Except PrismaError Unit
  | .messageReactionUpsert _ _ _ => Except PrismaError MessageReaction
  | .incrRateMsg _ => Nat
  | .expireRateMsg _ _ => Unit
  | .emit _ => Unit
  | .dateNow => Time
  | .elapse _ => Unit

/-! ## Writing the state -/

section Setters

variable (s : State)

@[simps -fullyApplied] def State.withConversations
    (conversations : Table ConversationId Conversation) : State :=
  { s with conversations := conversations }

@[simps -fullyApplied] def State.withMessages (messages : MessageTable) : State :=
  { s with messages := messages }

@[simps -fullyApplied] def State.withReactions
    (messageReactions : Table (MessageId × UserId × String) MessageReaction) : State :=
  { s with messageReactions := messageReactions }

@[simps -fullyApplied] def State.withRateMsg (userId : UserId) (count : Option (Expiring Nat)) :
    State :=
  { s with rateMsg := Function.update s.rateMsg userId count }

@[simps -fullyApplied] def State.withFresh (fresh : Nat) : State := { s with fresh := fresh }

@[simps -fullyApplied] def State.sent (emission : MessagingEmission) : State :=
  { s with emissions := s.emissions ++ [emission] }

@[simps -fullyApplied] def State.elapsed (milliseconds : Nat) : State :=
  { s with now := s.now + milliseconds }

end Setters

/-! ## Reading the tables -/

def State.participant? (s : State) (conversationId : ConversationId) (userId : UserId) :
    Option ConversationParticipant :=
  (s.conversations.find? conversationId).bind fun conversation =>
    conversation.participants.find? userId

def Conversation.activeParticipants (conversation : Conversation) : List UserId :=
  (conversation.participants.select fun _ row => row.leftAt.isNone).map Prod.fst

def Conversation.hasActive (conversation : Conversation) (userId : UserId) : Bool :=
  (conversation.participants.find? userId).any fun row => row.leftAt.isNone

/-- The query of `findOrCreateDirect`: a direct conversation that is not deleted, with both users
active in it. -/
def Conversation.isDirectOf (conversation : Conversation) (userAId userBId : UserId) : Bool :=
  decide (conversation.type = .direct) && conversation.deletedAt.isNone &&
    conversation.hasActive userAId && conversation.hasActive userBId

/-- `include: { participants: { include: { user: true } } }`. -/
def State.withItsUsers (s : State) (entry : ConversationId × Conversation) :
    ConversationWithUsers where
  id := entry.1
  conversation := entry.2
  participants := entry.2.participants.entries.filterMap fun participant =>
    (s.users.find? participant.1).map fun profile => (participant.1, participant.2, profile)

/-- `include: { reactions: true }`. -/
def State.reactionsOf (s : State) (messageId : MessageId) : List MessageReactionDto :=
  (s.messageReactions.select fun key _ => decide (key.1 = messageId)).map fun entry =>
    ⟨messageId, entry.1.2.1, entry.1.2.2, entry.2.createdAt⟩

def State.withItsReactions (s : State) (entry : MessageId × Message) : MessageDto :=
  ⟨entry.1, entry.2, s.reactionsOf entry.1⟩

/-- The row `message.create` inserts. -/
def newMessage (now : Time) (senderId : UserId) (dto : SendMessageDto)
    (inviteData : Option InviteData) : Message where
  conversationId := dto.conversationId
  senderId := senderId
  clientId := some dto.clientId
  content := dto.content
  mediaUrls := dto.mediaUrls
  messageType := dto.messageType
  inviteData := inviteData
  isDeleted := false
  createdAt := now

def Message.deleted (row : Message) : Message :=
  { row with isDeleted := true, content := none, mediaUrls := [], inviteData := none }

def newParticipant (now : Time) : ConversationParticipant where
  isMuted := false
  mutedUntil := none
  lastReadAt := none
  joinedAt := now
  leftAt := none

/-- The row `conversation.create` inserts for two users. -/
def newDirect (now : Time) (userAId userBId : UserId) : Conversation where
  type := .direct
  name := none
  avatarUrl := none
  communityId := none
  lastMessageAt := none
  createdAt := now
  deletedAt := none
  participants := (Table.empty.insert userAId (newParticipant now)).insert userBId (newParticipant now)

/-! ## Answers -/

/-- The transaction of `send`: the message, and the time of the last message. -/
def State.createMessage (s : State) (senderId : UserId) (dto : SendMessageDto)
    (inviteData : Option InviteData)
    (free : s.messages.byClientId? dto.conversationId dto.clientId = none) : State :=
  ((s.withMessages (s.messages.create (s.deployment.uuid s.fresh)
    (newMessage s.now senderId dto inviteData) fun clientId here => by
      cases here
      exact free)).withConversations
    (s.conversations.modify dto.conversationId fun conversation =>
      { conversation with lastMessageAt := some s.now })).withFresh (s.fresh + 1)

def State.createDirect (s : State) (userAId userBId : UserId) : State :=
  (s.withConversations (s.conversations.insert (s.deployment.uuid s.fresh)
    (newDirect s.now userAId userBId))).withFresh (s.fresh + 1)

def State.withParticipant (s : State) (conversationId : ConversationId) (userId : UserId)
    (change : ConversationParticipant → ConversationParticipant) : State :=
  s.withConversations (s.conversations.modify conversationId fun conversation =>
    { conversation with participants := conversation.participants.modify userId change })

def answer : (call : MessagingCall) → State → MessagingReply call × State
  | .conversationParticipantFindUnique conversationId userId, s =>
    (s.participant? conversationId userId, s)
  | .conversationFindUniqueWithParticipants conversationId, s =>
    (s.conversations.find? conversationId, s)
  | .conversationParticipantFindManyActive conversationId, s =>
    (((s.conversations.find? conversationId).map Conversation.activeParticipants).getD [], s)
  | .conversationParticipantFindManyMuting conversationId userIds, s =>
    (((s.conversations.find? conversationId).map fun conversation =>
      (conversation.participants.select fun userId _ => decide (userId ∈ userIds)).map fun entry =>
        (entry.1, entry.2.isMuted, entry.2.mutedUntil)).getD [], s)
  | .conversationParticipantUpdateLastReadAt conversationId userId lastReadAt, s =>
    match s.participant? conversationId userId with
    | none => (.error .recordNotFound, s)
    | some _ =>
      (.ok (), s.withParticipant conversationId userId fun row =>
        { row with lastReadAt := some lastReadAt })
  | .conversationFindFirstDirect userAId userBId, s =>
    ((s.conversations.entries.find? fun entry => entry.2.isDirectOf userAId userBId).map
      s.withItsUsers, s)
  | .conversationCreateDirect userAId userBId, s =>
    match s.users.find? userAId, s.users.find? userBId with
    | some _, some _ =>
      (.ok (s.withItsUsers (s.deployment.uuid s.fresh, newDirect s.now userAId userBId)),
        s.createDirect userAId userBId)
    | _, _ => (.error .foreignKeyViolation, s)
  | .conversationFindFirstType conversationId, s =>
    (((s.conversations.find? conversationId).filter fun conversation =>
      conversation.deletedAt.isNone).map Conversation.type, s)
  | .conversationParticipantCountActive conversationId, s =>
    (((s.conversations.find? conversationId).map fun conversation =>
      conversation.activeParticipants.length).getD 0, s)
  | .conversationParticipantUpdateLeftAt conversationId userId leftAt, s =>
    match s.participant? conversationId userId with
    | none => (.error .recordNotFound, s)
    | some _ =>
      (.ok (), s.withParticipant conversationId userId fun row =>
        { row with leftAt := some leftAt })
  | .blockFindFirst userId otherId, s =>
    (s.blocks.any fun block => decide (block = (userId, otherId)) || decide (block = (otherId, userId)),
      s)
  | .messageFindUniqueByClientId conversationId clientId, s =>
    ((s.messages.byClientId? conversationId clientId).map s.withItsReactions, s)
  | .messageFindUnique messageId, s =>
    ((s.messages.rows.find? messageId).map fun row => s.withItsReactions (messageId, row), s)
  | .createMessageTransaction senderId dto inviteData, s =>
    match s.conversations.find? dto.conversationId with
    | none => (.error .foreignKeyViolation, s)
    | some _ =>
      if free : s.messages.byClientId? dto.conversationId dto.clientId = none then
        (.ok ⟨s.deployment.uuid s.fresh, newMessage s.now senderId dto inviteData, []⟩,
          s.createMessage senderId dto inviteData free)
      else (.error .uniqueViolation, s)
  | .messageUpdateDeleted messageId, s =>
    match s.messages.rows.find? messageId with
    | none => (.error .recordNotFound, s)
    | some row =>
      (.ok (s.withItsReactions (messageId, row.deleted)),
        s.withMessages (s.messages.modify messageId Message.deleted fun _ => ⟨rfl, rfl⟩))
  | .messageReactionDelete messageId userId emoji, s =>
    match s.messageReactions.find? (messageId, userId, emoji) with
    | none => (.error .recordNotFound, s)
    | some _ =>
      (.ok (), s.withReactions (s.messageReactions.eraseWhere fun key _ =>
        decide (key = (messageId, userId, emoji))))
  | .messageReactionUpsert messageId userId emoji, s =>
    match s.messageReactions.find? (messageId, userId, emoji) with
    | some row => (.ok row, s)
    | none =>
      match s.messages.rows.find? messageId with
      | none => (.error .foreignKeyViolation, s)
      | some _ =>
        (.ok ⟨s.now⟩, s.withReactions (s.messageReactions.insert (messageId, userId, emoji)
          ⟨s.now⟩))
  | .incrRateMsg userId, s =>
    ((bumped s.now (s.rateMsg userId)).value,
      s.withRateMsg userId (some (bumped s.now (s.rateMsg userId))))
  | .expireRateMsg userId seconds, s =>
    ((), s.withRateMsg userId ((Expiring.live s.now (s.rateMsg userId)).map fun stored =>
      { stored with deadline := some (s.now + seconds * 1000) }))
  | .emit emission, s => ((), s.sent emission)
  | .dateNow, s => (s.now, s)
  | .elapse milliseconds, s => ((), s.elapsed milliseconds)

abbrev Flow (Value : Type) := Program MessagingCall MessagingReply ServiceError Value

/-- Run a service function alone. -/
abbrev Flow.exec {Value : Type} (flow : Flow Value) (s : State) :
    Except ServiceError Value × State :=
  Program.run answer flow s

/-- Make one call and return its reply. -/
abbrev call (request : MessagingCall) : Flow (MessagingReply request) := .call request .done

/-- Throw what Prisma threw. -/
def rethrow {Value : Type} (reply : Except PrismaError Value) : Flow Value :=
  match reply with
  | .ok value => .done value
  | .error error => .fail (.prisma error)

end Motogram.Messaging
