import Motogram.Messaging.Store

/-!
# The message service

`message.service.ts` with the parts of `conversation.service.ts` it calls, and the
callbacks the gateway registers with it: sending a message, reacting to one and deleting one. Every
function is a program over the calls of the stores, in the order of the source.
-/

set_option autoImplicit false

namespace Motogram.Messaging

open Foundation Program

/-! ## Exceptions -/

def notParticipant : ServiceError := .http .forbidden "Not a participant" .forbidden none
def tooManyMessages : ServiceError :=
  .http .forbidden "Too many messages, slow down" .rateLimited none
def blockedUser : ServiceError :=
  .http .forbidden "Cannot send message to blocked user" .blocked none
def messageNotFound : ServiceError := .http .notFound "Message not found" .notFound none
def onlySenderCanDelete : ServiceError := .http .forbidden "Only sender can delete" .forbidden none

/-! ## The conversation service -/

def assertParticipant (conversationId : ConversationId) (userId : UserId) : Flow Unit := do
  let participant : Option ConversationParticipant ←
    call (.conversationParticipantFindUnique conversationId userId)
  match participant with
  | none => .fail notParticipant
  | some row => throwIf (row.leftAt.isSome = true) notParticipant

def Conversation.directPartner (conversation : Conversation) (userId : UserId) : Option UserId :=
  if conversation.type = .direct then
    (conversation.participants.entries.find? fun entry => decide (entry.1 ≠ userId)).map Prod.fst
  else none

def getDirectPartner (conversationId : ConversationId) (userId : UserId) :
    Flow (Option UserId) := do
  let found : Option Conversation ← call (.conversationFindUniqueWithParticipants conversationId)
  pure (found.bind fun conversation => conversation.directPartner userId)

def listParticipantIds (conversationId : ConversationId) : Flow (List UserId) :=
  call (.conversationParticipantFindManyActive conversationId)

/-- A recipient is left out when muted now, or when there is no row. -/
def wantsPush (now : Time) (rows : List (UserId × Bool × Option Time)) (userId : UserId) : Bool :=
  match rows.find? fun row => decide (row.1 = userId) with
  | none => false
  | some (_, isMuted, mutedUntil) =>
    !(isMuted || mutedUntil.any fun deadline => decide (now < deadline))

def filterPushRecipients (conversationId : ConversationId) (recipientIds : List UserId) :
    Flow (List UserId) := do
  if recipientIds.isEmpty then pure []
  else do
    let now : Time ← call .dateNow
    let rows : List (UserId × Bool × Option Time) ←
      call (.conversationParticipantFindManyMuting conversationId recipientIds)
    pure (recipientIds.filter (wantsPush now rows))

/-! ## The callbacks of the gateway -/

def onMessagePersisted (message : MessageDto) (recipientIds : List UserId) : Flow Unit := do
  let _ : Unit ← call (.emit (.received message recipientIds))
  if recipientIds.isEmpty then pure ()
  else do
    let pushTargets ← filterPushRecipients message.message.conversationId recipientIds
    call (.emit (.push pushTargets message))

def onReactionUpdated (conversationId : ConversationId) (message : MessageDto)
    (reaction : MessageReactionDto) (removed : Bool) (recipientIds : List UserId) : Flow Unit :=
  call (.emit (.reactionUpdated conversationId message.id removed reaction recipientIds))

/-! ## Sending -/

/-- `enforceRate`: at most sixty messages a minute. -/
def enforceRate (userId : UserId) : Flow Bool := do
  let cur : Nat ← call (.incrRateMsg userId)
  if cur = 1 then do
    let _ : Unit ← call (.expireRateMsg userId msgRateWindowSecs)
    pure (decide (cur ≤ msgRateLimit))
  else pure (decide (cur ≤ msgRateLimit))

def assertNotBlocked (senderId : UserId) : Option UserId → Flow Unit
  | none => pure ()
  | some partner => do
    let block : Bool ← call (.blockFindFirst senderId partner)
    throwIf (block = true) blockedUser

/-- `rideInvite ?? eventInvite ?? undefined`. -/
def SendMessageDto.inviteData (dto : SendMessageDto) : Option InviteData :=
  (dto.rideInvite.map InviteData.ride).or (dto.eventInvite.map InviteData.event)

/-- `send` for a message that is there already. -/
def sendDuplicate (senderId : UserId) (dto : SendMessageDto) (existing : MessageDto) :
    Flow SendResult := do
  let participantIds ← listParticipantIds dto.conversationId
  pure ⟨existing, participantIds.filter fun userId => userId ≠ senderId, true⟩

/-- `send` after the transaction. -/
def sendCreated (senderId : UserId) (dto : SendMessageDto) (created : MessageDto) :
    Flow SendResult := do
  let participantIds ← listParticipantIds dto.conversationId
  let recipientIds := participantIds.filter fun userId => userId ≠ senderId
  let read : Except PrismaError Unit ← call (.conversationParticipantUpdateLastReadAt
    dto.conversationId senderId created.message.createdAt)
  rethrow read
  onMessagePersisted created recipientIds
  pure ⟨created, recipientIds, false⟩

/-- `send` from the transaction on. -/
def sendNew (senderId : UserId) (dto : SendMessageDto) : Flow SendResult := do
  let reply : Except PrismaError MessageDto ←
    call (.createMessageTransaction senderId dto dto.inviteData)
  let created ← rethrow reply
  sendCreated senderId dto created

/-- `send` from the lookup of the `clientId` on. -/
def sendChecked (senderId : UserId) (dto : SendMessageDto) : Flow SendResult := do
  let existing : Option MessageDto ←
    call (.messageFindUniqueByClientId dto.conversationId dto.clientId)
  match existing with
  | some message => sendDuplicate senderId dto message
  | none => sendNew senderId dto

def send (senderId : UserId) (dto : SendMessageDto) : Flow SendResult := do
  assertParticipant dto.conversationId senderId
  let rateOk ← enforceRate senderId
  throwIf (rateOk = false) tooManyMessages
  let partner ← getDirectPartner dto.conversationId senderId
  assertNotBlocked senderId partner
  sendChecked senderId dto

/-! ## Reacting -/

/-- The change of the reaction: whether it was removed, and its date. Removing a reaction
that is not there succeeds too. -/
def changeReaction (userId : UserId) (dto : ReactMessageDto) (now : Time) : Flow (Bool × Time) := do
  if dto.remove = true then do
    let _ : Except PrismaError Unit ← call (.messageReactionDelete dto.messageId userId dto.emoji)
    pure (true, now)
  else do
    let upserted : Except PrismaError MessageReaction ←
      call (.messageReactionUpsert dto.messageId userId dto.emoji)
    let row ← rethrow upserted
    pure (false, row.createdAt)

def react (userId : UserId) (dto : ReactMessageDto) : Flow ReactResult := do
  let found : Option MessageDto ← call (.messageFindUnique dto.messageId)
  match found with
  | none => .fail messageNotFound
  | some message => do
    assertParticipant message.message.conversationId userId
    let now : Time ← call .dateNow
    let (removed, createdAt) ← changeReaction userId dto now
    let again : Option MessageDto ← call (.messageFindUnique dto.messageId)
    match again with
    | none => .fail (.prisma .recordNotFound)
    | some refreshed => do
      let participantIds ← listParticipantIds message.message.conversationId
      let recipientIds := participantIds.filter fun other => other ≠ userId
      let reaction : MessageReactionDto := ⟨dto.messageId, userId, dto.emoji, createdAt⟩
      onReactionUpdated message.message.conversationId refreshed reaction removed recipientIds
      pure ⟨removed, reaction, message.message.conversationId, refreshed, recipientIds⟩

/-! ## Deleting -/

def softDelete (userId : UserId) (messageId : MessageId) : Flow MessageDto := do
  let found : Option MessageDto ← call (.messageFindUnique messageId)
  match found with
  | none => .fail messageNotFound
  | some message => do
    throwIf (message.message.senderId ≠ userId) onlySenderCanDelete
    let updated : Except PrismaError MessageDto ← call (.messageUpdateDeleted messageId)
    rethrow updated

end Motogram.Messaging
