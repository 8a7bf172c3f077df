import Motogram.Messaging.Service

/-!
# The conversation service

The functions of `conversation.service.ts` that open a direct conversation, mark one as read and
leave one. The database keeps no constraint on the users of a conversation beyond one row for
each, so what `findOrCreateDirect` looks up decides whether it creates.
-/

set_option autoImplicit false

namespace Motogram.Messaging

open Foundation Program

/-! ## Exceptions -/

def cannotDmYourself : ServiceError :=
  .http .badRequest "Cannot DM yourself" .validationFailed none
def blockedPair : ServiceError := .http .forbidden "Cannot message blocked user" .blocked none
def conversationNotFound : ServiceError :=
  .http .notFound "Conversation not found" .notFound none
def cannotLeaveDirect : ServiceError :=
  .http .badRequest "cannot_leave_direct" .validationFailed none
def cannotLeaveSoleMember : ServiceError :=
  .http .badRequest "cannot_leave_sole_member" .validationFailed none

/-! ## Opening a direct conversation -/

def toDetail (found : ConversationWithUsers) : ConversationDetail where
  id := found.id
  type := found.conversation.type
  name := found.conversation.name
  avatarUrl := found.conversation.avatarUrl
  communityId := found.conversation.communityId
  participants := found.participants.map fun participant =>
    { userId := participant.1
      username := participant.2.2.username
      avatarUrl := participant.2.2.avatarUrl
      isMuted := participant.2.1.isMuted
      mutedUntil := participant.2.1.mutedUntil
      lastReadAt := participant.2.1.lastReadAt
      joinedAt := participant.2.1.joinedAt
      leftAt := participant.2.1.leftAt }
  createdAt := found.conversation.createdAt

/-- The `assertNotBlocked` of the conversation service, with a text of its own. -/
def assertPairNotBlocked (userA userB : UserId) : Flow Unit := do
  let block : Bool ← call (.blockFindFirst userA userB)
  throwIf (block = true) blockedPair

/-- `findOrCreateDirect` when there is no conversation. -/
def createDirect (userAId userBId : UserId) : Flow ConversationDetail := do
  let reply : Except PrismaError ConversationWithUsers ←
    call (.conversationCreateDirect userAId userBId)
  let created ← rethrow reply
  pure (toDetail created)

def findOrCreateDirect (userAId userBId : UserId) : Flow ConversationDetail := do
  throwIf (userAId = userBId) cannotDmYourself
  assertPairNotBlocked userAId userBId
  let existing : Option ConversationWithUsers ← call (.conversationFindFirstDirect userAId userBId)
  match existing with
  | some found => pure (toDetail found)
  | none => createDirect userAId userBId

/-! ## Reading and leaving -/

structure MarkReadDto where
  conversationId : ConversationId
  lastReadAt : Option Int
  deriving DecidableEq

/-- `dto.lastReadAt ?? new Date()`. -/
def MarkReadDto.readAt (dto : MarkReadDto) : Flow Int :=
  match dto.lastReadAt with
  | some lastReadAt => pure lastReadAt
  | none => do
    let now : Time ← call .dateNow
    pure now

def markRead (userId : UserId) (dto : MarkReadDto) : Flow Unit := do
  assertParticipant dto.conversationId userId
  let lastReadAt ← dto.readAt
  let updated : Except PrismaError Unit ←
    call (.conversationParticipantUpdateLastReadAt dto.conversationId userId lastReadAt)
  rethrow updated

/-- `leaveConversation` after its checks. -/
def setLeft (userId : UserId) (conversationId : ConversationId) : Flow Unit := do
  let leftAt : Time ← call .dateNow
  let updated : Except PrismaError Unit ←
    call (.conversationParticipantUpdateLeftAt conversationId userId leftAt)
  rethrow updated

def leaveConversation (userId : UserId) (conversationId : ConversationId) : Flow Unit := do
  assertParticipant conversationId userId
  let found : Option ConversationType ← call (.conversationFindFirstType conversationId)
  match found with
  | none => .fail conversationNotFound
  | some type => do
    throwIf (type = .direct) cannotLeaveDirect
    let active : Nat ← call (.conversationParticipantCountActive conversationId)
    throwIf (active ≤ 1) cannotLeaveSoleMember
    setLeft userId conversationId

end Motogram.Messaging
