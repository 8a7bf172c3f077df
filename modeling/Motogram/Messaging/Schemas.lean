import Mathlib.Algebra.GroupWithZero.Nat
import Motogram.Foundation.Schema
import Motogram.Messaging.Conversations
import Motogram.Text

/-!
# The schemas and routes of messages

The schemas of a message and of a reaction, as the REST routes and as the socket messages
have them, and the handlers behind both. The REST schema of a message says for each type
what the message must carry; the schema of the socket message does not, and its handler
checks the invite only. The REST schema of a reaction asks for an emoji, the other for a
text of its length.

`Zod` holds what the validation library decides about a text.
-/

set_option autoImplicit false

namespace Motogram.Messaging

open Foundation

/-- The checks of the validation library: `uuid()`, `url()`, the Unicode property
`Extended_Pictographic` of its regular expressions, and `coerce.date()`, which is the time of the
date a value is turned into, if that is one. -/
structure Zod where
  uuid : String → Bool
  url : String → Bool
  extendedPictographic : Char → Bool
  date : Json → Option Int

/-- `String.prototype.length`: characters above the basic plane count twice. -/
def jsLength (text : String) : Nat :=
  (text.toList.map fun c => if c.toNat < 0x10000 then 1 else 2).sum

/-- The characters a dot of a regular expression does not match. -/
def isLineTerminator (c : Char) : Bool := c.toNat ∈ [0xA, 0xD, 0x2028, 0x2029]

/-- `/^\p{Extended_Pictographic}.*$/u`, the braces left out. -/
def Zod.isEmoji (zod : Zod) (text : String) : Bool :=
  match text.toList with
  | [] => false
  | first :: rest => zod.extendedPictographic first && rest.all fun c => !isLineTerminator c

def messageTypeNames : List (String × MessageType) :=
  [("TEXT", .text), ("IMAGE", .image), ("VIDEO", .video), ("FILE", .file),
    ("RIDE_INVITE", .rideInvite), ("EVENT_INVITE", .eventInvite), ("SYSTEM", .system)]

/-! ## Schemas both transports use -/

def rideInviteDataSchema (zod : Zod) : Schema RideInviteData := fun input => do
  let value ← Schema.object input
  let partyId ← Schema.string zod.uuid (value.field "partyId")
  let partyName ← Schema.string (fun _ => true) (value.field "partyName")
  let leaderName ← Schema.string (fun _ => true) (value.field "leaderName")
  let routeId ← Schema.optional (Schema.string zod.uuid) (value.field "routeId")
  some ⟨partyId, partyName, leaderName, routeId⟩

def eventInviteDataSchema (zod : Zod) : Schema EventInviteData := fun input => do
  let value ← Schema.object input
  let eventId ← Schema.string zod.uuid (value.field "eventId")
  let title ← Schema.string (fun _ => true) (value.field "title")
  let meetingPointName ← Schema.string (fun _ => true) (value.field "meetingPointName")
  let startTime ← Schema.string (fun _ => true) (value.field "startTime")
  some ⟨eventId, title, meetingPointName, startTime⟩

/-- `z.string().max(4000).optional()`. -/
def contentSchema : Schema (Option String) :=
  Schema.optional (Schema.string fun text => decide (jsLength text ≤ 4000))

/-- `z.array(z.string().url()).max(10).default([])`. -/
def mediaUrlsSchema (zod : Zod) : Schema (List String) :=
  Schema.withDefault [] (Schema.array 10 (Schema.string zod.url))

/-! ## The REST schemas -/

/-- An issue of `superRefine`: its path and its message. -/
structure Issue where
  path : String
  message : String
  deriving DecidableEq

def SendMessageDto.hasText (dto : SendMessageDto) : Bool :=
  dto.content.any fun text => decide (jsTrim text ≠ "")

def SendMessageDto.hasMedia (dto : SendMessageDto) : Bool := !dto.mediaUrls.isEmpty

def SendMessageDto.hasInvite (dto : SendMessageDto) : Bool :=
  dto.rideInvite.isSome || dto.eventInvite.isSome

def issueIf (condition : Bool) (path message : String) : List Issue :=
  if condition then [⟨path, message⟩] else []

/-- The refinement of `SendMessageSchema`. -/
def SendMessageDto.issues (dto : SendMessageDto) : List Issue :=
  issueIf (decide (dto.messageType = .text) && !dto.hasText) "content"
      "TEXT message requires non-empty content" ++
    issueIf (decide (dto.messageType = .image ∨ dto.messageType = .video ∨ dto.messageType = .file)
        && !dto.hasMedia) "mediaUrls" "Media message requires at least 1 mediaUrl" ++
    issueIf (decide (dto.messageType = .rideInvite) && dto.rideInvite.isNone) "rideInvite"
      "RIDE_INVITE requires rideInvite payload" ++
    issueIf (decide (dto.messageType = .eventInvite) && dto.eventInvite.isNone) "eventInvite"
      "EVENT_INVITE requires eventInvite payload" ++
    issueIf (!dto.hasText && !dto.hasMedia && !dto.hasInvite) "content"
      "Message must carry text, media, or invite payload"

/-- `SendMessageSchema` without its refinement. -/
def sendMessageObject (zod : Zod) : Schema SendMessageDto := fun input => do
  let value ← Schema.object input
  let conversationId ← Schema.string zod.uuid (value.field "conversationId")
  let clientId ← Schema.string zod.uuid (value.field "clientId")
  let messageType ←
    Schema.withDefault .text (Schema.enumeration messageTypeNames) (value.field "messageType")
  let content ← contentSchema (value.field "content")
  let mediaUrls ← mediaUrlsSchema zod (value.field "mediaUrls")
  let rideInvite ← Schema.optional (rideInviteDataSchema zod) (value.field "rideInvite")
  let eventInvite ← Schema.optional (eventInviteDataSchema zod) (value.field "eventInvite")
  some ⟨conversationId, clientId, messageType, content, mediaUrls, rideInvite, eventInvite⟩

/-- What a REST route answers a body with that its schema refuses: the issues of the
refinement, or those of the fields, whose texts are the library's. -/
inductive ValidationFailed where
  | fields
  | refinement (issues : List Issue)
  deriving DecidableEq

/-- `parse(SendMessageSchema, …)`. -/
def parseSendMessage (zod : Zod) (input : Json) : Except ValidationFailed SendMessageDto :=
  match sendMessageObject zod (some input) with
  | none => .error .fields
  | some dto => if dto.issues = [] then .ok dto else .error (.refinement dto.issues)

/-- `ReactMessageSchema`. -/
def reactMessageSchema (zod : Zod) : Schema ReactMessageDto := fun input => do
  let value ← Schema.object input
  let messageId ← Schema.string zod.uuid (value.field "messageId")
  let emoji ← Schema.string
    (fun text => decide (1 ≤ jsLength text) && decide (jsLength text ≤ 16) && zod.isEmoji text)
    (value.field "emoji")
  let remove ← Schema.withDefault false Schema.boolean (value.field "remove")
  some ⟨messageId, emoji, remove⟩

/-- `MarkReadSchema`. -/
def markReadSchema (zod : Zod) : Schema MarkReadDto := fun input => do
  let value ← Schema.object input
  let conversationId ← Schema.string zod.uuid (value.field "conversationId")
  let lastReadAt ← Schema.optional (fun given => given.bind zod.date) (value.field "lastReadAt")
  some ⟨conversationId, lastReadAt⟩

/-! ## The schemas of the socket messages -/

/-- A payload `WsMessageSendSchema` accepts. -/
structure WsMessageSend where
  conversationId : ConversationId
  clientId : ClientId
  messageType : MessageType
  content : Option String
  mediaUrls : List String
  inviteData : Option Json
  clientTimestamp : Nat

def wsMessageSendSchema (zod : Zod) : Schema WsMessageSend := fun input => do
  let value ← Schema.object input
  let conversationId ← Schema.string zod.uuid (value.field "conversationId")
  let clientId ← Schema.string zod.uuid (value.field "clientId")
  let messageType ← Schema.enumeration messageTypeNames (value.field "messageType")
  let content ← contentSchema (value.field "content")
  let mediaUrls ← mediaUrlsSchema zod (value.field "mediaUrls")
  let inviteData ← Schema.optional Schema.object (value.field "inviteData")
  let clientTimestamp ← Schema.positiveInt (value.field "clientTimestamp")
  some ⟨conversationId, clientId, messageType, content, mediaUrls, inviteData, clientTimestamp⟩

/-- `WsMessageReactSchema`. -/
def wsMessageReactSchema (zod : Zod) : Schema ReactMessageDto := fun input => do
  let value ← Schema.object input
  let messageId ← Schema.string zod.uuid (value.field "messageId")
  let emoji ← Schema.string
    (fun text => decide (1 ≤ jsLength text) && decide (jsLength text ≤ 16)) (value.field "emoji")
  let remove ← Schema.withDefault false Schema.boolean (value.field "remove")
  some ⟨messageId, emoji, remove⟩

/-- `WsConversationJoinSchema` and `WsConversationLeaveSchema`. -/
def wsConversationSchema (zod : Zod) : Schema ConversationId := fun input => do
  let value ← Schema.object input
  Schema.string zod.uuid (value.field "conversationId")

/-- A payload `WsMessageTypingSchema` accepts. -/
structure WsMessageTyping where
  conversationId : ConversationId
  isTyping : Bool

def wsMessageTypingSchema (zod : Zod) : Schema WsMessageTyping := fun input => do
  let value ← Schema.object input
  let conversationId ← Schema.string zod.uuid (value.field "conversationId")
  let isTyping ← Schema.boolean (value.field "isTyping")
  some ⟨conversationId, isTyping⟩

/-- A payload `WsMessageReadSchema` accepts. -/
structure WsMessageRead where
  conversationId : ConversationId
  readAt : Nat

def wsMessageReadSchema (zod : Zod) : Schema WsMessageRead := fun input => do
  let value ← Schema.object input
  let conversationId ← Schema.string zod.uuid (value.field "conversationId")
  let readAt ← Schema.positiveInt (value.field "readAt")
  some ⟨conversationId, readAt⟩

/-! ## The socket handlers -/

/-- The codes of a `message:error`. -/
inductive WsErrorCode where
  | validation
  | invalidInvite
  | notParticipant (error : ServiceError)
  | exception (error : ServiceError)
  deriving DecidableEq

/-- The acknowledgement of a socket message, and the error emitted with a refusal. -/
structure WsAck where
  ok : Bool
  messageId : Option MessageId
  duplicate : Option Bool
  error : Option WsErrorCode
  deriving DecidableEq

def refused (code : WsErrorCode) : WsAck := ⟨false, none, none, some code⟩

/-- The message of a payload, with the invites it has been found to carry. -/
def WsMessageSend.dto (payload : WsMessageSend) (rideInvite : Option RideInviteData)
    (eventInvite : Option EventInviteData) : SendMessageDto where
  conversationId := payload.conversationId
  clientId := payload.clientId
  messageType := payload.messageType
  content := payload.content
  mediaUrls := payload.mediaUrls
  rideInvite := rideInvite
  eventInvite := eventInvite

/-- The invite of a payload is read when its type calls for one and it is there. -/
def WsMessageSend.withInvite (zod : Zod) (payload : WsMessageSend) :
    Except WsErrorCode SendMessageDto :=
  match payload.messageType, payload.inviteData with
  | .rideInvite, some data =>
    match rideInviteDataSchema zod (some data) with
    | none => .error .invalidInvite
    | some rideInvite => .ok (payload.dto (some rideInvite) none)
  | .eventInvite, some data =>
    match eventInviteDataSchema zod (some data) with
    | none => .error .invalidInvite
    | some eventInvite => .ok (payload.dto none (some eventInvite))
  | _, _ => .ok (payload.dto none none)

/-- The message a payload of `message:send` is turned into. -/
def wsSendMessage (zod : Zod) (raw : Json) : Except WsErrorCode SendMessageDto :=
  match wsMessageSendSchema zod (some raw) with
  | none => .error .validation
  | some payload => payload.withInvite zod

/-- The handler of `message:send`. -/
def handleSend (zod : Zod) (userId : UserId) (raw : Json) : Flow WsAck :=
  match wsSendMessage zod raw with
  | .error code => pure (refused code)
  | .ok dto =>
    (send userId dto >>= fun result =>
      pure ⟨true, some result.message.id, some result.duplicate, none⟩).rescue fun error =>
        pure (refused (.exception error))

/-- The handler of `message:react`. -/
def handleReact (zod : Zod) (userId : UserId) (raw : Json) : Flow WsAck :=
  match wsMessageReactSchema zod (some raw) with
  | none => pure (refused .validation)
  | some dto =>
    (react userId dto >>= fun _ => pure ⟨true, none, none, none⟩).rescue fun error =>
      pure (refused (.exception error))

/-! ## The REST routes -/

/-- `{ ...(body ?? {}), [name]: value }`. -/
def injected (body : Json) (name : String) (value : String) : Json :=
  .object ((name, .string value) :: body.fields)

/-- `POST conversations/:id/messages`: the message and whether it was there already. -/
def restSend (zod : Zod) (userId : UserId) (conversationId : String) (body : Json) :
    Flow (Except ValidationFailed (MessageDto × Bool)) :=
  match parseSendMessage zod (injected body "conversationId" conversationId) with
  | .error refusal => pure (.error refusal)
  | .ok dto => do
    let result ← send userId dto
    pure (.ok (result.message, result.duplicate))

/-- `POST conversations/:id/read`. -/
def restMarkRead (zod : Zod) (userId : UserId) (conversationId : String) (body : Json) :
    Flow (Except ValidationFailed Unit) :=
  match markReadSchema zod (some (injected body "conversationId" conversationId)) with
  | none => pure (.error .fields)
  | some dto => do
    markRead userId dto
    pure (.ok ())

/-- `POST messages/:id/react`: the reaction and whether it was removed. -/
def restReact (zod : Zod) (userId : UserId) (messageId : String) (body : Json) :
    Flow (Except ValidationFailed (MessageReactionDto × Bool)) :=
  match reactMessageSchema zod (some (injected body "messageId" messageId)) with
  | none => pure (.error .fields)
  | some dto => do
    let result ← react userId dto
    pure (.ok (result.reaction, result.removed))

end Motogram.Messaging
