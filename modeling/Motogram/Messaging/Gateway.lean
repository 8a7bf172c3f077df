import Motogram.Messaging.Schemas

/-!
# The sockets of the message service

`messaging.gateway.ts` on top of the services: the sockets that are connected, the rooms they are
in, and what is emitted to them. A socket enters the room of its user when it connects, and the
room of a conversation when it asks to, if its user is a participant at that moment. A message is
emitted to the room of its conversation and to the rooms of its recipients; a typing or read event
to the room of the conversation without the socket that caused it.

Leaving a conversation for good is a REST route. It writes the participant row and knows nothing of
sockets.
-/

set_option autoImplicit false

namespace Motogram.Messaging

open Foundation

/-! ## Sockets and rooms -/

inductive Room where
  | user (userId : UserId)
  | conversation (conversationId : ConversationId)
  deriving DecidableEq

structure ConnectedSocket where
  userId : UserId
  rooms : List Room
  deriving DecidableEq

/-- The events of a conversation that the handlers emit. -/
inductive WsEvent where
  | messageReceived (conversationId : ConversationId) (message : MessageDto)
  | messageTypingUpdated (conversationId : ConversationId) (userId : UserId) (isTyping : Bool)
  | messageReadBy (conversationId : ConversationId) (userId : UserId) (readAt : Nat)
  deriving DecidableEq

def WsEvent.conversationId : WsEvent → ConversationId
  | .messageReceived conversationId _ => conversationId
  | .messageTypingUpdated conversationId _ _ => conversationId
  | .messageReadBy conversationId _ _ => conversationId

def WsEvent.actor : WsEvent → UserId
  | .messageReceived _ message => message.message.senderId
  | .messageTypingUpdated _ userId _ => userId
  | .messageReadBy _ userId _ => userId

structure Delivery where
  socket : SocketId
  event : WsEvent
  deriving DecidableEq

structure Gateway where
  store : State
  sockets : Table SocketId ConnectedSocket

namespace Gateway

variable (g : Gateway)

@[simps -fullyApplied] def withStore (store : State) : Gateway := { g with store := store }

@[simps -fullyApplied] def withSockets (sockets : Table SocketId ConnectedSocket) : Gateway :=
  { g with sockets := sockets }

/-- `client.join(room)`. -/
def join (client : SocketId) (room : Room) : Gateway :=
  g.withSockets (g.sockets.modify client fun socket => { socket with rooms := socket.rooms.insert room })

/-- `client.leave(room)`. -/
def leave (client : SocketId) (room : Room) : Gateway :=
  g.withSockets (g.sockets.modify client fun socket =>
    { socket with rooms := socket.rooms.filter fun other => decide (other ≠ room) })

/-- `server.to(room).except(client).emit(event)`: each socket in the room but one gets it. -/
def emitTo (room : Room) (except : Option SocketId) (event : WsEvent) : List Delivery :=
  (g.sockets.select fun client socket =>
    decide (room ∈ socket.rooms) && decide (except ≠ some client)).map fun entry => ⟨entry.1, event⟩

/-! ## What the handlers do -/

/-- What a handler answers its caller, what it emits, and the gateway after it. -/
structure Handled (α : Type) where
  answer : α
  deliveries : List Delivery
  after : Gateway

/-- To the room of the conversation, and to the rooms of the recipients who may not have joined it. -/
def broadcastMessage (message : MessageDto) (recipientIds : List UserId) : List Delivery :=
  let event := WsEvent.messageReceived message.message.conversationId message
  g.emitTo (.conversation message.message.conversationId) none event ++
    recipientIds.flatMap fun recipientId => g.emitTo (.user recipientId) none event

/-- The callback `onMessagePersisted`. What else is handed out is no event of this list. -/
def broadcast : MessagingEmission → List Delivery
  | .received message recipientIds => g.broadcastMessage message recipientIds
  | _ => []

/-- Run a service function on the stores, and broadcast the messages it has persisted. -/
def served {α : Type} (flow : Flow α) : Handled (Except ServiceError α) :=
  let (outcome, store) := flow.exec g.store
  { answer := outcome
    deliveries := (store.emissions.drop g.store.emissions.length).flatMap g.broadcast
    after := g.withStore store }

def handleConnection (client : SocketId) (userId : UserId) : Gateway :=
  g.withSockets (g.sockets.insert client ⟨userId, [.user userId]⟩)

/-- A socket that disconnects is in no room any more. -/
def handleDisconnect (client : SocketId) : Gateway := g.withSockets (g.sockets.erase client)

def acknowledged : WsAck := ⟨true, none, none, none⟩

/-- `{ ok: false }` with no error emitted. -/
def declined : WsAck := ⟨false, none, none, none⟩

def handleJoin (zod : Zod) (client : SocketId) (userId : UserId) (raw : Json) : Handled WsAck :=
  match wsConversationSchema zod (some raw) with
  | none => ⟨refused .validation, [], g⟩
  | some conversationId =>
    match (assertParticipant conversationId userId).exec g.store with
    | (.error error, store) => ⟨refused (.notParticipant error), [], g.withStore store⟩
    | (.ok (), store) =>
      ⟨acknowledged, [], (g.withStore store).join client (.conversation conversationId)⟩

def handleLeave (zod : Zod) (client : SocketId) (raw : Json) : Handled WsAck :=
  match wsConversationSchema zod (some raw) with
  | none => ⟨refused .validation, [], g⟩
  | some conversationId => ⟨acknowledged, [], g.leave client (.conversation conversationId)⟩

/-- Typing is passed on to the room, without asking whether the user is a participant. -/
def handleTyping (zod : Zod) (client : SocketId) (userId : UserId) (raw : Json) : Handled WsAck :=
  match wsMessageTypingSchema zod (some raw) with
  | none => ⟨declined, [], g⟩
  | some payload =>
    ⟨acknowledged, g.emitTo (.conversation payload.conversationId) (some client)
      (.messageTypingUpdated payload.conversationId userId payload.isTyping), g⟩

/-- The latest time a `Date` can hold, in milliseconds. The database takes no date beyond it. -/
def maxDate : Nat := 8640000000000000

def handleRead (zod : Zod) (client : SocketId) (userId : UserId) (raw : Json) : Handled WsAck :=
  match wsMessageReadSchema zod (some raw) with
  | none => ⟨declined, [], g⟩
  | some payload =>
    if maxDate < payload.readAt then ⟨declined, [], g⟩
    else
      match (markRead userId ⟨payload.conversationId, some payload.readAt⟩).exec g.store with
      | (.error _, store) => ⟨declined, [], g.withStore store⟩
      | (.ok (), store) =>
        ⟨acknowledged, g.emitTo (.conversation payload.conversationId) (some client)
          (.messageReadBy payload.conversationId userId payload.readAt), g.withStore store⟩

end Gateway

/-! ## Runs -/

/-- What reaches the server. -/
inductive GatewayInput where
  | connect (client : SocketId) (userId : UserId)
  | disconnect (client : SocketId)
  | conversationJoin (client : SocketId) (raw : Json)
  | conversationLeave (client : SocketId) (raw : Json)
  | messageSend (client : SocketId) (raw : Json)
  | messageTyping (client : SocketId) (raw : Json)
  | messageRead (client : SocketId) (raw : Json)
  | restLeaveConversation (userId : UserId) (conversationId : ConversationId)
  | restSend (userId : UserId) (conversationId : String) (body : Json)
  | restMarkRead (userId : UserId) (conversationId : String) (body : Json)
  | elapse (milliseconds : Nat)

def Gateway.Handled.emitted {α : Type} (handled : Gateway.Handled α) : List Delivery × Gateway :=
  (handled.deliveries, handled.after)

/-- A message of a socket that is not connected reaches nobody. -/
def Gateway.fromSocket {α : Type} (g : Gateway) (client : SocketId)
    (handler : UserId → Gateway.Handled α) : List Delivery × Gateway :=
  match g.sockets.find? client with
  | none => ([], g)
  | some socket => (handler socket.userId).emitted

/-- The events a step emits, and the gateway after it. -/
def Gateway.serve (zod : Zod) (g : Gateway) : GatewayInput → List Delivery × Gateway
  | .connect client userId => ([], g.handleConnection client userId)
  | .disconnect client => ([], g.handleDisconnect client)
  | .conversationJoin client raw =>
    g.fromSocket client fun userId => g.handleJoin zod client userId raw
  | .conversationLeave client raw => g.fromSocket client fun _ => g.handleLeave zod client raw
  | .messageSend client raw =>
    g.fromSocket client fun userId => g.served (handleSend zod userId raw)
  | .messageTyping client raw =>
    g.fromSocket client fun userId => g.handleTyping zod client userId raw
  | .messageRead client raw =>
    g.fromSocket client fun userId => g.handleRead zod client userId raw
  | .restLeaveConversation userId conversationId =>
    (g.served (leaveConversation userId conversationId)).emitted
  | .restSend userId conversationId body =>
    (g.served (restSend zod userId conversationId body)).emitted
  | .restMarkRead userId conversationId body =>
    (g.served (restMarkRead zod userId conversationId body)).emitted
  | .elapse milliseconds => ([], g.withStore (g.store.elapsed milliseconds))

def Gateway.step (zod : Zod) (g : Gateway) (input : GatewayInput) : Gateway := (g.serve zod input).2

end Motogram.Messaging
