import Motogram.Messaging.Gateway
import Motogram.Messaging.Resend
import Motogram.Messaging.Sending
import Motogram.Messaging.Transports

/-!
# Who hears a conversation

A socket is asked once whether its user is a participant, when it enters the room of a conversation.
Leaving the conversation through REST sets `leftAt` and leaves the sockets where they are, so a socket
can stay in the room of a conversation that its user has left: it is stale. A typing message is passed
on without asking at all.

What a step emits goes to the room of one conversation, and to the rooms of active participants
(`serve_speech`). Every event goes to sockets of active participants, and is on behalf of one, exactly
when no step emits to a room with a stale socket and nobody but an active participant is heard typing;
and this is so when nobody leaves a conversation with a socket in its room, and only participants send
typing messages (`heard_by_participants_iff`).
-/

set_option autoImplicit false

namespace Motogram.Messaging

open Foundation Program Table Gateway

variable {zod : Zod} {g : Gateway}

/-! ## What is asked of a step -/

/-- Every event of the step goes to a socket of an active participant, on behalf of one. -/
def Gateway.Sound (zod : Zod) (g : Gateway) (input : GatewayInput) : Prop :=
  ∀ delivery ∈ (g.serve zod input).1,
    (∃ socket, (g.step zod input).sockets.find? delivery.socket = some socket ∧
      (g.step zod input).store.activeIn delivery.event.conversationId socket.userId = true) ∧
    (g.step zod input).store.activeIn delivery.event.conversationId delivery.event.actor = true

/-- What a step has to say in the room of a conversation: on behalf of whom, and to which of its
sockets not. -/
structure Speech where
  conversationId : ConversationId
  speaker : UserId
  except : Option SocketId
  deriving DecidableEq

/-- The message of a user, when it passes the checks of `send`. -/
def Gateway.message? (g : Gateway) (senderId : UserId) (dto : SendMessageDto) : Option Speech :=
  if g.store.accepts senderId dto then some ⟨dto.conversationId, senderId, none⟩ else none

/-- What an input has to say in a room: a message that passes the checks, a typing message, or a
participant who has read the conversation. -/
def Gateway.speech? (zod : Zod) (g : Gateway) : GatewayInput → Option Speech
  | .messageSend client raw => do
    let socket ← g.sockets.find? client
    let dto ← (wsSendMessage zod raw).toOption
    g.message? socket.userId dto
  | .restSend userId conversationId body => do
    let dto ← (parseSendMessage zod (injected body "conversationId" conversationId)).toOption
    g.message? userId dto
  | .messageTyping client raw => do
    let socket ← g.sockets.find? client
    let payload ← wsMessageTypingSchema zod (some raw)
    some ⟨payload.conversationId, socket.userId, some client⟩
  | .messageRead client raw => do
    let socket ← g.sockets.find? client
    let payload ← wsMessageReadSchema zod (some raw)
    if payload.readAt ≤ Gateway.maxDate ∧ g.store.activeIn payload.conversationId socket.userId = true then
      some ⟨payload.conversationId, socket.userId, some client⟩
    else none
  | _ => none

def Gateway.InRoom (g : Gateway) (conversationId : ConversationId) (client : SocketId) (userId : UserId) :
    Prop :=
  ∃ socket, g.sockets.find? client = some socket ∧ .conversation conversationId ∈ socket.rooms ∧
    socket.userId = userId

def Gateway.Stale (g : Gateway) (conversationId : ConversationId) (client : SocketId) : Prop :=
  ∃ userId, g.InRoom conversationId client userId ∧ g.store.activeIn conversationId userId = false

/-- No stale socket is spoken to, and who speaks is a participant or is heard by nobody. -/
def Gateway.Discreet (zod : Zod) (g : Gateway) (input : GatewayInput) : Prop :=
  ∀ speech, g.speech? zod input = some speech →
    (∀ client, speech.except ≠ some client → ¬ g.Stale speech.conversationId client) ∧
    (g.store.activeIn speech.conversationId speech.speaker = true ∨
      ∀ client userId, g.InRoom speech.conversationId client userId → speech.except = some client)

/-- Nobody leaves a conversation with a socket in its room, and typing is sent by participants. -/
def Gateway.Orderly (zod : Zod) (g : Gateway) : GatewayInput → Prop
  | .restLeaveConversation userId conversationId => ∀ client, ¬ g.InRoom conversationId client userId
  | .messageTyping client raw => ∀ speech, g.speech? zod (.messageTyping client raw) = some speech →
      g.store.activeIn speech.conversationId speech.speaker = true
  | _ => True

/-! ## The rooms -/

def Gateway.OwnRooms (g : Gateway) : Prop :=
  ∀ client socket, g.sockets.find? client = some socket →
    ∀ userId, .user userId ∈ socket.rooms → userId = socket.userId

/-- No socket is stale. -/
def Gateway.Current (g : Gateway) : Prop := ∀ conversationId client, ¬ g.Stale conversationId client

theorem Gateway.mem_emitTo {room : Room} {except : Option SocketId} {event : WsEvent} {delivery : Delivery} :
    delivery ∈ g.emitTo room except event ↔
      ∃ socket, g.sockets.find? delivery.socket = some socket ∧ room ∈ socket.rooms ∧
        except ≠ some delivery.socket ∧ delivery.event = event := by
  rw [emitTo, List.mem_map]
  constructor
  · rintro ⟨⟨client, socket⟩, selected, rfl⟩
    obtain ⟨found, test⟩ := mem_select.mp selected
    simp only [Bool.and_eq_true, decide_eq_true_eq] at test
    exact ⟨socket, found, test.1, test.2, rfl⟩
  · rintro ⟨socket, found, inside, spared, same⟩
    refine ⟨(delivery.socket, socket), mem_select.mpr ⟨found, ?_⟩, ?_⟩
    · simp only [Bool.and_eq_true, decide_eq_true_eq]
      exact ⟨inside, spared⟩
    · cases same
      rfl

/-! ## What a step emits -/

/-- What a step says: an event in the room of the conversation, and to the rooms of recipients who
are active participants. It changes neither the sockets nor who is active. -/
structure Gateway.Utters (zod : Zod) (g : Gateway) (input : GatewayInput) (speech : Speech) (event : WsEvent)
    (recipients : List UserId) : Prop where
  deliveries : (g.serve zod input).1 = g.emitTo (.conversation speech.conversationId) speech.except event ++
    recipients.flatMap fun recipientId => g.emitTo (.user recipientId) none event
  conversation : event.conversationId = speech.conversationId
  actor : event.actor = speech.speaker
  active : ∀ recipientId ∈ recipients, g.store.activeIn speech.conversationId recipientId = true ∧
    g.store.activeIn speech.conversationId speech.speaker = true
  sockets : (g.step zod input).sockets = g.sockets
  same : ∀ conversationId userId, (g.step zod input).store.activeIn conversationId userId =
    g.store.activeIn conversationId userId

variable {input : GatewayInput} (s : State) {senderId : UserId} {α : Type} {flow : Flow α}

theorem Gateway.served_sockets (g : Gateway) (flow : Flow α) :
    (g.served flow).after.sockets = g.sockets := rfl

theorem Gateway.served_store (g : Gateway) (flow : Flow α) :
    (g.served flow).after.store = (flow.exec g.store).2 := rfl

theorem Gateway.served_deliveries (g : Gateway) {flow : Flow α} {senderId : UserId} {dto : SendMessageDto}
    (same : (flow.exec g.store).2 = ((send senderId dto).exec g.store).2) :
    (g.store.accepts senderId dto = true ∧ (g.served flow).deliveries =
      g.broadcastMessage (g.store.created senderId dto) (g.store.recipients dto.conversationId senderId)) ∨
    (g.store.accepts senderId dto = false ∧ (g.served flow).deliveries = []) := by
  have shape : (g.served flow).deliveries =
      (((send senderId dto).exec g.store).2.emissions.drop g.store.emissions.length).flatMap g.broadcast := by
    rw [← same]
    rfl
  cases accepted : g.store.accepts senderId dto with
  | true =>
    have emitted := send_accepted g.store senderId dto accepted
    refine .inl ⟨rfl, ?_⟩
    have quiet : (g.store.pushesOf (g.store.created senderId dto)
        (g.store.recipients dto.conversationId senderId)).flatMap g.broadcast = [] := by
      rw [List.flatMap_eq_nil_iff]
      intro emission member
      obtain ⟨targets, rfl⟩ := State.push_of_mem member
      rfl
    rw [shape, emitted, List.drop_left, List.flatMap_cons, quiet, List.append_nil]
    rfl
  | false =>
    refine .inr ⟨rfl, ?_⟩
    rw [shape, send_refused g.store senderId dto accepted, List.drop_length]
    rfl

theorem Gateway.utters_of_send {input : GatewayInput} {senderId : UserId} {dto : SendMessageDto}
    {speech : Speech} (served : g.serve zod input = (g.served flow).emitted)
    (same : (flow.exec g.store).2 = ((send senderId dto).exec g.store).2)
    (speaks : g.message? senderId dto = some speech) :
    ∃ event recipients, g.Utters zod input speech event recipients := by
  rw [message?] at speaks
  have after : g.step zod input = (g.served flow).after := congrArg Prod.snd served
  obtain ⟨accepted, delivered⟩ | ⟨refused, -⟩ := g.served_deliveries same
  · rw [if_pos accepted] at speaks
    cases speaks
    refine ⟨.messageReceived dto.conversationId (g.store.created senderId dto),
      g.store.recipients dto.conversationId senderId, ?_, rfl, rfl, fun recipientId member => ?_,
      ?_, fun conversationId userId => ?_⟩
    · rw [served, Gateway.Handled.emitted, delivered]
      rfl
    · have speaker : g.store.activeIn dto.conversationId senderId = true := by
        simp only [State.accepts, Bool.and_eq_true] at accepted
        exact accepted.1.1.1
      exact ⟨(State.mem_recipients.mp member).1, speaker⟩
    · rw [after, served_sockets]
    · rw [after, served_store, same]
      exact activeIn_exec (send_uses senderId dto) g.store conversationId userId
  · rw [refused] at speaks
    cases speaks

theorem Gateway.speaker_of_message {dto : SendMessageDto} {speech : Speech}
    (speaks : g.message? senderId dto = some speech) :
    g.store.activeIn speech.conversationId speech.speaker = true := by
  rw [message?] at speaks
  split at speaks
  · rename_i accepted
    cases speaks
    simp only [State.accepts, Bool.and_eq_true] at accepted
    exact accepted.1.1.1
  · cases speaks

theorem Gateway.silent_of_send {input : GatewayInput} {senderId : UserId} {dto : SendMessageDto}
    (served : g.serve zod input = (g.served flow).emitted)
    (same : (flow.exec g.store).2 = ((send senderId dto).exec g.store).2)
    (silent : g.message? senderId dto = none) : (g.serve zod input).1 = [] := by
  rw [message?] at silent
  obtain ⟨accepted, -⟩ | ⟨-, nothing⟩ := g.served_deliveries same
  · rw [if_pos accepted] at silent
    cases silent
  · rw [served, Gateway.Handled.emitted, nothing]

theorem handleSend_store {raw : Json} {dto : SendMessageDto} (read : wsSendMessage zod raw = .ok dto) :
    ((handleSend zod senderId raw).exec s).2 = ((send senderId dto).exec s).2 := by
  rw [handleSend, read]
  unfold Flow.exec
  rw [run_rescue, run_bind]
  cases run answer (send senderId dto) s with
  | mk outcome after => cases outcome <;> rfl

theorem restSend_store {conversationId : String} {body : Json} {dto : SendMessageDto}
    (read : parseSendMessage zod (injected body "conversationId" conversationId) = .ok dto) :
    ((restSend zod senderId conversationId body).exec s).2 = ((send senderId dto).exec s).2 := by
  rw [restSend, read]
  unfold Flow.exec
  rw [run_bind]
  cases run answer (send senderId dto) s with
  | mk outcome after => cases outcome <;> rfl

theorem restMarkRead_store {userId : UserId} {conversationId : String} {body : Json} {dto : MarkReadDto}
    (read : markReadSchema zod (some (injected body "conversationId" conversationId)) = some dto) :
    ((restMarkRead zod userId conversationId body).exec s).2 = ((markRead userId dto).exec s).2 := by
  rw [restMarkRead, read]
  unfold Flow.exec
  rw [run_bind]
  cases run answer (markRead userId dto) s with
  | mk outcome after => cases outcome <;> rfl

/-- Leaving hands nothing out. -/
theorem leaveConversation_emissions (userId : UserId) (conversationId : ConversationId) :
    ((leaveConversation userId conversationId).exec s).2.emissions = s.emissions := by
  let kept (t : State) : Prop := t.emissions = s.emissions
  have before : kept s := rfl
  exact (leaveConversation_uses userId conversationId).run_keeps answer
    (fun request t asked (held : kept t) => (asked.emissions t).trans held) before

theorem Gateway.utters_of_read {client : SocketId} {raw : Json} {socket : ConnectedSocket}
    {payload : WsMessageRead} (connected : g.sockets.find? client = some socket)
    (read : wsMessageReadSchema zod (some raw) = some payload) (dated : payload.readAt ≤ maxDate)
    (active : g.store.activeIn payload.conversationId socket.userId = true) :
    ∃ event recipients, g.Utters zod (.messageRead client raw)
      ⟨payload.conversationId, socket.userId, some client⟩ event recipients := by
  have marked := markRead_exec g.store socket.userId ⟨payload.conversationId, some payload.readAt⟩
  rw [if_pos active] at marked
  have served : g.serve zod (.messageRead client raw) =
      (g.emitTo (.conversation payload.conversationId) (some client)
        (.messageReadBy payload.conversationId socket.userId payload.readAt),
        g.withStore ((markRead socket.userId ⟨payload.conversationId, some payload.readAt⟩).exec
          g.store).2) := by
    rw [serve, fromSocket, connected]
    dsimp only
    rw [handleRead, read]
    dsimp only
    rw [if_neg (Nat.not_lt.mpr dated)]
    generalize (markRead socket.userId ⟨payload.conversationId, some payload.readAt⟩).exec g.store = run at marked ⊢
    obtain ⟨outcome, store⟩ := run
    cases marked
    rfl
  have after := congrArg Prod.snd served
  refine ⟨.messageReadBy payload.conversationId socket.userId payload.readAt, [], ?_, rfl, rfl,
    fun recipientId member => (nomatch member), ?_, fun conversationId userId => ?_⟩
  · rw [served]
    exact (List.append_nil _).symm
  · rw [Gateway.step, after]
    rfl
  · rw [Gateway.step, after]
    exact activeIn_exec (markRead_uses _ _) g.store conversationId userId

/-- **A step that has something to say, says it.** -/
theorem Gateway.serve_speech {speech : Speech} (speaks : g.speech? zod input = some speech) :
    ∃ event recipients, g.Utters zod input speech event recipients := by
  cases input with
  | messageSend client raw =>
    obtain ⟨socket, connected, speaks⟩ := Option.bind_eq_some_iff.mp speaks
    obtain ⟨dto, read, speaks⟩ := Option.bind_eq_some_iff.mp speaks
    have served : g.serve zod (.messageSend client raw) =
        (g.served (handleSend zod socket.userId raw)).emitted := by
      rw [serve, fromSocket, connected]
    cases parsed : wsSendMessage zod raw with
    | error code =>
      rw [parsed] at read
      cases read
    | ok message =>
      rw [parsed] at read
      cases read
      exact utters_of_send served (handleSend_store g.store parsed) speaks
  | restSend userId conversationId body =>
    obtain ⟨dto, read, speaks⟩ := Option.bind_eq_some_iff.mp speaks
    cases parsed : parseSendMessage zod (injected body "conversationId" conversationId) with
    | error refusal =>
      rw [parsed] at read
      cases read
    | ok message =>
      rw [parsed] at read
      cases read
      exact utters_of_send rfl (restSend_store g.store parsed) speaks
  | messageTyping client raw =>
    obtain ⟨socket, connected, speaks⟩ := Option.bind_eq_some_iff.mp speaks
    obtain ⟨payload, read, speaks⟩ := Option.bind_eq_some_iff.mp speaks
    cases speaks
    have served : g.serve zod (.messageTyping client raw) =
        (g.emitTo (.conversation payload.conversationId) (some client)
          (.messageTypingUpdated payload.conversationId socket.userId payload.isTyping), g) := by
      rw [serve, fromSocket, connected]
      dsimp only
      rw [handleTyping, read]
      rfl
    have after : g.step zod (.messageTyping client raw) = g := congrArg Prod.snd served
    refine ⟨.messageTypingUpdated payload.conversationId socket.userId payload.isTyping, [], ?_, rfl, rfl,
      fun recipientId member => (nomatch member), ?_, fun conversationId userId => ?_⟩
    · rw [served]
      exact (List.append_nil _).symm
    · rw [after]
    · rw [after]
  | messageRead client raw =>
    obtain ⟨socket, connected, speaks⟩ := Option.bind_eq_some_iff.mp speaks
    obtain ⟨payload, read, speaks⟩ := Option.bind_eq_some_iff.mp speaks
    split at speaks
    · rename_i admitted
      cases speaks
      exact utters_of_read connected read admitted.1 admitted.2
    · cases speaks
  | _ => cases speaks

/-- **A step that has nothing to say emits nothing.** -/
theorem Gateway.serve_silence (silent : g.speech? zod input = none) : (g.serve zod input).1 = [] := by
  cases input with
  | messageSend client raw =>
    cases connected : g.sockets.find? client with
    | none => rw [serve, fromSocket, connected]
    | some socket =>
      have served : g.serve zod (.messageSend client raw) =
          (g.served (handleSend zod socket.userId raw)).emitted := by
        rw [serve, fromSocket, connected]
      cases parsed : wsSendMessage zod raw with
      | error code =>
        rw [served, handleSend, parsed]
        exact congrArg (List.flatMap g.broadcast) List.drop_length
      | ok dto =>
        rw [speech?, connected, parsed] at silent
        exact silent_of_send served (handleSend_store g.store parsed) silent
  | restSend userId conversationId body =>
    cases parsed : parseSendMessage zod (injected body "conversationId" conversationId) with
    | error refusal =>
      rw [serve, restSend, parsed]
      exact congrArg (List.flatMap g.broadcast) List.drop_length
    | ok dto =>
      rw [speech?, parsed] at silent
      exact silent_of_send rfl (restSend_store g.store parsed) silent
  | messageTyping client raw =>
    cases connected : g.sockets.find? client with
    | none => rw [serve, fromSocket, connected]
    | some socket =>
      rw [speech?, connected] at silent
      cases read : wsMessageTypingSchema zod (some raw) with
      | none =>
        rw [serve, fromSocket, connected]
        dsimp only
        rw [handleTyping, read]
        rfl
      | some payload =>
        rw [read] at silent
        cases silent
  | messageRead client raw =>
    cases connected : g.sockets.find? client with
    | none => rw [serve, fromSocket, connected]
    | some socket =>
      rw [speech?, connected] at silent
      rw [serve, fromSocket, connected]
      dsimp only
      rw [handleRead]
      cases read : wsMessageReadSchema zod (some raw) with
      | none => rfl
      | some payload =>
        rw [read] at silent
        dsimp only
        by_cases late : maxDate < payload.readAt
        · rw [if_pos late]
          rfl
        · rw [if_neg late]
          have inactive : ¬ g.store.activeIn payload.conversationId socket.userId = true := by
            intro active
            simp [Nat.not_lt.mp late, active] at silent
          have marked := markRead_exec g.store socket.userId ⟨payload.conversationId, some payload.readAt⟩
          rw [if_neg inactive] at marked
          generalize (markRead socket.userId ⟨payload.conversationId, some payload.readAt⟩).exec
            g.store = run at marked ⊢
          obtain ⟨outcome, store⟩ := run
          cases marked
          rfl
  | restLeaveConversation userId conversationId =>
    change (((leaveConversation userId conversationId).exec g.store).2.emissions.drop
      g.store.emissions.length).flatMap g.broadcast = []
    rw [leaveConversation_emissions, List.drop_length]
    rfl
  | restMarkRead userId conversationId body =>
    change (((restMarkRead zod userId conversationId body).exec g.store).2.emissions.drop
      g.store.emissions.length).flatMap g.broadcast = []
    have nothing : ((restMarkRead zod userId conversationId body).exec g.store).2.emissions =
        g.store.emissions := by
      cases read : markReadSchema zod (some (injected body "conversationId" conversationId)) with
      | none =>
        rw [restMarkRead, read]
        rfl
      | some dto =>
        rw [restMarkRead_store g.store read]
        exact markRead_emissions g.store userId dto
    rw [nothing, List.drop_length]
    rfl
  | conversationJoin client raw =>
    rw [serve, fromSocket]
    split
    · rfl
    · rw [handleJoin]
      split
      · rfl
      · split <;> rfl
  | conversationLeave client raw =>
    rw [serve, fromSocket]
    split
    · rfl
    · rw [handleLeave]
      split <;> rfl
  | _ => rfl

/-! ## One step -/

/-- **A step is sound exactly when it is discreet.** -/
theorem Gateway.sound_iff (own : g.OwnRooms) (input : GatewayInput) :
    g.Sound zod input ↔ g.Discreet zod input := by
  constructor
  · intro sound speech speaks
    obtain ⟨event, recipients, spoken⟩ := serve_speech speaks
    -- whoever is in the room and not left out receives the event
    have heard : ∀ client socket, g.sockets.find? client = some socket →
        .conversation speech.conversationId ∈ socket.rooms → speech.except ≠ some client →
          g.store.activeIn speech.conversationId socket.userId = true ∧
            g.store.activeIn speech.conversationId speech.speaker = true := by
      intro client socket found inside spared
      have delivered : (⟨client, event⟩ : Delivery) ∈ (g.serve zod input).1 := by
        rw [spoken.deliveries]
        exact List.mem_append_left _ (mem_emitTo.mpr ⟨socket, found, inside, spared, rfl⟩)
      obtain ⟨⟨socket', found', active⟩, actor⟩ := sound _ delivered
      rw [spoken.sockets, found] at found'
      cases found'
      rw [spoken.same, spoken.conversation] at active actor
      rw [spoken.actor] at actor
      exact ⟨active, actor⟩
    constructor
    · rintro client spared ⟨userId, ⟨socket, found, inside, rfl⟩, inactive⟩
      have active := (heard client socket found inside spared).1
      rw [active] at inactive
      cases inactive
    · by_cases speaker : g.store.activeIn speech.conversationId speech.speaker = true
      · exact .inl speaker
      · refine .inr fun client userId inRoom => ?_
        obtain ⟨socket, found, inside, -⟩ := inRoom
        by_contra spared
        exact speaker (heard client socket found inside spared).2
  · intro discreet delivery delivered
    cases speaks : g.speech? zod input with
    | none =>
      rw [serve_silence speaks] at delivered
      cases delivered
    | some speech =>
      obtain ⟨event, recipients, spoken⟩ := serve_speech speaks
      obtain ⟨fresh, speaker⟩ := discreet speech speaks
      rw [spoken.deliveries] at delivered
      rw [spoken.sockets, spoken.same]
      obtain toRoom | toRecipient := List.mem_append.mp delivered
      · obtain ⟨socket, found, inside, spared, same⟩ := mem_emitTo.mp toRoom
        rw [same, spoken.conversation, spoken.actor]
        refine ⟨⟨socket, found, ?_⟩, ?_⟩
        · rw [spoken.same]
          by_contra inactive
          exact fresh delivery.socket spared
            ⟨socket.userId, ⟨socket, found, inside, rfl⟩, Bool.eq_false_iff.mpr inactive⟩
        · obtain active | alone := speaker
          · exact active
          · exact absurd (alone delivery.socket socket.userId ⟨socket, found, inside, rfl⟩) spared
      · obtain ⟨recipientId, member, toUser⟩ := List.mem_flatMap.mp toRecipient
        obtain ⟨socket, found, inside, -, same⟩ := mem_emitTo.mp toUser
        obtain ⟨recipient, speaker⟩ := spoken.active recipientId member
        rw [same, spoken.conversation, spoken.actor]
        refine ⟨⟨socket, found, ?_⟩, speaker⟩
        rw [spoken.same, ← own delivery.socket socket found recipientId inside]
        exact recipient

/-- What a step does to the sockets: one connects or disconnects, enters the room of a conversation that its
user is in, or leaves a room of a conversation. -/
inductive Gateway.Rewired (g after : Gateway) : Prop where
  | same (same : after.sockets = g.sockets)
  | connected (client : SocketId) (userId : UserId)
      (connected : after.sockets = g.sockets.insert client ⟨userId, [.user userId]⟩)
  | disconnected (client : SocketId) (disconnected : after.sockets = g.sockets.erase client)
  | joined (client : SocketId) (conversationId : ConversationId)
      (active : ∀ socket, g.sockets.find? client = some socket →
        after.store.activeIn conversationId socket.userId = true)
      (joined : after.sockets = (g.join client (.conversation conversationId)).sockets)
  | left (client : SocketId) (conversationId : ConversationId)
      (left : after.sockets = (g.leave client (.conversation conversationId)).sockets)

/-- **What a step does to the sockets.** -/
theorem Gateway.rewired_step (zod : Zod) (g : Gateway) (input : GatewayInput) : g.Rewired (g.step zod input) := by
  have unknown : ∀ {α : Type} (client : SocketId) (handler : UserId → Gateway.Handled α),
      (∀ socket, g.sockets.find? client = some socket → g.Rewired (handler socket.userId).after) →
        g.Rewired (g.fromSocket client handler).2 := by
    intro α client handler handled
    rw [fromSocket]
    split
    · exact .same rfl
    · rename_i socket connected
      exact handled socket connected
  cases input with
  | connect client userId => exact .connected client userId rfl
  | disconnect client => exact .disconnected client rfl
  | conversationJoin client raw =>
    refine unknown client _ fun socket connected => ?_
    rw [handleJoin]
    split
    · exact .same rfl
    · rename_i conversationId read
      rw [assertParticipant_exec]
      cases active : g.store.activeIn conversationId socket.userId with
      | false => exact .same rfl
      | true =>
        refine .joined client conversationId (fun socket' found => ?_) rfl
        rw [connected] at found
        cases found
        exact active
  | conversationLeave client raw =>
    refine unknown client _ fun socket connected => ?_
    rw [handleLeave]
    split
    · exact .same rfl
    · rename_i conversationId read
      exact .left client conversationId rfl
  | messageSend client raw => exact unknown client _ fun socket connected => .same rfl
  | messageTyping client raw =>
    refine unknown client _ fun socket connected => ?_
    rw [handleTyping]
    split <;> exact .same rfl
  | messageRead client raw =>
    refine unknown client _ fun socket connected => ?_
    rw [handleRead]
    split
    · exact .same rfl
    · split
      · exact .same rfl
      · split <;> exact .same rfl
  | restLeaveConversation | restSend | restMarkRead | elapse => exact .same rfl

/-- The sockets after a step have connected in it, or are sockets from before that have entered at most
the room of a conversation that their user is in. -/
def Gateway.Entered (g after : Gateway) : Prop :=
  ∀ client socket', after.sockets.find? client = some socket' →
    (∃ socket, g.sockets.find? client = some socket ∧ socket.userId = socket'.userId ∧
      ∀ room ∈ socket'.rooms, room ∈ socket.rooms ∨
        ∃ conversationId, room = .conversation conversationId ∧
          after.store.activeIn conversationId socket'.userId = true) ∨
    socket'.rooms = [.user socket'.userId]

theorem Gateway.entered_of_modify {after : Gateway} (client : SocketId) {change : List Room → List Room}
    (same : after.sockets = g.sockets.modify client fun socket => { socket with rooms := change socket.rooms })
    (enters : ∀ socket, g.sockets.find? client = some socket → ∀ room ∈ change socket.rooms,
      room ∈ socket.rooms ∨ ∃ conversationId, room = .conversation conversationId ∧
        after.store.activeIn conversationId socket.userId = true) : g.Entered after := by
  intro other socket' found
  rw [same, find?_modify] at found
  by_cases here : other = client
  · subst here
    rw [if_pos rfl] at found
    obtain ⟨socket, before, rfl⟩ := Option.map_eq_some_iff.mp found
    exact .inl ⟨socket, before, rfl, enters socket before⟩
  · rw [if_neg here] at found
    exact .inl ⟨socket', found, rfl, fun room inside => .inl inside⟩

/-- **Which rooms a step enters.** -/
theorem Gateway.entered_step (zod : Zod) (g : Gateway) (input : GatewayInput) : g.Entered (g.step zod input) := by
  cases g.rewired_step zod input with
  | same same =>
    intro other socket' found
    rw [same] at found
    exact .inl ⟨socket', found, rfl, fun room inside => .inl inside⟩
  | connected client userId connected =>
    intro other socket' found
    rw [connected, find?_insert] at found
    split at found
    · cases found
      exact .inr rfl
    · exact .inl ⟨socket', found, rfl, fun room inside => .inl inside⟩
  | disconnected client disconnected =>
    intro other socket' found
    rw [disconnected, find?_erase] at found
    split at found
    · cases found
    · exact .inl ⟨socket', found, rfl, fun room inside => .inl inside⟩
  | joined client conversationId active joined =>
    refine entered_of_modify client joined fun socket before room inside => ?_
    obtain rfl | old := List.mem_insert_iff.mp inside
    · exact .inr ⟨conversationId, rfl, active socket before⟩
    · exact .inl old
  | left client conversationId left' =>
    refine entered_of_modify client left' fun socket before room inside => ?_
    exact .inl (List.mem_of_mem_filter inside)

theorem Gateway.handleRead_store (zod : Zod) (g : Gateway) (client : SocketId) (reader : UserId) (raw : Json) :
    (g.handleRead zod client reader raw).after.store =
      match wsMessageReadSchema zod (some raw) with
      | none => g.store
      | some payload =>
        if maxDate < payload.readAt then g.store
        else ((markRead reader ⟨payload.conversationId, some payload.readAt⟩).exec g.store).2 := by
  rw [handleRead]
  cases wsMessageReadSchema zod (some raw) with
  | none => rfl
  | some payload =>
    dsimp only
    split
    · rfl
    · cases (markRead reader ⟨payload.conversationId, some payload.readAt⟩).exec g.store with
      | mk outcome store => cases outcome <;> rfl

theorem Gateway.handleJoin_store (zod : Zod) (g : Gateway) (client : SocketId) (entering : UserId) (raw : Json) :
    (g.handleJoin zod client entering raw).after.store = g.store := by
  rw [handleJoin]
  split
  · rfl
  · rename_i entered read
    rw [assertParticipant_exec]
    cases g.store.activeIn entered entering <;> rfl

theorem Gateway.handleLeave_store (zod : Zod) (g : Gateway) (client : SocketId) (raw : Json) :
    (g.handleLeave zod client raw).after.store = g.store := by
  rw [handleLeave]
  split <;> rfl

theorem Gateway.handleTyping_store (zod : Zod) (g : Gateway) (client : SocketId) (typing : UserId) (raw : Json) :
    (g.handleTyping zod client typing raw).after.store = g.store := by
  rw [handleTyping]
  split <;> rfl

theorem Gateway.activeIn_step (zod : Zod) (g : Gateway) (input : GatewayInput)
    (conversationId : ConversationId) (userId : UserId) :
    (g.step zod input).store.activeIn conversationId userId = g.store.activeIn conversationId userId ∨
      input = .restLeaveConversation userId conversationId := by
  have unknown : ∀ {α : Type} (client : SocketId) (handler : UserId → Gateway.Handled α),
      (∀ user, (handler user).after.store.activeIn conversationId userId =
        g.store.activeIn conversationId userId) →
          (g.fromSocket client handler).2.store.activeIn conversationId userId =
            g.store.activeIn conversationId userId := by
    intro α client handler handled
    rw [fromSocket]
    split
    · rfl
    · exact handled _
  cases input with
  | conversationJoin client raw =>
    refine .inl (unknown client _ fun user => ?_)
    rw [handleJoin_store]
  | conversationLeave client raw =>
    refine .inl (unknown client _ fun user => ?_)
    rw [handleLeave_store]
  | messageSend client raw =>
    refine .inl (unknown client _ fun user => ?_)
    rw [served_store]
    cases read : wsSendMessage zod raw with
    | error code =>
      rw [handleSend, read]
      rfl
    | ok dto =>
      rw [handleSend_store g.store read]
      exact activeIn_exec (send_uses user dto) g.store conversationId userId
  | restSend user sentTo body =>
    left
    change (g.served (restSend zod user sentTo body)).after.store.activeIn conversationId userId = _
    rw [served_store]
    cases read : parseSendMessage zod (injected body "conversationId" sentTo) with
    | error refusal =>
      rw [restSend, read]
      rfl
    | ok dto =>
      rw [restSend_store g.store read]
      exact activeIn_exec (send_uses user dto) g.store conversationId userId
  | restMarkRead user readOf body =>
    left
    change (g.served (restMarkRead zod user readOf body)).after.store.activeIn conversationId userId = _
    rw [served_store]
    cases read : markReadSchema zod (some (injected body "conversationId" readOf)) with
    | none =>
      rw [restMarkRead, read]
      rfl
    | some dto =>
      rw [restMarkRead_store g.store read]
      exact activeIn_exec (markRead_uses user dto) g.store conversationId userId
  | messageTyping client raw =>
    refine .inl (unknown client _ fun user => ?_)
    rw [handleTyping_store]
  | messageRead client raw =>
    refine .inl (unknown client _ fun user => ?_)
    rw [handleRead_store]
    cases wsMessageReadSchema zod (some raw) with
    | none => rfl
    | some payload =>
      dsimp only
      split
      · rfl
      · exact activeIn_exec (markRead_uses user ⟨payload.conversationId, some payload.readAt⟩) g.store
          conversationId userId
  | restLeaveConversation leaver left' =>
    by_cases here : conversationId = left' ∧ userId = leaver
    · right
      rw [here.1, here.2]
    · left
      let kept (t : State) : Prop :=
        t.activeIn conversationId userId = g.store.activeIn conversationId userId
      have before : kept g.store := rfl
      exact (leaveConversation_uses leaver left').run_keeps answer
        (fun request t asked (held : kept t) => (asked.activeIn t here).trans held) before
  | _ => exact .inl rfl

theorem Gateway.OwnRooms.step (own : g.OwnRooms) (input : GatewayInput) : (g.step zod input).OwnRooms := by
  intro client socket' found userId inside
  obtain ⟨socket, before, same, rooms⟩ | fresh := g.entered_step zod input client socket' found
  · obtain old | ⟨conversationId, entered, -⟩ := rooms _ inside
    · rw [← same]
      exact own client socket before userId old
    · cases entered
  · rw [fresh, List.mem_singleton] at inside
    cases inside
    rfl

/-- **An orderly step makes no socket stale.** -/
theorem Gateway.Current.step (current : g.Current) {input : GatewayInput} (orderly : g.Orderly zod input) :
    (g.step zod input).Current := by
  rintro conversationId client ⟨userId, ⟨socket', found, inside, rfl⟩, inactive⟩
  obtain ⟨socket, before, same, rooms⟩ | fresh := g.entered_step zod input client socket' found
  · obtain old | ⟨entered, room, active⟩ := rooms _ inside
    · have inRoom : g.InRoom conversationId client socket'.userId := ⟨socket, before, old, same⟩
      obtain unchanged | left' := g.activeIn_step zod input conversationId socket'.userId
      · rw [unchanged] at inactive
        exact current conversationId client ⟨socket'.userId, inRoom, inactive⟩
      · subst left'
        exact orderly client inRoom
    · cases room
      rw [active] at inactive
      cases inactive
  · rw [fresh, List.mem_singleton] at inside
    cases inside

theorem Gateway.Current.discreet (current : g.Current) {input : GatewayInput}
    (orderly : g.Orderly zod input) : g.Discreet zod input := by
  intro speech speaks
  refine ⟨fun client _ => current speech.conversationId client, .inl ?_⟩
  cases input with
  | messageTyping client raw => exact orderly speech speaks
  | messageSend client raw =>
    obtain ⟨socket, -, speaks⟩ := Option.bind_eq_some_iff.mp speaks
    obtain ⟨dto, -, speaks⟩ := Option.bind_eq_some_iff.mp speaks
    exact speaker_of_message speaks
  | restSend userId conversationId body =>
    obtain ⟨dto, -, speaks⟩ := Option.bind_eq_some_iff.mp speaks
    exact speaker_of_message speaks
  | messageRead client raw =>
    obtain ⟨socket, -, speaks⟩ := Option.bind_eq_some_iff.mp speaks
    obtain ⟨payload, -, speaks⟩ := Option.bind_eq_some_iff.mp speaks
    split at speaks
    · rename_i admitted
      cases speaks
      exact admitted.2
    · cases speaks
  | _ => cases speaks

/-! ## Runs -/

/-- **Every event goes to active participants, on behalf of one, exactly when every step is discreet; and
so it does in an orderly run without stale sockets.** -/
theorem heard_by_participants_iff (own : g.OwnRooms) (inputs : List GatewayInput) :
    (EachStep (Gateway.step zod) (Gateway.Sound zod) g inputs ↔
        EachStep (Gateway.step zod) (Gateway.Discreet zod) g inputs) ∧
      (g.Current → EachStep (Gateway.step zod) (Gateway.Orderly zod) g inputs →
        EachStep (Gateway.step zod) (Gateway.Sound zod) g inputs) := by
  have owns : ∀ (g : Gateway) input, g.OwnRooms → (g.step zod input).OwnRooms :=
    fun g input own => own.step input
  have discreetly : EachStep (Gateway.step zod) (Gateway.Discreet zod) g inputs →
      EachStep (Gateway.step zod) (Gateway.Sound zod) g inputs :=
    eachStep_of_keeps (fun g input own _ => owns g input own)
      (fun g input own discreet => (Gateway.sound_iff own input).mpr discreet) own
  refine ⟨⟨?_, discreetly⟩, fun current steps => discreetly ?_⟩
  · exact eachStep_of_keeps (fun g input own _ => owns g input own)
      (fun g input own sound => (Gateway.sound_iff own input).mp sound) own
  · have keeps : ∀ (g : Gateway) input, g.Current → g.Orderly zod input → (g.step zod input).Current :=
      fun g input current orderly => current.step orderly
    exact eachStep_of_keeps keeps (fun g input current orderly => current.discreet orderly) current steps

/-! ## A group of three -/

def smallGroupId : ConversationId := "8d2cfa6e-38a3-4c0a-9d0c-6f0f3a3f2b11"

/-- Riders 1, 2 and 3 have a group, and nobody is connected. -/
def smallGateway : Gateway where
  store := { smallInstallation with
    conversations := empty.insert smallGroupId
      { newDirect 0 1 2 with
        type := .groupChat
        participants := (newDirect 0 1 2).participants.insert 3 (newParticipant 0) } }
  sockets := .empty

/-- Riders 1 and 2 connect and enter the room of the group. -/
def bothEnter : List GatewayInput :=
  [.connect 10 1, .connect 20 2, .conversationJoin 10 (.object [("conversationId", smallUuid)]),
    .conversationJoin 20 (.object [("conversationId", smallUuid)])]

def smallText : Json := textPayload [("content", .string "hello")]

theorem smallGateway_ownRooms : smallGateway.OwnRooms := fun _ _ found => nomatch found

/-- Rider 1 writes to the group, and rider 2 hears it. -/
theorem heard_by_participants_small :
    (EachStep (Gateway.step smallZod) (Gateway.Sound smallZod) smallGateway
          (bothEnter ++ [.messageSend 10 smallText]) ↔
        EachStep (Gateway.step smallZod) (Gateway.Discreet smallZod) smallGateway
          (bothEnter ++ [.messageSend 10 smallText])) ∧
      (smallGateway.Current → EachStep (Gateway.step smallZod) (Gateway.Orderly smallZod) smallGateway
          (bothEnter ++ [.messageSend 10 smallText]) →
        EachStep (Gateway.step smallZod) (Gateway.Sound smallZod) smallGateway
          (bothEnter ++ [.messageSend 10 smallText])) :=
  heard_by_participants_iff smallGateway_ownRooms _

/-- Rider 2 leaves the group for good and still receives what rider 1 writes; and rider 4, who is not in
the group, is heard typing. -/
theorem heard_by_others :
    ¬ EachStep (Gateway.step smallZod) (Gateway.Sound smallZod) smallGateway
        (bothEnter ++ [.restLeaveConversation 2 smallGroupId] ++ [.messageSend 10 smallText]) ∧
      ¬ EachStep (Gateway.step smallZod) (Gateway.Sound smallZod) smallGateway
        (bothEnter ++ [.connect 40 4] ++ [.messageTyping 40
          (.object [("conversationId", smallUuid), ("isTyping", .bool true)])]) := by
  constructor
  · intro sound
    obtain ⟨-, sound, -⟩ := eachStep_append.mp sound
    have reached : ((Gateway.serve smallZod (follow (Gateway.step smallZod) smallGateway
        (bothEnter ++ [.restLeaveConversation 2 smallGroupId])) (.messageSend 10 smallText)).1.any
          fun delivery => decide (delivery.socket = 20) &&
            decide (delivery.event.conversationId = smallGroupId)) = true := by
      decide +kernel
    obtain ⟨delivery, delivered, test⟩ := List.any_eq_true.mp reached
    simp only [Bool.and_eq_true, decide_eq_true_eq] at test
    obtain ⟨⟨socket, found, active⟩, -⟩ := sound delivery delivered
    rw [test.1] at found
    rw [test.2] at active
    have rider : (((follow (Gateway.step smallZod) smallGateway (bothEnter ++
        [.restLeaveConversation 2 smallGroupId])).step smallZod (.messageSend 10 smallText)).sockets.find?
          20).map ConnectedSocket.userId = some 2 := by
      decide +kernel
    have gone : ((follow (Gateway.step smallZod) smallGateway (bothEnter ++
        [.restLeaveConversation 2 smallGroupId])).step smallZod (.messageSend 10 smallText)).store.activeIn
          smallGroupId 2 = false := by
      decide +kernel
    rw [found] at rider
    have same : socket.userId = 2 := Option.some.inj rider
    rw [same, gone] at active
    cases active
  · intro sound
    obtain ⟨-, sound, -⟩ := eachStep_append.mp sound
    have reached : (⟨10, .messageTypingUpdated smallGroupId 4 true⟩ : Delivery) ∈
        (Gateway.serve smallZod (follow (Gateway.step smallZod) smallGateway (bothEnter ++ [.connect 40 4]))
          (.messageTyping 40 (.object [("conversationId", smallUuid), ("isTyping", .bool true)]))).1 := by
      decide +kernel
    obtain ⟨-, speaker⟩ := sound _ reached
    revert speaker
    decide +kernel

end Motogram.Messaging
