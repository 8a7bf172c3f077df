import Motogram.Messaging.Rooms

/-!
# How often a socket receives a message

A message that is stored is emitted to the room of its conversation, and to the room of each recipient,
for those who have not joined the room of the conversation yet. The two overlap. Every socket is in the
room of its user, since it enters that room when it connects and no handler makes it leave; so a
recipient's socket receives the message there, and once more when it is in the room of the conversation.

The count of what a socket receives is exact (`Gateway.receipts_posted`): one, and one more when it is in
the room. So every socket of a recipient receives every message once, exactly when none of them is in the
room of a conversation at the moment it is written to (`received_once_iff`).
-/

set_option autoImplicit false

namespace Motogram.Messaging

open Foundation Table Gateway

variable {zod : Zod} {g : Gateway}

/-! ## What is asked of a step -/

def WsEvent.announces (messageId : MessageId) : WsEvent → Bool
  | .messageReceived _ message => decide (message.id = messageId)
  | _ => false

/-- How many times a socket receives a message in a step. -/
def Gateway.receipts (zod : Zod) (g : Gateway) (input : GatewayInput) (client : SocketId)
    (messageId : MessageId) : Nat :=
  (g.serve zod input).1.countP fun delivery =>
    decide (delivery.socket = client) && delivery.event.announces messageId

def Gateway.Persists (zod : Zod) (g : Gateway) (input : GatewayInput) (messageId : MessageId) (row : Message) :
    Prop :=
  g.store.messages.rows.find? messageId = none ∧
    (g.step zod input).store.messages.rows.find? messageId = some row

def Gateway.ReceivedOnce (zod : Zod) (g : Gateway) (input : GatewayInput) : Prop :=
  ∀ messageId row, g.Persists zod input messageId row → ∀ client socket,
    g.sockets.find? client = some socket →
      socket.userId ∈ g.store.recipients row.conversationId row.senderId →
        g.receipts zod input client messageId = 1

/-- No recipient of a message has a socket in the room of the conversation. A message is what is said
to everybody in the room. -/
def Gateway.RecipientsOutside (zod : Zod) (g : Gateway) (input : GatewayInput) : Prop :=
  ∀ speech, g.speech? zod input = some speech → speech.except = none →
    ∀ client userId, g.InRoom speech.conversationId client userId →
      userId ∉ g.store.recipients speech.conversationId speech.speaker

/-- Every socket is in the room of its user and of no other, and the identifiers that are still to be
drawn belong to no message. -/
structure Gateway.Wired (g : Gateway) : Prop where
  own : g.OwnRooms
  home : ∀ client socket, g.sockets.find? client = some socket → .user socket.userId ∈ socket.rooms
  fresh : g.store.FreshIds

/-! ## Counting -/

theorem Gateway.countP_emitTo {client : SocketId} {socket : ConnectedSocket} (room : Room) {event : WsEvent}
    {messageId : MessageId} (connected : g.sockets.find? client = some socket)
    (announced : event.announces messageId = true) :
    ((g.emitTo room none event).countP fun delivery =>
        decide (delivery.socket = client) && delivery.event.announces messageId) =
      (decide (room ∈ socket.rooms)).toNat := by
  rw [emitTo, List.countP_map]
  have about : ((fun delivery : Delivery => decide (delivery.socket = client) &&
        delivery.event.announces messageId) ∘
        fun entry : SocketId × ConnectedSocket => (⟨entry.1, event⟩ : Delivery)) =
      fun entry => decide (entry.1 = client) := by
    funext entry
    simp [announced]
  rw [about, countP_select, connected]
  simp

/-- What each of some users is sent reaches the socket of one of them once. -/
theorem countP_flatMap_of_nodup {User Sent : Type} [DecidableEq User] {test : Sent → Bool}
    {sends : User → List Sent} {users : List User} {user : User} (distinct : users.Nodup)
    (each : ∀ other, (sends other).countP test = (decide (other = user)).toNat) (member : user ∈ users) :
    (users.flatMap sends).countP test = 1 := by
  induction users with
  | nil => cases member
  | cons head rest ih =>
    rw [List.nodup_cons] at distinct
    rw [List.flatMap_cons, List.countP_append, each]
    by_cases here : head = user
    · subst here
      have nobody : (rest.flatMap sends).countP test = 0 := by
        rw [List.countP_eq_zero]
        intro sent among
        obtain ⟨other, listed, sends'⟩ := List.mem_flatMap.mp among
        have apart : other ≠ head := fun same => distinct.1 (same ▸ listed)
        have none : (sends other).countP test = 0 := by
          rw [each, decide_eq_false apart]
          rfl
        exact List.countP_eq_zero.mp none sent sends'
      rw [nobody, decide_eq_true rfl]
      rfl
    · rw [decide_eq_false here, ih distinct.2 ((List.mem_cons.mp member).resolve_left fun same => here same.symm)]
      rfl

theorem State.nodup_recipients (s : State) (conversationId : ConversationId) (senderId : UserId) :
    (s.recipients conversationId senderId).Nodup := by
  refine List.Nodup.filter _ ?_
  cases s.conversations.find? conversationId with
  | none => exact List.nodup_nil
  | some conversation => exact conversation.participants.nodup_select _

/-- **A recipient's socket receives a message in the room of its user, and again when it is in the room of
the conversation.** -/
theorem Gateway.Wired.countP_broadcast (wired : g.Wired) {message : MessageDto} {recipientIds : List UserId}
    {client : SocketId} {socket : ConnectedSocket} (distinct : recipientIds.Nodup)
    (connected : g.sockets.find? client = some socket) (recipient : socket.userId ∈ recipientIds) :
    ((g.broadcastMessage message recipientIds).countP fun delivery =>
        decide (delivery.socket = client) && delivery.event.announces message.id) =
      (decide (Room.conversation message.message.conversationId ∈ socket.rooms)).toNat + 1 := by
  have announced : (WsEvent.messageReceived message.message.conversationId message).announces message.id = true :=
    decide_eq_true rfl
  rw [broadcastMessage, List.countP_append, countP_emitTo _ connected announced]
  congr 1
  refine countP_flatMap_of_nodup distinct (fun other => ?_) recipient
  rw [countP_emitTo _ connected announced]
  congr 1
  refine decide_eq_decide.mpr ⟨wired.own client socket connected other, ?_⟩
  rintro rfl
  exact wired.home client socket connected

/-! ## What a step stores -/

/-- A step stores the message of a send that passes, and announces it; or it has no message to say and
stores none. -/
inductive Gateway.Posts (zod : Zod) (g : Gateway) (input : GatewayInput) : Prop where
  | posted (senderId : UserId) (dto : SendMessageDto)
      (speaks : g.speech? zod input = some ⟨dto.conversationId, senderId, none⟩)
      (deliveries : (g.serve zod input).1 =
        g.broadcastMessage (g.store.created senderId dto) (g.store.recipients dto.conversationId senderId))
      (rows : (g.step zod input).store.messages.rows = g.store.messages.rows.insert
        (g.store.created senderId dto).id (g.store.created senderId dto).message)
      (fresh : (g.step zod input).store.fresh = g.store.fresh + 1)
      (deployment : (g.step zod input).store.deployment = g.store.deployment)
  | quiet (silent : ∀ speech, g.speech? zod input = some speech → speech.except ≠ none)
      (messages : (g.step zod input).store.messages = g.store.messages)
      (fresh : (g.step zod input).store.fresh = g.store.fresh)
      (deployment : (g.step zod input).store.deployment = g.store.deployment)

theorem send_stores {s : State} {senderId : UserId} {dto : SendMessageDto}
    (accepted : s.accepts senderId dto = true) :
    ((send senderId dto).exec s).2.messages.rows =
        s.messages.rows.insert (s.created senderId dto).id (s.created senderId dto).message ∧
      ((send senderId dto).exec s).2.fresh = s.fresh + 1 ∧
      ((send senderId dto).exec s).2.deployment = s.deployment := by
  obtain ⟨-, rate, same⟩ | ⟨refused, -⟩ := send_checks s senderId dto
  · rw [State.accepts] at accepted
    simp only [Bool.and_eq_true, Option.isNone_iff_eq_none] at accepted
    obtain ⟨result, t, ran, -, still⟩ :=
      sendNew_exec (s.withRateMsg senderId rate) senderId dto accepted.1.1.1 accepted.2
    rw [same, ran]
    exact ⟨congrArg MessageTable.rows still.messages, still.fresh, still.deployment⟩
  · rw [accepted] at refused
    cases refused

theorem markRead_stores_nothing (s : State) (userId : UserId) (dto : MarkReadDto) :
    ((markRead userId dto).exec s).2.messages = s.messages ∧ ((markRead userId dto).exec s).2.fresh = s.fresh ∧
      ((markRead userId dto).exec s).2.deployment = s.deployment := by
  rw [markRead_run]
  split <;> exact ⟨rfl, rfl, rfl⟩

theorem leaveConversation_stores_nothing (s : State) (userId : UserId) (conversationId : ConversationId) :
    ((leaveConversation userId conversationId).exec s).2.messages = s.messages ∧
      ((leaveConversation userId conversationId).exec s).2.fresh = s.fresh ∧
      ((leaveConversation userId conversationId).exec s).2.deployment = s.deployment := by
  let kept (t : State) : Prop :=
    t.messages = s.messages ∧ t.fresh = s.fresh ∧ t.deployment = s.deployment
  have before : kept s := ⟨rfl, rfl, rfl⟩
  refine (leaveConversation_uses userId conversationId).run_keeps answer (fun request t asked held => ?_) before
  cases asked with
  | leave leftAt =>
    simp only [answer]
    split <;> exact held
  | _ => exact held

theorem Gateway.posts_of_send {α : Type} {flow : Flow α} {input : GatewayInput} {senderId : UserId}
    {dto : SendMessageDto} (served : g.serve zod input = (g.served flow).emitted)
    (same : (flow.exec g.store).2 = ((send senderId dto).exec g.store).2)
    (speech : g.speech? zod input = g.message? senderId dto) : g.Posts zod input := by
  have after : (g.step zod input).store = ((send senderId dto).exec g.store).2 := by
    rw [Gateway.step, served]
    exact same
  obtain ⟨accepted, delivered⟩ | ⟨refused, -⟩ := g.served_deliveries same
  · obtain ⟨rows, fresh, deployment⟩ := send_stores accepted
    refine .posted senderId dto ?_ ?_ ?_ ?_ ?_
    · rw [speech, message?, if_pos accepted]
    · rw [served]
      exact delivered
    · rw [after, rows]
    · rw [after, fresh]
    · rw [after, deployment]
  · obtain ⟨accepted, -⟩ | ⟨-, -, still, -⟩ := send_checks g.store senderId dto
    · rw [refused] at accepted
      cases accepted
    · refine .quiet ?_ ?_ ?_ ?_
      · intro spoken speaks
        rw [speech, message?, refused] at speaks
        cases speaks
      · rw [after, still.messages]
      · rw [after, still.fresh]
      · rw [after, still.deployment]

theorem Gateway.posts_of_store {input : GatewayInput}
    (silent : ∀ speech, g.speech? zod input = some speech → speech.except ≠ none)
    (same : (g.step zod input).store = g.store) : g.Posts zod input :=
  .quiet silent (congrArg State.messages same) (congrArg State.fresh same) (congrArg State.deployment same)

/-- **What a step posts.** -/
theorem Gateway.posts_step (zod : Zod) (g : Gateway) (input : GatewayInput) : g.Posts zod input := by
  cases input with
  | connect | disconnect => exact posts_of_store (fun _ none => by cases none) rfl
  | elapse milliseconds => exact .quiet (fun _ none => by cases none) rfl rfl rfl
  | conversationJoin client raw =>
    refine posts_of_store (fun _ none => by cases none) ?_
    rw [Gateway.step, serve, fromSocket]
    split
    · rfl
    · exact g.handleJoin_store zod client _ raw
  | conversationLeave client raw =>
    refine posts_of_store (fun _ none => by cases none) ?_
    rw [Gateway.step, serve, fromSocket]
    split
    · rfl
    · exact g.handleLeave_store zod client raw
  | messageTyping client raw =>
    refine posts_of_store ?_ ?_
    · intro speech speaks
      obtain ⟨socket, -, speaks⟩ := Option.bind_eq_some_iff.mp speaks
      obtain ⟨payload, -, speaks⟩ := Option.bind_eq_some_iff.mp speaks
      cases speaks
      exact Option.some_ne_none _
    · rw [Gateway.step, serve, fromSocket]
      split
      · rfl
      · exact g.handleTyping_store zod client _ raw
  | messageRead client raw =>
    have silent : ∀ speech, g.speech? zod (.messageRead client raw) = some speech → speech.except ≠ none := by
      intro speech speaks
      obtain ⟨socket, -, speaks⟩ := Option.bind_eq_some_iff.mp speaks
      obtain ⟨payload, -, speaks⟩ := Option.bind_eq_some_iff.mp speaks
      split at speaks
      · cases speaks
        exact Option.some_ne_none _
      · cases speaks
    cases connected : g.sockets.find? client with
    | none =>
      refine posts_of_store silent ?_
      rw [Gateway.step, serve, fromSocket, connected]
    | some socket =>
      have after : (g.step zod (.messageRead client raw)).store =
          (g.handleRead zod client socket.userId raw).after.store := by
        rw [Gateway.step, serve, fromSocket, connected]
        rfl
      rw [handleRead_store] at after
      cases read : wsMessageReadSchema zod (some raw) with
      | none =>
        rw [read] at after
        exact posts_of_store silent after
      | some payload =>
        rw [read] at after
        dsimp only at after
        split at after
        · exact posts_of_store silent after
        · obtain ⟨messages, fresh, deployment⟩ := markRead_stores_nothing g.store socket.userId
            ⟨payload.conversationId, some payload.readAt⟩
          rw [← after] at messages fresh deployment
          exact .quiet silent messages fresh deployment
  | messageSend client raw =>
    cases connected : g.sockets.find? client with
    | none =>
      refine posts_of_store ?_ ?_
      · intro speech speaks
        rw [speech?, connected] at speaks
        cases speaks
      · rw [Gateway.step, serve, fromSocket, connected]
    | some socket =>
      have served : g.serve zod (.messageSend client raw) =
          (g.served (handleSend zod socket.userId raw)).emitted := by
        rw [serve, fromSocket, connected]
      cases read : wsSendMessage zod raw with
      | error code =>
        refine posts_of_store ?_ ?_
        · intro speech speaks
          rw [speech?, connected, read] at speaks
          cases speaks
        · rw [Gateway.step, served, handleSend, read]
          rfl
      | ok dto =>
        refine posts_of_send served (handleSend_store g.store read) ?_
        rw [speech?, connected, read]
        rfl
  | restSend senderId conversationId body =>
    cases read : parseSendMessage zod (injected body "conversationId" conversationId) with
    | error refusal =>
      refine posts_of_store ?_ ?_
      · intro speech speaks
        rw [speech?, read] at speaks
        cases speaks
      · rw [Gateway.step, serve, restSend, read]
        rfl
    | ok dto =>
      refine posts_of_send rfl (restSend_store g.store read) ?_
      rw [speech?, read]
      rfl
  | restMarkRead userId conversationId body =>
    cases read : markReadSchema zod (some (injected body "conversationId" conversationId)) with
    | none =>
      refine posts_of_store (fun _ none => by cases none) ?_
      rw [Gateway.step, serve, restMarkRead, read]
      rfl
    | some dto =>
      have after : (g.step zod (.restMarkRead userId conversationId body)).store =
          ((markRead userId dto).exec g.store).2 :=
        restMarkRead_store g.store read
      obtain ⟨messages, fresh, deployment⟩ := markRead_stores_nothing g.store userId dto
      rw [← after] at messages fresh deployment
      exact .quiet (fun _ none => by cases none) messages fresh deployment
  | restLeaveConversation userId conversationId =>
    obtain ⟨messages, fresh, deployment⟩ := leaveConversation_stores_nothing g.store userId conversationId
    exact .quiet (fun _ none => by cases none) messages fresh deployment

/-! ## The invariant -/

theorem Gateway.Wired.step (wired : g.Wired) (input : GatewayInput) : (g.step zod input).Wired := by
  refine ⟨wired.own.step input, ?_, ?_⟩
  · intro client socket found
    cases g.rewired_step zod input with
    | same same =>
      rw [same] at found
      exact wired.home client socket found
    | connected other userId connected =>
      rw [connected, find?_insert] at found
      split at found
      · cases found
        exact List.mem_singleton.mpr rfl
      · exact wired.home client socket found
    | disconnected other disconnected =>
      rw [disconnected, find?_erase] at found
      split at found
      · cases found
      · exact wired.home client socket found
    | joined other conversationId active joined =>
      rw [joined, join, withSockets_sockets, find?_modify] at found
      split at found
      · obtain ⟨before, connected, rfl⟩ := Option.map_eq_some_iff.mp found
        exact List.mem_insert_of_mem (wired.home client before connected)
      · exact wired.home client socket found
    | left other conversationId left' =>
      rw [left', leave, withSockets_sockets, find?_modify] at found
      split at found
      · obtain ⟨before, connected, rfl⟩ := Option.map_eq_some_iff.mp found
        -- the room that is left is the room of a conversation
        exact List.mem_filter.mpr ⟨wired.home client before connected, decide_eq_true nofun⟩
      · exact wired.home client socket found
  · intro count later
    cases g.posts_step zod input with
    | posted senderId dto speaks deliveries rows fresh deployment =>
      rw [fresh] at later
      rw [rows, deployment, find?_insert_of_ne]
      · exact wired.fresh count (Nat.le_of_succ_le later)
      · intro same
        have drawn : count = g.store.fresh := g.store.deployment.uuid_injective same
        omega
    | quiet silent messages fresh deployment =>
      rw [fresh] at later
      rw [messages, deployment]
      exact wired.fresh count later

/-! ## One step -/

/-- **Each socket of each recipient receives what a step stores once, exactly when none is in the room of
the conversation.** -/
theorem Gateway.Wired.receivedOnce_iff (wired : g.Wired) (input : GatewayInput) :
    g.ReceivedOnce zod input ↔ g.RecipientsOutside zod input := by
  cases g.posts_step zod input with
  | quiet silent messages fresh deployment =>
    constructor
    · intro _ speech speaks everybody
      exact absurd everybody (silent speech speaks)
    · rintro - messageId row ⟨absent, stored⟩
      rw [messages, absent] at stored
      cases stored
  | posted senderId dto speaks deliveries rows fresh deployment =>
    let message := g.store.created senderId dto
    have new : g.store.messages.rows.find? message.id = none := wired.fresh _ (Nat.le_refl _)
    have distinct := g.store.nodup_recipients dto.conversationId senderId
    constructor
    · rintro once speech speaks' - client userId ⟨socket, connected, inside, rfl⟩ recipient
      rw [speaks] at speaks'
      cases speaks'
      have stored : g.Persists zod input message.id message.message :=
        ⟨new, by rw [rows]; exact find?_insert_self new _⟩
      have received := once message.id message.message stored client socket connected recipient
      rw [receipts, deliveries, wired.countP_broadcast distinct connected recipient] at received
      have twice : (decide (Room.conversation dto.conversationId ∈ socket.rooms)).toNat = 1 := by
        rw [decide_eq_true inside]
        rfl
      change (decide (Room.conversation dto.conversationId ∈ socket.rooms)).toNat + 1 = 1 at received
      omega
    · rintro outside messageId row ⟨absent, stored⟩ client socket connected recipient
      rw [rows, find?_insert] at stored
      split at stored
      · rename_i this
        cases stored
        obtain ⟨rfl, -⟩ := this
        have apart : Room.conversation dto.conversationId ∉ socket.rooms := fun inside =>
          outside _ speaks rfl client socket.userId ⟨socket, connected, inside, rfl⟩ recipient
        rw [receipts, deliveries, wired.countP_broadcast distinct connected recipient]
        change (decide (Room.conversation dto.conversationId ∈ socket.rooms)).toNat + 1 = 1
        rw [decide_eq_false apart]
        rfl
      · rw [absent] at stored
        cases stored

/-! ## Runs -/

/-- **Every socket of a recipient receives every message once, exactly when no recipient's socket is in the
room of a conversation when a message is written to it.** -/
theorem received_once_iff (wired : g.Wired) (inputs : List GatewayInput) :
    EachStep (Gateway.step zod) (Gateway.ReceivedOnce zod) g inputs ↔
      EachStep (Gateway.step zod) (Gateway.RecipientsOutside zod) g inputs := by
  have throughout : Throughout (Gateway.step zod) Gateway.Wired g inputs :=
    throughout_of_invariant (fun g input wired => wired.step input) wired inputs
  exact eachStep_congr (fun g input wired => wired.receivedOnce_iff input) throughout

/-! ## The group of three -/

theorem smallGateway_wired : smallGateway.Wired where
  own := smallGateway_ownRooms
  home := fun _ _ found => nomatch found
  fresh := fun _ _ => rfl

/-- Riders 1 and 2 connect, and rider 1 writes to the group: rider 2 receives it once. -/
theorem received_once_small :
    EachStep (Gateway.step smallZod) (Gateway.ReceivedOnce smallZod) smallGateway
        [.connect 10 1, .connect 20 2, .messageSend 10 smallText] ↔
      EachStep (Gateway.step smallZod) (Gateway.RecipientsOutside smallZod) smallGateway
        [.connect 10 1, .connect 20 2, .messageSend 10 smallText] :=
  received_once_iff smallGateway_wired _

/-- When rider 2 has entered the room of the group, the message of rider 1 arrives twice. -/
theorem received_twice :
    ¬ EachStep (Gateway.step smallZod) (Gateway.ReceivedOnce smallZod) smallGateway
        (bothEnter ++ [.messageSend 10 smallText]) := by
  intro once
  obtain ⟨-, once, -⟩ := eachStep_append.mp once
  have wired : (follow (Gateway.step smallZod) smallGateway bothEnter).Wired :=
    (throughout_of_invariant (fun g input wired => wired.step input) smallGateway_wired bothEnter).last
  have outside := (wired.receivedOnce_iff _).mp once
  have speaks : (follow (Gateway.step smallZod) smallGateway bothEnter).speech? smallZod
      (.messageSend 10 smallText) = some ⟨smallGroupId, 1, none⟩ := by
    decide +kernel
  have connected : (follow (Gateway.step smallZod) smallGateway bothEnter).sockets.find? 20 =
      some ⟨2, [.conversation smallGroupId, .user 2]⟩ := by
    decide +kernel
  have recipient : 2 ∈ (follow (Gateway.step smallZod) smallGateway bothEnter).store.recipients
      smallGroupId 1 := by
    decide +kernel
  exact outside _ speaks rfl 20 2 ⟨_, connected, List.mem_cons_self, rfl⟩ recipient

end Motogram.Messaging
