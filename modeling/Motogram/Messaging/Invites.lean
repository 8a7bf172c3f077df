import Motogram.Messaging.Rooms

/-!
# What an invite carries

A message of type RIDE_INVITE or EVENT_INVITE carries the data of its invite, and no other message
does. `send` does not look at the type: it stores the invite to a ride if there is one, else the
invite to an event. So what is stored depends on what the transports let through. The REST schema
asks for the invite of the type, and does not refuse another one besides; the socket handler drops
other invites, and does not ask for the one of the type.

For every interleaving of calls, all messages that are not deleted carry what their type calls for
exactly when each call that creates one has a body whose invites fit its type
(`stored_invites_fit_iff`).
-/

set_option autoImplicit false

namespace Motogram.Messaging

open Foundation Program Pool Option

variable {Index : Type} {zod : Zod} {raw : Json}

/-! ## The data of an invite -/

def RideInviteData.json (data : RideInviteData) : Json :=
  .object ([("partyId", .string data.partyId), ("partyName", .string data.partyName),
    ("leaderName", .string data.leaderName)] ++
      (data.routeId.map fun routeId => ("routeId", .string routeId)).toList)

def EventInviteData.json (data : EventInviteData) : Json :=
  .object [("eventId", .string data.eventId), ("title", .string data.title),
    ("meetingPointName", .string data.meetingPointName), ("startTime", .string data.startTime)]

/-- The value of the column. -/
def InviteData.json : InviteData → Json
  | .ride data => data.json
  | .event data => data.json

def Message.InviteFits (zod : Zod) (row : Message) : Prop :=
  match row.messageType with
  | .rideInvite => ∃ data, row.inviteData = some data ∧ (rideInviteDataSchema zod (some data.json)).isSome
  | .eventInvite => ∃ data, row.inviteData = some data ∧ (eventInviteDataSchema zod (some data.json)).isSome
  | _ => row.inviteData = none

/-- Every message that is not deleted carries what its type calls for. -/
def State.InvitesFit (zod : Zod) (s : State) : Prop :=
  ∀ id row, s.messages.rows.find? id = some row → row.isDeleted = false → row.InviteFits zod

theorem Schema.string_of_read {check : String → Bool} {input : Option Json} {text : String}
    (read : Schema.string check input = some text) : check text = true := by
  obtain ⟨text', rfl, passes⟩ := Schema.isSome_string.mp (isSome_of_mem read)
  rw [Schema.string, if_pos passes] at read
  exact some.inj read ▸ passes

variable {input : Option Json} {α : Type} {schema : Schema α} {dto : SendMessageDto}

theorem rideInvite_reads {data : RideInviteData} (read : rideInviteDataSchema zod input = some data) :
    rideInviteDataSchema zod (some data.json) = some data := by
  simp only [rideInviteDataSchema, bind_eq_bind, bind_eq_some_iff, some.injEq] at read
  obtain ⟨value, -, partyId, party, partyName, -, leaderName, -, routeId, route, rfl⟩ := read
  have isParty := Schema.string_of_read party
  cases routeId with
  | none =>
    change (if zod.uuid partyId = true then some partyId else none).bind (fun read =>
      some (⟨read, partyName, leaderName, none⟩ : RideInviteData)) = _
    rw [if_pos isParty]
    rfl
  | some text =>
    have isRoute : zod.uuid text = true := by
      cases here : value.field "routeId" with
      | none =>
        rw [here] at route
        cases route
      | some given =>
        rw [here] at route
        obtain ⟨text', isText, same⟩ := map_eq_some_iff.mp route
        cases same
        exact Schema.string_of_read isText
    change (if zod.uuid partyId = true then some partyId else none).bind (fun read =>
      ((if zod.uuid text = true then some text else none).map some).bind fun route =>
        some (⟨read, partyName, leaderName, route⟩ : RideInviteData)) = _
    rw [if_pos isParty, if_pos isRoute]
    rfl

theorem eventInvite_reads {data : EventInviteData} (read : eventInviteDataSchema zod input = some data) :
    eventInviteDataSchema zod (some data.json) = some data := by
  simp only [eventInviteDataSchema, bind_eq_bind, bind_eq_some_iff, some.injEq] at read
  obtain ⟨value, -, eventId, event, title, -, meetingPointName, -, startTime, -, rfl⟩ := read
  have isEvent := Schema.string_of_read event
  -- the identifier is the only field that is checked for more than being a text
  change (if zod.uuid eventId = true then some eventId else none).bind (fun read =>
    some (⟨read, title, meetingPointName, startTime⟩ : EventInviteData)) = _
  rw [if_pos isEvent]
  rfl

theorem rideInvite_of_event (data : EventInviteData) :
    rideInviteDataSchema zod (some data.json) = none := rfl

theorem eventInvite_of_ride (data : RideInviteData) : eventInviteDataSchema zod (some data.json) = none := by
  obtain ⟨partyId, partyName, leaderName, routeId⟩ := data
  cases routeId <;> rfl

/-! ## What a message is stored with -/

structure SendMessageDto.Read (zod : Zod) (dto : SendMessageDto) : Prop where
  ride : ∀ data, dto.rideInvite = some data → rideInviteDataSchema zod (some data.json) = some data
  event : ∀ data, dto.eventInvite = some data → eventInviteDataSchema zod (some data.json) = some data

/-- The invites of a message are those its type calls for; an invite to a ride may have one to an event
besides it, which is not stored. -/
def SendMessageDto.Fits (dto : SendMessageDto) : Prop :=
  match dto.messageType with
  | .rideInvite => dto.rideInvite ≠ none
  | .eventInvite => dto.rideInvite = none ∧ dto.eventInvite ≠ none
  | _ => dto.rideInvite = none ∧ dto.eventInvite = none

/-- **A message is stored with the data its type calls for exactly when its invites fit.** -/
theorem newMessage_fits_iff (read : dto.Read zod) (now : Time) (senderId : UserId) :
    (newMessage now senderId dto dto.inviteData).InviteFits zod ↔ dto.Fits := by
  obtain ⟨conversationId, clientId, messageType, content, mediaUrls, rideInvite, eventInvite⟩ := dto
  obtain ⟨isRide, isEvent⟩ := read
  cases rideInvite with
  | some ride =>
    have reads := isRide ride rfl
    cases messageType with
    | rideInvite =>
      refine ⟨fun _ => some_ne_none ride, fun _ => ⟨.ride ride, rfl, ?_⟩⟩
      exact isSome_of_mem reads
    | eventInvite =>
      refine ⟨?_, fun fits => by cases fits.1⟩
      rintro ⟨_, ⟨⟩, matched⟩
      rw [InviteData.json, eventInvite_of_ride] at matched
      cases matched
    | _ => exact ⟨by rintro ⟨⟩, fun fits => by cases fits.1⟩
  | none =>
    cases eventInvite with
    | some event =>
      have reads := isEvent event rfl
      cases messageType with
      | rideInvite =>
        refine ⟨?_, fun fits => absurd rfl fits⟩
        rintro ⟨_, ⟨⟩, matched⟩
        rw [InviteData.json, rideInvite_of_event] at matched
        cases matched
      | eventInvite =>
        refine ⟨fun _ => ⟨rfl, some_ne_none event⟩, fun _ => ⟨.event event, rfl, ?_⟩⟩
        exact isSome_of_mem reads
      | _ => exact ⟨by rintro ⟨⟩, fun fits => by cases fits.2⟩
    | none =>
      cases messageType with
      | rideInvite =>
        refine ⟨?_, fun fits => absurd rfl fits⟩
        rintro ⟨_, ⟨⟩, -⟩
      | eventInvite =>
        refine ⟨?_, fun fits => absurd rfl fits.2⟩
        rintro ⟨_, ⟨⟩, -⟩
      | _ => exact ⟨fun _ => ⟨rfl, rfl⟩, fun _ => rfl⟩

/-! ## What the transports let through -/

/-- The payload of a socket message has the invite its type calls for. -/
def SocketFits (raw : Json) : Prop :=
  typeName raw = "RIDE_INVITE" ∨ typeName raw = "EVENT_INVITE" → raw.field "inviteData" ≠ none

/-- The body of the REST route has no invite that its type does not call for; besides an invite to a
ride one to an event does no harm. -/
def BodyFits (body : Json) : Prop :=
  match typeName body with
  | "RIDE_INVITE" => True
  | "EVENT_INVITE" => body.field "rideInvite" = none
  | _ => body.field "rideInvite" = none ∧ body.field "eventInvite" = none

instance (raw : Json) : Decidable (SocketFits raw) := inferInstanceAs (Decidable (_ → _))

instance (body : Json) : Decidable (BodyFits body) := by
  unfold BodyFits
  split <;> infer_instance

theorem optional_eq_none_iff {input : Option Json} {value : Option α}
    (read : Schema.optional schema input = some value) : value = none ↔ input = none := by
  cases input with
  | none =>
    cases read
    exact ⟨fun _ => rfl, fun _ => rfl⟩
  | some given =>
    obtain ⟨parsed, -, rfl⟩ := map_eq_some_iff.mp read
    exact ⟨nofun, nofun⟩

theorem optional_reads {input : Option Json} {value : α}
    (read : Schema.optional schema input = some (some value)) : ∃ given, schema given = some value := by
  cases input with
  | none => cases read
  | some given =>
    obtain ⟨parsed, parses, same⟩ := map_eq_some_iff.mp read
    cases same
    exact ⟨some given, parses⟩

theorem called_reads {isCalled : Prop} [Decidable isCalled] {schema : Schema α} {input : Option Json} {value : α}
    (read : called isCalled schema input = some (some value)) : ∃ given, schema given = some value := by
  rw [called] at read
  split at read
  · exact optional_reads read
  · cases read

theorem wsSendMessage_fits (passed : (wsSendMessage zod raw).toOption = some dto) :
    dto.Read zod ∧ (dto.Fits ↔ SocketFits raw) := by
  rw [wsSendMessage_toOption] at passed
  obtain ⟨payload, parsed, invited⟩ := bind_eq_some_iff.mp passed
  simp only [sharedInvites, bind_eq_bind, bind_eq_some_iff, some.injEq] at invited
  obtain ⟨rideInvite, ride, eventInvite, event, rfl⟩ := invited
  have typed : messageTypeSchema (raw.field "messageType") = some payload.messageType ∧
      Schema.optional Schema.object (raw.field "inviteData") = some payload.inviteData := by
    cases raw with
    | object fields =>
      simp only [wsMessageSendSchema, Schema.object, bind_eq_bind, bind_some,
        bind_eq_some_iff, some.injEq] at parsed
      obtain ⟨_, _, _, _, messageType, type, _, _, _, _, inviteData, invite, _, _, rfl⟩ := parsed
      refine ⟨?_, invite⟩
      cases named : (Json.object fields).field "messageType" with
      | none =>
        rw [named] at type
        cases type
      | some name =>
        rw [named] at type
        exact type
    | _ => cases parsed
  have given : payload.inviteData = none ↔ raw.field "inviteData" = none := optional_eq_none_iff typed.2
  refine ⟨⟨?_, ?_⟩, ?_⟩
  · rintro data rfl
    obtain ⟨input, read⟩ := called_reads ride
    exact rideInvite_reads read
  · rintro data rfl
    obtain ⟨input, read⟩ := called_reads event
    exact eventInvite_reads read
  · have isRide := isSome_of_called ride
    have isEvent := isSome_of_called event
    obtain ⟨nameRide, nameEvent⟩ := messageType_eq typed.1
    rw [isSome_iff_ne_none] at isRide isEvent
    rw [SocketFits, Ne, SendMessageDto.Fits, WsMessageSend.dto]
    cases type : payload.messageType <;> simp_all

/-- The REST route passes on every invite, and asks for the one of the type. -/
theorem parseSendMessage_fits {body : Json} {conversationId : String}
    (passed : (parseSendMessage zod (injected body "conversationId" conversationId)).toOption = some dto) :
    dto.Read zod ∧ (dto.Fits ↔ BodyFits body) := by
  rw [parseSendMessage_toOption] at passed
  obtain ⟨parsed, unissued⟩ := filter_eq_some_iff.mp passed
  have field : ∀ name, "conversationId" ≠ name →
      (injected body "conversationId" conversationId).field name = body.field name := by
    intro name other
    rw [injected, Json.field, Json.lookup, if_neg other]
    cases body <;> rfl
  have isObject : Schema.object (some (injected body "conversationId" conversationId)) =
      some (injected body "conversationId" conversationId) := rfl
  simp only [sendMessageObject, isObject, bind_eq_bind, bind_some,
    bind_eq_some_iff, some.injEq, field "messageType" (by decide),
    field "rideInvite" (by decide), field "eventInvite" (by decide)] at parsed
  obtain ⟨_, _, _, _, messageType, type, _, _, _, _, rideInvite, ride, eventInvite, event, rfl⟩ := parsed
  refine ⟨⟨?_, ?_⟩, ?_⟩
  · rintro data rfl
    obtain ⟨input, read⟩ := optional_reads ride
    exact rideInvite_reads read
  · rintro data rfl
    obtain ⟨input, read⟩ := optional_reads event
    exact eventInvite_reads read
  · have noRide := optional_eq_none_iff ride
    have noEvent := optional_eq_none_iff event
    have asks := (issues_eq_nil _).mp (of_decide_eq_true unissued)
    have asksRide : messageType = .rideInvite → rideInvite ≠ none :=
      fun isRide => isSome_iff_ne_none.mp (asks.2.2.1 isRide)
    have asksEvent : messageType = .eventInvite → eventInvite ≠ none :=
      fun isEvent => isSome_iff_ne_none.mp (asks.2.2.2.1 isEvent)
    clear asks
    have listed := messageType_listed type
    rw [BodyFits, SendMessageDto.Fits]
    generalize typeName body = name at listed
    simp only [messageTypeNames, List.mem_cons, Prod.mk.injEq, List.not_mem_nil, or_false] at listed
    obtain ⟨rfl, rfl⟩ | ⟨rfl, rfl⟩ | ⟨rfl, rfl⟩ | ⟨rfl, rfl⟩ | ⟨rfl, rfl⟩ | ⟨rfl, rfl⟩ |
      ⟨rfl, rfl⟩ := listed <;> simp_all

/-! ## Calls about messages -/

/-- A message through the one transport or the other, its deletion, or the passage of time. -/
inductive MessageRequest where
  | messageSend (userId : UserId) (raw : Json)
  | restSend (userId : UserId) (conversationId : String) (body : Json)
  | softDelete (userId : UserId) (messageId : MessageId)
  | elapse (milliseconds : Nat)

def messageProgram (zod : Zod) : MessageRequest → Flow Unit
  | .messageSend userId raw => do
    let _ ← handleSend zod userId raw
    pure ()
  | .restSend userId conversationId body => do
    let _ ← restSend zod userId conversationId body
    pure ()
  | .softDelete userId messageId => do
    let _ ← softDelete userId messageId
    pure ()
  | .elapse milliseconds => call (.elapse milliseconds)

def MessageRequest.dto? (zod : Zod) : MessageRequest → Option SendMessageDto
  | .messageSend _ raw => (wsSendMessage zod raw).toOption
  | .restSend _ conversationId body =>
    (parseSendMessage zod (injected body "conversationId" conversationId)).toOption
  | _ => none

/-- The invites of the body fit its type. -/
def MessageRequest.Fits : MessageRequest → Prop
  | .messageSend _ raw => SocketFits raw
  | .restSend _ _ body => BodyFits body
  | _ => True

instance (request : MessageRequest) : Decidable request.Fits := by
  unfold MessageRequest.Fits
  split <;> infer_instance

abbrev MessagePool (Index : Type) := Pool Index MessagingCall MessagingReply ServiceError Unit State

/-- Calls about messages that share the stores. -/
def messageRequests (zod : Zod) (calls : Index → MessageRequest) (s : State) : MessagePool Index where
  threads := fun index => messageProgram zod (calls index)
  store := s

/-- The next call of the thread creates a message. -/
def Creates (pool : MessagePool Index) (index : Index) : Prop :=
  match pool.next? index with
  | some (.createMessageTransaction _ dto _) =>
    (pool.store.conversations.find? dto.conversationId).isSome ∧
      pool.store.messages.byClientId? dto.conversationId dto.clientId = none ∧
      pool.store.messages.rows.find? (pool.store.deployment.uuid pool.store.fresh) = none
  | _ => False

instance (pool : MessagePool Index) (index : Index) : Decidable (Creates pool index) := by
  unfold Creates
  split <;> infer_instance

/-- What is sent passes the transport, and its invites fit as those of the body do. -/
theorem MessageRequest.dto?_fits {request : MessageRequest} {dto : SendMessageDto}
    (passed : request.dto? zod = some dto) : dto.Read zod ∧ (dto.Fits ↔ request.Fits) := by
  cases request with
  | messageSend userId raw => exact wsSendMessage_fits passed
  | restSend userId conversationId body => exact parseSendMessage_fits passed
  | softDelete | elapse => cases passed

/-- What a call may send: the one message it has passed on. -/
def MessageRequest.May (zod : Zod) (request : MessageRequest) : MessagingCall → Prop
  | .createMessageTransaction _ dto inviteData =>
    request.dto? zod = some dto ∧ inviteData = dto.inviteData
  | _ => True

theorem send_may (request : MessageRequest) {dto : SendMessageDto} (passed : request.dto? zod = some dto)
    (senderId : UserId) : (send senderId dto).Uses (request.May zod) := by
  refine (send_requests senderId dto).mono fun call asked => ?_
  cases call with
  | createMessageTransaction sender dto' inviteData =>
    obtain ⟨-, rfl, rfl⟩ := asked
    exact ⟨passed, rfl⟩
  | _ => trivial

theorem messageProgram_uses (zod : Zod) (request : MessageRequest) :
    (messageProgram zod request).Uses (request.May zod) := by
  cases request with
  | messageSend userId raw =>
    refine Uses.bind ?_ fun _ => uses_done _
    rw [handleSend]
    cases passed : wsSendMessage zod raw with
    | error code => exact uses_done _
    | ok dto =>
      have sends := send_may (.messageSend userId raw)
        (congrArg Except.toOption passed) userId
      exact (sends.bind fun _ => uses_done _).rescue fun _ => uses_done _
  | restSend userId conversationId body =>
    refine Uses.bind ?_ fun _ => uses_done _
    rw [restSend]
    cases passed : parseSendMessage zod (injected body "conversationId" conversationId) with
    | error refusal => exact uses_done _
    | ok dto =>
      have sends := send_may (.restSend userId conversationId body)
        (congrArg Except.toOption passed) userId
      exact sends.bind fun _ => uses_done _
  | softDelete userId messageId =>
    refine Uses.bind (Uses.send trivial fun found => ?_) fun _ => uses_done _
    cases found with
    | none => trivial
    | some message =>
      refine (uses_throwIf _ _).bind fun _ => Uses.send trivial fun updated => ?_
      cases updated <;> trivial
  | elapse milliseconds => exact ⟨trivial, fun _ => trivial⟩

/-! ## What a call does to the messages -/

section Answers

variable {s : State} {id : MessageId} {row : Message}

theorem undeleted_before {request : MessagingCall}
    (other : ∀ senderId dto inviteData, request ≠ .createMessageTransaction senderId dto inviteData)
    (found : (answer request s).2.messages.rows.find? id = some row) (undeleted : row.isDeleted = false) :
    s.messages.rows.find? id = some row := by
  cases request with
  | createMessageTransaction senderId dto inviteData => exact absurd rfl (other senderId dto inviteData)
  | messageUpdateDeleted messageId =>
    simp only [answer] at found
    split at found
    · exact found
    · simp only [State.withMessages_messages, MessageTable.modify, Table.find?_modify] at found
      split at found
      · obtain ⟨row', -, rfl⟩ := map_eq_some_iff.mp found
        cases undeleted
      · exact found
  | conversationParticipantUpdateLastReadAt | conversationParticipantUpdateLeftAt
  | conversationCreateDirect | messageReactionDelete =>
    simp only [answer] at found
    split at found <;> exact found
  | messageReactionUpsert =>
    simp only [answer] at found
    split at found
    · exact found
    · split at found <;> exact found
  | _ => exact found

theorem created_rows (s : State) (senderId : UserId) (dto : SendMessageDto) (inviteData : Option InviteData) :
    (answer (.createMessageTransaction senderId dto inviteData) s).2.messages.rows =
      if (s.conversations.find? dto.conversationId).isSome ∧
          s.messages.byClientId? dto.conversationId dto.clientId = none then
        s.messages.rows.insert (s.deployment.uuid s.fresh) (newMessage s.now senderId dto inviteData)
      else s.messages.rows := by
  cases stored : s.conversations.find? dto.conversationId with
  | none => simp [answer, stored]
  | some conversation =>
    by_cases free : s.messages.byClientId? dto.conversationId dto.clientId = none
    · simp only [answer, stored, dif_pos free, isSome_some, true_and, if_pos free]
      rfl
    · simp [answer, stored, free]

end Answers

/-! ## Every run -/

section Runs

variable [DecidableEq Index] {calls : Index → MessageRequest} {pool : MessagePool Index} {index : Index}

/-- Every thread sends the message of its own call, and the messages that are there carry what their
types call for. -/
structure Fitting (zod : Zod) (calls : Index → MessageRequest) (pool : MessagePool Index) : Prop where
  uses : pool.EachUses fun index => (calls index).May zod
  fits : pool.store.InvitesFit zod

theorem creates_of_new {id : MessageId} {row : Message}
    (uses : pool.EachUses fun index => (calls index).May zod)
    (found : (pool.advance answer index).store.messages.rows.find? id = some row)
    (undeleted : row.isDeleted = false) :
    pool.store.messages.rows.find? id = some row ∨
      Creates pool index ∧ ∃ senderId dto, (calls index).dto? zod = some dto ∧
        row = newMessage pool.store.now senderId dto dto.inviteData := by
  cases asked : pool.next? index with
  | none =>
    rw [store_advance_of_none asked] at found
    exact .inl found
  | some request =>
    rw [store_advance asked] at found
    cases request with
    | createMessageTransaction senderId dto inviteData =>
      obtain ⟨passed, rfl⟩ := uses.next asked
      rw [created_rows] at found
      split at found
      · rename_i creates
        rw [Table.find?_insert] at found
        split at found
        · rename_i inserted
          cases found
          refine .inr ⟨?_, senderId, dto, passed, rfl⟩
          rw [Creates, asked]
          exact ⟨creates.1, creates.2, inserted.2⟩
        · exact .inl found
      · exact .inl found
    | _ => exact .inl (undeleted_before (by intros; exact nofun) found undeleted)

theorem Fitting.advance (fitting : Fitting zod calls pool) (fits : Creates pool index → (calls index).Fits) :
    Fitting zod calls (pool.advance answer index) where
  uses := fitting.uses.advance index
  fits := by
    intro id row found undeleted
    obtain before | ⟨creates, senderId, dto, passed, rfl⟩ := creates_of_new fitting.uses found undeleted
    · exact fitting.fits id row before undeleted
    · obtain ⟨read, same⟩ := MessageRequest.dto?_fits passed
      exact (newMessage_fits_iff read _ _).mpr (same.mpr (fits creates))

/-- A step that creates a message with other invites leaves one that does not carry what its type
calls for. -/
theorem Fitting.breaks (fitting : Fitting zod calls pool) (creates : Creates pool index)
    (unfit : ¬ (calls index).Fits) : ¬ (pool.advance answer index).store.InvitesFit zod := by
  rw [Creates] at creates
  cases asked : pool.next? index with
  | none =>
    rw [asked] at creates
    cases creates
  | some request =>
    rw [asked] at creates
    cases request with
    | createMessageTransaction senderId dto inviteData =>
      obtain ⟨stored, free, unused⟩ := creates
      obtain ⟨passed, rfl⟩ := fitting.uses.next asked
      obtain ⟨read, same⟩ := MessageRequest.dto?_fits passed
      intro fits
      have found : (pool.advance answer index).store.messages.rows.find?
          (pool.store.deployment.uuid pool.store.fresh) =
            some (newMessage pool.store.now senderId dto dto.inviteData) := by
        rw [store_advance asked, created_rows, if_pos ⟨stored, free⟩,
          Table.find?_insert_self unused]
      exact unfit (same.mp ((newMessage_fits_iff read _ _).mp (fits _ _ found rfl)))
    | _ => cases creates

/-- **All messages that are not deleted carry what their types call for, throughout a run, exactly when
each call that creates a message has a body whose invites fit its type.** -/
theorem stored_invites_fit_iff (zod : Zod) (calls : Index → MessageRequest) (s : State)
    (initially : s.InvitesFit zod) (schedule : List Index) :
    Throughout (advance answer) (fun pool => pool.store.InvitesFit zod)
        (messageRequests zod calls s) schedule ↔
      EachStep (advance answer) (fun pool index => Creates pool index → (calls index).Fits)
        (messageRequests zod calls s) schedule := by
  have start : Fitting zod calls (messageRequests zod calls s) :=
    ⟨fun index => messageProgram_uses zod (calls index), initially⟩
  have keeps : ∀ pool index, Fitting zod calls pool → (Creates pool index → (calls index).Fits) →
      Fitting zod calls (pool.advance answer index) :=
    fun pool index fitting fits => fitting.advance fits
  have breaks : ∀ pool index, Fitting zod calls pool → ¬ (Creates pool index → (calls index).Fits) →
      ¬ (pool.advance answer index).store.InvitesFit zod := by
    intro pool index fitting unmet
    obtain ⟨creates, unfit⟩ := Classical.not_imp.mp unmet
    exact fitting.breaks creates unfit
  exact throughout_iff_eachStep (fun _ fitting => fitting.fits) keeps breaks start schedule

end Runs

/-! ## Three invites -/

/-- An invite to a ride. -/
def smallRide : Json :=
  .object [("partyId", smallUuid), ("partyName", .string "Sunday"), ("leaderName", .string "rider1")]

def ridePayload (fields : List (String × Json)) : Json :=
  .object ([("conversationId", smallUuid), ("clientId", smallUuid), ("messageType", .string "RIDE_INVITE"),
    ("clientTimestamp", .number 1700000000000)] ++ fields)

/-- Rider 1 invites the group to a ride, and rider 2 answers through REST. -/
def smallInvite : Bool → MessageRequest
  | true => .messageSend 1 (ridePayload [("inviteData", smallRide)])
  | false => .restSend 2 smallGroupId
      (.object [("clientId", .string "6f0f3a3f-2b11-4c0a-9d0c-8d2cfa6e38a3"), ("content", .string "yes")])

theorem smallGateway_invitesFit : smallGateway.store.InvitesFit smallZod := fun _ _ found => nomatch found

theorem stored_invites_fit_small :
    Throughout (advance answer) (fun pool => pool.store.InvitesFit smallZod)
        (messageRequests smallZod smallInvite smallGateway.store)
        (List.replicate 10 true ++ List.replicate 10 false) ∧
      (follow (advance answer) (messageRequests smallZod smallInvite smallGateway.store)
        (List.replicate 10 true ++ List.replicate 10 false)).store.messages.rows.entries.length = 2 :=
  ⟨(stored_invites_fit_iff smallZod smallInvite smallGateway.store smallGateway_invitesFit _).mpr
    (by decide +kernel), by decide +kernel⟩

/-- A socket message of the type RIDE_INVITE without an invite is stored without one, and a text that is
sent through REST with an invite to a ride is stored with it. -/
theorem stored_invites_unfit :
    ¬ Throughout (advance answer) (fun pool => pool.store.InvitesFit smallZod)
        (messageRequests smallZod (fun _ : Unit => .messageSend 1 (ridePayload [])) smallGateway.store)
        (List.replicate 10 ()) ∧
      ¬ Throughout (advance answer) (fun pool => pool.store.InvitesFit smallZod)
        (messageRequests smallZod (fun _ : Unit => .restSend 1 smallGroupId (.object
          [("clientId", smallUuid), ("content", .string "hello"), ("rideInvite", smallRide)]))
          smallGateway.store)
        (List.replicate 10 ()) := by
  constructor
  · intro fits
    have stored : ((follow (advance answer) (messageRequests smallZod
        (fun _ : Unit => .messageSend 1 (ridePayload [])) smallGateway.store)
          (List.replicate 10 ())).store.messages.rows.find? "").map (fun row =>
            (row.messageType, row.inviteData, row.isDeleted)) = some (.rideInvite, none, false) := by
      decide +kernel
    obtain ⟨row, found, same⟩ := Option.map_eq_some_iff.mp stored
    simp only [Prod.mk.injEq] at same
    have carries := fits.last "" row found same.2.2
    rw [Message.InviteFits, same.1] at carries
    obtain ⟨data, present, -⟩ := carries
    cases same.2.1.symm.trans present
  · intro fits
    have stored : ((follow (advance answer) (messageRequests smallZod
        (fun _ : Unit => .restSend 1 smallGroupId (.object
          [("clientId", smallUuid), ("content", .string "hello"), ("rideInvite", smallRide)]))
          smallGateway.store) (List.replicate 10 ())).store.messages.rows.find? "").map (fun row =>
            (row.messageType, row.inviteData.isSome, row.isDeleted)) = some (.text, true, false) := by
      decide +kernel
    obtain ⟨row, found, same⟩ := Option.map_eq_some_iff.mp stored
    simp only [Prod.mk.injEq] at same
    have carries := fits.last "" row found same.2.2
    rw [Message.InviteFits, same.1] at carries
    have absent : row.inviteData = none := carries
    rw [absent] at same
    cases same.2.1

end Motogram.Messaging
