import Motogram.Messaging.Rooms

/-!
# Up to when a participant has read

`lastReadAt` is what a participant's unread count is taken from. Three writers set it. A message sets
it for its sender to the time the message was created. The REST route and the socket message for
reading set it to a date of the client, and the REST route to the time of the call when the client
names none. None of them reads what is there before.

So each call that writes the date writes the client's date, or the time of the call
(`Gateway.lastReadAt_step`). The date never goes back and never lies ahead exactly when no call of the
participant names a date that is earlier than the one there, or later than the call
(`read_forward_iff`).
-/

set_option autoImplicit false

namespace Motogram.Messaging

open Foundation Gateway State

variable {zod : Zod} {g : Gateway} {conversationId : ConversationId} {userId : UserId}

/-! ## What is asked of a step -/

/-- The date up to which a participant has read. -/
def State.lastReadAt? (s : State) (conversationId : ConversationId) (userId : UserId) : Option Int :=
  (s.participant? conversationId userId).bind ConversationParticipant.lastReadAt

/-- The date does not go back, and is not after the time of the call. -/
def Gateway.ReadForward (zod : Zod) (conversationId : ConversationId) (userId : UserId) (g : Gateway)
    (input : GatewayInput) : Prop :=
  (∀ before, g.store.lastReadAt? conversationId userId = some before →
    ∃ after, (g.step zod input).store.lastReadAt? conversationId userId = some after ∧ before ≤ after) ∧
  ∀ after, (g.step zod input).store.lastReadAt? conversationId userId = some after → after ≤ g.store.now

/-- The date that a call of the participant names, when it is accepted. -/
def Gateway.namedDate? (zod : Zod) (conversationId : ConversationId) (userId : UserId) (g : Gateway) :
    GatewayInput → Option Int
  | .messageRead client raw => do
    let socket ← g.sockets.find? client
    let payload ← wsMessageReadSchema zod (some raw)
    if payload.readAt ≤ Gateway.maxDate ∧ (payload.conversationId = conversationId ∧ socket.userId = userId) ∧
        g.store.activeIn conversationId userId = true then some payload.readAt
    else none
  | .restMarkRead reader readOf body => do
    let dto ← markReadSchema zod (some (injected body "conversationId" readOf))
    if (dto.conversationId = conversationId ∧ reader = userId) ∧
        g.store.activeIn conversationId userId = true then dto.lastReadAt
    else none
  | _ => none

/-- A date that a call of the participant names is not before the one that is there, and not after the
time of the call. -/
def Gateway.NamedInTime (zod : Zod) (conversationId : ConversationId) (userId : UserId) (g : Gateway)
    (input : GatewayInput) : Prop :=
  ∀ date, g.namedDate? zod conversationId userId input = some date →
    (∀ before, g.store.lastReadAt? conversationId userId = some before → before ≤ date) ∧
      date ≤ g.store.now

/-- The participant has not read ahead of the time. -/
def State.ReadByNow (conversationId : ConversationId) (userId : UserId) (s : State) : Prop :=
  ∀ date, s.lastReadAt? conversationId userId = some date → date ≤ s.now

/-! ## The date in the store -/

section Stores

variable {s t : State}

theorem State.lastReadAt?_congr (same : t.conversations = s.conversations) :
    t.lastReadAt? conversationId userId = s.lastReadAt? conversationId userId := by
  rw [lastReadAt?, lastReadAt?, participant?, participant?, same]

theorem State.lastReadAt?_withParticipant (s : State) (changed : ConversationId) (member : UserId)
    (change : ConversationParticipant → ConversationParticipant) :
    (s.withParticipant changed member change).lastReadAt? conversationId userId =
      if changed = conversationId ∧ member = userId then
        (s.participant? conversationId userId).bind fun row => (change row).lastReadAt
      else s.lastReadAt? conversationId userId := by
  have rows : (s.withParticipant changed member change).conversations =
      s.conversations.modify changed fun conversation =>
        { conversation with participants := conversation.participants.modify member change } := rfl
  rw [lastReadAt?, lastReadAt?, participant?, participant?, rows, Table.find?_modify]
  by_cases here : conversationId = changed
  · subst here
    rw [if_pos rfl]
    cases s.conversations.find? conversationId with
    | none => simp
    | some conversation =>
      rw [Option.map_some, Option.bind_some, Option.bind_some, Table.find?_modify]
      by_cases same : userId = member
      · subst same
        rw [if_pos rfl, if_pos ⟨rfl, rfl⟩]
        cases conversation.participants.find? userId <;> rfl
      · rw [if_neg same, if_neg fun both => same both.2.symm]
  · rw [if_neg here, if_neg fun both => here both.1.symm]

theorem State.lastReadAt?_written (s : State) {changed : ConversationId} {member : UserId} (date : Int)
    (active : s.activeIn changed member = true) :
    (s.withParticipant changed member fun row => { row with lastReadAt := some date }).lastReadAt?
        conversationId userId =
      if changed = conversationId ∧ member = userId then some date
      else s.lastReadAt? conversationId userId := by
  rw [lastReadAt?_withParticipant]
  split
  · rename_i same
    obtain ⟨rfl, rfl⟩ := same
    obtain ⟨row, present⟩ := Option.isSome_iff_exists.mp (Option.isSome_of_any active)
    rw [present]
    rfl
  · rfl

theorem State.participant?_createMessage (s : State) (senderId : UserId) (dto : SendMessageDto)
    (inviteData : Option InviteData)
    (free : s.messages.byClientId? dto.conversationId dto.clientId = none) :
    (s.createMessage senderId dto inviteData free).participant? conversationId userId =
      s.participant? conversationId userId := by
  have rows : (s.createMessage senderId dto inviteData free).conversations =
      s.conversations.modify dto.conversationId fun conversation =>
        { conversation with lastMessageAt := some s.now } := rfl
  rw [participant?, participant?, rows, Table.find?_modify]
  by_cases here : conversationId = dto.conversationId
  · rw [if_pos here]
    cases s.conversations.find? conversationId <;> rfl
  · rw [if_neg here]

/-- **A message that is accepted sets the date of its sender to the time of the call**, and no send
changes another. -/
theorem lastReadAt?_send (s : State) (senderId : UserId) (dto : SendMessageDto) :
    ((send senderId dto).exec s).2.lastReadAt? conversationId userId =
        (if s.accepts senderId dto = true ∧ dto.conversationId = conversationId ∧ senderId = userId then
          some (s.now : Int)
        else s.lastReadAt? conversationId userId) ∧
      ((send senderId dto).exec s).2.now = s.now := by
  obtain ⟨accepted, rate, same⟩ | ⟨refused, -, still, -⟩ := send_checks s senderId dto
  · have passed := accepted
    rw [accepts] at passed
    simp only [Bool.and_eq_true, Option.isNone_iff_eq_none] at passed
    -- counting the message changes neither who is a participant nor the messages
    have active : (s.withRateMsg senderId rate).activeIn dto.conversationId senderId = true := passed.1.1.1
    have free : (s.withRateMsg senderId rate).messages.byClientId? dto.conversationId dto.clientId = none :=
      passed.2
    obtain ⟨result, t, ran, -, still⟩ :=
      sendNew_exec (s.withRateMsg senderId rate) senderId dto active free
    rw [same, ran]
    refine ⟨?_, still.now⟩
    have created : ((s.withRateMsg senderId rate).createMessage senderId dto dto.inviteData free).activeIn
        dto.conversationId senderId = true := by
      rw [activeIn, participant?_createMessage]
      exact active
    rw [lastReadAt?_congr still.conversations, lastReadAt?_written _ _ created]
    simp only [accepted, true_and]
    rw [lastReadAt?, participant?_createMessage]
    rfl
  · refine ⟨?_, still.now⟩
    rw [lastReadAt?_congr still.conversations, if_neg]
    rintro ⟨accepted, -⟩
    rw [refused] at accepted
    cases accepted

/-- **A participant who marks the conversation as read has the date set**, to the time of the call when
none is named. -/
theorem lastReadAt?_markRead (s : State) (reader : UserId) (dto : MarkReadDto) :
    ((markRead reader dto).exec s).2.lastReadAt? conversationId userId =
        (if s.activeIn conversationId userId = true ∧ dto.conversationId = conversationId ∧ reader = userId then
          some (dto.lastReadAt.getD s.now)
        else s.lastReadAt? conversationId userId) ∧
      ((markRead reader dto).exec s).2.now = s.now := by
  rw [markRead_run]
  by_cases active : s.activeIn dto.conversationId reader = true
  · rw [if_pos active]
    refine ⟨?_, rfl⟩
    rw [lastReadAt?_written s _ active]
    refine if_congr ⟨?_, And.right⟩ rfl rfl
    rintro ⟨rfl, rfl⟩
    exact ⟨active, rfl, rfl⟩
  · rw [if_neg active]
    refine ⟨(if_neg ?_).symm, rfl⟩
    rintro ⟨admitted, rfl, rfl⟩
    exact active admitted

/-- Leaving keeps the date, and takes no time. -/
theorem lastReadAt?_leaveConversation (s : State) (leaver : UserId) (left' : ConversationId) :
    ((leaveConversation leaver left').exec s).2.lastReadAt? conversationId userId =
        s.lastReadAt? conversationId userId ∧
      ((leaveConversation leaver left').exec s).2.now = s.now := by
  let kept (t : State) : Prop :=
    t.lastReadAt? conversationId userId = s.lastReadAt? conversationId userId ∧ t.now = s.now
  have before : kept s := ⟨rfl, rfl⟩
  refine (leaveConversation_uses leaver left').run_keeps answer (fun request t asked held => ?_) before
  refine ⟨Eq.trans ?_ held.1, Eq.trans ?_ held.2⟩
  · cases asked with
    | leave leftAt =>
      simp only [answer]
      split
      · rfl
      · rw [lastReadAt?_withParticipant]
        split
        · rfl
        · rfl
    | _ => rfl
  · cases asked with
    | leave leftAt =>
      simp only [answer]
      split <;> rfl
    | _ => rfl

end Stores

/-! ## The date after a step -/

/-- What a call does to the date of a participant, when the call names `named` for them: it writes the date
that is named, or its own time, or nothing. -/
structure Writes (conversationId : ConversationId) (userId : UserId) (named : Option Int) (s t : State) :
    Prop where
  date : named.isSome ∧ t.lastReadAt? conversationId userId = named ∨
    named = none ∧ (t.lastReadAt? conversationId userId = s.lastReadAt? conversationId userId ∨
      t.lastReadAt? conversationId userId = some (s.now : Int))
  clock : s.now ≤ t.now

/-- A call that leaves the date alone names nothing. -/
theorem Writes.of_unchanged {s t : State}
    (same : t.lastReadAt? conversationId userId = s.lastReadAt? conversationId userId) (clock : s.now ≤ t.now) :
    Writes conversationId userId none s t :=
  ⟨.inr ⟨rfl, .inl same⟩, clock⟩

theorem Writes.refl (s : State) : Writes conversationId userId none s s := .of_unchanged rfl (Nat.le_refl _)

theorem writes_send (s : State) (senderId : UserId) (dto : SendMessageDto) :
    Writes conversationId userId none s ((send senderId dto).exec s).2 := by
  have written : ((send senderId dto).exec s).2.lastReadAt? conversationId userId = _ ∧ _ :=
    lastReadAt?_send s senderId dto
  refine ⟨.inr ⟨rfl, ?_⟩, written.2.ge⟩
  rw [written.1]
  split
  · exact .inr rfl
  · exact .inl rfl

theorem writes_markRead (s : State) (reader : UserId) (dto : MarkReadDto) :
    Writes conversationId userId
      (if (dto.conversationId = conversationId ∧ reader = userId) ∧ s.activeIn conversationId userId = true then
        dto.lastReadAt
      else none) s ((markRead reader dto).exec s).2 := by
  have written : ((markRead reader dto).exec s).2.lastReadAt? conversationId userId = _ ∧ _ :=
    lastReadAt?_markRead s reader dto
  refine ⟨?_, written.2.ge⟩
  by_cases theirs : (dto.conversationId = conversationId ∧ reader = userId) ∧
      s.activeIn conversationId userId = true
  · rw [if_pos theirs, written.1, if_pos ⟨theirs.2, theirs.1⟩]
    cases named : dto.lastReadAt with
    | none => exact .inr ⟨rfl, .inr rfl⟩
    | some date => exact .inl ⟨rfl, rfl⟩
  · rw [if_neg theirs, written.1, if_neg fun both => theirs ⟨both.2, both.1⟩]
    exact .inr ⟨rfl, .inl rfl⟩

/-- **What a step does to the date of a participant.** -/
theorem Gateway.writes_step (zod : Zod) (g : Gateway) (input : GatewayInput) :
    Writes conversationId userId (g.namedDate? zod conversationId userId input) g.store
      (g.step zod input).store := by
  -- a message of a socket that is not connected does nothing, and the others are left to their handlers
  have unknown : ∀ {α : Type} (client : SocketId) (handler : UserId → Gateway.Handled α)
      (named : Option Int), (g.sockets.find? client = none → named = none) →
      (∀ socket, g.sockets.find? client = some socket →
        Writes conversationId userId named g.store (handler socket.userId).after.store) →
      Writes conversationId userId named g.store (g.fromSocket client handler).2.store := by
    intro α client handler named nobody handled
    rw [fromSocket]
    split
    · rename_i absent
      rw [nobody absent]
      exact .refl g.store
    · rename_i socket connected
      exact handled socket connected
  cases input with
  | connect | disconnect => exact .refl g.store
  | conversationJoin client raw =>
    refine unknown client _ _ (fun _ => rfl) fun socket connected => ?_
    rw [handleJoin_store]
    exact .refl g.store
  | conversationLeave client raw =>
    refine unknown client _ _ (fun _ => rfl) fun socket connected => ?_
    rw [handleLeave_store]
    exact .refl g.store
  | messageTyping client raw =>
    refine unknown client _ _ (fun _ => rfl) fun socket connected => ?_
    rw [handleTyping_store]
    exact .refl g.store
  | messageSend client raw =>
    refine unknown client _ _ (fun _ => rfl) fun socket connected => ?_
    rw [served_store]
    cases read : wsSendMessage zod raw with
    | error code =>
      rw [handleSend, read]
      exact .refl g.store
    | ok dto =>
      rw [handleSend_store g.store read]
      exact writes_send g.store socket.userId dto
  | messageRead client raw =>
    refine unknown client _ _ (fun absent => ?_) fun socket connected => ?_
    · rw [namedDate?, absent]
      rfl
    · rw [handleRead_store, namedDate?, connected]
      cases read : wsMessageReadSchema zod (some raw) with
      | none => exact .refl g.store
      | some payload =>
        dsimp only [Option.bind_eq_bind, Option.bind_some]
        by_cases late : maxDate < payload.readAt
        · rw [if_pos late, if_neg fun all => Nat.not_le.mpr late all.1]
          exact .refl g.store
        · rw [if_neg late]
          simp only [Nat.not_lt.mp late, true_and]
          exact writes_markRead g.store socket.userId ⟨payload.conversationId, some payload.readAt⟩
  | restLeaveConversation leaver left' =>
    have kept : ((leaveConversation leaver left').exec g.store).2.lastReadAt? conversationId userId = _ ∧ _ :=
      lastReadAt?_leaveConversation g.store leaver left'
    exact .of_unchanged kept.1 kept.2.ge
  | restSend senderId sentTo body =>
    change Writes _ _ none g.store (g.served (restSend zod senderId sentTo body)).after.store
    rw [served_store]
    cases read : parseSendMessage zod (injected body "conversationId" sentTo) with
    | error refusal =>
      rw [restSend, read]
      exact .refl g.store
    | ok dto =>
      rw [restSend_store g.store read]
      exact writes_send g.store senderId dto
  | restMarkRead reader readOf body =>
    change Writes _ _ _ g.store (g.served (restMarkRead zod reader readOf body)).after.store
    rw [served_store, namedDate?]
    cases read : markReadSchema zod (some (injected body "conversationId" readOf)) with
    | none =>
      rw [restMarkRead, read]
      exact .refl g.store
    | some dto =>
      rw [restMarkRead_store g.store read]
      exact writes_markRead g.store reader dto
  | elapse milliseconds => exact .of_unchanged rfl (Nat.le_add_right _ _)

/-! ## Runs -/

/-- **Of a participant who has not read ahead, a step moves the date forward exactly when it names none
out of time.** -/
theorem Gateway.readForward_iff (byNow : g.store.ReadByNow conversationId userId) (input : GatewayInput) :
    g.ReadForward zod conversationId userId input ↔ g.NamedInTime zod conversationId userId input := by
  have written : Writes conversationId userId _ g.store _ := g.writes_step zod input
  obtain ⟨date, -⟩ := written
  constructor
  · rintro ⟨forward, past⟩ named names
    obtain ⟨-, written⟩ | ⟨nothing, -⟩ := date
    · rw [names] at written
      refine ⟨fun before stored => ?_, past named written⟩
      obtain ⟨after, there, le⟩ := forward before stored
      rw [written] at there
      cases there
      exact le
    · rw [names] at nothing
      cases nothing
  · intro inTime
    obtain ⟨names, written⟩ | ⟨-, same | stamped⟩ := date
    · obtain ⟨named, names⟩ := Option.isSome_iff_exists.mp names
      obtain ⟨late, early⟩ := inTime named names
      rw [names] at written
      refine ⟨fun before stored => ⟨named, written, late before stored⟩, fun after there => ?_⟩
      rw [written] at there
      cases there
      exact early
    · refine ⟨fun before stored => ⟨before, same.trans stored, Int.le_refl _⟩, fun after there => ?_⟩
      exact byNow after (same.symm.trans there)
    · refine ⟨fun before stored => ⟨g.store.now, stamped, byNow before stored⟩, fun after there => ?_⟩
      rw [stamped] at there
      cases there
      exact Int.le_refl _

/-- A step that does not write a date ahead of its time leaves none ahead. -/
theorem Gateway.ReadForward.byNow {input : GatewayInput}
    (forward : g.ReadForward zod conversationId userId input) :
    (g.step zod input).store.ReadByNow conversationId userId := by
  intro after there
  have written : Writes conversationId userId _ g.store _ := g.writes_step zod input
  exact Int.le_trans (forward.2 after there) (Int.ofNat_le.mpr written.clock)

/-- **The date of a participant never goes back, and never lies ahead of the call that set it, exactly
when each date that a call names for them is not before the one that is there and not after the
call.** -/
theorem read_forward_iff (byNow : g.store.ReadByNow conversationId userId) (inputs : List GatewayInput) :
    EachStep (Gateway.step zod) (Gateway.ReadForward zod conversationId userId) g inputs ↔
      EachStep (Gateway.step zod) (Gateway.NamedInTime zod conversationId userId) g inputs := by
  let byThen (g : Gateway) : Prop := g.store.ReadByNow conversationId userId
  have initially : byThen g := byNow
  constructor
  · exact eachStep_of_keeps (fun g input _ forward => forward.byNow)
      (fun g input byNow forward => (Gateway.readForward_iff byNow input).mp forward) initially
  · refine eachStep_of_keeps (fun g input byNow inTime => ?_)
      (fun g input byNow inTime => (Gateway.readForward_iff byNow input).mpr inTime) initially
    exact ((Gateway.readForward_iff byNow input).mpr inTime).byNow

/-! ## A member of the group of three -/

/-- The message for reading the group, up to a date. -/
def readUpTo (date : Nat) : Json := .object [("conversationId", smallUuid), ("readAt", .number date)]

/-- Nobody has read anything yet. -/
theorem smallGateway_readByNow : smallGateway.store.ReadByNow smallGroupId 1 := by
  intro date there
  have unread : smallGateway.store.lastReadAt? smallGroupId 1 = none := by decide +kernel
  rw [unread] at there
  cases there

/-- Rider 1 reads, writes a message and reads again, each time up to a moment that has come. -/
theorem read_forward_small :
    EachStep (Gateway.step smallZod) (Gateway.ReadForward smallZod smallGroupId 1) smallGateway
        [.connect 10 1, .elapse 10, .messageRead 10 (readUpTo 8), .messageSend 10 smallText, .elapse 5,
          .messageRead 10 (readUpTo 12)] ↔
      EachStep (Gateway.step smallZod) (Gateway.NamedInTime smallZod smallGroupId 1) smallGateway
        [.connect 10 1, .elapse 10, .messageRead 10 (readUpTo 8), .messageSend 10 smallText, .elapse 5,
          .messageRead 10 (readUpTo 12)] :=
  read_forward_iff smallGateway_readByNow _

/-- Rider 1 reads up to a moment that has not come; and the call for an earlier moment, from another
device of theirs, comes late and is written over the later one. -/
theorem read_backward :
    ¬ EachStep (Gateway.step smallZod) (Gateway.ReadForward smallZod smallGroupId 1) smallGateway
        [.connect 10 1, .messageRead 10 (readUpTo 8)] ∧
      ¬ EachStep (Gateway.step smallZod) (Gateway.ReadForward smallZod smallGroupId 1) smallGateway
        [.connect 10 1, .elapse 10, .messageRead 10 (readUpTo 8),
          .restMarkRead 1 smallGroupId (.object [("lastReadAt", .number 5)])] := by
  constructor
  · rintro ⟨-, ⟨-, past⟩, -⟩
    have ahead := past 8 (by decide +kernel)
    revert ahead
    decide +kernel
  · rintro ⟨-, -, -, ⟨forward, -⟩, -⟩
    obtain ⟨after, there, le⟩ := forward 8 (by decide +kernel)
    have written : (follow (Gateway.step smallZod) smallGateway
        [.connect 10 1, .elapse 10, .messageRead 10 (readUpTo 8),
          .restMarkRead 1 smallGroupId (.object [("lastReadAt", .number 5)])]).store.lastReadAt?
            smallGroupId 1 = some 5 := by
      decide +kernel
    have five : after = 5 := Option.some.inj (there.symm.trans written)
    omega

end Motogram.Messaging
