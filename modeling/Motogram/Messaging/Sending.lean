import Motogram.Messaging.Conversations

/-!
# What a send hands out

`send` asks whether the sender is an active participant, counts the message, asks for a block between
the two of a direct conversation, and looks its `clientId` up. A message that passes all of this is
created, and handed out once: with its sender, its conversation, and the active participants but the
sender as recipients (`send_accepted`). Every other send hands nothing out (`send_refused`).

No call of `send` changes who is an active participant (`activeIn_exec`).
-/

set_option autoImplicit false

namespace Motogram.Messaging

open Foundation Program Table State Option

variable {s : State} {conversationId : ConversationId} {userId senderId : UserId}
  {dto : SendMessageDto}

/-! ## Who is an active participant -/

def State.activeIn (s : State) (conversationId : ConversationId) (userId : UserId) : Bool :=
  (s.participant? conversationId userId).any fun row => row.leftAt.isNone

theorem State.activeIn_eq_true : s.activeIn conversationId userId = true ↔
    ∃ conversation, s.conversations.find? conversationId = some conversation ∧
      conversation.hasActive userId = true := by
  rw [activeIn, participant?]
  cases s.conversations.find? conversationId with
  | none => simp
  | some conversation => simp [Conversation.hasActive]

theorem Conversation.mem_activeParticipants {conversation : Conversation} :
    userId ∈ conversation.activeParticipants ↔ conversation.hasActive userId = true := by
  rw [Conversation.activeParticipants, Conversation.hasActive, List.mem_map, any_eq_true]
  constructor
  · rintro ⟨⟨member, row⟩, selected, rfl⟩
    obtain ⟨found, active⟩ := mem_select.mp selected
    exact ⟨row, found, active⟩
  · rintro ⟨row, found, active⟩
    exact ⟨(userId, row), mem_select.mpr ⟨found, active⟩, rfl⟩

/-- A change to a participant row that leaves `leftAt` keeps who is active. -/
theorem State.activeIn_withParticipant (s : State) (conversationId : ConversationId) (userId : UserId)
    {change : ConversationParticipant → ConversationParticipant}
    (keeps : ∀ row, (change row).leftAt = row.leftAt) (other : ConversationId) (member : UserId) :
    (s.withParticipant conversationId userId change).activeIn other member = s.activeIn other member := by
  have rows : (s.withParticipant conversationId userId change).conversations =
      s.conversations.modify conversationId fun conversation =>
        { conversation with participants := conversation.participants.modify userId change } := rfl
  rw [activeIn, activeIn, participant?, participant?, rows, find?_modify]
  by_cases here : other = conversationId
  · subst here
    rw [if_pos rfl]
    cases s.conversations.find? other with
    | none => rfl
    | some conversation =>
      rw [map_some, bind_some, bind_some, find?_modify]
      by_cases same : member = userId
      · rw [if_pos same]
        cases conversation.participants.find? member with
        | none => rfl
        | some row => exact congrArg isNone (keeps row)
      · rw [if_neg same]
  · rw [if_neg here]

theorem State.activeIn_withParticipant_of_ne (s : State)
    (change : ConversationParticipant → ConversationParticipant) {other : ConversationId} {member : UserId}
    (apart : ¬ (other = conversationId ∧ member = userId)) :
    (s.withParticipant conversationId userId change).activeIn other member = s.activeIn other member := by
  have rows : (s.withParticipant conversationId userId change).conversations =
      s.conversations.modify conversationId fun conversation =>
        { conversation with participants := conversation.participants.modify userId change } := rfl
  rw [activeIn, activeIn, participant?, participant?, rows, find?_modify]
  by_cases here : other = conversationId
  · rw [if_pos here]
    have different : member ≠ userId := fun same => apart ⟨here, same⟩
    cases s.conversations.find? other with
    | none => rfl
    | some conversation =>
      rw [map_some, bind_some, bind_some, find?_modify_of_ne _ different]
  · rw [if_neg here]

theorem State.activeIn_left (s : State) (conversationId : ConversationId) (userId : UserId) (leftAt : Time) :
    (s.withParticipant conversationId userId fun row => { row with leftAt := some leftAt }).activeIn
      conversationId userId = false := by
  have rows : (s.withParticipant conversationId userId fun row =>
        { row with leftAt := some leftAt }).conversations =
      s.conversations.modify conversationId fun conversation =>
        { conversation with participants := conversation.participants.modify userId fun row =>
          { row with leftAt := some leftAt } } := rfl
  rw [activeIn, participant?, rows, find?_modify_self]
  cases s.conversations.find? conversationId with
  | none => rfl
  | some conversation =>
    rw [map_some, bind_some, find?_modify_self]
    cases conversation.participants.find? userId <;> rfl

/-- A call that changes nobody's `leftAt`. -/
def KeepsActive : MessagingCall → Prop
  | .conversationParticipantUpdateLeftAt _ _ _ | .conversationCreateDirect _ _ => False
  | _ => True

theorem activeIn_answer {request : MessagingCall} (keeps : KeepsActive request)
    (conversationId : ConversationId) (userId : UserId) :
    (answer request s).2.activeIn conversationId userId = s.activeIn conversationId userId := by
  cases request with
  | conversationParticipantUpdateLastReadAt other reader lastReadAt =>
    simp only [answer]
    split
    · rfl
    · refine s.activeIn_withParticipant other reader ?_ conversationId userId
      exact fun row => rfl
  | createMessageTransaction sender dto inviteData =>
    simp only [answer]
    split
    · rfl
    · split
      · rename_i free
        have rows : (s.createMessage sender dto inviteData free).conversations =
            s.conversations.modify dto.conversationId fun conversation =>
              { conversation with lastMessageAt := some s.now } := rfl
        rw [activeIn, activeIn, participant?, participant?, rows, find?_modify]
        by_cases here : conversationId = dto.conversationId
        · rw [if_pos here]
          cases s.conversations.find? conversationId <;> rfl
        · rw [if_neg here]
      · rfl
  | messageReactionDelete | messageUpdateDeleted =>
    simp only [answer]
    split <;> rfl
  | messageReactionUpsert =>
    simp only [answer]
    split
    · rfl
    · split <;> rfl
  | conversationParticipantUpdateLeftAt | conversationCreateDirect => cases keeps
  | _ => rfl

/-- **A program of such calls keeps who is active.** -/
theorem activeIn_exec {Value : Type} {flow : Flow Value} (uses : flow.Uses KeepsActive)
    (s : State) (conversationId : ConversationId) (userId : UserId) :
    (flow.exec s).2.activeIn conversationId userId = s.activeIn conversationId userId := by
  let kept (t : State) : Prop := t.activeIn conversationId userId = s.activeIn conversationId userId
  have before : kept s := rfl
  exact uses.run_keeps answer (fun request t keeps (held : kept t) => (activeIn_answer keeps _ _).trans held) before

/-! ## The calls of a send -/

/-- The calls of `send`: the message it creates is its own, and the row it marks as read is the sender's. -/
def SendRequest (senderId : UserId) (dto : SendMessageDto) : MessagingCall → Prop
  | .createMessageTransaction sender dto' inviteData =>
    sender = senderId ∧ dto' = dto ∧ inviteData = dto.inviteData
  | .conversationParticipantUpdateLastReadAt conversationId userId _ =>
    conversationId = dto.conversationId ∧ userId = senderId
  | .conversationCreateDirect _ _ | .conversationParticipantUpdateLeftAt _ _ _ => False
  | .messageUpdateDeleted _ | .messageReactionDelete _ _ _ | .messageReactionUpsert _ _ _ => False
  | .elapse _ => False
  | _ => True

theorem assertParticipant_uses {permitted : MessagingCall → Prop}
    (lookup : permitted (.conversationParticipantFindUnique conversationId userId)) :
    (assertParticipant conversationId userId).Uses permitted := by
  refine Uses.send lookup fun participant => ?_
  cases participant with
  | none => trivial
  | some row => exact uses_throwIf _ _

theorem onMessagePersisted_requests (message : MessageDto) (recipientIds : List UserId) :
    (onMessagePersisted message recipientIds).Uses (SendRequest senderId dto) := by
  refine Uses.send trivial fun _ => ?_
  split
  · trivial
  · refine Uses.bind ?_ fun _ => Uses.send trivial fun _ => trivial
    rw [filterPushRecipients]
    split
    · trivial
    · exact Uses.send trivial fun _ => Uses.send trivial fun _ => trivial

theorem send_requests (senderId : UserId) (dto : SendMessageDto) :
    (send senderId dto).Uses (SendRequest senderId dto) := by
  refine (assertParticipant_uses trivial).bind fun _ => ?_
  have counts : (enforceRate senderId).Uses (SendRequest senderId dto) := by
    refine Uses.send trivial fun cur => ?_
    split
    · exact Uses.send trivial fun _ => trivial
    · trivial
  refine counts.bind fun rateOk => (uses_throwIf _ _).bind fun _ => ?_
  refine Uses.send trivial fun found => ?_
  refine Uses.bind ?_ fun _ => Uses.send trivial fun existing => ?_
  · cases found.bind fun conversation => conversation.directPartner senderId with
    | none => trivial
    | some partner => exact Uses.send trivial fun _ => uses_throwIf _ _
  · cases existing with
    | some message => exact Uses.send trivial fun _ => trivial
    | none =>
      refine Uses.send ⟨rfl, rfl, rfl⟩ fun reply => ?_
      cases reply with
      | error error => trivial
      | ok created =>
        refine Uses.send trivial fun participantIds =>
          Uses.send ⟨rfl, rfl⟩ fun read => ?_
        cases read with
        | error error => trivial
        | ok _ => exact (onMessagePersisted_requests _ _).bind fun _ => trivial

theorem send_uses (senderId : UserId) (dto : SendMessageDto) : (send senderId dto).Uses KeepsActive := by
  refine (send_requests senderId dto).mono fun request asked => ?_
  cases request with
  | conversationCreateDirect | conversationParticipantUpdateLeftAt => exact asked
  | _ => trivial

theorem markRead_uses (userId : UserId) (dto : MarkReadDto) : (markRead userId dto).Uses KeepsActive := by
  refine (assertParticipant_uses trivial).bind fun _ => Uses.bind ?_ fun lastReadAt => ?_
  · rw [MarkReadDto.readAt]
    split
    · trivial
    · exact Uses.send trivial fun _ => trivial
  · refine Uses.send trivial fun updated => ?_
    cases updated <;> trivial

/-! ## The calls of a leave -/

/-- The calls of `leaveConversation`. -/
inductive LeaveRequest (userId : UserId) (conversationId : ConversationId) : MessagingCall → Prop where
  | assert : LeaveRequest userId conversationId
      (.conversationParticipantFindUnique conversationId userId)
  | find : LeaveRequest userId conversationId (.conversationFindFirstType conversationId)
  | count : LeaveRequest userId conversationId (.conversationParticipantCountActive conversationId)
  | now : LeaveRequest userId conversationId .dateNow
  | leave (leftAt : Time) : LeaveRequest userId conversationId
      (.conversationParticipantUpdateLeftAt conversationId userId leftAt)

theorem leaveConversation_uses (userId : UserId) (conversationId : ConversationId) :
    (leaveConversation userId conversationId).Uses (LeaveRequest userId conversationId) := by
  refine (assertParticipant_uses .assert).bind fun _ => Uses.send .find fun found => ?_
  cases found with
  | none => trivial
  | some type =>
    refine (uses_throwIf _ _).bind fun _ => Uses.send .count fun active => ?_
    refine (uses_throwIf _ _).bind fun _ => Uses.send .now fun leftAt => ?_
    refine Uses.send (.leave leftAt) fun updated => ?_
    cases updated <;> trivial

theorem LeaveRequest.emissions {request : MessagingCall} (asked : LeaveRequest userId conversationId request)
    (s : State) : (answer request s).2.emissions = s.emissions := by
  cases asked with
  | leave leftAt =>
    simp only [answer]
    split <;> rfl
  | _ => rfl

theorem LeaveRequest.activeIn {request : MessagingCall} (asked : LeaveRequest userId conversationId request)
    (s : State) {other : ConversationId} {member : UserId}
    (apart : ¬ (other = conversationId ∧ member = userId)) :
    (answer request s).2.activeIn other member = s.activeIn other member := by
  cases asked with
  | leave leftAt =>
    simp only [answer]
    split
    · rfl
    · exact s.activeIn_withParticipant_of_ne _ apart
  | _ => rfl

/-! ## The checks of a send -/

def State.partnerOf (s : State) (conversationId : ConversationId) (userId : UserId) : Option UserId :=
  (s.conversations.find? conversationId).bind fun conversation => conversation.directPartner userId

/-- A block stands between the two users. -/
def State.blocked (s : State) (userId otherId : UserId) : Bool :=
  s.blocks.any fun block => decide (block = (userId, otherId)) || decide (block = (otherId, userId))

/-- The checks of `send` let the message pass, and its `clientId` is not there yet. -/
def State.accepts (s : State) (senderId : UserId) (dto : SendMessageDto) : Bool :=
  s.activeIn dto.conversationId senderId &&
    decide ((bumped s.now (s.rateMsg senderId)).value ≤ msgRateLimit) &&
    !((s.partnerOf dto.conversationId senderId).any fun partner => s.blocked senderId partner) &&
    (s.messages.byClientId? dto.conversationId dto.clientId).isNone

theorem assertParticipant_exec (s : State) (conversationId : ConversationId) (userId : UserId) :
    (assertParticipant conversationId userId).exec s =
      (if s.activeIn conversationId userId then .ok () else .error notParticipant, s) := by
  have asked : (answer (.conversationParticipantFindUnique conversationId userId) s) =
      (s.participant? conversationId userId, s) := rfl
  refine (run_call_of_answer answer asked _).trans ?_
  rw [activeIn]
  cases s.participant? conversationId userId with
  | none => rfl
  | some row =>
    refine (run_throwIf answer _ _ s).trans ?_
    cases left : row.leftAt with
    | none | some => simp [left]

/-- A participant who reads a conversation has its date set, to the time of the call when none is given. -/
theorem markRead_run (s : State) (userId : UserId) (dto : MarkReadDto) :
    (markRead userId dto).exec s =
      if s.activeIn dto.conversationId userId then
        (.ok (), s.withParticipant dto.conversationId userId fun row =>
          { row with lastReadAt := some (dto.lastReadAt.getD s.now) })
      else (.error notParticipant, s) := by
  have asserted := assertParticipant_exec s dto.conversationId userId
  have dated : dto.readAt.exec s = (.ok (dto.lastReadAt.getD s.now), s) := by
    rw [MarkReadDto.readAt]
    cases dto.lastReadAt <;> rfl
  cases active : s.activeIn dto.conversationId userId with
  | false =>
    rw [active] at asserted
    rw [markRead, Flow.exec, run_bind_of_error _ asserted]
    rfl
  | true =>
    rw [active] at asserted
    obtain ⟨row, present⟩ := isSome_iff_exists.mp (isSome_of_any active)
    have updated : answer (.conversationParticipantUpdateLastReadAt dto.conversationId userId
        (dto.lastReadAt.getD s.now)) s = (.ok (), s.withParticipant dto.conversationId userId fun row =>
          { row with lastReadAt := some (dto.lastReadAt.getD s.now) }) := by
      simp only [answer, present]
    rw [markRead, Flow.exec, run_bind_of_ok _ asserted, run_bind_of_ok _ dated]
    exact run_call_of_answer answer updated _

theorem markRead_exec (s : State) (userId : UserId) (dto : MarkReadDto) :
    ((markRead userId dto).exec s).1 =
      if s.activeIn dto.conversationId userId then .ok () else .error notParticipant := by
  rw [markRead_run]
  split <;> rfl

theorem markRead_emissions (s : State) (userId : UserId) (dto : MarkReadDto) :
    ((markRead userId dto).exec s).2.emissions = s.emissions := by
  rw [markRead_run]
  split <;> rfl

theorem enforceRate_exec (s : State) (userId : UserId) :
    ∃ rate, (enforceRate userId).exec s =
      (.ok (decide ((bumped s.now (s.rateMsg userId)).value ≤ msgRateLimit)), s.withRateMsg userId rate) := by
  have asked : answer (.incrRateMsg userId) s = ((bumped s.now (s.rateMsg userId)).value,
    s.withRateMsg userId (some (bumped s.now (s.rateMsg userId)))) := rfl
  by_cases first : (bumped s.now (s.rateMsg userId)).value = 1
  · -- the first message of a window sets the time to live
    let counted := s.withRateMsg userId (some (bumped s.now (s.rateMsg userId)))
    let expiring := (answer (.expireRateMsg userId msgRateWindowSecs) counted).2
    refine ⟨expiring.rateMsg userId, (run_call_of_answer answer asked _).trans ?_⟩
    change run answer (if _ then _ else _) _ = _
    rw [if_pos first]
    refine Prod.ext rfl ?_
    change expiring = _
    simp only [expiring, counted, answer, withRateMsg, Function.update_idem, Function.update_self]
  · refine ⟨some (bumped s.now (s.rateMsg userId)), (run_call_of_answer answer asked _).trans ?_⟩
    change run answer (if _ then _ else _) _ = _
    rw [if_neg first]
    rfl

theorem assertNotBlocked_exec (s : State) (senderId : UserId) (partner : Option UserId) :
    (assertNotBlocked senderId partner).exec s =
      (if partner.any fun other => s.blocked senderId other then .error blockedUser else .ok (), s) := by
  cases partner with
  | none => rfl
  | some other =>
    refine (run_throwIf answer _ _ s).trans ?_
    rfl

/-- The ways a send can be refused. -/
inductive Refused (s : State) (senderId : UserId) (conversationId : ConversationId) : ServiceError → Prop where
  | absent (absent : s.activeIn conversationId senderId = false) : Refused s senderId conversationId notParticipant
  | often : Refused s senderId conversationId tooManyMessages
  | blocked (partner : (s.partnerOf conversationId senderId).isSome) :
      Refused s senderId conversationId blockedUser

/-- The later state has the same conversations and messages, and no time has passed. -/
structure State.Still (s t : State) : Prop where
  conversations : t.conversations = s.conversations
  messages : t.messages = s.messages
  now : t.now = s.now
  fresh : t.fresh = s.fresh
  deployment : t.deployment = s.deployment

/-- **A send goes on to create the message, or it hands nothing out.** -/
theorem send_checks (s : State) (senderId : UserId) (dto : SendMessageDto) :
    (s.accepts senderId dto = true ∧ ∃ rate,
      (send senderId dto).exec s = (sendNew senderId dto).exec (s.withRateMsg senderId rate)) ∨
    (s.accepts senderId dto = false ∧ ((send senderId dto).exec s).2.emissions = s.emissions ∧
      s.Still ((send senderId dto).exec s).2 ∧
      ∀ error, ((send senderId dto).exec s).1 = .error error → Refused s senderId dto.conversationId error) := by
  have asserted := assertParticipant_exec s dto.conversationId senderId
  cases active : s.activeIn dto.conversationId senderId with
  | false =>
    refine .inr ⟨by simp [accepts, active], ?_⟩
    rw [active] at asserted
    rw [send, Flow.exec, run_bind_of_error _ asserted]
    refine ⟨rfl, ⟨rfl, rfl, rfl, rfl, rfl⟩, fun error failed => ?_⟩
    cases failed
    exact .absent active
  | true =>
    rw [active] at asserted
    obtain ⟨rate, counted⟩ := enforceRate_exec s senderId
    rw [send, Flow.exec, run_bind_of_ok _ asserted, run_bind_of_ok _ counted]
    by_cases within : (bumped s.now (s.rateMsg senderId)).value ≤ msgRateLimit
    · rw [decide_eq_true within, run_throwIf_bind, if_neg (by decide)]
      -- what the later checks read is what the first one has read
      have partner : (getDirectPartner dto.conversationId senderId).exec (s.withRateMsg senderId rate) =
          (.ok (s.partnerOf dto.conversationId senderId), s.withRateMsg senderId rate) := rfl
      have unblocked := assertNotBlocked_exec (s.withRateMsg senderId rate) senderId
        (s.partnerOf dto.conversationId senderId)
      have same : (s.withRateMsg senderId rate).blocked senderId = s.blocked senderId := rfl
      rw [same] at unblocked
      rw [run_bind_of_ok _ partner]
      cases block : (s.partnerOf dto.conversationId senderId).any fun other => s.blocked senderId other with
      | true =>
        rw [block] at unblocked
        refine .inr ⟨by simp [accepts, block], ?_⟩
        rw [run_bind_of_error _ unblocked]
        refine ⟨rfl, ⟨rfl, rfl, rfl, rfl, rfl⟩, fun error failed => ?_⟩
        cases failed
        exact .blocked (isSome_of_any block)
      | false =>
        rw [block] at unblocked
        rw [run_bind_of_ok _ unblocked]
        have looked : answer (.messageFindUniqueByClientId dto.conversationId dto.clientId)
            (s.withRateMsg senderId rate) =
              ((s.messages.byClientId? dto.conversationId dto.clientId).map
                (s.withRateMsg senderId rate).withItsReactions, s.withRateMsg senderId rate) := rfl
        cases existing : s.messages.byClientId? dto.conversationId dto.clientId with
        | none =>
          rw [existing] at looked
          refine .inl ⟨by simp [accepts, active, within, block, existing], rate, ?_⟩
          exact run_call_of_answer answer looked _
        | some entry =>
          rw [existing] at looked
          refine .inr ⟨by simp [accepts, existing], ?_⟩
          change (run answer (.call _ _) _).2.emissions = _ ∧
            s.Still (run answer (.call _ _) _).2 ∧
            ∀ error, (run answer (.call _ _) _).1 = _ → _
          rw [run_call_of_answer _ looked]
          exact ⟨rfl, ⟨rfl, rfl, rfl, rfl, rfl⟩, fun error failed => nomatch failed⟩
    · refine .inr ⟨by simp [accepts, within], ?_⟩
      rw [decide_eq_false within]
      refine ⟨rfl, ⟨rfl, rfl, rfl, rfl, rfl⟩, fun error failed => ?_⟩
      cases failed
      exact .often

/-! ## What is handed out -/

def State.recipients (s : State) (conversationId : ConversationId) (senderId : UserId) : List UserId :=
  (((s.conversations.find? conversationId).map Conversation.activeParticipants).getD []).filter
    fun userId => userId ≠ senderId

theorem State.mem_recipients : userId ∈ s.recipients conversationId senderId ↔
    s.activeIn conversationId userId = true ∧ userId ≠ senderId := by
  rw [recipients, List.mem_filter, activeIn_eq_true]
  cases s.conversations.find? conversationId with
  | none => simp
  | some conversation => simp [Conversation.mem_activeParticipants]

def State.hears (s : State) (conversationId : ConversationId) (userId : UserId) : Bool :=
  (s.participant? conversationId userId).any fun row =>
    !(row.isMuted || row.mutedUntil.any fun deadline => decide (s.now < deadline))

theorem wantsPush_rows {conversation : Conversation} {userIds : List UserId} (now : Time)
    (among : userId ∈ userIds) :
    wantsPush now ((conversation.participants.select fun userId _ => decide (userId ∈ userIds)).map
        fun entry => (entry.1, entry.2.isMuted, entry.2.mutedUntil)) userId =
      (conversation.participants.find? userId).any fun row =>
        !(row.isMuted || row.mutedUntil.any fun deadline => decide (now < deadline)) := by
  rw [wantsPush, List.find?_map]
  cases found : (conversation.participants.select fun userId _ => decide (userId ∈ userIds)).find?
      ((fun row : UserId × Bool × Option Time => decide (row.1 = userId)) ∘
        fun entry => (entry.1, entry.2.isMuted, entry.2.mutedUntil)) with
  | none =>
    rw [List.find?_eq_none] at found
    have absent : conversation.participants.find? userId = none := by
      cases present : conversation.participants.find? userId with
      | none => rfl
      | some row =>
        exact absurd (decide_eq_true rfl)
          (found (userId, row) (mem_select.mpr ⟨present, decide_eq_true among⟩))
    rw [absent]
    rfl
  | some entry =>
    obtain ⟨other, row⟩ := entry
    have named : ((fun row : UserId × Bool × Option Time => decide (row.1 = userId)) ∘
        fun entry : UserId × ConversationParticipant => (entry.1, entry.2.isMuted, entry.2.mutedUntil))
          (other, row) = true :=
      List.find?_some found
    obtain rfl : other = userId := of_decide_eq_true named
    rw [(mem_select.mp (List.mem_of_find?_eq_some found)).1]
    rfl

theorem filterPushRecipients_exec (s : State) (conversationId : ConversationId) (recipientIds : List UserId) :
    (filterPushRecipients conversationId recipientIds).exec s =
      (.ok (recipientIds.filter (s.hears conversationId)), s) := by
  rw [filterPushRecipients]
  split
  · rename_i nobody
    rw [List.isEmpty_iff.mp nobody]
    rfl
  · refine Prod.ext (congrArg Except.ok ?_) rfl
    refine List.filter_congr fun userId among => ?_
    rw [State.hears, participant?]
    cases stored : s.conversations.find? conversationId with
    | none =>
      change wantsPush _ (Option.getD (Option.map _ (s.conversations.find? conversationId)) []) _ = _
      rw [stored]
      rfl
    | some conversation =>
      change wantsPush _ (Option.getD (Option.map _ (s.conversations.find? conversationId)) []) _ = _
      rw [stored]
      exact wantsPush_rows s.now among

/-- The push that is handed out with a message: to the recipients who have not muted the conversation,
when there are recipients. -/
def State.pushesOf (s : State) (message : MessageDto) (recipientIds : List UserId) : List MessagingEmission :=
  if recipientIds.isEmpty then []
  else [.push (recipientIds.filter (s.hears message.message.conversationId)) message]

theorem State.push_of_mem {message : MessageDto} {recipientIds : List UserId} {emission : MessagingEmission}
    (member : emission ∈ s.pushesOf message recipientIds) : ∃ targets, emission = .push targets message := by
  rw [State.pushesOf] at member
  split at member
  · cases member
  · exact ⟨_, List.mem_singleton.mp member⟩

theorem onMessagePersisted_exec (s : State) (message : MessageDto) (recipientIds : List UserId) :
    ∃ t, (onMessagePersisted message recipientIds).exec s = (.ok (), t) ∧
      t.emissions = s.emissions ++ .received message recipientIds :: s.pushesOf message recipientIds ∧
      s.Still t := by
  by_cases nobody : recipientIds.isEmpty = true
  · refine ⟨s.sent (.received message recipientIds), ?_, ?_, ⟨rfl, rfl, rfl, rfl, rfl⟩⟩
    · simp only [onMessagePersisted, nobody, if_true]
      rfl
    · rw [State.pushesOf, if_pos nobody]
      rfl
  · have filtered := filterPushRecipients_exec (s.sent (.received message recipientIds))
      message.message.conversationId recipientIds
    let targets := recipientIds.filter (s.hears message.message.conversationId)
    refine ⟨(s.sent (.received message recipientIds)).sent (.push targets message), ?_, ?_,
      ⟨rfl, rfl, rfl, rfl, rfl⟩⟩
    · simp only [onMessagePersisted, nobody, if_false, Bool.false_eq_true]
      change run answer (filterPushRecipients _ recipientIds >>= _) (s.sent _) = _
      rw [run_bind_of_ok _ filtered]
      rfl
    · rw [State.pushesOf, if_neg nobody]
      exact List.append_assoc _ _ _

theorem hears_withParticipant (s : State) (conversationId : ConversationId) (senderId : UserId)
    (lastReadAt : Option Int) :
    (s.withParticipant conversationId senderId fun row => { row with lastReadAt := lastReadAt }).hears
      conversationId = s.hears conversationId := by
  funext userId
  rw [State.hears, State.hears, participant?, participant?]
  change Option.any _ (((s.conversations.modify _ _).find? conversationId).bind _) = _
  rw [find?_modify_self]
  cases s.conversations.find? conversationId with
  | none => rfl
  | some conversation =>
    change Option.any _ ((conversation.participants.modify senderId _).find? userId) = _
    by_cases same : userId = senderId
    · subst same
      rw [find?_modify_self]
      change _ = (conversation.participants.find? userId).any _
      cases conversation.participants.find? userId <;> rfl
    · rw [find?_modify_of_ne _ same]
      rfl

theorem hears_createMessage (s : State) (senderId : UserId) (dto : SendMessageDto)
    (free : s.messages.byClientId? dto.conversationId dto.clientId = none) :
    (s.createMessage senderId dto dto.inviteData free).hears dto.conversationId = s.hears dto.conversationId := by
  funext userId
  rw [State.hears, State.hears, participant?, participant?]
  change Option.any _ (((s.conversations.modify _ _).find? dto.conversationId).bind _) = _
  rw [find?_modify_self]
  cases s.conversations.find? dto.conversationId <;> rfl

def State.created (s : State) (senderId : UserId) (dto : SendMessageDto) : MessageDto :=
  ⟨s.deployment.uuid s.fresh, newMessage s.now senderId dto dto.inviteData, []⟩

/-- **A message that is created is handed out once**, to the active participants but the sender. -/
theorem sendNew_exec (s : State) (senderId : UserId) (dto : SendMessageDto)
    (active : s.activeIn dto.conversationId senderId = true)
    (free : s.messages.byClientId? dto.conversationId dto.clientId = none) :
    ∃ result t, (sendNew senderId dto).exec s = (.ok result, t) ∧
      t.emissions = s.emissions ++
        .received (s.created senderId dto) (s.recipients dto.conversationId senderId) ::
          s.pushesOf (s.created senderId dto) (s.recipients dto.conversationId senderId) ∧
      ((s.createMessage senderId dto dto.inviteData free).withParticipant dto.conversationId senderId
        fun row => { row with lastReadAt := some s.now }).Still t := by
  obtain ⟨conversation, stored, member⟩ := activeIn_eq_true.mp active
  let created : MessageDto := s.created senderId dto
  have create : answer (.createMessageTransaction senderId dto dto.inviteData) s =
      (.ok created, s.createMessage senderId dto dto.inviteData free) := by
    simp only [answer, stored, dif_pos free]
    rfl
  let t := s.createMessage senderId dto dto.inviteData free
  -- the conversation is the same but for the time of its last message
  have stored' : t.conversations.find? dto.conversationId =
      some { conversation with lastMessageAt := some s.now } := by
    change (s.conversations.modify _ _).find? _ = _
    rw [find?_modify_self, stored]
    rfl
  have list : (listParticipantIds dto.conversationId).exec t = (.ok conversation.activeParticipants, t) := by
    change (Except.ok (((t.conversations.find? dto.conversationId).map _).getD []), t) = _
    rw [stored']
    rfl
  have recipients : s.recipients dto.conversationId senderId =
      conversation.activeParticipants.filter fun userId => userId ≠ senderId := by
    rw [recipients, stored]
    rfl
  obtain ⟨row, present⟩ := isSome_iff_exists.mp (isSome_of_any member)
  have read : answer (.conversationParticipantUpdateLastReadAt dto.conversationId senderId
      created.message.createdAt) t =
      (.ok (), t.withParticipant dto.conversationId senderId fun row => { row with lastReadAt := some s.now }) := by
    have found : t.participant? dto.conversationId senderId = some row := by
      rw [participant?, stored']
      exact present
    simp only [answer, found]
    rfl
  obtain ⟨after, ran, emitted, still⟩ := onMessagePersisted_exec
    (t.withParticipant dto.conversationId senderId fun row => { row with lastReadAt := some s.now }) created
    (conversation.activeParticipants.filter fun userId => userId ≠ senderId)
  have hears : (t.withParticipant dto.conversationId senderId fun row =>
      { row with lastReadAt := some s.now }).hears dto.conversationId = s.hears dto.conversationId :=
    (hears_withParticipant t _ _ _).trans (hears_createMessage s senderId dto free)
  have pushes : (t.withParticipant dto.conversationId senderId fun row =>
        { row with lastReadAt := some s.now }).pushesOf created
          (conversation.activeParticipants.filter fun userId => userId ≠ senderId) =
      s.pushesOf created (conversation.activeParticipants.filter fun userId => userId ≠ senderId) := by
    change (if _ then _ else [MessagingEmission.push (List.filter (State.hears _ dto.conversationId) _) _]) = _
    rw [hears]
    rfl
  rw [pushes, ← recipients] at emitted
  refine ⟨⟨created, conversation.activeParticipants.filter fun userId => userId ≠ senderId, false⟩,
    after, ?_, emitted, still⟩
  change run answer (.call _ _) s = _
  rw [run_call_of_answer _ create]
  change run answer (listParticipantIds dto.conversationId >>= _) t = _
  rw [run_bind_of_ok _ list]
  change run answer (.call _ _) t = _
  rw [run_call_of_answer _ read]
  change run answer (onMessagePersisted created _ >>= fun _ => pure _) _ = _
  rw [run_bind_of_ok _ ran]
  rfl

/-- A message that passes is handed out. -/
theorem send_accepted (s : State) (senderId : UserId) (dto : SendMessageDto)
    (accepted : s.accepts senderId dto = true) :
    ((send senderId dto).exec s).2.emissions =
      s.emissions ++ .received (s.created senderId dto) (s.recipients dto.conversationId senderId) ::
        s.pushesOf (s.created senderId dto) (s.recipients dto.conversationId senderId) := by
  obtain ⟨-, rate, same⟩ | ⟨refused, -⟩ := send_checks s senderId dto
  · rw [accepts] at accepted
    simp only [Bool.and_eq_true, isNone_iff_eq_none] at accepted
    obtain ⟨result, t, ran, handed, -⟩ :=
      sendNew_exec (s.withRateMsg senderId rate) senderId dto accepted.1.1.1 accepted.2
    rw [same, ran]
    exact handed
  · rw [accepted] at refused
    cases refused

theorem send_refused (s : State) (senderId : UserId) (dto : SendMessageDto)
    (refused : s.accepts senderId dto = false) : ((send senderId dto).exec s).2.emissions = s.emissions := by
  obtain ⟨accepted, -⟩ | ⟨-, same, -, -⟩ := send_checks s senderId dto
  · rw [refused] at accepted
    cases accepted
  · exact same

theorem send_fails {error : ServiceError} (failed : ((send senderId dto).exec s).1 = .error error) :
    Refused s senderId dto.conversationId error := by
  obtain ⟨accepted, rate, same⟩ | ⟨-, -, -, refused⟩ := send_checks s senderId dto
  · rw [accepts] at accepted
    simp only [Bool.and_eq_true, isNone_iff_eq_none] at accepted
    obtain ⟨result, t, ran, -⟩ :=
      sendNew_exec (s.withRateMsg senderId rate) senderId dto accepted.1.1.1 accepted.2
    rw [same, ran] at failed
    cases failed
  · exact refused error failed

end Motogram.Messaging
