import Mathlib.Data.Fintype.Basic
import Motogram.Foundation.Staging
import Motogram.Messaging.Service

/-!
# Sending a message again

`send` looks a message up by conversation and `clientId`, and creates it when there is
none. The lookup does not ask who sent the message, so that a `clientId` that another
member of the conversation has used returns the message of that member. The create comes
in a later call, so that of two overlapping sends of one message the second fails on the
unique index (`resend_fails`).

When every lookup that finds a message finds one of the caller, and every create still
finds the conversation without the `clientId`, each call that passes the checks returns
the message of its caller, which is stored once; and when every call has ended, only then
(`sends_once_iff`).
-/

set_option autoImplicit false

namespace Motogram.Messaging

open Foundation Program Function Table Pool

variable {Index : Type}

/-! ## Calls -/

/-- A call of `send`, or the passage of time. -/
inductive SendCall where
  | send (senderId : UserId) (dto : SendMessageDto)
  | elapse (milliseconds : Nat)

def SendCall.senderId? : SendCall → Option UserId
  | .send senderId _ => some senderId
  | .elapse _ => none

abbrev SendFlow := Flow (Option SendResult)

def sendProgram : SendCall → SendFlow
  | .send senderId dto => do
    let result ← send senderId dto
    pure (some result)
  | .elapse milliseconds => do
    let _ : Unit ← call (.elapse milliseconds)
    pure none

abbrev SendPool (Index : Type) :=
  Pool Index MessagingCall MessagingReply ServiceError (Option SendResult) State

/-- Calls of `send` that share the stores. -/
def sendCalls (calls : Index → SendCall) (s : State) : SendPool Index where
  threads := fun index => sendProgram (calls index)
  store := s

/-- A sender uses a `clientId` for one message only. -/
def OneMessage (calls : Index → SendCall) : Prop :=
  ∀ first second senderId dto dto', calls first = .send senderId dto →
    calls second = .send senderId dto' → dto.clientId = dto'.clientId → dto = dto'

/-- The message a call sends is the message of a row with its sender and `clientId`. -/
def Recorded (calls : Index → SendCall) (s : State) : Prop :=
  ∀ index senderId dto, calls index = .send senderId dto → ∀ id row,
    s.messages.rows.find? id = some row → row.senderId = senderId →
      row.clientId = some dto.clientId →
        row.conversationId = dto.conversationId ∧ row.content = dto.content

/-- The identifiers that are still to be drawn belong to no message. -/
def State.FreshIds (s : State) : Prop :=
  ∀ count, s.fresh ≤ count → s.messages.rows.find? (s.deployment.uuid count) = none

/-! ## What the sends promise -/

/-- The exceptions of the checks. -/
def CheckError (error : ServiceError) : Prop :=
  error = notParticipant ∨ error = tooManyMessages ∨ error = blockedUser

/-- The rows of a sender with a `clientId`. -/
def State.SentAs (s : State) (senderId : UserId) (clientId : ClientId) (id : MessageId) : Prop :=
  ∃ row, s.messages.rows.find? id = some row ∧ row.senderId = senderId ∧
    row.clientId = some clientId

/-- A result is the message of the caller, which is stored once. -/
def Delivered (s : State) (senderId : UserId) (dto : SendMessageDto) (result : SendResult) : Prop :=
  result.message.message.senderId = senderId ∧ result.message.message.content = dto.content ∧
    s.SentAs senderId dto.clientId result.message.id ∧
      ∀ id, s.SentAs senderId dto.clientId id → id = result.message.id

def SendsOnce (calls : Index → SendCall) (pool : SendPool Index) : Prop :=
  ∀ index senderId dto, calls index = .send senderId dto →
    (∀ error, pool.threads index = .fail error → CheckError error) ∧
    (∀ result, pool.threads index = .done result →
      ∃ sent, result = some sent ∧ Delivered pool.store senderId dto sent) ∧
    ∀ first second, pool.store.SentAs senderId dto.clientId first →
      pool.store.SentAs senderId dto.clientId second → first = second

def FindsOwn (calls : Index → SendCall) (pool : SendPool Index) (index : Index) : Prop :=
  match pool.next? index with
  | some (.messageFindUniqueByClientId conversationId clientId) =>
    ∀ found ∈ pool.store.messages.byClientId? conversationId clientId,
      (calls index).senderId? = some found.2.senderId
  | some (.createMessageTransaction _ dto _) =>
    pool.store.messages.byClientId? dto.conversationId dto.clientId = none
  | _ => True

instance (calls : Index → SendCall) (pool : SendPool Index) (index : Index) :
    Decidable (FindsOwn calls pool index) := by
  unfold FindsOwn
  split <;> infer_instance

/-! ## Stages -/

/-- A call that looks no message up by its `clientId`, creates and changes none, and draws no
identifier. -/
def MessagingCall.Quiet : MessagingCall → Prop
  | .messageFindUniqueByClientId _ _ | .createMessageTransaction _ _ _ | .messageUpdateDeleted _ => False
  | .conversationCreateDirect _ _ => False
  | _ => True

/-- The checks of `send` after the first. -/
def laterChecks (senderId : UserId) (dto : SendMessageDto) : Flow Unit := do
  let rateOk ← enforceRate senderId
  throwIf (rateOk = false) tooManyMessages
  let partner ← getDirectPartner dto.conversationId senderId
  assertNotBlocked senderId partner

/-- How far a call has come. The checks and the callbacks are programs of their own. -/
inductive SendStage where
  | assert (senderId : UserId) (dto : SendMessageDto)
  | checking (senderId : UserId) (dto : SendMessageDto) (checks : Flow Unit)
  | duplicate (senderId : UserId) (dto : SendMessageDto) (existing : MessageDto)
  | create (senderId : UserId) (dto : SendMessageDto)
  | list (senderId : UserId) (dto : SendMessageDto) (created : MessageDto)
  | read (senderId : UserId) (dto : SendMessageDto) (created : MessageDto)
      (recipientIds : List UserId)
  | closing (rest : Flow Unit) (result : Option SendResult)
  | finished (outcome : Except ServiceError (Option SendResult))

/-- `send` from the update of `lastReadAt` on. -/
def sendRead (senderId : UserId) (dto : SendMessageDto) (created : MessageDto)
    (recipientIds : List UserId) : Flow SendResult := do
  let read : Except PrismaError Unit ← call (.conversationParticipantUpdateLastReadAt
    dto.conversationId senderId created.message.createdAt)
  rethrow read
  onMessagePersisted created recipientIds
  pure ⟨created, recipientIds, false⟩

/-- What is left of the program of a call. -/
def SendStage.program : SendStage → SendFlow
  | .assert senderId dto => send senderId dto >>= fun result => pure (some result)
  | .checking senderId dto checks =>
    checks >>= fun _ => sendChecked senderId dto >>= fun result => pure (some result)
  | .duplicate senderId dto existing =>
    sendDuplicate senderId dto existing >>= fun result => pure (some result)
  | .create senderId dto => sendNew senderId dto >>= fun result => pure (some result)
  | .list senderId dto created =>
    sendCreated senderId dto created >>= fun result => pure (some result)
  | .read senderId dto created recipientIds =>
    sendRead senderId dto created recipientIds >>= fun result => pure (some result)
  | .closing rest result => rest >>= fun _ => pure result
  | .finished outcome => ofExcept outcome

/-- The sender and the message of a call that has not returned. -/
def SendStage.sends? : SendStage → Option (UserId × SendMessageDto)
  | .assert senderId dto => some (senderId, dto)
  | .checking senderId dto _ => some (senderId, dto)
  | .duplicate senderId dto _ => some (senderId, dto)
  | .create senderId dto => some (senderId, dto)
  | .list senderId dto _ => some (senderId, dto)
  | .read senderId dto _ _ => some (senderId, dto)
  | _ => none

/-- The call is between the check of its participant and the update of that row. -/
def SendStage.Inside : SendStage → Prop
  | .checking _ _ _ | .create _ _ | .list _ _ _ | .read _ _ _ _ => True
  | _ => False

def SendStage.message? : SendStage → Option MessageDto
  | .duplicate _ _ existing => some existing
  | .list _ _ created => some created
  | .read _ _ created _ => some created
  | .closing _ result => result.map SendResult.message
  | .finished (.ok result) => result.map SendResult.message
  | _ => none

/-- One call of a thread: the stage before it and the stage after it, in the store that
answers the call. -/
inductive SendMoves (s : State) : SendStage → MessagingCall → SendStage → Prop where
  | refuse {senderId : UserId} {dto : SendMessageDto} :
      SendMoves s (.assert senderId dto)
        (.conversationParticipantFindUnique dto.conversationId senderId)
        (.finished (.error notParticipant))
  | enter {senderId : UserId} {dto : SendMessageDto}
      (present : (s.participant? dto.conversationId senderId).isSome) :
      SendMoves s (.assert senderId dto)
        (.conversationParticipantFindUnique dto.conversationId senderId)
        (.checking senderId dto (laterChecks senderId dto))
  | check {senderId : UserId} {dto : SendMessageDto} {checks checks' : Flow Unit}
      {request : MessagingCall} (quiet : request.Quiet) (rest : checks'.Uses MessagingCall.Quiet)
      (fails : checks'.FailsWith CheckError) :
      SendMoves s (.checking senderId dto checks) request (.checking senderId dto checks')
  | found {senderId : UserId} {dto : SendMessageDto} {entry : MessageId × Message}
      (found : s.messages.byClientId? dto.conversationId dto.clientId = some entry) :
      SendMoves s (.checking senderId dto (.done ()))
        (.messageFindUniqueByClientId dto.conversationId dto.clientId)
        (.duplicate senderId dto (s.withItsReactions entry))
  | free {senderId : UserId} {dto : SendMessageDto}
      (free : s.messages.byClientId? dto.conversationId dto.clientId = none) :
      SendMoves s (.checking senderId dto (.done ()))
        (.messageFindUniqueByClientId dto.conversationId dto.clientId) (.create senderId dto)
  | duplicate {senderId : UserId} {dto : SendMessageDto} {existing : MessageDto}
      {recipientIds : List UserId} :
      SendMoves s (.duplicate senderId dto existing)
        (.conversationParticipantFindManyActive dto.conversationId)
        (.finished (.ok (some ⟨existing, recipientIds, true⟩)))
  | create {senderId : UserId} {dto : SendMessageDto} {conversation : Conversation}
      (stored : s.conversations.find? dto.conversationId = some conversation)
      (free : s.messages.byClientId? dto.conversationId dto.clientId = none) :
      SendMoves s (.create senderId dto) (.createMessageTransaction senderId dto dto.inviteData)
        (.list senderId dto
          ⟨s.deployment.uuid s.fresh, newMessage s.now senderId dto dto.inviteData, []⟩)
  | taken {senderId : UserId} {dto : SendMessageDto}
      (taken : s.messages.byClientId? dto.conversationId dto.clientId ≠ none) :
      SendMoves s (.create senderId dto) (.createMessageTransaction senderId dto dto.inviteData)
        (.finished (.error (.prisma .uniqueViolation)))
  | list {senderId : UserId} {dto : SendMessageDto} {created : MessageDto}
      {recipientIds : List UserId} :
      SendMoves s (.list senderId dto created)
        (.conversationParticipantFindManyActive dto.conversationId)
        (.read senderId dto created recipientIds)
  | read {senderId : UserId} {dto : SendMessageDto} {created : MessageDto}
      {recipientIds : List UserId} {rest : Flow Unit} (quiet : rest.Uses MessagingCall.Quiet)
      (fails : rest.FailsWith fun _ => False) :
      SendMoves s (.read senderId dto created recipientIds)
        (.conversationParticipantUpdateLastReadAt dto.conversationId senderId
          created.message.createdAt)
        (.closing rest (some ⟨created, recipientIds, false⟩))
  | close {rest rest' : Flow Unit} {result : Option SendResult} {request : MessagingCall}
      (quiet : request.Quiet) (uses : rest'.Uses MessagingCall.Quiet)
      (fails : rest'.FailsWith fun _ => False) :
      SendMoves s (.closing rest result) request (.closing rest' result)

/-- What a stage relies on: its programs are quiet and fail in the permitted ways, and
the participant is there. -/
structure SendStage.Poised (stage : SendStage) (s : State) : Prop where
  checking : ∀ senderId dto checks, stage = .checking senderId dto checks →
    checks.Uses MessagingCall.Quiet ∧ checks.FailsWith CheckError
  closing : ∀ rest result, stage = .closing rest result →
    rest.Uses MessagingCall.Quiet ∧ rest.FailsWith fun _ => False
  present : stage.Inside → ∀ senderId dto, stage.sends? = some (senderId, dto) →
    (s.participant? dto.conversationId senderId).isSome

/-! ## The checks and the callbacks -/

variable (senderId : UserId) (dto : SendMessageDto)

theorem laterChecks_uses : (laterChecks senderId dto).Uses MessagingCall.Quiet := by
  have counts : (enforceRate senderId).Uses MessagingCall.Quiet := by
    refine Uses.send trivial fun cur => ?_
    split
    · exact Uses.send trivial fun _ => trivial
    · trivial
  have partners : (getDirectPartner dto.conversationId senderId).Uses MessagingCall.Quiet :=
    Uses.send trivial fun _ => trivial
  refine counts.bind fun rateOk => (uses_throwIf _ _).bind fun _ => ?_
  refine partners.bind fun partner => ?_
  cases partner with
  | none => trivial
  | some partner => exact Uses.send trivial fun _ => uses_throwIf _ _

theorem laterChecks_failsWith : (laterChecks senderId dto).FailsWith CheckError := by
  have counts : (enforceRate senderId).FailsWith CheckError := by
    refine FailsWith.send fun cur => ?_
    split
    · exact FailsWith.send fun _ => trivial
    · trivial
  have partners : (getDirectPartner dto.conversationId senderId).FailsWith CheckError :=
    FailsWith.send fun _ => trivial
  refine counts.bind fun rateOk => (failsWith_throwIf _ (.inr (.inl rfl))).bind fun _ => ?_
  refine partners.bind fun partner => ?_
  cases partner with
  | none => trivial
  | some partner =>
    exact FailsWith.send fun _ => failsWith_throwIf _ (.inr (.inr rfl))

theorem onMessagePersisted_uses (message : MessageDto) (recipientIds : List UserId) :
    (onMessagePersisted message recipientIds).Uses MessagingCall.Quiet := by
  have filters : (filterPushRecipients message.message.conversationId recipientIds).Uses
      MessagingCall.Quiet := by
    rw [filterPushRecipients]
    split
    · trivial
    · exact Uses.send trivial fun _ => Uses.send trivial fun _ => trivial
  refine Uses.send trivial fun _ => ?_
  split
  · trivial
  · exact filters.bind fun _ => ⟨trivial, fun _ => trivial⟩

theorem onMessagePersisted_failsWith (message : MessageDto) (recipientIds : List UserId) :
    (onMessagePersisted message recipientIds).FailsWith fun _ => False := by
  have filters : (filterPushRecipients message.message.conversationId recipientIds).FailsWith
      fun _ => False := by
    rw [filterPushRecipients]
    split
    · trivial
    · exact FailsWith.send fun _ => FailsWith.send fun _ => trivial
  refine FailsWith.send fun _ => ?_
  split
  · trivial
  · exact filters.bind fun _ => fun _ => trivial

/-- `send` is its first check, the later ones, and the rest. -/
theorem send_eq :
    send senderId dto = (assertParticipant dto.conversationId senderId >>= fun _ =>
      laterChecks senderId dto >>= fun _ => sendChecked senderId dto) := by
  simp only [send, laterChecks, bind_assoc]

/-- **A call makes the moves of its stages.** -/
theorem send_follows (stage : SendStage) (s : State) (poised : stage.Poised s) :
    Follows answer SendStage.program SendMoves stage s := by
  cases stage with
  | assert senderId dto =>
    have shape : (SendStage.assert senderId dto).program =
        (assertParticipant dto.conversationId senderId >>= fun _ =>
          (laterChecks senderId dto >>= fun _ => sendChecked senderId dto) >>= fun result =>
            pure (some result)) := by
      rw [SendStage.program, send_eq, bind_assoc]
    cases found : s.participant? dto.conversationId senderId with
    | none =>
      refine .inr ⟨_, _, .finished (.error notParticipant), shape, .refuse, ?_⟩
      simp only [answer, found]
      rfl
    | some row =>
      by_cases left : row.leftAt.isSome = true
      · refine .inr ⟨_, _, .finished (.error notParticipant), shape, .refuse, ?_⟩
        simp only [answer, found, Program.bind, throwIf, if_pos left]
        rfl
      · refine .inr ⟨_, _, .checking senderId dto (laterChecks senderId dto), shape,
          .enter (by rw [found]; rfl), ?_⟩
        simp only [answer, found, Program.bind, throwIf, if_neg left]
        exact bind_assoc _ _ _
  | checking senderId dto checks =>
    cases checks with
    | fail error => exact .inl rfl
    | call request next =>
      obtain ⟨quiet, fails⟩ := poised.checking _ _ _ rfl
      exact .inr ⟨_, _, .checking senderId dto _, rfl, .check quiet.1 (quiet.2 _) (fails _), rfl⟩
    | done value =>
      cases found : s.messages.byClientId? dto.conversationId dto.clientId with
      | none =>
        refine .inr ⟨_, _, .create senderId dto, rfl, .free found, ?_⟩
        simp only [answer, found]
        rfl
      | some entry =>
        refine .inr ⟨_, _, .duplicate senderId dto (s.withItsReactions entry), rfl,
          .found found, ?_⟩
        simp only [answer, found]
        rfl
  | duplicate senderId dto existing => exact .inr ⟨_, _, _, rfl, .duplicate, rfl⟩
  | create senderId dto =>
    have present := poised.present trivial _ _ rfl
    obtain ⟨conversation, found⟩ : ∃ conversation,
        s.conversations.find? dto.conversationId = some conversation :=
      Option.isSome_iff_exists.mp (Option.isSome_of_isSome_bind present)
    by_cases free : s.messages.byClientId? dto.conversationId dto.clientId = none
    · refine .inr ⟨_, _, .list senderId dto _, rfl, .create found free, ?_⟩
      simp only [answer, found, dif_pos free]
      rfl
    · refine .inr ⟨_, _, .finished (.error (.prisma .uniqueViolation)), rfl, .taken free, ?_⟩
      simp only [answer, found, dif_neg free]
      rfl
  | list senderId dto created => exact .inr ⟨_, _, _, rfl, .list, rfl⟩
  | read senderId dto created recipientIds =>
    have present := poised.present trivial _ _ rfl
    obtain ⟨row, found⟩ := Option.isSome_iff_exists.mp present
    refine .inr ⟨_, _, .closing (onMessagePersisted created recipientIds) _, rfl,
      .read (onMessagePersisted_uses _ _) (onMessagePersisted_failsWith _ _), ?_⟩
    simp only [answer, found]
    exact bind_assoc (onMessagePersisted created recipientIds) _ _
  | closing rest result =>
    cases rest with
    | done | fail => exact .inl rfl
    | call request next =>
      obtain ⟨quiet, fails⟩ := poised.closing _ _ rfl
      exact .inr ⟨_, _, .closing _ result, rfl, .close quiet.1 (quiet.2 _) (fails _), rfl⟩
  | finished outcome => cases outcome <;> exact .inl rfl

/-- Before it has run, a call is about to check, or waits. -/
theorem sendProgram_starts (request : SendCall) :
    ∃ stage : SendStage, stage.program = sendProgram request ∧ (∀ s, stage.Poised s) ∧
      stage.message? = none ∧
      ((∃ senderId dto, request = .send senderId dto ∧ stage = .assert senderId dto) ∨
        ∃ milliseconds rest, request = .elapse milliseconds ∧ stage = .closing rest none) := by
  cases request with
  | send senderId dto =>
    refine ⟨.assert senderId dto, rfl, fun s => ⟨?_, ?_, ?_⟩, rfl, .inl ⟨_, _, rfl, rfl⟩⟩
    · rintro _ _ _ ⟨⟩
    · rintro _ _ ⟨⟩
    · rintro ⟨⟩
  | elapse milliseconds =>
    refine ⟨.closing (call (.elapse milliseconds)) none, rfl, fun s => ⟨?_, ?_, ?_⟩, rfl,
      .inr ⟨_, _, rfl, rfl⟩⟩
    · rintro _ _ _ ⟨⟩
    · rintro _ _ ⟨⟩
      exact ⟨⟨trivial, fun _ => trivial⟩, fun _ => trivial⟩
    · rintro ⟨⟩

/-! ## What a call changes -/

section Answer

variable {s : State} {request : MessagingCall}

theorem participant_answer (request : MessagingCall) {conversationId : ConversationId}
    {userId : UserId} (present : (s.participant? conversationId userId).isSome) :
    ((answer request s).2.participant? conversationId userId).isSome := by
  -- a change to a conversation that keeps its participants keeps this one
  have kept : ∀ (other : ConversationId) (change : Conversation → Conversation),
      (∀ conversation, (conversation.participants.find? userId).isSome →
        ((change conversation).participants.find? userId).isSome) →
      ∀ conversations, conversations = s.conversations.modify other change →
        ((conversations.find? conversationId).bind fun conversation =>
          conversation.participants.find? userId).isSome := by
    intro other change keeps conversations changed
    rw [changed]
    by_cases here : conversationId = other
    · subst here
      rw [find?_modify_self]
      rw [State.participant?] at present
      cases found : s.conversations.find? conversationId with
      | none =>
        rw [found] at present
        cases present
      | some conversation =>
        rw [found] at present
        exact keeps conversation present
    · rw [find?_modify_of_ne _ here]
      exact present
  -- so does a change to one participant
  have changed : ∀ (other : ConversationId) (member : UserId)
      (change : ConversationParticipant → ConversationParticipant),
      ((s.withParticipant other member change).participant? conversationId userId).isSome := by
    intro other member change
    refine kept other (fun conversation =>
      { conversation with participants := conversation.participants.modify member change })
        (fun conversation stored => ?_) _ rfl
    rw [isSome_find?_modify]
    exact stored
  cases request with
  | conversationParticipantUpdateLastReadAt other reader lastReadAt =>
    simp only [answer]
    split
    · exact present
    · exact changed other reader _
  | conversationParticipantUpdateLeftAt other leaver leftAt =>
    simp only [answer]
    split
    · exact present
    · exact changed other leaver _
  | conversationCreateDirect userAId userBId =>
    simp only [answer]
    split
    · rw [State.participant?] at present
      cases found : s.conversations.find? conversationId with
      | none =>
        rw [found] at present
        cases present
      | some conversation =>
        have stays : (s.createDirect userAId userBId).conversations.find? conversationId =
            some conversation := by
          change (s.conversations.insert _ _).find? conversationId = _
          rw [find?_insert, if_neg, found]
          rintro ⟨rfl, free⟩
          rw [found] at free
          cases free
        rw [State.participant?, stays]
        rw [found] at present
        exact present
    · exact present
  | createMessageTransaction senderId dto inviteData =>
    simp only [answer]
    split
    · exact present
    · split
      · exact kept dto.conversationId (fun conversation =>
          { conversation with lastMessageAt := some s.now }) (fun _ stored => stored) _ rfl
      · exact present
  | messageReactionDelete | messageUpdateDeleted =>
    simp only [answer]
    split <;> exact present
  | messageReactionUpsert =>
    simp only [answer]
    split
    · exact present
    · split <;> exact present
  | _ => exact present

/-- Only the transaction of `send` changes the messages. -/
theorem MessagingCall.Quiet.messages (quiet : request.Quiet) :
    (answer request s).2.messages = s.messages ∧ (answer request s).2.fresh = s.fresh := by
  cases request with
  | conversationParticipantUpdateLastReadAt | conversationParticipantUpdateLeftAt
  | messageReactionDelete =>
    simp only [answer]
    split <;> exact ⟨rfl, rfl⟩
  | messageReactionUpsert =>
    simp only [answer]
    split
    · exact ⟨rfl, rfl⟩
    · split <;> exact ⟨rfl, rfl⟩
  | messageFindUniqueByClientId | createMessageTransaction | messageUpdateDeleted
  | conversationCreateDirect => cases quiet
  | _ => exact ⟨rfl, rfl⟩

theorem deployment_answer (request : MessagingCall) (s : State) :
    (answer request s).2.deployment = s.deployment := by
  cases request with
  | conversationParticipantUpdateLastReadAt | conversationParticipantUpdateLeftAt
  | messageUpdateDeleted | messageReactionDelete | conversationCreateDirect =>
    simp only [answer]
    split <;> rfl
  | messageReactionUpsert | createMessageTransaction =>
    simp only [answer]
    split
    · rfl
    · split <;> rfl
  | _ => rfl

/-- **A move leaves the messages as they are, or creates one.** -/
theorem SendMoves.messages {stage stage' : SendStage} (moves : SendMoves s stage request stage') :
    ((answer request s).2.messages = s.messages ∧ (answer request s).2.fresh = s.fresh) ∨
      ∃ senderId dto, stage = .create senderId dto ∧
        s.messages.byClientId? dto.conversationId dto.clientId = none ∧
        stage' = .list senderId dto
          ⟨s.deployment.uuid s.fresh, newMessage s.now senderId dto dto.inviteData, []⟩ ∧
        (answer request s).2.messages.rows = s.messages.rows.insert (s.deployment.uuid s.fresh)
          (newMessage s.now senderId dto dto.inviteData) ∧
        (answer request s).2.fresh = s.fresh + 1 := by
  cases moves with
  | refuse | enter | found | free | duplicate | list => exact .inl ⟨rfl, rfl⟩
  | check quiet | close quiet => exact .inl quiet.messages
  | read =>
    refine .inl ?_
    simp only [answer]
    split <;> exact ⟨rfl, rfl⟩
  | @create senderId dto conversation stored free =>
    refine .inr ⟨senderId, dto, rfl, free, rfl, ?_⟩
    simp only [answer, stored, dif_pos free]
    exact ⟨rfl, rfl⟩
  | taken taken =>
    refine .inl ?_
    simp only [answer, dif_neg taken]
    split <;> exact ⟨rfl, rfl⟩

end Answer

/-! ## The invariants -/

section Invariants

variable {calls : Index → SendCall} {stages : Index → SendStage}

/-- Every thread is where its call can be. -/
structure Located (calls : Index → SendCall) (stages : Index → SendStage) (s : State) : Prop where
  poised : ∀ index, (stages index).Poised s
  sends : ∀ index senderId dto, (stages index).sends? = some (senderId, dto) →
    calls index = .send senderId dto
  waits : ∀ index senderId dto, calls index = .send senderId dto →
    stages index ≠ .finished (.ok none) ∧ ∀ rest, stages index ≠ .closing rest none
  fails : ∀ index error, stages index = .finished (.error error) →
    error = notParticipant ∨ error = .prisma .uniqueViolation

/-- The message of a stage is one of the caller, and is stored. -/
def Own (s : State) (senderId : UserId) (dto : SendMessageDto) (message : MessageDto) : Prop :=
  message.message.senderId = senderId ∧ message.message.clientId = some dto.clientId ∧
    s.messages.rows.find? message.id = some message.message

structure Sound (calls : Index → SendCall) (stages : Index → SendStage) (s : State) : Prop
    extends Located calls stages s where
  recorded : Recorded calls s
  fresh : s.FreshIds
  untaken : ∀ index, stages index ≠ .finished (.error (.prisma .uniqueViolation))
  own : ∀ index senderId dto message, calls index = .send senderId dto →
    (stages index).message? = some message → Own s senderId dto message

/-- A call has failed on the unique index, or it returns the message of another user. -/
def Strays (calls : Index → SendCall) (stages : Index → SendStage) : Prop :=
  ∃ index senderId dto, calls index = .send senderId dto ∧
    (stages index = .finished (.error (.prisma .uniqueViolation)) ∨
      ∃ message, (stages index).message? = some message ∧ message.message.senderId ≠ senderId)

variable [DecidableEq Index] {s : State} {index : Index} {request : MessagingCall}
  {stage' : SendStage}

variable {stage : SendStage}

theorem SendMoves.poised (moves : SendMoves s stage request stage') (poised : stage.Poised s) :
    stage'.Poised (answer request s).2 where
  checking := by
    rintro senderId dto checks rfl
    cases moves with
    | enter present => exact ⟨laterChecks_uses senderId dto, laterChecks_failsWith senderId dto⟩
    | check quiet rest fails => exact ⟨rest, fails⟩
  closing := by
    rintro rest result rfl
    cases moves with
    | read quiet fails => exact ⟨quiet, fails⟩
    | close quiet uses fails => exact ⟨uses, fails⟩
  present := by
    intro inside senderId dto sends
    refine participant_answer request ?_
    cases moves with
    | enter present =>
      cases sends
      exact present
    | check | free | create | list =>
      cases sends
      exact poised.present trivial _ _ rfl
    | refuse | found | duplicate | taken | read | close => cases inside

theorem SendStage.Poised.stays (poised : stage.Poised s) (request : MessagingCall) :
    stage.Poised (answer request s).2 where
  checking := poised.checking
  closing := poised.closing
  present := fun inside senderId dto sends =>
    participant_answer request (poised.present inside senderId dto sends)

/-- A move goes on with the call of the thread. -/
theorem SendMoves.sends (moves : SendMoves s stage request stage') {senderId : UserId} {dto : SendMessageDto}
    (sends : stage'.sends? = some (senderId, dto)) : stage.sends? = some (senderId, dto) := by
  cases moves with
  | enter | check | found | free | create | list => exact sends
  | refuse | duplicate | taken | read | close => cases sends

theorem Located.advance (located : Located calls stages s)
    (moves : SendMoves s (stages index) request stage') :
    Located calls (update stages index stage') (answer request s).2 where
  poised := by
    intro other
    by_cases same : other = index
    · subst same
      rw [update_self]
      exact moves.poised (located.poised other)
    · rw [update_of_ne same]
      exact (located.poised other).stays request
  sends := by
    intro other senderId dto sends
    by_cases same : other = index
    · subst same
      rw [update_self] at sends
      exact located.sends other senderId dto (moves.sends sends)
    · rw [update_of_ne same] at sends
      exact located.sends other senderId dto sends
  waits := by
    intro other senderId dto called
    by_cases same : other = index
    · subst same
      rw [update_self]
      obtain ⟨-, returns⟩ := located.waits other senderId dto called
      generalize stages other = stage at moves returns
      cases moves with
      | close =>
        refine ⟨by rintro ⟨⟩, ?_⟩
        rintro rest ⟨⟩
        exact returns _ rfl
      | _ => exact ⟨by rintro ⟨⟩, fun rest => by rintro ⟨⟩⟩
    · rw [update_of_ne same]
      exact located.waits other senderId dto called
  fails := by
    intro other error failed
    obtain ⟨rfl, failed'⟩ | ⟨-, failed'⟩ := eq_of_update failed
    · generalize stages other = stage at moves
      subst failed'
      cases moves with
      | refuse => exact .inl rfl
      | taken => exact .inr rfl
    · exact located.fails other error failed'

omit [DecidableEq Index] in
theorem SendMoves.rows_stay (moves : SendMoves s stage request stage') {id : MessageId} {row : Message}
    (found : s.messages.rows.find? id = some row) : (answer request s).2.messages.rows.find? id = some row := by
  obtain ⟨same, -⟩ | ⟨senderId, dto, -, -, -, inserted, -⟩ := moves.messages
  · rw [same, found]
  · rw [inserted, find?_insert, if_neg, found]
    rintro ⟨rfl, free⟩
    rw [found] at free
    cases free

omit [DecidableEq Index] in
theorem SendMoves.message (moves : SendMoves s stage request stage') {message : MessageDto}
    (returns : stage'.message? = some message) :
    stage.message? = some message ∨
      (∃ senderId dto entry, stage.sends? = some (senderId, dto) ∧
        request = .messageFindUniqueByClientId dto.conversationId dto.clientId ∧
        s.messages.byClientId? dto.conversationId dto.clientId = some entry ∧
          message = s.withItsReactions entry) ∨
      ∃ senderId dto, stage.sends? = some (senderId, dto) ∧
        message = ⟨s.deployment.uuid s.fresh, newMessage s.now senderId dto dto.inviteData, []⟩ ∧
          (answer request s).2.messages.rows = s.messages.rows.insert (s.deployment.uuid s.fresh)
            (newMessage s.now senderId dto dto.inviteData) := by
  cases moves with
  | duplicate | list | read | close => exact .inl returns
  | @found senderId dto entry found =>
    cases returns
    exact .inr (.inl ⟨senderId, dto, entry, rfl, rfl, found, rfl⟩)
  | @create senderId dto conversation stored free =>
    cases returns
    refine .inr (.inr ⟨senderId, dto, rfl, rfl, ?_⟩)
    simp only [answer, stored, dif_pos free]
    rfl
  | refuse | enter | check | free | taken => cases returns

omit [DecidableEq Index] in
theorem SendMoves.message_stays (moves : SendMoves s stage request stage') {message : MessageDto}
    (returns : stage.message? = some message) : stage'.message? = some message := by
  cases moves with
  | duplicate | list | read | close => exact returns
  | refuse | enter | check | found | free | create | taken => cases returns

omit [DecidableEq Index] in
/-- A call that fails on the unique index has found its `clientId` taken. -/
theorem SendMoves.taken_of_failed (moves : SendMoves s stage request stage')
    (failed : stage' = .finished (.error (.prisma .uniqueViolation))) :
    ∃ senderId dto, request = .createMessageTransaction senderId dto dto.inviteData ∧
      s.messages.byClientId? dto.conversationId dto.clientId ≠ none := by
  subst failed
  cases moves with
  | taken taken => exact ⟨_, _, rfl, taken⟩

variable {pool : SendPool Index}

/-- **A move under the condition keeps every message the message of its caller.** -/
theorem Sound.advance (sound : Sound calls stages pool.store) (one : OneMessage calls)
    (finds : FindsOwn calls pool index) (asked : pool.next? index = some request)
    (moves : SendMoves pool.store (stages index) request stage') :
    Sound calls (update stages index stage') (answer request pool.store).2 where
  toLocated := sound.toLocated.advance moves
  recorded := by
    intro other senderId' dto' called id row found sender client
    obtain ⟨same, -⟩ | ⟨senderId, dto, here, -, -, inserted, -⟩ := moves.messages
    · rw [same] at found
      exact sound.recorded other senderId' dto' called id row found sender client
    · rw [inserted, find?_insert] at found
      split at found
      · cases found
        have own := sound.sends index senderId dto (by rw [here]; rfl)
        cases sender
        have same : dto = dto' := one index other senderId dto dto' own called (Option.some.inj client)
        rw [← same]
        exact ⟨rfl, rfl⟩
      · exact sound.recorded other senderId' dto' called id row found sender client
  fresh := by
    intro count drawn
    rw [deployment_answer]
    obtain ⟨same, fresh⟩ | ⟨senderId, dto, -, -, -, inserted, fresh⟩ := moves.messages
    · rw [same]
      exact sound.fresh count (fresh ▸ drawn)
    · have apart : pool.store.deployment.uuid count ≠ pool.store.deployment.uuid pool.store.fresh := by
        intro same
        have equal := pool.store.deployment.uuid_injective same
        omega
      rw [inserted, find?_insert_of_ne _ apart]
      exact sound.fresh count (by omega)
  untaken := by
    intro other failed
    obtain ⟨rfl, failed'⟩ | ⟨-, failed'⟩ := eq_of_update failed
    · obtain ⟨senderId, dto, rfl, taken⟩ := moves.taken_of_failed failed'
      rw [FindsOwn, asked] at finds
      exact taken finds
    · exact sound.untaken other failed'
  own := by
    intro other senderId dto message called returns
    by_cases same : other = index
    · subst same
      rw [update_self] at returns
      obtain before | ⟨senderId', dto', entry, sends, rfl, found, rfl⟩ |
        ⟨senderId', dto', sends, rfl, inserted⟩ := moves.message returns
      · obtain ⟨sender, client, stored⟩ := sound.own other senderId dto message called before
        exact ⟨sender, client, moves.rows_stay stored⟩
      · cases (sound.sends other senderId' dto' sends).symm.trans called
        rw [FindsOwn, asked] at finds
        have sender := finds entry found
        rw [called] at sender
        obtain ⟨stored, -, client⟩ := MessageTable.byClientId?_eq_some found
        exact ⟨(Option.some.inj sender).symm, client, moves.rows_stay stored⟩
      · cases (sound.sends other senderId' dto' sends).symm.trans called
        refine ⟨rfl, rfl, ?_⟩
        rw [inserted, find?_insert_self (sound.fresh _ le_rfl)]
    · rw [update_of_ne same] at returns
      obtain ⟨sender, client, stored⟩ := sound.own other senderId dto message called returns
      exact ⟨sender, client, moves.rows_stay stored⟩

/-- A move outside the condition goes astray. -/
theorem Sound.strays (sound : Sound calls stages pool.store) (fails : ¬ FindsOwn calls pool index)
    (asked : pool.next? index = some request) (moves : SendMoves pool.store (stages index) request stage') :
    Strays calls (update stages index stage') := by
  rw [FindsOwn, asked] at fails
  generalize here : stages index = stage at moves
  cases moves with
  | @found senderId dto entry found =>
    have own := sound.sends index senderId dto (by rw [here]; rfl)
    refine ⟨index, senderId, dto, own, .inr ⟨pool.store.withItsReactions entry, ?_, ?_⟩⟩
    · rw [update_self]
      rfl
    · intro same
      refine fails fun other found' => ?_
      cases found.symm.trans found'
      rw [own]
      exact congrArg some same.symm
  | @taken senderId dto taken =>
    have own := sound.sends index senderId dto (by rw [here]; rfl)
    refine ⟨index, senderId, dto, own, .inl ?_⟩
    rw [update_self]
  | create stored free => exact absurd free fails
  | free free =>
    refine absurd (fun found here => ?_) fails
    rw [free] at here
    cases here
  | check quiet | close quiet =>
    cases request with
    | messageFindUniqueByClientId | createMessageTransaction => cases quiet
    | _ => exact absurd trivial fails
  | refuse | enter | duplicate | list | read => exact absurd trivial fails

/-- What has gone astray stays so. -/
theorem Strays.advance (strays : Strays calls stages) (moves : SendMoves s (stages index) request stage') :
    Strays calls (update stages index stage') := by
  obtain ⟨other, senderId, dto, called, either⟩ := strays
  refine ⟨other, senderId, dto, called, ?_⟩
  by_cases same : other = index
  · subst same
    rw [update_self]
    obtain failed | ⟨message, returns, foreign⟩ := either
    · rw [failed] at moves
      cases moves
    · exact .inr ⟨message, moves.message_stays returns, foreign⟩
  · rw [update_of_ne same]
    exact either

end Invariants

/-! ## Ended calls -/

section Ended

variable {stage : SendStage} {s : State}

theorem SendStage.failed {error : ServiceError} (failed : stage.program = .fail error)
    (poised : stage.Poised s) : stage = .finished (.error error) ∨ CheckError error := by
  cases stage with
  | finished outcome =>
    cases outcome with
    | error error' =>
      cases failed
      exact .inl rfl
    | ok result => cases failed
  | checking senderId dto checks =>
    cases checks with
    | fail error' =>
      cases failed
      exact .inr (poised.checking _ _ _ rfl).2
    | done | call => cases failed
  | closing rest result =>
    cases rest with
    | fail error' => exact (poised.closing _ _ rfl).2.elim
    | done | call => cases failed
  | assert | duplicate | create | list | read => cases failed

/-- A call that has returned has made its last step. -/
theorem SendStage.returned {result : Option SendResult} (returned : stage.program = .done result) :
    stage = .finished (.ok result) ∨ ∃ rest, stage = .closing rest result := by
  cases stage with
  | finished outcome =>
    cases outcome with
    | error error' => cases returned
    | ok result' =>
      cases returned
      exact .inl rfl
  | closing rest result' =>
    cases rest with
    | done value =>
      cases returned
      exact .inr ⟨_, rfl⟩
    | fail | call => cases returned
  | checking senderId dto checks => cases checks <;> cases returned
  | assert | duplicate | create | list | read => cases returned

theorem SendStage.returns {message : MessageDto} (returns : stage.message? = some message)
    (ended : stage.program.Ended) (poised : stage.Poised s) :
    ∃ result, stage.program = .done result ∧ result.map SendResult.message = some message := by
  cases stage with
  | finished outcome =>
    cases outcome with
    | error error => cases returns
    | ok result => exact ⟨result, rfl, returns⟩
  | closing rest result =>
    cases rest with
    | done value => exact ⟨result, rfl, returns⟩
    | fail error => exact (poised.closing _ _ rfl).2.elim
    | call request next => cases ended
  | duplicate | list | read => cases ended
  | assert | checking | create => cases returns

variable {calls : Index → SendCall} {stages : Index → SendStage} {pool : SendPool Index}

theorem Sound.delivered (sound : Sound calls stages s) {index : Index} {senderId : UserId}
    {dto : SendMessageDto} (called : calls index = .send senderId dto) {result : SendResult}
    (own : Own s senderId dto result.message)
    (single : ∀ first second, s.SentAs senderId dto.clientId first →
      s.SentAs senderId dto.clientId second → first = second) :
    Delivered s senderId dto result := by
  obtain ⟨sender, client, stored⟩ := own
  have sent : s.SentAs senderId dto.clientId result.message.id := ⟨_, stored, sender, client⟩
  refine ⟨sender, ?_, sent, fun id other => single _ _ other sent⟩
  exact (sound.recorded index senderId dto called _ _ stored sender client).2

/-- **In a sound pool every call that has ended has failed a check, or has delivered its
message.** -/
theorem Sound.sendsOnce (sound : Sound calls stages pool.store)
    (staged : pool.InStages (fun _ => SendStage.program) stages) : SendsOnce calls pool := by
  intro index senderId dto called
  have single : ∀ first second, pool.store.SentAs senderId dto.clientId first →
      pool.store.SentAs senderId dto.clientId second → first = second := by
    rintro first second ⟨row, found, sender, client⟩ ⟨row', found', sender', client'⟩
    have here := (sound.recorded index senderId dto called first row found sender client).1
    have there := (sound.recorded index senderId dto called second row' found' sender' client').1
    refine pool.store.messages.unique first second row row' found found' (here.trans there.symm)
      (client.trans client'.symm) ?_
    rw [client]
    rfl
  refine ⟨fun error failed => ?_, fun result returned => ?_, single⟩
  · rw [staged index] at failed
    obtain finished | check := SendStage.failed failed (sound.poised index)
    · obtain rfl | rfl := sound.fails index error finished
      · exact .inl rfl
      · exact absurd finished (sound.untaken index)
    · exact check
  · rw [staged index] at returned
    obtain ⟨unfinished, unclosed⟩ := sound.waits index senderId dto called
    cases result with
    | none =>
      obtain finished | ⟨rest, closing⟩ := SendStage.returned returned
      · exact absurd finished unfinished
      · exact absurd closing (unclosed rest)
    | some sent =>
      refine ⟨sent, rfl, sound.delivered called ?_ single⟩
      refine sound.own index senderId dto sent.message called ?_
      obtain finished | ⟨rest, closing⟩ := SendStage.returned returned
      · rw [finished]
        rfl
      · rw [closing]
        rfl

theorem Strays.not_sendsOnce (strays : Strays calls stages) (located : Located calls stages pool.store)
    (staged : pool.InStages (fun _ => SendStage.program) stages)
    (ended : ∀ index, (pool.threads index).Ended) : ¬ SendsOnce calls pool := by
  intro once
  obtain ⟨index, senderId, dto, called, failed | ⟨message, returns, foreign⟩⟩ := strays
  · have check := (once index senderId dto called).1 (.prisma .uniqueViolation) (by
      rw [staged index, failed]
      rfl)
    obtain ⟨⟨⟩⟩ | ⟨⟨⟩⟩ | ⟨⟨⟩⟩ := check
  · have stopped := ended index
    rw [staged index] at stopped
    obtain ⟨result, returned, same⟩ := SendStage.returns returns stopped (located.poised index)
    have ran : pool.threads index = .done result := (staged index).trans returned
    obtain ⟨sent, rfl, delivered⟩ := (once index senderId dto called).2.1 result ran
    cases same
    exact foreign delivered.1

end Ended

/-! ## Interleavings -/

theorem sound_sendCalls (calls : Index → SendCall) {s : State} (recorded : Recorded calls s)
    (fresh : s.FreshIds) :
    ∃ stages, (sendCalls calls s).InStages (fun _ => SendStage.program) stages ∧ Sound calls stages s := by
  choose stages programs poised unsent starts using fun index => sendProgram_starts (calls index)
  refine ⟨stages, fun index => (programs index).symm, ?_⟩
  exact
    { poised := fun index => poised index s
      sends := fun index senderId dto sends => by
        obtain ⟨senderId', dto', called, here⟩ | ⟨milliseconds, rest, called, here⟩ := starts index
        · rw [here] at sends
          cases sends
          exact called
        · rw [here] at sends
          cases sends
      waits := fun index senderId dto called => by
        obtain ⟨senderId', dto', -, here⟩ | ⟨milliseconds, rest, waits, here⟩ := starts index
        · rw [here]
          exact ⟨by rintro ⟨⟩, fun rest => by rintro ⟨⟩⟩
        · rw [called] at waits
          cases waits
      fails := fun index error failed => by
        obtain ⟨senderId', dto', -, here⟩ | ⟨milliseconds, rest, -, here⟩ := starts index
        · rw [here] at failed
          cases failed
        · rw [here] at failed
          cases failed
      recorded := recorded
      fresh := fresh
      untaken := fun index failed => by
        obtain ⟨senderId', dto', -, here⟩ | ⟨milliseconds, rest, -, here⟩ := starts index
        · rw [here] at failed
          cases failed
        · rw [here] at failed
          cases failed
      own := fun index senderId dto message called returns => by
        rw [unsent index] at returns
        cases returns }

/-- **Every call that passes the checks delivers its message, once, when every lookup finds
messages of the caller only and every create finds its `clientId` free**, in any state of
an interleaving; and when the interleaving is complete, only then. -/
theorem sends_once_iff [DecidableEq Index] (calls : Index → SendCall) (s : State)
    (one : OneMessage calls) (recorded : Recorded calls s) (fresh : s.FreshIds)
    (schedule : List Index) :
    (EachStep (advance answer) (FindsOwn calls) (sendCalls calls s) schedule →
        Throughout (advance answer) (SendsOnce calls) (sendCalls calls s) schedule) ∧
      ((∀ index, ((follow (advance answer) (sendCalls calls s) schedule).threads index).Ended) →
        Throughout (advance answer) (SendsOnce calls) (sendCalls calls s) schedule →
          EachStep (advance answer) (FindsOwn calls) (sendCalls calls s) schedule) := by
  obtain ⟨stages, staged, sound⟩ := sound_sendCalls calls recorded fresh
  have follows : ∀ stages s index, Located calls stages s →
      Follows answer SendStage.program SendMoves (stages index) s :=
    fun stages s index located => send_follows (stages index) s (located.poised index)
  constructor
  · intro steps
    have through := throughout_of_stages (fun _ => SendMoves) (Sound calls) (FindsOwn calls)
      (fun stages s index sound => follows stages s index sound.toLocated)
      (fun pool stages index request stage' _ sound finds asked moves =>
        sound.advance one finds asked moves) staged sound steps
    refine through.mono fun pool held => ?_
    obtain ⟨stages, staged, sound⟩ := held
    exact sound.sendsOnce staged
  · intro completed once
    refine eachStep_of_stages (fun _ => SendMoves) (Sound calls)
      (fun stages s => Located calls stages s ∧ Strays calls stages) (FindsOwn calls)
      (fun stages s index held => ?_) (fun pool index silent => ?_)
      (fun pool stages index request stage' _ sound finds asked moves =>
        sound.advance one finds asked moves)
      (fun pool stages index request stage' _ sound fails asked moves =>
        ⟨sound.toLocated.advance moves, sound.strays fails asked moves⟩)
      (fun stages s index request stage' held moves =>
        ⟨held.1.advance moves, held.2.advance moves⟩) staged sound ?_
    · exact follows stages s index (held.elim Sound.toLocated And.left)
    · rw [FindsOwn, silent]
      trivial
    · rintro ⟨stages, staged, located, strays⟩
      exact strays.not_sendsOnce located staged completed once.last

/-! ## A small installation -/

/-- Identifiers are written in one letter. -/
def smallDeployment : Deployment where
  uuid := fun count => String.ofList (List.replicate count 'a')
  uuid_injective := fun first second same => by
    simpa using congrArg String.length same

def smallParticipant : ConversationParticipant where
  isMuted := false
  mutedUntil := none
  lastReadAt := none
  joinedAt := 0
  leftAt := none

/-- Riders 1 and 2 have a conversation, and have not written yet. -/
def smallInstallation : State where
  deployment := smallDeployment
  now := 0
  users := (empty.insert 1 ⟨"rider1", none⟩).insert 2 ⟨"rider2", none⟩
  conversations := empty.insert "conversation"
    { type := .direct
      name := none
      avatarUrl := none
      communityId := none
      lastMessageAt := none
      createdAt := 0
      deletedAt := none
      participants := (empty.insert 1 smallParticipant).insert 2 smallParticipant }
  messages := .empty
  messageReactions := .empty
  blocks := []
  rateMsg := fun _ => none
  emissions := []
  fresh := 0

def smallMessage (content : String) : SendMessageDto where
  conversationId := "conversation"
  clientId := "client"
  messageType := .text
  content := some content
  mediaUrls := []
  rideInvite := none
  eventInvite := none

/-- Rider 1 sends a message twice. -/
def retried (_ : Bool) : SendCall := .send 1 (smallMessage "hello")

/-- Riders 1 and 2 send messages with one `clientId`. -/
def collided : Bool → SendCall
  | false => .send 1 (smallMessage "hello")
  | true => .send 2 (smallMessage "goodbye")

theorem retried_oneMessage : OneMessage retried := by
  rintro first second senderId dto dto' ⟨⟩ ⟨⟩ -
  rfl

theorem smallInstallation_recorded (calls : Bool → SendCall) : Recorded calls smallInstallation := by
  rintro index senderId dto - id row ⟨⟩

/-- The second time after the first. -/
theorem sends_once_small :
    EachStep (advance answer) (FindsOwn retried) (sendCalls retried smallInstallation)
        (List.replicate 13 false ++ List.replicate 13 true) ∧
      Throughout (advance answer) (SendsOnce retried) (sendCalls retried smallInstallation)
        (List.replicate 13 false ++ List.replicate 13 true) := by
  have steps : EachStep (advance answer) (FindsOwn retried)
      (sendCalls retried smallInstallation)
        (List.replicate 13 false ++ List.replicate 13 true) := by
    decide +kernel
  exact ⟨steps, (sends_once_iff retried smallInstallation retried_oneMessage
    (smallInstallation_recorded retried) (fun _ _ => rfl) _).1 steps⟩

/-- Rider 2 is given the message of rider 1, and an overlapping retry fails on the unique
index. -/
theorem resend_fails :
    ¬ SendsOnce collided (follow (advance answer) (sendCalls collided smallInstallation)
        (List.replicate 13 false ++ List.replicate 13 true)) ∧
      ¬ SendsOnce retried (follow (advance answer) (sendCalls retried smallInstallation)
        (List.replicate 6 false ++ List.replicate 13 true ++ List.replicate 7 false)) := by
  constructor
  · intro once
    have returned : ((follow (advance answer) (sendCalls collided smallInstallation)
        (List.replicate 13 false ++ List.replicate 13 true)).threads true).value?.map
          (fun result => result.map fun sent => sent.message.message.senderId) = some (some 1) := by
      decide +kernel
    obtain ⟨result, value, first⟩ := Option.map_eq_some_iff.mp returned
    obtain ⟨sent, rfl, delivered⟩ := (once true 2 _ rfl).2.1 result
      (value?_eq_some.mp value)
    cases (Option.some.inj first).symm.trans delivered.1
  · intro once
    have failed : ((follow (advance answer) (sendCalls retried smallInstallation)
        (List.replicate 6 false ++ List.replicate 13 true ++
          List.replicate 7 false)).threads false).failure? = some (.prisma .uniqueViolation) := by
      decide +kernel
    obtain ⟨⟨⟩⟩ | ⟨⟨⟩⟩ | ⟨⟨⟩⟩ := (once false 1 _ rfl).1 _ (failure?_eq_some.mp failed)

end Motogram.Messaging
