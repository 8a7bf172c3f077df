import Motogram.Messaging.Rooms

/-!
# The last participant of a group

The last active participant cannot leave a group. `leaveConversation` counts the active participants,
refuses when there is no more than one, and sets `leftAt` in a later call. What it has counted may not be
so any more when it writes.

A user who has counted and not yet written is departing. As long as somebody is active who is not
departing, the group does not die out. A count takes this away exactly when it passes although every other
active participant is departing. So somebody remains in every interleaving without such a count, and a
finished interleaving in which somebody has remained is without one (`somebody_remains`).
-/

set_option autoImplicit false

namespace Motogram.Messaging

open Foundation Program Function Pool

variable {Index : Type} {conversationId : ConversationId}

/-! ## The calls -/

/-- A participant leaves the conversation, or time passes. -/
inductive LeaveCall where
  | leaveConversation (userId : UserId)
  | elapse (milliseconds : Nat)

def LeaveCall.program (conversationId : ConversationId) : LeaveCall → Flow Unit
  | .leaveConversation userId => Messaging.leaveConversation userId conversationId
  | .elapse milliseconds => call (.elapse milliseconds)

abbrev LeavePool (Index : Type) := Pool Index MessagingCall MessagingReply ServiceError Unit State

/-- Calls that have not begun. -/
def leaveCalls (conversationId : ConversationId) (calls : Index → LeaveCall) (s : State) :
    LeavePool Index where
  threads := fun index => (calls index).program conversationId
  store := s

def State.Peopled (conversationId : ConversationId) (s : State) : Prop :=
  ∃ userId, s.activeIn conversationId userId = true

/-- The number of active participants, as `leaveConversation` counts them. -/
def State.activeCount (s : State) (conversationId : ConversationId) : Nat :=
  ((s.conversations.find? conversationId).map fun conversation =>
    conversation.activeParticipants.length).getD 0

theorem State.peopled_iff {s : State} : s.Peopled conversationId ↔ 0 < s.activeCount conversationId := by
  rw [State.activeCount]
  constructor
  · rintro ⟨userId, active⟩
    obtain ⟨conversation, stored, member⟩ := State.activeIn_eq_true.mp active
    rw [stored]
    exact List.length_pos_of_mem (Conversation.mem_activeParticipants.mpr member)
  · intro counted
    cases stored : s.conversations.find? conversationId with
    | none =>
      rw [stored] at counted
      cases counted
    | some conversation =>
      rw [stored] at counted
      obtain ⟨userId, member⟩ := List.exists_mem_of_length_pos counted
      exact ⟨userId, State.activeIn_eq_true.mpr
        ⟨conversation, stored, Conversation.mem_activeParticipants.mp member⟩⟩

/-- The calls of `leaveConversation` after its count. -/
def MessagingCall.ofSetLeft : MessagingCall → Bool
  | .dateNow => true
  | .conversationParticipantUpdateLeftAt _ _ _ => true
  | _ => false

/-- A call of the user has counted the participants, and has not written yet. -/
def Departing (calls : Index → LeaveCall) (pool : LeavePool Index) (userId : UserId) : Prop :=
  ∃ index, calls index = .leaveConversation userId ∧
    (pool.next? index).any MessagingCall.ofSetLeft = true

/-- A count that lets its user leave finds another active participant who is not departing. -/
def CountsOnSomebody (calls : Index → LeaveCall) (conversationId : ConversationId) (pool : LeavePool Index)
    (index : Index) : Prop :=
  pool.next? index = some (.conversationParticipantCountActive conversationId) →
    2 ≤ pool.store.activeCount conversationId →
      ∃ member, calls index ≠ .leaveConversation member ∧
        pool.store.activeIn conversationId member = true ∧ ¬ Departing calls pool member

/-! ## Stages -/

/-- How far a call has come. -/
inductive LeaveStage where
  | waiting (milliseconds : Nat)
  | asserting (userId : UserId)
  | finding (userId : UserId)
  | counting (userId : UserId)
  | dating (userId : UserId)
  | writing (userId : UserId) (leftAt : Time)
  | finished (outcome : Except ServiceError Unit)

def LeaveStage.program (conversationId : ConversationId) : LeaveStage → Flow Unit
  | .waiting milliseconds => call (.elapse milliseconds)
  | .asserting userId => leaveConversation userId conversationId
  | .finding userId => do
    let found : Option ConversationType ← call (.conversationFindFirstType conversationId)
    match found with
    | none => .fail conversationNotFound
    | some type => do
      throwIf (type = .direct) cannotLeaveDirect
      let active : Nat ← call (.conversationParticipantCountActive conversationId)
      throwIf (active ≤ 1) cannotLeaveSoleMember
      setLeft userId conversationId
  | .counting userId => do
    let active : Nat ← call (.conversationParticipantCountActive conversationId)
    throwIf (active ≤ 1) cannotLeaveSoleMember
    setLeft userId conversationId
  | .dating userId => setLeft userId conversationId
  | .writing userId leftAt => do
    let updated : Except PrismaError Unit ←
      call (.conversationParticipantUpdateLeftAt conversationId userId leftAt)
    rethrow updated
  | .finished (.ok ()) => .done ()
  | .finished (.error error) => .fail error

def LeaveStage.userId? : LeaveStage → Option UserId
  | .asserting userId | .finding userId | .counting userId | .dating userId | .writing userId _ => some userId
  | .waiting _ | .finished _ => none

/-- The user who has counted and not yet written. -/
def LeaveStage.departs? : LeaveStage → Option UserId
  | .dating userId | .writing userId _ => some userId
  | _ => none

/-- One call of a thread: the stage before it and the stage after it, in the store that answers the call. -/
inductive LeaveMoves (conversationId : ConversationId) (s : State) :
    LeaveStage → MessagingCall → LeaveStage → Prop where
  | wait {milliseconds : Nat} :
      LeaveMoves conversationId s (.waiting milliseconds) (.elapse milliseconds) (.finished (.ok ()))
  | assert {userId : UserId} {stage : LeaveStage}
      (next : stage = .finding userId ∨ ∃ error, stage = .finished (.error error)) :
      LeaveMoves conversationId s (.asserting userId)
        (.conversationParticipantFindUnique conversationId userId) stage
  | find {userId : UserId} {stage : LeaveStage}
      (next : stage = .counting userId ∨ ∃ error, stage = .finished (.error error)) :
      LeaveMoves conversationId s (.finding userId) (.conversationFindFirstType conversationId) stage
  | count {userId : UserId} (others : 2 ≤ s.activeCount conversationId) :
      LeaveMoves conversationId s (.counting userId) (.conversationParticipantCountActive conversationId)
        (.dating userId)
  | alone {userId : UserId} (alone : s.activeCount conversationId < 2) :
      LeaveMoves conversationId s (.counting userId) (.conversationParticipantCountActive conversationId)
        (.finished (.error cannotLeaveSoleMember))
  | date {userId : UserId} (leftAt : Time) :
      LeaveMoves conversationId s (.dating userId) .dateNow (.writing userId leftAt)
  | write {userId : UserId} {leftAt : Time} (outcome : Except ServiceError Unit) :
      LeaveMoves conversationId s (.writing userId leftAt)
        (.conversationParticipantUpdateLeftAt conversationId userId leftAt) (.finished outcome)

/-- **A call makes the moves of its stages.** -/
theorem leave_follows (conversationId : ConversationId) (stage : LeaveStage) (s : State) :
    Follows answer (LeaveStage.program conversationId) (LeaveMoves conversationId) stage s := by
  cases stage with
  | waiting milliseconds => exact .inr ⟨_, _, .finished (.ok ()), rfl, .wait, rfl⟩
  | asserting userId =>
    cases found : s.participant? conversationId userId with
    | none =>
      refine .inr ⟨_, _, .finished (.error notParticipant), rfl, .assert (.inr ⟨_, rfl⟩), ?_⟩
      simp only [answer, found]
      rfl
    | some row =>
      by_cases left : row.leftAt.isSome = true
      · refine .inr ⟨_, _, .finished (.error notParticipant), rfl, .assert (.inr ⟨_, rfl⟩), ?_⟩
        simp only [answer, found, Program.bind, throwIf, if_pos left]
        rfl
      · refine .inr ⟨_, _, .finding userId, rfl, .assert (.inl rfl), ?_⟩
        simp only [answer, found, Program.bind, throwIf, if_neg left]
        rfl
  | finding userId =>
    cases found : ((s.conversations.find? conversationId).filter fun conversation =>
        conversation.deletedAt.isNone).map Conversation.type with
    | none =>
      refine .inr ⟨_, _, .finished (.error conversationNotFound), rfl, .find (.inr ⟨_, rfl⟩), ?_⟩
      simp only [answer, found]
      rfl
    | some type =>
      by_cases direct : type = .direct
      · refine .inr ⟨_, _, .finished (.error cannotLeaveDirect), rfl, .find (.inr ⟨_, rfl⟩), ?_⟩
        simp only [answer, found, Program.bind, throwIf, if_pos direct]
        rfl
      · refine .inr ⟨_, _, .counting userId, rfl, .find (.inl rfl), ?_⟩
        simp only [answer, found, Program.bind, throwIf, if_neg direct]
        rfl
  | counting userId =>
    by_cases alone : s.activeCount conversationId ≤ 1
    · refine .inr ⟨_, _, .finished (.error cannotLeaveSoleMember), rfl, .alone (Nat.lt_succ_of_le alone), ?_⟩
      change (throwIf (s.activeCount conversationId ≤ 1) cannotLeaveSoleMember >>= fun _ => _) = _
      rw [throwIf, if_pos alone]
      rfl
    · refine .inr ⟨_, _, .dating userId, rfl, .count (Nat.lt_of_not_le alone), ?_⟩
      change (throwIf (s.activeCount conversationId ≤ 1) cannotLeaveSoleMember >>= fun _ => _) = _
      rw [throwIf, if_neg alone]
      rfl
  | dating userId => exact .inr ⟨_, _, .writing userId s.now, rfl, .date s.now, rfl⟩
  | writing userId leftAt =>
    cases written : (answer (.conversationParticipantUpdateLeftAt conversationId userId leftAt) s).1 with
    | error error =>
      refine .inr ⟨_, _, .finished (.error (.prisma error)), rfl, .write _, ?_⟩
      rw [written]
      rfl
    | ok _ =>
      refine .inr ⟨_, _, .finished (.ok ()), rfl, .write _, ?_⟩
      rw [written]
      rfl
  | finished outcome =>
    left
    cases outcome <;> rfl

/-! ## The invariant -/

section Invariant

variable {calls : Index → LeaveCall} {stages : Index → LeaveStage} {s : State} {request : MessagingCall}
  {stage stage' : LeaveStage}

def Belongs (calls : Index → LeaveCall) (stages : Index → LeaveStage) : Prop :=
  ∀ index userId, (stages index).userId? = some userId → calls index = .leaveConversation userId

def SomebodyStays (conversationId : ConversationId) (stages : Index → LeaveStage) (s : State) : Prop :=
  ∃ member, s.activeIn conversationId member = true ∧ ∀ index, (stages index).departs? ≠ some member

def EverybodyDeparts (conversationId : ConversationId) (stages : Index → LeaveStage) (s : State) : Prop :=
  ∀ member, s.activeIn conversationId member = true → ∃ index, (stages index).departs? = some member

theorem LeaveStage.userId?_of_departs? {userId : UserId} (departs : stage.departs? = some userId) :
    stage.userId? = some userId := by
  cases stage with
  | dating | writing => exact departs
  | _ => cases departs

/-- A departing stage is one whose next call is of `setLeft`. -/
theorem LeaveStage.departs?_isSome (conversationId : ConversationId) (stage : LeaveStage) :
    stage.departs?.isSome = (stage.program conversationId).next?.any MessagingCall.ofSetLeft := by
  cases stage with
  | finished outcome => cases outcome <;> rfl
  | _ => rfl

theorem departing_iff {pool : LeavePool Index} (belongs : Belongs calls stages)
    (staged : pool.InStages (fun _ => LeaveStage.program conversationId) stages) (userId : UserId) :
    Departing calls pool userId ↔ ∃ index, (stages index).departs? = some userId := by
  have sends : ∀ index, (pool.next? index).any MessagingCall.ofSetLeft = (stages index).departs?.isSome := by
    intro index
    rw [staged.next?, LeaveStage.departs?_isSome conversationId]
  constructor
  · rintro ⟨index, called, departing⟩
    rw [sends index] at departing
    obtain ⟨other, departs⟩ := Option.isSome_iff_exists.mp departing
    have same := belongs index other (LeaveStage.userId?_of_departs? departs)
    rw [called] at same
    cases same
    exact ⟨index, departs⟩
  · rintro ⟨index, departs⟩
    refine ⟨index, belongs index userId (LeaveStage.userId?_of_departs? departs), ?_⟩
    rw [sends index, departs]
    rfl

theorem LeaveMoves.userId? (moves : LeaveMoves conversationId s stage request stage') {userId : UserId}
    (leaves : stage'.userId? = some userId) : stage.userId? = some userId := by
  cases moves with
  | assert next | find next =>
    obtain rfl | ⟨error, rfl⟩ := next
    · exact leaves
    · cases leaves
  | count | date => exact leaves
  | wait | alone | write => cases leaves

theorem LeaveMoves.departs? (moves : LeaveMoves conversationId s stage request stage') {userId : UserId}
    (departs : stage'.departs? = some userId) :
    stage.departs? = some userId ∨
      stage = .counting userId ∧ request = .conversationParticipantCountActive conversationId ∧
        2 ≤ s.activeCount conversationId := by
  cases moves with
  | assert next | find next =>
    obtain rfl | ⟨error, rfl⟩ := next <;> cases departs
  | count others =>
    cases departs
    exact .inr ⟨rfl, rfl, others⟩
  | date => exact .inl departs
  | wait | alone | write => cases departs

theorem LeaveMoves.still_departs (moves : LeaveMoves conversationId s stage request stage') {userId : UserId}
    (departs : stage.departs? = some userId) :
    stage'.departs? = some userId ∨
      ∃ leftAt, request = .conversationParticipantUpdateLeftAt conversationId userId leftAt := by
  cases moves with
  | date => exact .inl departs
  | @write leaver leftAt outcome =>
    cases departs
    exact .inr ⟨leftAt, rfl⟩
  | _ => cases departs

/-- Only the call that writes changes who is active: the one whose it is leaves. -/
theorem LeaveMoves.activeIn (moves : LeaveMoves conversationId s stage request stage') (member : UserId) :
    ((answer request s).2.activeIn conversationId member = s.activeIn conversationId member ∧
        ∀ leftAt, request ≠ .conversationParticipantUpdateLeftAt conversationId member leftAt) ∨
      (stage.departs? = some member ∧ (answer request s).2.activeIn conversationId member = false) := by
  cases moves with
  | @write userId leftAt outcome =>
    by_cases same : member = userId
    · subst same
      refine .inr ⟨rfl, ?_⟩
      simp only [answer]
      cases present : s.participant? conversationId member with
      | none => rw [State.activeIn, present]; rfl
      | some row => exact s.activeIn_left conversationId member leftAt
    · refine .inl ⟨(LeaveRequest.leave leftAt).activeIn s fun both => same both.2, ?_⟩
      rintro other asked
      cases asked
      exact same rfl
  | _ => exact .inl ⟨rfl, fun _ same => by cases same⟩

variable [DecidableEq Index] {index : Index}

theorem Belongs.advance (belongs : Belongs calls stages)
    (moves : LeaveMoves conversationId s (stages index) request stage') :
    Belongs calls (update stages index stage') := by
  intro other userId leaves
  by_cases same : other = index
  · subst same
    rw [update_self] at leaves
    exact belongs other userId (moves.userId? leaves)
  · rw [update_of_ne same] at leaves
    exact belongs other userId leaves

/-- **Somebody still stays after a move**, when a count that passes has found another who does. -/
theorem SomebodyStays.advance {pool : LeavePool Index} (stays : SomebodyStays conversationId stages pool.store)
    (belongs : Belongs calls stages) (staged : pool.InStages (fun _ => LeaveStage.program conversationId) stages)
    (counts : CountsOnSomebody calls conversationId pool index) (asked : pool.next? index = some request)
    (moves : LeaveMoves conversationId pool.store (stages index) request stage') :
    SomebodyStays conversationId (update stages index stage') (answer request pool.store).2 := by
  have idle : ∃ member, pool.store.activeIn conversationId member = true ∧
      (∀ other, (stages other).departs? ≠ some member) ∧ stage'.departs? ≠ some member := by
    obtain ⟨member, active, idle⟩ := stays
    by_cases departs : stage'.departs? = some member
    · -- the only way to take the one who stays is their own count
      obtain departed | ⟨counting, count, others⟩ := moves.departs? departs
      · exact absurd departed (idle index)
      · rw [count] at asked
        obtain ⟨witness, another, active', quiet⟩ := counts asked others
        have own : calls index = .leaveConversation member := belongs index member (by rw [counting]; rfl)
        rw [departing_iff belongs staged] at quiet
        refine ⟨witness, active', fun other departs' => quiet ⟨other, departs'⟩, fun departs' => ?_⟩
        rw [departs] at departs'
        cases departs'
        exact another own
    · exact ⟨member, active, idle, departs⟩
  obtain ⟨member, active, idle, quiet⟩ := idle
  refine ⟨member, ?_, fun other => ?_⟩
  · obtain ⟨same, -⟩ | ⟨departed, -⟩ := moves.activeIn member
    · exact same.trans active
    · exact absurd departed (idle index)
  · by_cases same : other = index
    · rw [same, update_self]
      exact quiet
    · rw [update_of_ne same]
      exact idle other

theorem everybodyDeparts_of_count {pool : LeavePool Index} (belongs : Belongs calls stages)
    (staged : pool.InStages (fun _ => LeaveStage.program conversationId) stages)
    (fails : ¬ CountsOnSomebody calls conversationId pool index) (asked : pool.next? index = some request)
    (moves : LeaveMoves conversationId pool.store (stages index) request stage') :
    EverybodyDeparts conversationId (update stages index stage') (answer request pool.store).2 := by
  rw [CountsOnSomebody, Classical.not_imp, Classical.not_imp] at fails
  obtain ⟨count, others, nobody⟩ := fails
  rw [count] at asked
  cases asked
  generalize before : stages index = stage at moves
  cases moves with
  | alone alone => omega
  | @count userId others =>
    have own : calls index = .leaveConversation userId := belongs index userId (by rw [before]; rfl)
    intro member active
    by_cases same : member = userId
    · refine ⟨index, ?_⟩
      rw [update_self, same]
      rfl
    · have departing : Departing calls pool member := by
        by_contra quiet
        refine nobody ⟨member, fun called => ?_, active, quiet⟩
        rw [own] at called
        cases called
        exact same rfl
      obtain ⟨other, departs⟩ := (departing_iff belongs staged member).mp departing
      have apart : other ≠ index := by
        rintro rfl
        rw [before] at departs
        cases departs
      exact ⟨other, by rw [update_of_ne apart, departs]⟩

theorem EverybodyDeparts.advance (every : EverybodyDeparts conversationId stages s)
    (moves : LeaveMoves conversationId s (stages index) request stage') :
    EverybodyDeparts conversationId (update stages index stage') (answer request s).2 := by
  intro member active
  obtain ⟨same, unwritten⟩ | ⟨-, gone⟩ := moves.activeIn member
  · rw [same] at active
    obtain ⟨other, departs⟩ := every member active
    by_cases here : other = index
    · subst here
      obtain still | ⟨leftAt, written⟩ := moves.still_departs departs
      · exact ⟨other, by rw [update_self, still]⟩
      · exact absurd written (unwritten leftAt)
    · exact ⟨other, by rw [update_of_ne here, departs]⟩
  · rw [gone] at active
    cases active

end Invariant

/-! ## Runs -/

theorem leaveCalls_inStages (conversationId : ConversationId) (calls : Index → LeaveCall) (s : State) :
    ∃ stages, (leaveCalls conversationId calls s).InStages (fun _ => LeaveStage.program conversationId) stages ∧
      Belongs calls stages ∧ ∀ index, (stages index).departs? = none := by
  let start : LeaveCall → LeaveStage
    | .leaveConversation userId => .asserting userId
    | .elapse milliseconds => .waiting milliseconds
  refine ⟨fun index => start (calls index), fun index => ?_, fun index userId leaves => ?_, fun index => ?_⟩
  · change (calls index).program conversationId = (start (calls index)).program conversationId
    cases calls index <;> rfl
  · change (start (calls index)).userId? = some userId at leaves
    cases called : calls index with
    | leaveConversation leaver =>
      rw [called] at leaves
      cases leaves
      rfl
    | elapse milliseconds =>
      rw [called] at leaves
      cases leaves
  · change (start (calls index)).departs? = none
    cases calls index <;> rfl

/-- **Somebody remains in the conversation when every count that passes finds another active participant who
is not departing; and somebody has remained in a finished interleaving only if every count has.** -/
theorem somebody_remains [DecidableEq Index] (calls : Index → LeaveCall) {s : State}
    (peopled : s.Peopled conversationId) (schedule : List Index) :
    (EachStep (advance answer) (CountsOnSomebody calls conversationId)
        (leaveCalls conversationId calls s) schedule →
      Throughout (advance answer) (fun pool => pool.store.Peopled conversationId)
        (leaveCalls conversationId calls s) schedule) ∧
    ((∀ index, ((follow (advance answer) (leaveCalls conversationId calls s) schedule).threads index).Ended) →
      Throughout (advance answer) (fun pool => pool.store.Peopled conversationId)
        (leaveCalls conversationId calls s) schedule →
      EachStep (advance answer) (CountsOnSomebody calls conversationId)
        (leaveCalls conversationId calls s) schedule) := by
  obtain ⟨stages, staged, belongs, idle⟩ := leaveCalls_inStages conversationId calls s
  let sound (stages : Index → LeaveStage) (s : State) : Prop :=
    Belongs calls stages ∧ SomebodyStays conversationId stages s
  let spoiled (stages : Index → LeaveStage) (s : State) : Prop :=
    Belongs calls stages ∧ EverybodyDeparts conversationId stages s
  have initially : sound stages s := by
    obtain ⟨member, active⟩ := peopled
    refine ⟨belongs, member, active, fun index departs => ?_⟩
    rw [idle index] at departs
    cases departs
  have keeps : ∀ (pool : LeavePool Index) stages index request stage',
      pool.InStages (fun _ => LeaveStage.program conversationId) stages → sound stages pool.store →
        CountsOnSomebody calls conversationId pool index → pool.next? index = some request →
          LeaveMoves conversationId pool.store (stages index) request stage' →
            sound (update stages index stage') (answer request pool.store).2 :=
    fun pool stages index request stage' staged sound counts asked moves =>
      ⟨sound.1.advance moves, sound.2.advance sound.1 staged counts asked moves⟩
  constructor
  · intro steps
    have through := throughout_of_stages (fun _ => LeaveMoves conversationId) sound
      (CountsOnSomebody calls conversationId) (fun stages s index _ => leave_follows conversationId (stages index) s)
      keeps staged initially steps
    refine through.mono fun pool held => ?_
    obtain ⟨stages, staged, belongs, member, active, -⟩ := held
    exact ⟨member, active⟩
  · intro finished remains
    refine eachStep_of_stages (fun _ => LeaveMoves conversationId) sound spoiled
      (CountsOnSomebody calls conversationId) (fun stages s index _ => leave_follows conversationId (stages index) s)
      (fun pool index silent => ?_) keeps
      (fun pool stages index request stage' staged sound fails asked moves =>
        ⟨sound.1.advance moves, everybodyDeparts_of_count sound.1 staged fails asked moves⟩)
      (fun stages s index request stage' spoiled moves => ⟨spoiled.1.advance moves, spoiled.2.advance moves⟩)
      staged initially ?_
    · intro asked
      rw [silent] at asked
      cases asked
    · -- whoever is active in the end would have a call that has not ended
      rintro ⟨stages, staged, belongs, every⟩
      obtain ⟨member, active⟩ := remains.last
      obtain ⟨index, departs⟩ := every member active
      have ended := finished index
      rw [staged index] at ended
      have sends := LeaveStage.departs?_isSome conversationId (stages index)
      rw [departs, ended] at sends
      cases sends

/-! ## Two riders leave -/

/-- Riders 1 and 2 leave the group. -/
def bothLeave : Bool → LeaveCall
  | false => .leaveConversation 1
  | true => .leaveConversation 2

/-- Riders 1 and 2 have a group of their own. -/
def groupOfTwo : State :=
  { smallInstallation with
    conversations := Table.empty.insert smallGroupId { newDirect 0 1 2 with type := .groupChat } }

/-- In the group of three, one leaves after the other, and rider 3 remains. -/
theorem somebody_remains_small :
    (EachStep (advance answer) (CountsOnSomebody bothLeave smallGroupId)
        (leaveCalls smallGroupId bothLeave smallGateway.store) (List.replicate 5 false ++ List.replicate 5 true) →
      Throughout (advance answer) (fun pool => pool.store.Peopled smallGroupId)
        (leaveCalls smallGroupId bothLeave smallGateway.store)
          (List.replicate 5 false ++ List.replicate 5 true)) ∧
    ((∀ index, ((follow (advance answer) (leaveCalls smallGroupId bothLeave smallGateway.store)
        (List.replicate 5 false ++ List.replicate 5 true)).threads index).Ended) →
      Throughout (advance answer) (fun pool => pool.store.Peopled smallGroupId)
        (leaveCalls smallGroupId bothLeave smallGateway.store)
          (List.replicate 5 false ++ List.replicate 5 true) →
      EachStep (advance answer) (CountsOnSomebody bothLeave smallGroupId)
        (leaveCalls smallGroupId bothLeave smallGateway.store)
          (List.replicate 5 false ++ List.replicate 5 true)) :=
  somebody_remains bothLeave ⟨3, by decide +kernel⟩ _

/-- In the group of two, both count before either writes, and nobody remains. -/
theorem nobody_remains :
    groupOfTwo.Peopled smallGroupId ∧
      ¬ Throughout (advance answer) (fun pool => pool.store.Peopled smallGroupId)
        (leaveCalls smallGroupId bothLeave groupOfTwo)
          [false, false, false, true, true, true, false, false, true, true] := by
  refine ⟨⟨1, by decide +kernel⟩, fun remains => ?_⟩
  have counted := State.peopled_iff.mp remains.last
  revert counted
  decide +kernel

end Motogram.Messaging
