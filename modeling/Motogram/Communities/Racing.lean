import Motogram.Communities.Memberships

/-!
# Joins, answers and leaves at the same time

`joinCommunity`, `respondJoinRequest` and `leaveCommunity` read the membership before the
transaction that writes it, and the transaction changes the counter by what was read. The pair of
community and user is unique, so of two first joins one is refused, and of two leaves as well. But
two administrators who accept one request both find it pending, and both count it.

A write is timely when the row is active at that moment exactly where the call takes it for active.
The counter is the number of active rows throughout an interleaving exactly when every write of the
community that is not refused is timely (`members_count_iff`).
-/

set_option autoImplicit false

namespace Motogram.Communities

open Foundation Program Pool
open Social (CommunityId MemberStatus)

variable {s t : State} {communityId : CommunityId} {userId : UserId}

/-! ## The calls -/

inductive MembershipCall where
  | joinCommunity (userId : UserId) (communityId : CommunityId)
  | respondJoinRequest (actorUserId : UserId) (dto : RespondCommunityJoinDto)
  | leaveCommunity (userId : UserId) (communityId : CommunityId)
  | pause (milliseconds : Nat)

def MembershipCall.program : MembershipCall → Flow Unit
  | .joinCommunity userId communityId => Communities.joinCommunity userId communityId >>= fun _ => pure ()
  | .respondJoinRequest actorUserId dto => Communities.respondJoinRequest actorUserId dto >>= fun _ => pure ()
  | .leaveCommunity userId communityId => Communities.leaveCommunity userId communityId
  | .pause milliseconds => call (.elapse milliseconds)

abbrev MembershipPool (Index : Type) := Pool Index CommunityCall CommunityReply ServiceError Unit State

/-- Any number of calls that have not begun. -/
def membershipPool {Index : Type} (calls : Index → MembershipCall) (s : State) : MembershipPool Index where
  threads := fun index => (calls index).program
  store := s

/-- What the three functions ask of the database. -/
def MembershipRequest : CommunityCall → Prop
  | .communityFindFirst _ => True
  | .communityMemberFindUnique _ _ => True
  | .joinTransaction _ _ _ _ => True
  | .acceptTransaction _ _ => True
  | .leaveTransaction _ _ => True
  | .communityMemberDelete _ _ => True
  | .elapse _ => True
  | _ => False

theorem rethrow_uses {Value : Type} {permitted : CommunityCall → Prop} (reply : Except PrismaError Value) :
    (rethrow reply).Uses permitted := by
  cases reply <;> trivial

theorem saveJoin_uses (communityId : CommunityId) (community : Community) (userId : UserId) (existing : Bool)
    (nextStatus : MemberStatus) :
    (saveJoin communityId community userId existing nextStatus).Uses MembershipRequest := by
  refine Uses.send trivial fun reply => ?_
  exact (rethrow_uses reply).bind fun _ => uses_done _

theorem joinCommunity_uses (userId : UserId) (communityId : CommunityId) :
    (joinCommunity userId communityId).Uses MembershipRequest := by
  refine Uses.bind (Uses.send trivial fun reply => ?_) fun community => ?_
  · cases reply <;> trivial
  · refine Uses.send trivial fun existing => ?_
    cases existing with
    | none => exact saveJoin_uses _ _ _ _ _
    | some member =>
      dsimp only
      split
      · trivial
      · exact (uses_throwIf _ _).bind fun _ => saveJoin_uses _ _ _ _ _

theorem respondJoinRequest_uses (actorUserId : UserId) (dto : RespondCommunityJoinDto) :
    (respondJoinRequest actorUserId dto).Uses MembershipRequest := by
  refine Uses.bind (Uses.send trivial fun _ => uses_throwIf _ _) fun _ => ?_
  refine Uses.send trivial fun membership => ?_
  refine (uses_throwIf _ _).bind fun _ => ?_
  split
  · refine Uses.send trivial fun reply => ?_
    exact (rethrow_uses reply).bind fun _ => uses_done _
  · refine Uses.send trivial fun reply => ?_
    exact (rethrow_uses reply).bind fun _ => uses_done _

theorem leaveCommunity_uses (userId : UserId) (communityId : CommunityId) :
    (leaveCommunity userId communityId).Uses MembershipRequest := by
  refine Uses.send trivial fun membership => ?_
  cases membership with
  | none => trivial
  | some member =>
    dsimp only
    split
    · trivial
    · refine (uses_throwIf _ _).bind fun _ => ?_
      exact Uses.send trivial fun reply => rethrow_uses reply

theorem membershipPool_uses {Index : Type} (calls : Index → MembershipCall) (s : State) :
    (membershipPool calls s).AllUse MembershipRequest := by
  intro index
  change (calls index).program.Uses MembershipRequest
  cases calls index with
  | joinCommunity userId communityId =>
    exact (joinCommunity_uses userId communityId).bind fun _ => uses_done _
  | respondJoinRequest actorUserId dto =>
    exact (respondJoinRequest_uses actorUserId dto).bind fun _ => uses_done _
  | leaveCommunity userId communityId => exact leaveCommunity_uses userId communityId
  | pause milliseconds => exact ⟨trivial, fun _ => uses_done _⟩

/-! ## The counter -/

/-- The counter of the community is the number of its active members. -/
def CountAgrees (communityId : CommunityId) (s : State) : Prop :=
  ∃ community, s.communities.find? communityId = some community ∧ community.membersCount = s.actives communityId

/-- A write of the community that is not refused finds the row active only to leave. -/
def Timely (communityId : CommunityId) : CommunityCall → State → Prop
  | .joinTransaction community userId existing nextStatus, s =>
    community = communityId → ∀ t, s.join community userId existing nextStatus = .ok t →
      s.activeIn community userId = false
  | .acceptTransaction community userId, s =>
    community = communityId → ∀ t, s.accept community userId = .ok t → s.activeIn community userId = false
  | .communityMemberDelete community userId, s =>
    community = communityId → ∀ t, s.deleteMember community userId = .ok t →
      s.activeIn community userId = false
  | .leaveTransaction community userId, s =>
    community = communityId → ∀ t, s.leave community userId = .ok t → s.activeIn community userId = true
  | _, _ => True

theorem Counts.agrees_iff {row : Option CommunityMember} {change : Int} (agrees : CountAgrees communityId s)
    (counts : Counts s t communityId userId row change) :
    CountAgrees communityId t ↔
      change = ((isActive row).toNat : Int) - (s.activeIn communityId userId).toNat := by
  obtain ⟨community, found, counter⟩ := agrees
  have actives := counts.writes.actives communityId
  rw [if_pos rfl] at actives
  have after : t.communities.find? communityId = some (community.count change) := by
    rw [counts.tallies communityId, found, Option.map_some, if_pos rfl]
  have number : (community.count change).membersCount = community.membersCount + change := rfl
  constructor
  · rintro ⟨community', found', counter'⟩
    rw [after] at found'
    cases found'
    omega
  · intro same
    refine ⟨_, after, ?_⟩
    omega

theorem Counts.agrees_of_ne {row : Option CommunityMember} {change : Int} {other : CommunityId}
    (agrees : CountAgrees communityId s) (counts : Counts s t other userId row change)
    (apart : communityId ≠ other) : CountAgrees communityId t := by
  obtain ⟨community, found, counter⟩ := agrees
  have actives := counts.writes.actives communityId
  rw [if_neg apart] at actives
  refine ⟨community, ?_, counter.trans actives.symm⟩
  rw [counts.tallies communityId, found, Option.map_some, if_neg apart]

/-- A write that the database may refuse breaks the agreement exactly where it is not timely. -/
theorem written_agrees_iff {outcome : Except PrismaError State} {other : CommunityId} {holds : Prop}
    (agrees : CountAgrees communityId s)
    (here : ∀ t, outcome = .ok t → other = communityId → (CountAgrees communityId t ↔ holds))
    (elsewhere : ∀ t, outcome = .ok t → other ≠ communityId → CountAgrees communityId t) :
    CountAgrees communityId (s.written outcome).2 ↔ (other = communityId → ∀ t, outcome = .ok t → holds) := by
  cases outcome with
  | error error => exact ⟨fun _ _ t done => (nomatch done), fun _ => agrees⟩
  | ok t =>
    by_cases same : other = communityId
    · rw [State.written, here t rfl same]
      exact ⟨fun held _ _ _ => held, fun timely => timely same t rfl⟩
    · exact ⟨fun _ equal => absurd equal same, fun _ => elsewhere t rfl same⟩

/-- **A request breaks it exactly where it is not timely.** -/
theorem answer_agrees_iff {request : CommunityCall} (asked : MembershipRequest request)
    (agrees : CountAgrees communityId s) :
    CountAgrees communityId (answer request s).2 ↔ Timely communityId request s := by
  cases request with
  | joinTransaction other userId existing nextStatus =>
    refine written_agrees_iff agrees (fun t done same => ?_) fun t done apart => ?_
    · cases same
      obtain ⟨counts, -, -⟩ := join_effect done
      rw [counts.agrees_iff agrees]
      have status : isActive (some (joinedRow (s.members.find? (communityId, userId)) nextStatus s.now)) =
          decide (nextStatus = .active) := by
        cases s.members.find? (communityId, userId) <;> rfl
      rw [status]
      by_cases active : nextStatus = .active
      · cases s.activeIn communityId userId <;> simp [active]
      · cases s.activeIn communityId userId <;> simp [active]
    · exact (join_effect done).1.agrees_of_ne agrees (Ne.symm apart)
  | acceptTransaction other userId =>
    refine written_agrees_iff agrees (fun t done same => ?_) fun t done apart => ?_
    · cases same
      obtain ⟨before, -, counts⟩ := accept_effect done
      rw [counts.agrees_iff agrees]
      cases s.activeIn communityId userId <;> simp [isActive, CommunityMember.withStatus]
    · obtain ⟨before, -, counts⟩ := accept_effect done
      exact counts.agrees_of_ne agrees (Ne.symm apart)
  | communityMemberDelete other userId =>
    have counts : ∀ t, s.deleteMember other userId = .ok t → Counts s t other userId none 0 := by
      intro t done
      obtain ⟨writes, same, rest, -⟩ := deleteMember_effect done
      exact ⟨writes, tallies_of_communities same, rest⟩
    refine written_agrees_iff agrees (fun t done same => ?_) fun t done apart => ?_
    · cases same
      rw [(counts t done).agrees_iff agrees]
      cases s.activeIn communityId userId <;> simp [isActive]
    · exact (counts t done).agrees_of_ne agrees (Ne.symm apart)
  | leaveTransaction other userId =>
    refine written_agrees_iff agrees (fun t done same => ?_) fun t done apart => ?_
    · cases same
      rw [(leave_effect done).1.agrees_iff agrees]
      cases s.activeIn communityId userId <;> simp [isActive]
    · exact (leave_effect done).1.agrees_of_ne agrees (Ne.symm apart)
  | communityFindFirst | communityMemberFindUnique | elapse => exact ⟨fun _ => trivial, fun _ => agrees⟩
  | _ => exact asked.elim

/-- **The counter is the number of active members throughout exactly when every write of the community is
timely.** -/
theorem members_count_iff {Index : Type} [DecidableEq Index] (calls : Index → MembershipCall)
    (agrees : CountAgrees communityId s) (schedule : List Index) :
    Throughout (advance answer) (fun pool => CountAgrees communityId pool.store) (membershipPool calls s)
        schedule ↔
      EachStep (advance answer) (Obliged (Timely communityId)) (membershipPool calls s) schedule := by
  refine throughout_iff_obliged ?_ ?_ (membershipPool_uses calls s) agrees schedule
  · exact fun request store asked agrees timely => (answer_agrees_iff asked agrees).mpr timely
  · exact fun request store asked agrees late => mt (answer_agrees_iff asked agrees).mp late

/-- A body that makes a community with the given visibility. -/
def smallCommunity (visibility : CommunityVisibility) : CreateCommunityDto where
  name := "riders"
  description := none
  avatarUrl := none
  coverImageUrl := none
  visibility := visibility
  region := none
  tags := []
  rules := none
  latitude := none
  longitude := none

/-- Rider 1 has a private community, and rider 2 has asked to join it. -/
def requestPending : State :=
  ((joinCommunity 2 1).exec ((createCommunity 1 (smallCommunity .isPrivate)).exec smallInstallation).2).2

/-- Two times, the owner accepts the request of rider 2. -/
def acceptTwice (_ : Fin 2) : MembershipCall := .respondJoinRequest 1 ⟨1, 2, true⟩

theorem members_count_small :
    CountAgrees 1 requestPending ∧
      (Throughout (advance answer) (fun pool => CountAgrees 1 pool.store)
          (membershipPool acceptTwice requestPending) [0, 0, 0, 1, 1] ↔
        EachStep (advance answer) (Obliged (Timely 1)) (membershipPool acceptTwice requestPending)
          [0, 0, 0, 1, 1]) := by
  have agrees : CountAgrees 1 requestPending := by
    refine ⟨newCommunity 0 1 (smallCommunity .isPrivate), ?_, ?_⟩ <;> decide +kernel
  exact ⟨agrees, members_count_iff _ agrees _⟩

/-- Both calls find the request pending, and it is counted twice. -/
theorem accepted_twice :
    ¬ ((∀ index, ((follow (advance answer) (membershipPool acceptTwice requestPending)
          [0, 0, 1, 1, 0, 1]).threads index).Ended) →
        CountAgrees 1 (follow (advance answer) (membershipPool acceptTwice requestPending)
          [0, 0, 1, 1, 0, 1]).store) := by
  intro claim
  obtain ⟨community, found, counter⟩ := claim (by decide +kernel)
  have counted : (follow (advance answer) (membershipPool acceptTwice requestPending)
      [0, 0, 1, 1, 0, 1]).store.communities.find? 1 =
        some { newCommunity 0 1 (smallCommunity .isPrivate) with membersCount := 3 } := by
    decide +kernel
  rw [counted] at found
  cases found
  revert counter
  decide +kernel

end Motogram.Communities
