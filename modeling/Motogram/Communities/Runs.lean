import Motogram.Communities.Racing

/-!
# Runs of the community service

The operations of the service one after the other, by any users, with time passing between them.
`Effect` lists what an operation can do to memberships and communities, with what it has found
before; `effect` says that every operation does one of these.
-/

set_option autoImplicit false

namespace Motogram.Communities

open Foundation Program State
open Social (CommunityId MemberStatus)

/-! ## Operations -/

/-- An operation of the service, or time passing. -/
inductive CommunityOp where
  | createCommunity (ownerId : UserId) (dto : CreateCommunityDto)
  | updateCommunity (userId : UserId) (communityId : CommunityId) (dto : UpdateCommunityDto)
  | joinCommunity (userId : UserId) (communityId : CommunityId)
  | respondJoinRequest (actorUserId : UserId) (dto : RespondCommunityJoinDto)
  | leaveCommunity (userId : UserId) (communityId : CommunityId)
  | updateMemberRole (actorUserId : UserId) (dto : UpdateCommunityMemberRoleDto)
  | elapse (milliseconds : Nat)

/-- The state after an operation. -/
def communityStep (s : State) : CommunityOp → State
  | .createCommunity ownerId dto => ((createCommunity ownerId dto).exec s).2
  | .updateCommunity userId communityId dto => ((updateCommunity userId communityId dto).exec s).2
  | .joinCommunity userId communityId => ((joinCommunity userId communityId).exec s).2
  | .respondJoinRequest actorUserId dto => ((respondJoinRequest actorUserId dto).exec s).2
  | .leaveCommunity userId communityId => ((leaveCommunity userId communityId).exec s).2
  | .updateMemberRole actorUserId dto => ((updateMemberRole actorUserId dto).exec s).2
  | .elapse milliseconds => s.elapsed milliseconds

def State.existing (s : State) (communityId : CommunityId) : Option Community :=
  (s.communities.find? communityId).filter fun community => community.deletedAt.isNone

def State.holds (s : State) (communityId : CommunityId) (userId : UserId) (allowed : List CommunityRole) : Prop :=
  ∃ member, s.members.find? (communityId, userId) = some member ∧ member.status = .active ∧ member.role ∈ allowed

def State.created (s : State) (ownerId : UserId) (dto : CreateCommunityDto) : State :=
  { s with
    fresh := s.fresh + 1
    communities := s.communities.insert s.fresh (newCommunity s.now ownerId dto)
    members := s.members.insert (s.fresh, ownerId) ⟨.owner, .active, s.now⟩ }

/-- What an operation can do. -/
inductive Effect (s : State) : CommunityOp → State → Prop
  | nothing (op : CommunityOp) : Effect s op s
  | elapsed (milliseconds : Nat) : Effect s (.elapse milliseconds) (s.elapsed milliseconds)
  | created (ownerId : UserId) (dto : CreateCommunityDto) :
      Effect s (.createCommunity ownerId dto) (s.created ownerId dto)
  | updated (userId : UserId) (communityId : CommunityId) (dto : UpdateCommunityDto) :
      Effect s (.updateCommunity userId communityId dto)
        (s.withCommunities (s.communities.modify communityId (Community.patch dto)))
  | joined (userId : UserId) (communityId : CommunityId) (nextStatus : MemberStatus) (t : State)
      (inactive : s.activeIn communityId userId = false)
      (there : (s.communities.find? communityId).isSome)
      (counts : Counts s t communityId userId
        (some (joinedRow (s.members.find? (communityId, userId)) nextStatus s.now))
        (if nextStatus = .active then 1 else 0)) :
      Effect s (.joinCommunity userId communityId) t
  | accepted (actorUserId : UserId) (dto : RespondCommunityJoinDto) (member : CommunityMember) (t : State)
      (found : s.members.find? (dto.communityId, dto.userId) = some member) (pending : member.status = .pending)
      (counts : Counts s t dto.communityId dto.userId (some (member.withStatus .active s.now)) 1) :
      Effect s (.respondJoinRequest actorUserId dto) t
  | rejected (actorUserId : UserId) (dto : RespondCommunityJoinDto) (member : CommunityMember) (t : State)
      (found : s.members.find? (dto.communityId, dto.userId) = some member) (pending : member.status = .pending)
      (counts : Counts s t dto.communityId dto.userId none 0) :
      Effect s (.respondJoinRequest actorUserId dto) t
  | left (userId : UserId) (communityId : CommunityId) (member : CommunityMember) (t : State)
      (found : s.members.find? (communityId, userId) = some member) (plain : member.role ≠ .owner)
      (counts : Counts s t communityId userId none (-1)) :
      Effect s (.leaveCommunity userId communityId) t
  | changed (actorUserId : UserId) (dto : UpdateCommunityMemberRoleDto) (member : CommunityMember) (t : State)
      (holds : s.holds dto.communityId actorUserId [.owner]) (plain : dto.role ≠ .owner)
      (found : s.members.find? (dto.communityId, dto.userId) = some member) (active : member.status = .active)
      (counts : Counts s t dto.communityId dto.userId (some (member.withRole dto.role)) 0) :
      Effect s (.updateMemberRole actorUserId dto) t

variable {s t : State} {communityId : CommunityId} {userId actorUserId : UserId}

/-! ## Checks -/

theorem requireCommunity_exec (s : State) (communityId : CommunityId) :
    (requireCommunity communityId).exec s =
      (match s.existing communityId with
        | none => .error communityNotFound
        | some community => .ok community, s) := by
  unfold requireCommunity existing
  rw [Flow.exec, run_sends]
  dsimp only [answer]
  cases (s.communities.find? communityId).filter fun community => community.deletedAt.isNone <;> rfl

theorem getMembership_exec (s : State) (communityId : CommunityId) (userId : UserId) :
    (getMembership communityId userId).exec s = (.ok (s.members.find? (communityId, userId)), s) := rfl

theorem requireRole_of_holds {allowed : List CommunityRole} (holds : s.holds communityId userId allowed) :
    (requireRole communityId userId allowed).exec s = (.ok (), s) := by
  obtain ⟨member, found, active, role⟩ := holds
  rw [Flow.exec, requireRole, run_bind_of_ok _ (getMembership_exec s communityId userId),
    run_throwIf, found]
  simp [active, role]

theorem requireRole_of_not_holds {allowed : List CommunityRole} (lacks : ¬ s.holds communityId userId allowed) :
    (requireRole communityId userId allowed).exec s = (.error insufficientPrivileges, s) := by
  rw [Flow.exec, requireRole, run_bind_of_ok _ (getMembership_exec s communityId userId),
    run_throwIf]
  rw [if_pos]
  cases found : s.members.find? (communityId, userId) with
  | none => rfl
  | some member =>
    rw [Option.all_some, Bool.or_eq_true, decide_eq_true_eq, decide_eq_true_eq]
    by_contra both
    rw [not_or, not_not, not_not] at both
    exact lacks ⟨member, found, both⟩

/-! ## Every operation does one of these -/

theorem createCommunity_effect (s : State) (ownerId : UserId) (dto : CreateCommunityDto) :
    Effect s (.createCommunity ownerId dto) (communityStep s (.createCommunity ownerId dto)) := by
  rw [communityStep, Flow.exec, createCommunity, call_bind, run_call]
  dsimp only [answer]
  split
  · exact .nothing _
  · exact .created ownerId dto

theorem updateCommunity_effect (s : State) (userId : UserId) (communityId : CommunityId) (dto : UpdateCommunityDto) :
    Effect s (.updateCommunity userId communityId dto) (communityStep s (.updateCommunity userId communityId dto)) := by
  rw [communityStep, Flow.exec, updateCommunity]
  by_cases holds : s.holds communityId userId [.owner, .admin]
  · have checks := requireRole_of_holds holds
    rw [run_bind_of_ok _ checks, call_bind, run_call]
    dsimp only [answer]
    cases s.communities.find? communityId with
    | none => exact .nothing _
    | some community => exact .updated userId communityId dto
  · have checks := requireRole_of_not_holds holds
    rw [run_bind_of_error _ checks]
    exact .nothing _

theorem saveJoin_effect {community : Community} {existing : Bool} {nextStatus : MemberStatus}
    (inactive : s.activeIn communityId userId = false) (there : (s.communities.find? communityId).isSome) :
    Effect s (.joinCommunity userId communityId)
      ((saveJoin communityId community userId existing nextStatus).exec s).2 := by
  rw [Flow.exec, saveJoin, call_bind, run_call]
  dsimp only [answer]
  cases outcome : s.join communityId userId existing nextStatus with
  | error error => exact .nothing _
  | ok t => exact .joined userId communityId nextStatus t inactive there (join_effect outcome).1

theorem joinCommunity_effect (s : State) (userId : UserId) (communityId : CommunityId) :
    Effect s (.joinCommunity userId communityId) (communityStep s (.joinCommunity userId communityId)) := by
  have finds := requireCommunity_exec s communityId
  rw [communityStep, Flow.exec, joinCommunity]
  cases existing : s.existing communityId with
  | none =>
    rw [existing] at finds
    rw [run_bind_of_error _ finds]
    exact .nothing _
  | some community =>
    have there : (s.communities.find? communityId).isSome :=
      Option.isSome_iff_exists.mpr ⟨community, (Option.filter_eq_some_iff.mp existing).1⟩
    rw [existing] at finds
    rw [run_bind_of_ok _ finds, run_bind_of_ok _ (getMembership_exec s communityId userId)]
    cases found : s.members.find? (communityId, userId) with
    | none =>
      have inactive : s.activeIn communityId userId = false := by rw [activeIn, found]; rfl
      exact saveJoin_effect inactive there
    | some member =>
      dsimp only
      by_cases active : member.status = .active
      · rw [if_pos active]
        exact .nothing _
      · have inactive : s.activeIn communityId userId = false := by
          rw [activeIn, found, isActive, Option.any_some, decide_eq_false_iff_not]
          exact active
        rw [if_neg active]
        by_cases banned : member.status = .banned
        · rw [throwIf_of banned]
          exact .nothing _
        · rw [throwIf_of_not banned]
          exact saveJoin_effect inactive there

theorem respondJoinRequest_effect (s : State) (actorUserId : UserId) (dto : RespondCommunityJoinDto) :
    Effect s (.respondJoinRequest actorUserId dto) (communityStep s (.respondJoinRequest actorUserId dto)) := by
  rw [communityStep, Flow.exec, respondJoinRequest]
  by_cases holds : s.holds dto.communityId actorUserId [.owner, .admin]
  · have checks := requireRole_of_holds holds
    rw [run_bind_of_ok _ checks,
      run_bind_of_ok _ (getMembership_exec s dto.communityId dto.userId)]
    cases found : s.members.find? (dto.communityId, dto.userId) with
    | none => exact .nothing _
    | some member =>
      by_cases pending : member.status = .pending
      · have found' : ¬ (some member).all (fun member => decide (member.status ≠ .pending)) = true := by
          simp [pending]
        rw [throwIf_of_not found', done_bind]
        split
        · rw [call_bind, run_call]
          dsimp only [answer]
          cases outcome : s.accept dto.communityId dto.userId with
          | error error => exact .nothing _
          | ok t =>
            obtain ⟨before, found'', counts⟩ := accept_effect outcome
            rw [found] at found''
            cases found''
            exact .accepted actorUserId dto member t found pending counts
        · rw [call_bind, run_call]
          dsimp only [answer]
          cases outcome : s.deleteMember dto.communityId dto.userId with
          | error error => exact .nothing _
          | ok t =>
            obtain ⟨writes, same, rest, -⟩ := deleteMember_effect outcome
            exact .rejected actorUserId dto member t found pending
              ⟨writes, tallies_of_communities same, rest⟩
      · have found' : (some member).all (fun member => decide (member.status ≠ .pending)) = true := by
          simp [pending]
        rw [throwIf_of found']
        exact .nothing _
  · have checks := requireRole_of_not_holds holds
    rw [run_bind_of_error _ checks]
    exact .nothing _

theorem leaveCommunity_effect (s : State) (userId : UserId) (communityId : CommunityId) :
    Effect s (.leaveCommunity userId communityId) (communityStep s (.leaveCommunity userId communityId)) := by
  rw [communityStep, Flow.exec, leaveCommunity,
    run_bind_of_ok _ (getMembership_exec s communityId userId)]
  cases found : s.members.find? (communityId, userId) with
  | none => exact .nothing _
  | some member =>
    dsimp only
    split
    · exact .nothing _
    · by_cases owner : member.role = .owner
      · rw [throwIf_of owner]
        exact .nothing _
      · rw [throwIf_of_not owner, done_bind, call_bind, run_call]
        dsimp only [answer]
        cases outcome : s.leave communityId userId with
        | error error => exact .nothing _
        | ok t => exact .left userId communityId member t found owner (leave_effect outcome).1

structure Changes (s : State) (actorUserId : UserId) (dto : UpdateCommunityMemberRoleDto)
    (member : CommunityMember) : Prop where
  holds : s.holds dto.communityId actorUserId [.owner]
  plain : dto.role ≠ .owner
  found : s.members.find? (dto.communityId, dto.userId) = some member
  active : member.status = .active

theorem updateMemberRole_changes {dto : UpdateCommunityMemberRoleDto} {member : CommunityMember}
    (changes : Changes s actorUserId dto member) :
    Counts s (communityStep s (.updateMemberRole actorUserId dto)) dto.communityId dto.userId
      (some (member.withRole dto.role)) 0 := by
  have checks := requireRole_of_holds changes.holds
  have isActive' : ¬ isActive (some member) = false := by
    rw [isActive, Option.any_some, changes.active]
    exact Bool.noConfusion
  rw [communityStep, Flow.exec, updateMemberRole, run_bind_of_ok _ checks,
    throwIf_of_not changes.plain, done_bind,
    run_bind_of_ok _ (getMembership_exec s dto.communityId dto.userId), changes.found,
    throwIf_of_not isActive', done_bind, call_bind, run_call]
  dsimp only [answer]
  cases outcome : s.updateMember dto.communityId dto.userId (CommunityMember.withRole dto.role) with
  | error error =>
    rw [updateMember, changes.found] at outcome
    cases outcome
  | ok t =>
    obtain ⟨before, found, writes, same, rest⟩ := updateMember_effect outcome
    rw [changes.found] at found
    cases found
    exact ⟨writes, tallies_of_communities same, rest⟩

theorem updateMemberRole_effect (s : State) (actorUserId : UserId) (dto : UpdateCommunityMemberRoleDto) :
    Effect s (.updateMemberRole actorUserId dto) (communityStep s (.updateMemberRole actorUserId dto)) := by
  by_cases changes : ∃ member, Changes s actorUserId dto member
  · obtain ⟨member, changes⟩ := changes
    exact .changed actorUserId dto member _ changes.holds changes.plain changes.found changes.active
      (updateMemberRole_changes changes)
  · rw [communityStep, Flow.exec, updateMemberRole]
    by_cases holds : s.holds dto.communityId actorUserId [.owner]
    · have checks := requireRole_of_holds holds
      rw [run_bind_of_ok _ checks]
      by_cases owner : dto.role = .owner
      · rw [throwIf_of owner]
        exact .nothing _
      · rw [throwIf_of_not owner, done_bind,
          run_bind_of_ok _ (getMembership_exec s dto.communityId dto.userId)]
        have inactive : isActive (s.members.find? (dto.communityId, dto.userId)) = false := by
          cases found : s.members.find? (dto.communityId, dto.userId) with
          | none => rfl
          | some member =>
            rw [isActive, Option.any_some, decide_eq_false_iff_not]
            exact fun active => changes ⟨member, holds, owner, found, active⟩
        rw [throwIf_of inactive]
        exact .nothing _
    · have checks := requireRole_of_not_holds holds
      rw [run_bind_of_error _ checks]
      exact .nothing _

/-- **Every operation does one of the things `Effect` lists.** -/
theorem effect (s : State) (op : CommunityOp) : Effect s op (communityStep s op) := by
  cases op with
  | createCommunity ownerId dto => exact createCommunity_effect s ownerId dto
  | updateCommunity userId communityId dto => exact updateCommunity_effect s userId communityId dto
  | joinCommunity userId communityId => exact joinCommunity_effect s userId communityId
  | respondJoinRequest actorUserId dto => exact respondJoinRequest_effect s actorUserId dto
  | leaveCommunity userId communityId => exact leaveCommunity_effect s userId communityId
  | updateMemberRole actorUserId dto => exact updateMemberRole_effect s actorUserId dto
  | elapse milliseconds => exact .elapsed milliseconds

end Motogram.Communities
