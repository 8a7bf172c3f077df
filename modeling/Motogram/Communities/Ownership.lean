import Motogram.Communities.Runs

/-!
# The owner of a community

The owner is stored twice, as `ownerId` of the community and as the role of a membership. The
guards of the service keep the two together: an owner cannot leave, nobody is made an owner, and
what joins, is accepted or is removed is not the owner. But `updateMemberRole` lets an owner change
the role of any active member, the owner's own included, and then nobody has the role.

Every community has its owner as the only active member with that role throughout exactly the runs
in which no owner changes the own role (`sole_owner_iff`).
-/

set_option autoImplicit false

namespace Motogram.Communities

open Foundation Table
open Social (CommunityId MemberStatus)

variable {s t : State} {communityId : CommunityId} {userId : UserId}

/-- Every community has one active member with the role of the owner, and it is `ownerId`. -/
def SoleOwner (s : State) : Prop :=
  ∀ communityId community, s.communities.find? communityId = some community →
    ∀ userId, s.holds communityId userId [.owner] ↔ userId = community.ownerId

/-- An owner takes another role. -/
def SelfDemotes (s : State) (op : CommunityOp) : Prop :=
  ∃ actorUserId dto, op = .updateMemberRole actorUserId dto ∧ dto.userId = actorUserId ∧ dto.role ≠ .owner ∧
    s.holds dto.communityId actorUserId [.owner]

/-! ## The invariant -/

/-- The owner is an active member with the role, nobody else has it, and what is new has no members. -/
structure Owned (s : State) : Prop where
  fresh : ∀ communityId, s.fresh ≤ communityId → s.communities.find? communityId = none
  known : ∀ communityId userId, (s.members.find? (communityId, userId)).isSome →
    (s.communities.find? communityId).isSome
  owner : ∀ communityId community, s.communities.find? communityId = some community →
    ∃ member, s.members.find? (communityId, community.ownerId) = some member ∧ member.role = .owner ∧
      member.status = .active
  only : ∀ communityId community userId member, s.communities.find? communityId = some community →
    s.members.find? (communityId, userId) = some member → member.role = .owner → userId = community.ownerId

theorem holds_owner_iff : s.holds communityId userId [.owner] ↔
    ∃ member, s.members.find? (communityId, userId) = some member ∧ member.role = .owner ∧
      member.status = .active := by
  constructor
  · rintro ⟨member, found, active, role⟩
    exact ⟨member, found, List.mem_singleton.mp role, active⟩
  · rintro ⟨member, found, role, active⟩
    exact ⟨member, found, active, List.mem_singleton.mpr role⟩

theorem Owned.soleOwner (owned : Owned s) : SoleOwner s := by
  intro communityId community found userId
  rw [holds_owner_iff]
  constructor
  · rintro ⟨member, here, role, -⟩
    exact owned.only communityId community userId member found here role
  · rintro rfl
    exact owned.owner communityId community found

theorem Owned.ne_owner (owned : Owned s) {member : CommunityMember} {community : Community}
    (found : s.communities.find? communityId = some community)
    (here : s.members.find? (communityId, userId) = some member)
    (differs : member.role ≠ .owner ∨ member.status ≠ .active) : userId ≠ community.ownerId := by
  rintro rfl
  obtain ⟨member', here', role, active⟩ := owned.owner communityId community found
  rw [here] at here'
  cases here'
  exact differs.elim (fun plain => plain role) fun idle => idle active

/-! ## Every operation -/

theorem Tallies.before {change : Int} (tallies : Tallies s t communityId change) {other : CommunityId}
    {community : Community} (found : t.communities.find? other = some community) :
    ∃ before, s.communities.find? other = some before ∧ community.ownerId = before.ownerId := by
  rw [tallies other] at found
  obtain ⟨before, there, rfl⟩ := Option.map_eq_some_iff.mp found
  refine ⟨before, there, ?_⟩
  split <;> rfl

theorem Tallies.isSome {change : Int} (tallies : Tallies s t communityId change) (other : CommunityId) :
    (t.communities.find? other).isSome = (s.communities.find? other).isSome := by
  rw [tallies other, Option.isSome_map]

theorem Owned.of_counts {row : Option CommunityMember} {change : Int} (owned : Owned s)
    (counts : Counts s t communityId userId row change) (there : (s.communities.find? communityId).isSome)
    (other : ∀ community, s.communities.find? communityId = some community → userId ≠ community.ownerId)
    (plain : ∀ member, row = some member → member.role ≠ .owner) : Owned t := by
  refine ⟨fun community new => ?_, fun community user here => ?_, fun community row' found => ?_,
    fun community row' user member found here role => ?_⟩
  · rw [counts.rest.fresh] at new
    rw [counts.tallies community, owned.fresh community new, Option.map_none]
  · rw [counts.tallies.isSome]
    by_cases same : (community, user) = (communityId, userId)
    · rwa [(Prod.mk.inj same).1]
    · rw [counts.writes.find?_of_ne same] at here
      exact owned.known community user here
  · obtain ⟨before, found', same⟩ := counts.tallies.before found
    have apart : (community, row'.ownerId) ≠ (communityId, userId) := by
      intro equal
      obtain ⟨rfl, ids⟩ := Prod.mk.inj equal
      exact other before found' (ids.symm.trans same)
    rw [counts.writes.find?_of_ne apart, same]
    exact owned.owner community before found'
  · obtain ⟨before, found', same⟩ := counts.tallies.before found
    have apart : (community, user) ≠ (communityId, userId) := by
      intro equal
      rw [equal, counts.writes.own] at here
      exact plain member here role
    rw [counts.writes.find?_of_ne apart] at here
    exact (owned.only community before user member found' here role).trans same.symm

theorem Owned.created (owned : Owned s) (ownerId : UserId) (dto : CreateCommunityDto) :
    Owned (s.created ownerId dto) := by
  have new : s.communities.find? s.fresh = none := owned.fresh s.fresh (Nat.le_refl _)
  have free : ∀ user, s.members.find? (s.fresh, user) = none := by
    intro user
    rw [← Option.not_isSome_iff_eq_none]
    intro here
    have there := owned.known s.fresh user here
    rw [new] at there
    cases there
  have communities : ∀ other, (s.created ownerId dto).communities.find? other =
      if other = s.fresh then some (newCommunity s.now ownerId dto) else s.communities.find? other := by
    intro other
    dsimp only [State.created]
    rw [find?_insert]
    by_cases same : other = s.fresh
    · rw [if_pos ⟨same, new⟩, if_pos same]
    · rw [if_neg fun both => same both.1, if_neg same]
  have members : ∀ pair, (s.created ownerId dto).members.find? pair =
      if pair = (s.fresh, ownerId) then some ⟨.owner, .active, s.now⟩ else s.members.find? pair := by
    intro pair
    dsimp only [State.created]
    rw [find?_insert]
    by_cases same : pair = (s.fresh, ownerId)
    · rw [if_pos ⟨same, free ownerId⟩, if_pos same]
    · rw [if_neg fun both => same both.1, if_neg same]
  refine ⟨fun other later => ?_, fun other user here => ?_, fun other community found => ?_,
    fun other community user member found here role => ?_⟩
  · have above : s.fresh + 1 ≤ other := later
    rw [communities, if_neg (Nat.ne_of_gt above)]
    exact owned.fresh other (Nat.le_of_succ_le above)
  · rw [communities]
    by_cases same : other = s.fresh
    · rw [if_pos same]
      rfl
    · rw [members, if_neg fun equal => same (Prod.mk.inj equal).1] at here
      rw [if_neg same]
      exact owned.known other user here
  · rw [communities] at found
    rw [members]
    by_cases same : other = s.fresh
    · rw [if_pos same] at found
      cases found
      rw [same]
      exact ⟨_, if_pos rfl, rfl, rfl⟩
    · rw [if_neg same] at found
      rw [if_neg fun equal => same (Prod.mk.inj equal).1]
      exact owned.owner other community found
  · rw [communities] at found
    rw [members] at here
    by_cases same : other = s.fresh
    · rw [if_pos same] at found
      cases found
      rw [same] at here
      by_cases own : (s.fresh, user) = (s.fresh, ownerId)
      · exact (Prod.mk.inj own).2
      · rw [if_neg own, free user] at here
        cases here
    · rw [if_neg same] at found
      rw [if_neg fun equal => same (Prod.mk.inj equal).1] at here
      exact owned.only other community user member found here role

theorem Owned.updated (owned : Owned s) (communityId : CommunityId) (dto : UpdateCommunityDto) :
    Owned (s.withCommunities (s.communities.modify communityId (Community.patch dto))) := by
  have before : ∀ other community,
      (s.communities.modify communityId (Community.patch dto)).find? other = some community →
        ∃ before, s.communities.find? other = some before ∧ community.ownerId = before.ownerId := by
    intro other community found
    rw [find?_modify] at found
    split at found
    · obtain ⟨before, there, rfl⟩ := Option.map_eq_some_iff.mp found
      exact ⟨before, there, rfl⟩
    · exact ⟨community, found, rfl⟩
  refine ⟨fun other new => ?_, fun other user here => ?_, fun other community found => ?_,
    fun other community user member found here role => ?_⟩
  · have free := owned.fresh other new
    rw [State.withCommunities_communities, find?_modify, free]
    split <;> rfl
  · rw [State.withCommunities_communities, isSome_find?_modify]
    exact owned.known other user here
  · obtain ⟨old, there, same⟩ := before other community found
    rw [same]
    exact owned.owner other old there
  · obtain ⟨old, there, same⟩ := before other community found
    exact (owned.only other old user member there here role).trans same.symm

theorem Owned.step (owned : Owned s) (op : CommunityOp) (met : ¬ SelfDemotes s op) :
    Owned (communityStep s op) := by
  have does := effect s op
  generalize communityStep s op = t at does
  cases does with
  | nothing => exact owned
  | elapsed milliseconds => exact ⟨owned.fresh, owned.known, owned.owner, owned.only⟩
  | created ownerId dto => exact owned.created ownerId dto
  | updated userId communityId dto => exact owned.updated communityId dto
  | joined userId communityId nextStatus after inactive there counts =>
    have other : ∀ community, s.communities.find? communityId = some community →
        userId ≠ community.ownerId := by
      rintro community found rfl
      obtain ⟨member, here, -, active⟩ := owned.owner communityId community found
      rw [State.activeIn, here, isActive, Option.any_some, decide_eq_false_iff_not] at inactive
      exact inactive active
    refine owned.of_counts counts there other ?_
    rintro member ⟨⟩ role
    obtain ⟨community, found⟩ := Option.isSome_iff_exists.mp there
    cases here : s.members.find? (communityId, userId) with
    | none =>
      rw [here] at role
      cases role
    | some before =>
      rw [here] at role
      exact other community found (owned.only communityId community userId before found here role)
  | accepted actorUserId dto member after found pending counts =>
    have there := owned.known dto.communityId dto.userId (Option.isSome_iff_exists.mpr ⟨member, found⟩)
    have idle : member.status ≠ .active := by
      rw [pending]
      decide
    refine owned.of_counts counts there (fun community row => owned.ne_owner row found (.inr idle)) ?_
    rintro member' ⟨⟩ role
    obtain ⟨community, row⟩ := Option.isSome_iff_exists.mp there
    exact owned.ne_owner row found (.inr idle) (owned.only _ community _ member row found role)
  | rejected actorUserId dto member after found pending counts =>
    have there := owned.known dto.communityId dto.userId (Option.isSome_iff_exists.mpr ⟨member, found⟩)
    have idle : member.status ≠ .active := by
      rw [pending]
      decide
    exact owned.of_counts counts there (fun community row => owned.ne_owner row found (.inr idle)) fun _ none => by cases none
  | left userId communityId member after found plain counts =>
    have there := owned.known communityId userId (Option.isSome_iff_exists.mpr ⟨member, found⟩)
    exact owned.of_counts counts there (fun community row => owned.ne_owner row found (.inl plain)) fun _ none => by cases none
  | changed actorUserId dto member after holds plain found active counts =>
    have there := owned.known dto.communityId dto.userId (Option.isSome_iff_exists.mpr ⟨member, found⟩)
    refine owned.of_counts counts there (fun community row same => met ?_) ?_
    · -- The actor is the owner, and so is the member.
      have actor := (owned.soleOwner dto.communityId community row actorUserId).mp holds
      exact ⟨actorUserId, dto, rfl, same.trans actor.symm, plain, holds⟩
    · rintro member' ⟨⟩
      exact plain

/-- Nobody has the role of the owner afterwards. -/
theorem Owned.breaks (owned : Owned s) {op : CommunityOp} (demotes : SelfDemotes s op) :
    ¬ SoleOwner (communityStep s op) := by
  obtain ⟨actorUserId, dto, rfl, rfl, plain, holds⟩ := demotes
  obtain ⟨member, found, active, -⟩ := id holds
  have counts := updateMemberRole_changes ⟨holds, plain, found, active⟩
  have there := owned.known dto.communityId dto.userId (Option.isSome_iff_exists.mpr ⟨member, found⟩)
  obtain ⟨community, row⟩ := Option.isSome_iff_exists.mp there
  have own := (owned.soleOwner dto.communityId community row dto.userId).mp holds
  intro sole
  obtain ⟨after, found'⟩ := Option.isSome_iff_exists.mp ((counts.tallies.isSome dto.communityId).trans there)
  obtain ⟨before, row', same⟩ := counts.tallies.before found'
  rw [row] at row'
  cases row'
  obtain ⟨member', here, -, role⟩ := (sole dto.communityId after found' dto.userId).mpr (own.trans same.symm)
  rw [counts.writes.own] at here
  cases here
  exact plain (List.mem_singleton.mp role)

/-- No community has been made. -/
def State.NoCommunities (s : State) : Prop := s.communities = .empty ∧ s.members = .empty

theorem State.NoCommunities.owned (empty : s.NoCommunities) : Owned s := by
  obtain ⟨communities, members⟩ := empty
  refine ⟨fun other _ => ?_, fun other user here => ?_, fun other community found => ?_,
    fun other community user member found _ _ => ?_⟩
  · rw [communities]
    rfl
  · rw [members] at here
    cases here
  · rw [communities] at found
    cases found
  · rw [communities] at found
    cases found

/-- **Every community has its owner as the only active member with that role exactly as long as no owner
takes another role.** -/
theorem sole_owner_iff (empty : s.NoCommunities) (ops : List CommunityOp) :
    Throughout communityStep SoleOwner s ops ↔ EachStep communityStep (fun t op => ¬ SelfDemotes t op) s ops := by
  refine throughout_iff_eachStep ?_ ?_ ?_ empty.owned ops
  · exact fun t owned => owned.soleOwner
  · exact fun t op owned met => owned.step op met
  · exact fun t op owned unmet => owned.breaks (not_not.mp unmet)

theorem sole_owner_small :
    smallInstallation.NoCommunities ∧
      let ops := [.createCommunity 1 (smallCommunity .isPublic), .joinCommunity 2 1,
        .updateMemberRole 1 ⟨1, 2, .admin⟩]
      (Throughout communityStep SoleOwner smallInstallation ops ↔
        EachStep communityStep (fun t op => ¬ SelfDemotes t op) smallInstallation ops) :=
  ⟨⟨rfl, rfl⟩, sole_owner_iff ⟨rfl, rfl⟩ _⟩

/-- Rider 1 makes a community and becomes a plain member of it. -/
theorem owner_demotes_self :
    ¬ Throughout communityStep SoleOwner smallInstallation
      [.createCommunity 1 (smallCommunity .isPublic), .updateMemberRole 1 ⟨1, 1, .member⟩] := by
  intro holds
  have found : (follow communityStep smallInstallation
      [.createCommunity 1 (smallCommunity .isPublic), .updateMemberRole 1 ⟨1, 1, .member⟩]).communities.find? 1 =
        some (newCommunity 0 1 (smallCommunity .isPublic)) := by
    decide +kernel
  obtain ⟨member, here, -, role⟩ := (holds.last 1 _ found 1).mpr rfl
  have demoted : (follow communityStep smallInstallation
      [.createCommunity 1 (smallCommunity .isPublic), .updateMemberRole 1 ⟨1, 1, .member⟩]).members.find? (1, 1) =
        some ⟨.member, .active, 0⟩ := by
    decide +kernel
  rw [demoted] at here
  cases here
  cases List.mem_singleton.mp role

end Motogram.Communities
