import Mathlib.Algebra.Order.Ring.Unbundled.Rat
import Motogram.Communities.Store

/-!
# The community service

`community.service.ts`. Every function is a program over the calls of the store, in the order
of the source.
-/

set_option autoImplicit false

namespace Motogram.Communities

open Foundation Program
open Social (CommunityId MemberStatus)

/-! ## Exceptions -/

def communityNotFound : ServiceError := .http .notFound "Community not found" .notFound none
def bannedFromCommunity : ServiceError :=
  .http .forbidden "User is banned from this community" .forbidden none
def noPendingRequest : ServiceError := .http .badRequest "No pending request found" .validationFailed none
def ownerCannotLeave : ServiceError :=
  .http .forbidden "Owner cannot leave without transferring ownership" .forbidden none
def useTransferOwnership : ServiceError :=
  .http .badRequest "Use transferOwnership to assign OWNER role" .validationFailed none
def memberNotFound : ServiceError := .http .notFound "Member not found" .notFound none
def insufficientPrivileges : ServiceError :=
  .http .forbidden "Insufficient community privileges" .forbidden none

/-! ## Responses -/

def toSummary (communityId : CommunityId) (community : Community) : CommunitySummary where
  id := communityId
  name := community.name
  description := community.description
  avatarUrl := community.avatarUrl
  coverImageUrl := community.coverImageUrl
  visibility := community.visibility
  region := community.region
  tags := community.tags
  ownerId := community.ownerId
  membersCount := community.membersCount
  latitude := community.latitude
  longitude := community.longitude
  createdAt := community.createdAt

def toDetail (communityId : CommunityId) (community : Community) (viewerRole : Option CommunityRole)
    (viewerStatus : Option MemberStatus) : CommunityDetail where
  toCommunitySummary := toSummary communityId community
  rules := community.rules
  viewerRole := viewerRole
  viewerStatus := viewerStatus

/-- `toDetail(community, membership?.role ?? null, membership?.status ?? null)`. -/
def toDetailFor (communityId : CommunityId) (community : Community) (membership : Option CommunityMember) :
    CommunityDetail :=
  toDetail communityId community (membership.map CommunityMember.role) (membership.map CommunityMember.status)

/-! ## Memberships -/

def getMembership (communityId : CommunityId) (userId : UserId) : Flow (Option CommunityMember) :=
  call (.communityMemberFindUnique communityId userId)

def isActive (membership : Option CommunityMember) : Bool :=
  membership.any fun member => decide (member.status = .active)

def requireRole (communityId : CommunityId) (userId : UserId) (allowed : List CommunityRole) : Flow Unit := do
  let membership ← getMembership communityId userId
  throwIf ((membership.all fun member =>
    decide (member.status ≠ .active) || decide (member.role ∉ allowed)) = true) insufficientPrivileges

/-- The community, when it is there and not deleted. -/
def requireCommunity (communityId : CommunityId) : Flow Community := do
  let community : Option Community ← call (.communityFindFirst communityId)
  match community with
  | none => .fail communityNotFound
  | some community => pure community

def assertViewable (communityId : CommunityId) (userId : UserId) : Flow Unit := do
  let community ← requireCommunity communityId
  if community.visibility = .hidden then do
    let membership ← getMembership communityId userId
    throwIf (isActive membership = false) communityNotFound
  else pure ()

/-! ## Communities -/

def createCommunity (ownerId : UserId) (dto : CreateCommunityDto) : Flow CommunityDetail := do
  let created : Except PrismaError (CommunityId × Community) ← call (.createCommunityTransaction ownerId dto)
  let (communityId, community) ← rethrow created
  pure (toDetail communityId community (some .owner) (some .active))

def updateCommunity (userId : UserId) (communityId : CommunityId) (dto : UpdateCommunityDto) :
    Flow CommunityDetail := do
  requireRole communityId userId [.owner, .admin]
  let updated : Except PrismaError Community ← call (.communityUpdate communityId dto)
  let community ← rethrow updated
  let membership ← getMembership communityId userId
  pure (toDetailFor communityId community membership)

def getCommunityDetail (communityId : CommunityId) (viewerId : UserId) : Flow CommunityDetail := do
  let community ← requireCommunity communityId
  let membership ← getMembership communityId viewerId
  throwIf (community.visibility = .hidden ∧ isActive membership = false) communityNotFound
  pure (toDetailFor communityId community membership)

def toMemberDto (row : UserId × CommunityMember × UserSelect) : CommunityMemberDto where
  userId := row.1
  username := row.2.2.username
  avatarUrl := row.2.2.avatarUrl
  role := row.2.1.role
  status := row.2.1.status
  joinedAt := row.2.1.joinedAt

def listMembers (communityId : CommunityId) (viewerId : UserId) : Flow (List CommunityMemberDto) := do
  assertViewable communityId viewerId
  let rows : List (UserId × CommunityMember × UserSelect) ← call (.communityMemberFindManyActive communityId)
  pure (rows.map toMemberDto)

/-! ## Joining and leaving -/

/-- The end of `joinCommunity`, from the transaction on. -/
def saveJoin (communityId : CommunityId) (community : Community) (userId : UserId) (existing : Bool)
    (nextStatus : MemberStatus) : Flow (CommunityDetail × MemberStatus) := do
  let joined : Except PrismaError Unit ← call (.joinTransaction communityId userId existing nextStatus)
  rethrow joined
  pure (toDetail communityId community (some .member) (some nextStatus), nextStatus)

/-- The status a join of this community is given. -/
def nextStatus (community : Community) : MemberStatus :=
  if community.visibility = .isPublic then .active else .pending

def joinCommunity (userId : UserId) (communityId : CommunityId) : Flow (CommunityDetail × MemberStatus) := do
  let community ← requireCommunity communityId
  let existing ← getMembership communityId userId
  match existing with
  | none => saveJoin communityId community userId false (nextStatus community)
  | some member =>
    if member.status = .active then
      pure (toDetail communityId community (some member.role) (some member.status), member.status)
    else do
      throwIf (member.status = .banned) bannedFromCommunity
      saveJoin communityId community userId true (nextStatus community)

/-- `respondJoinRequest`; it returns nothing for `REJECTED`. -/
def respondJoinRequest (actorUserId : UserId) (dto : RespondCommunityJoinDto) : Flow (Option MemberStatus) := do
  requireRole dto.communityId actorUserId [.owner, .admin]
  let membership ← getMembership dto.communityId dto.userId
  throwIf ((membership.all fun member => decide (member.status ≠ .pending)) = true) noPendingRequest
  if dto.accept then do
    let accepted : Except PrismaError Unit ← call (.acceptTransaction dto.communityId dto.userId)
    rethrow accepted
    pure (some .active)
  else do
    let deleted : Except PrismaError Unit ← call (.communityMemberDelete dto.communityId dto.userId)
    rethrow deleted
    pure none

def leaveCommunity (userId : UserId) (communityId : CommunityId) : Flow Unit := do
  let membership ← getMembership communityId userId
  match membership with
  | none => pure ()
  | some member =>
    if member.status ≠ .active then pure ()
    else do
      throwIf (member.role = .owner) ownerCannotLeave
      let left : Except PrismaError Unit ← call (.leaveTransaction communityId userId)
      rethrow left

def updateMemberRole (actorUserId : UserId) (dto : UpdateCommunityMemberRoleDto) : Flow Unit := do
  requireRole dto.communityId actorUserId [.owner]
  throwIf (dto.role = .owner) useTransferOwnership
  let membership ← getMembership dto.communityId dto.userId
  throwIf (isActive membership = false) memberNotFound
  let updated : Except PrismaError Unit ←
    call (.communityMemberUpdateRole dto.communityId dto.userId dto.role)
  rethrow updated

/-! ## Finding -/

/-- `searchCommunities`: the items and `nextCursor`. -/
def searchCommunities (query : CommunitySearchQueryDto) :
    Flow (List CommunitySummary × Option CommunityId) := do
  let rows : List (CommunityId × Community) ←
    call (.communityFindManyMatching (jsTrim query.q) query.cursor (query.limit + 1))
  let hasMore := decide (rows.length > query.limit)
  let page := if hasMore then rows.take query.limit else rows
  pure (page.map (fun entry => toSummary entry.1 entry.2),
    if hasMore then page.getLast?.map Prod.fst else none)

/-- `a.distance ?? 0`. -/
def distanceOf (entry : CommunitySummary × Option ℚ) : ℚ := entry.2.getD 0

/-- `listNearby`; without the functions of PostGIS, or when they find nothing, the largest public
communities. -/
def listNearby (dto : NearbyCommunitiesQueryDto) : Flow (List (CommunitySummary × Option ℚ)) := do
  let queried : Option (List (CommunityId × ℚ)) ←
    call (.queryCommunitiesWithin dto.lat dto.lng dto.radius dto.limit)
  let ids := queried.getD []
  if ids = [] then do
    let fallback : List (CommunityId × Community) ← call (.communityFindManyPublic dto.limit)
    pure (fallback.map fun entry => (toSummary entry.1 entry.2, none))
  else do
    let list : List (CommunityId × Community) ← call (.communityFindManyByIds (ids.map Prod.fst))
    pure ((list.map fun entry => (toSummary entry.1 entry.2, ids.lookup entry.1)).insertionSort
      fun first second => distanceOf first ≤ distanceOf second)

/-! ## A small installation -/

/-- A database that compares texts as they are and measures along one axis. -/
def smallDeployment : Deployment where
  containsInsensitive := fun value text =>
    value.toList.tails.any fun rest => text.toList.isPrefixOf rest
  postgis := true
  stDistance := fun first second => max (first.1 - second.1) (second.1 - first.1)
  stDWithin := fun first second radius => decide (max (first.1 - second.1) (second.1 - first.1) ≤ radius)

/-- Riders 1 to 4. -/
def smallUsers : Table UserId UserSelect :=
  (((Table.empty.insert 1 ⟨"first", none⟩).insert 2 ⟨"second", none⟩).insert 3 ⟨"third", none⟩).insert 4
    ⟨"fourth", none⟩

/-- Riders 1 to 4 and no community. -/
def smallInstallation : State where
  deployment := smallDeployment
  now := 0
  fresh := 1
  users := smallUsers
  communities := .empty
  members := .empty

end Motogram.Communities
