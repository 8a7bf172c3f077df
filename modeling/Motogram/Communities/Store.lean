import Mathlib.Data.List.Sort
import Mathlib.Tactic.Simps.Basic
import Motogram.Social.Store
import Motogram.Text

/-!
# The stores of the community service

What `community.service.ts` keeps: the communities, their members under the pair of community
and user, and of the users what a list of members shows. `CommunityCall` lists the calls, each
of them atomic, and `answer` says what a call replies and changes.

The function `find_communities_within` of the database is `State.communitiesWithin`; the
geography of PostGIS is fixed by the installation.
-/

set_option autoImplicit false

namespace Motogram.Communities

open Foundation
open Social (CommunityId MemberStatus)

/-! ## Rows -/

inductive CommunityVisibility where
  | isPublic
  | isPrivate
  | hidden
  deriving DecidableEq

inductive CommunityRole where
  | owner
  | admin
  | moderator
  | member
  deriving DecidableEq

/-- The order of the enumeration in the database. -/
def CommunityRole.rank : CommunityRole → Nat
  | .owner => 0
  | .admin => 1
  | .moderator => 2
  | .member => 3

structure Community where
  name : String
  description : Option String
  avatarUrl : Option String
  coverImageUrl : Option String
  visibility : CommunityVisibility
  region : Option String
  tags : List String
  rules : Option String
  ownerId : UserId
  latitude : Option ℚ
  longitude : Option ℚ
  membersCount : Int
  createdAt : Time
  deletedAt : Option Time
  deriving DecidableEq

/-- A membership. Its key, the pair of community and user, is kept by the table. -/
structure CommunityMember where
  role : CommunityRole
  status : MemberStatus
  joinedAt : Time
  deriving DecidableEq

/-- `user: { select: { id, username, avatarUrl } }`. -/
structure UserSelect where
  username : String
  avatarUrl : Option String
  deriving DecidableEq

/-! ## Requests and responses -/

/-- A body `CreateCommunitySchema` accepts. -/
structure CreateCommunityDto where
  name : String
  description : Option String
  avatarUrl : Option String
  coverImageUrl : Option String
  visibility : CommunityVisibility
  region : Option String
  tags : List String
  rules : Option String
  latitude : Option ℚ
  longitude : Option ℚ
  deriving DecidableEq

/-- A body `UpdateCommunitySchema` accepts: any of the same fields. -/
structure UpdateCommunityDto where
  name : Option String
  description : Option String
  avatarUrl : Option String
  coverImageUrl : Option String
  visibility : Option CommunityVisibility
  region : Option String
  tags : Option (List String)
  rules : Option String
  latitude : Option ℚ
  longitude : Option ℚ
  deriving DecidableEq

structure RespondCommunityJoinDto where
  communityId : CommunityId
  userId : UserId
  accept : Bool
  deriving DecidableEq

structure UpdateCommunityMemberRoleDto where
  communityId : CommunityId
  userId : UserId
  role : CommunityRole
  deriving DecidableEq

structure CommunitySearchQueryDto where
  q : String
  limit : Nat
  cursor : Option CommunityId
  deriving DecidableEq

structure NearbyCommunitiesQueryDto where
  lat : ℚ
  lng : ℚ
  radius : ℚ
  limit : Nat
  deriving DecidableEq

structure CommunitySummary where
  id : CommunityId
  name : String
  description : Option String
  avatarUrl : Option String
  coverImageUrl : Option String
  visibility : CommunityVisibility
  region : Option String
  tags : List String
  ownerId : UserId
  membersCount : Int
  latitude : Option ℚ
  longitude : Option ℚ
  createdAt : Time
  deriving DecidableEq

structure CommunityDetail extends CommunitySummary where
  rules : Option String
  viewerRole : Option CommunityRole
  viewerStatus : Option MemberStatus
  deriving DecidableEq

structure CommunityMemberDto where
  userId : UserId
  username : String
  avatarUrl : Option String
  role : CommunityRole
  status : MemberStatus
  joinedAt : Time
  deriving DecidableEq

structure PendingJoinRequest where
  userId : UserId
  username : String
  avatarUrl : Option String
  requestedAt : Time
  deriving DecidableEq

/-! ## The state -/

/-- What the installation fixes: the filter `contains` with `mode: 'insensitive'`, whether the
functions of PostGIS are there, and distances between points of latitude and longitude. -/
structure Deployment where
  containsInsensitive : String → String → Bool
  postgis : Bool
  stDistance : ℚ × ℚ → ℚ × ℚ → ℚ
  stDWithin : ℚ × ℚ → ℚ × ℚ → ℚ → Bool

structure State where
  deployment : Deployment
  now : Time
  fresh : Nat
  users : Table UserId UserSelect
  communities : Table CommunityId Community
  -- `@@id([communityId, userId])`
  members : Table (CommunityId × UserId) CommunityMember

section Setters

variable (s : State)

@[simps -fullyApplied] def State.withCommunities (communities : Table CommunityId Community) : State :=
  { s with communities := communities }

@[simps -fullyApplied] def State.withMembers (members : Table (CommunityId × UserId) CommunityMember) :
    State :=
  { s with members := members }

@[simps -fullyApplied] def State.elapsed (milliseconds : Nat) : State :=
  { s with now := s.now + milliseconds }

end Setters

/-! ## Changing the rows -/

def newCommunity (now : Time) (ownerId : UserId) (dto : CreateCommunityDto) : Community where
  name := dto.name
  description := dto.description
  avatarUrl := dto.avatarUrl
  coverImageUrl := dto.coverImageUrl
  visibility := dto.visibility
  region := dto.region
  tags := dto.tags
  rules := dto.rules
  ownerId := ownerId
  latitude := dto.latitude
  longitude := dto.longitude
  membersCount := 1
  createdAt := now
  deletedAt := none

/-- `data: dto`: the fields that are given. -/
def Community.patch (dto : UpdateCommunityDto) (community : Community) : Community :=
  { community with
    name := dto.name.getD community.name
    description := dto.description.or community.description
    avatarUrl := dto.avatarUrl.or community.avatarUrl
    coverImageUrl := dto.coverImageUrl.or community.coverImageUrl
    visibility := dto.visibility.getD community.visibility
    region := dto.region.or community.region
    tags := dto.tags.getD community.tags
    rules := dto.rules.or community.rules
    latitude := dto.latitude.or community.latitude
    longitude := dto.longitude.or community.longitude }

def Community.count (change : Int) (community : Community) : Community :=
  { community with membersCount := community.membersCount + change }

/-- `{ status, joinedAt: new Date() }`. -/
def CommunityMember.withStatus (status : MemberStatus) (now : Time) (member : CommunityMember) :
    CommunityMember :=
  { member with status := status, joinedAt := now }

def CommunityMember.withRole (role : CommunityRole) (member : CommunityMember) : CommunityMember :=
  { member with role := role }

/-- `communityMember.create`. -/
def State.createMember (s : State) (communityId : CommunityId) (userId : UserId) (member : CommunityMember) :
    Except PrismaError State :=
  if (s.members.find? (communityId, userId)).isSome then .error .uniqueViolation
  else if (s.users.find? userId).isNone || (s.communities.find? communityId).isNone then
    .error .foreignKeyViolation
  else .ok (s.withMembers (s.members.insert (communityId, userId) member))

/-- `communityMember.update`. -/
def State.updateMember (s : State) (communityId : CommunityId) (userId : UserId)
    (change : CommunityMember → CommunityMember) : Except PrismaError State :=
  if (s.members.find? (communityId, userId)).isNone then .error .recordNotFound
  else .ok (s.withMembers (s.members.modify (communityId, userId) change))

/-- `communityMember.delete`. -/
def State.deleteMember (s : State) (communityId : CommunityId) (userId : UserId) : Except PrismaError State :=
  if (s.members.find? (communityId, userId)).isNone then .error .recordNotFound
  else .ok (s.withMembers (s.members.erase (communityId, userId)))

/-- `membersCount: { increment }`. -/
def State.countMembers (s : State) (communityId : CommunityId) (change : Int) : Except PrismaError State :=
  if (s.communities.find? communityId).isNone then .error .recordNotFound
  else .ok (s.withCommunities (s.communities.modify communityId (Community.count change)))

/-- The transaction of `joinCommunity`. -/
def State.join (s : State) (communityId : CommunityId) (userId : UserId) (existing : Bool)
    (nextStatus : MemberStatus) : Except PrismaError State := do
  let joined ←
    if existing then s.updateMember communityId userId (CommunityMember.withStatus nextStatus s.now)
    else s.createMember communityId userId ⟨.member, nextStatus, s.now⟩
  if nextStatus = .active then joined.countMembers communityId 1 else .ok joined

/-- The transaction of `respondJoinRequest`. -/
def State.accept (s : State) (communityId : CommunityId) (userId : UserId) : Except PrismaError State := do
  let accepted ← s.updateMember communityId userId (CommunityMember.withStatus .active s.now)
  accepted.countMembers communityId 1

/-- The transaction of `leaveCommunity`. -/
def State.leave (s : State) (communityId : CommunityId) (userId : UserId) : Except PrismaError State := do
  let left ← s.deleteMember communityId userId
  left.countMembers communityId (-1)

/-! ## Reading the tables -/

/-- The point of a community, which a trigger keeps in `location_geo`. -/
def Community.locationGeo (community : Community) : Option (ℚ × ℚ) :=
  match community.latitude, community.longitude with
  | some latitude, some longitude => some (latitude, longitude)
  | _, _ => none

/-- `find_communities_within`: the public communities within the radius, the nearest first. -/
def State.communitiesWithin (s : State) (point : ℚ × ℚ) (radius : ℚ) : List (CommunityId × ℚ) :=
  ((s.communities.select fun _ community => community.deletedAt.isNone &&
      decide (community.visibility = .isPublic) &&
        community.locationGeo.any fun geo => s.deployment.stDWithin geo point radius).map fun entry =>
    (entry.1, (entry.2.locationGeo.map fun geo => s.deployment.stDistance geo point).getD 0)).insertionSort
      fun first second => first.2 ≤ second.2

/-- The filter of `searchCommunities`. -/
def Community.found (deployment : Deployment) (text : String) (community : Community) : Bool :=
  community.deletedAt.isNone && decide (community.visibility ≠ .hidden) &&
    (deployment.containsInsensitive community.name text ||
      community.description.any fun description => deployment.containsInsensitive description text)

def State.membersWith (s : State) (communityId : CommunityId) (status : MemberStatus) :
    List (UserId × CommunityMember × UserSelect) :=
  (s.members.select fun pair member => decide (pair.1 = communityId) && decide (member.status = status)).filterMap
    fun entry => (s.users.find? entry.1.2).map fun user => (entry.1.2, entry.2, user)

/-! ## Calls and replies -/

inductive CommunityCall where
  | communityFindFirst (communityId : CommunityId)
  | communityMemberFindUnique (communityId : CommunityId) (userId : UserId)
  | createCommunityTransaction (ownerId : UserId) (dto : CreateCommunityDto)
  | communityUpdate (communityId : CommunityId) (dto : UpdateCommunityDto)
  | joinTransaction (communityId : CommunityId) (userId : UserId) (existing : Bool) (nextStatus : MemberStatus)
  | acceptTransaction (communityId : CommunityId) (userId : UserId)
  | leaveTransaction (communityId : CommunityId) (userId : UserId)
  | communityMemberDelete (communityId : CommunityId) (userId : UserId)
  | communityMemberUpdateRole (communityId : CommunityId) (userId : UserId) (role : CommunityRole)
  -- lists
  | communityMemberFindManyActive (communityId : CommunityId)
  | communityMemberFindManyPending (communityId : CommunityId)
  | communityMemberFindManyOfUser (userId : UserId)
  | communityFindManyMatching (text : String) (cursor : Option CommunityId) (take : Nat)
  | queryCommunitiesWithin (lat lng radius : ℚ) (limit : Nat)
  | communityFindManyPublic (take : Nat)
  | communityFindManyByIds (ids : List CommunityId)
  | elapse (milliseconds : Nat)
  deriving DecidableEq

@[reducible] def CommunityReply : CommunityCall → Type
  | .communityFindFirst _ => Option Community
  | .communityMemberFindUnique _ _ => Option CommunityMember
  | .createCommunityTransaction _ _ => Except PrismaError (CommunityId × Community)
  | .communityUpdate _ _ => Except PrismaError Community
  | .joinTransaction _ _ _ _ => Except PrismaError Unit
  | .acceptTransaction _ _ => Except PrismaError Unit
  | .leaveTransaction _ _ => Except PrismaError Unit
  | .communityMemberDelete _ _ => Except PrismaError Unit
  | .communityMemberUpdateRole _ _ _ => Except PrismaError Unit
  | .communityMemberFindManyActive _ => List (UserId × CommunityMember × UserSelect)
  | .communityMemberFindManyPending _ => List (UserId × CommunityMember × UserSelect)
  | .communityMemberFindManyOfUser _ => List (CommunityId × Community)
  | .communityFindManyMatching _ _ _ => List (CommunityId × Community)
  | .queryCommunitiesWithin _ _ _ _ => Option (List (CommunityId × ℚ))
  | .communityFindManyPublic _ => List (CommunityId × Community)
  | .communityFindManyByIds _ => List (CommunityId × Community)
  | .elapse _ => Unit

/-! ## Answers -/

/-- A write: its state, or the error and the state as it was. -/
def State.written (s : State) : Except PrismaError State → Except PrismaError Unit × State
  | .ok after => (.ok (), after)
  | .error error => (.error error, s)

def answer : (call : CommunityCall) → State → CommunityReply call × State
  | .communityFindFirst communityId, s =>
    ((s.communities.find? communityId).filter fun community => community.deletedAt.isNone, s)
  | .communityMemberFindUnique communityId userId, s => (s.members.find? (communityId, userId), s)
  | .createCommunityTransaction ownerId dto, s =>
    if (s.users.find? ownerId).isNone then (.error .foreignKeyViolation, s)
    else
      (.ok (s.fresh, newCommunity s.now ownerId dto),
        { s with
          fresh := s.fresh + 1
          communities := s.communities.insert s.fresh (newCommunity s.now ownerId dto)
          members := s.members.insert (s.fresh, ownerId) ⟨.owner, .active, s.now⟩ })
  | .communityUpdate communityId dto, s =>
    match s.communities.find? communityId with
    | none => (.error .recordNotFound, s)
    | some community =>
      (.ok (community.patch dto),
        s.withCommunities (s.communities.modify communityId (Community.patch dto)))
  | .joinTransaction communityId userId existing nextStatus, s =>
    s.written (s.join communityId userId existing nextStatus)
  | .acceptTransaction communityId userId, s => s.written (s.accept communityId userId)
  | .leaveTransaction communityId userId, s => s.written (s.leave communityId userId)
  | .communityMemberDelete communityId userId, s => s.written (s.deleteMember communityId userId)
  | .communityMemberUpdateRole communityId userId role, s =>
    s.written (s.updateMember communityId userId (CommunityMember.withRole role))
  | .communityMemberFindManyActive communityId, s =>
    ((s.membersWith communityId .active).insertionSort fun first second =>
      first.2.1.role.rank < second.2.1.role.rank ∨
        (first.2.1.role.rank = second.2.1.role.rank ∧ first.2.1.joinedAt ≤ second.2.1.joinedAt), s)
  | .communityMemberFindManyPending communityId, s =>
    ((s.membersWith communityId .pending).insertionSort fun first second =>
      first.2.1.joinedAt ≤ second.2.1.joinedAt, s)
  | .communityMemberFindManyOfUser userId, s =>
    (((s.members.select fun pair member =>
        decide (pair.2 = userId) && decide (member.status = .active)).insertionSort fun first second =>
      second.2.joinedAt ≤ first.2.joinedAt).filterMap fun entry =>
        (s.communities.find? entry.1.1).map fun community => (entry.1.1, community), s)
  | .communityFindManyMatching text cursor take, s =>
    (((s.communities.select fun communityId community => community.found s.deployment text &&
        cursor.all fun cursor => decide (cursor < communityId)).insertionSort fun first second =>
      first.1 ≤ second.1).take take, s)
  | .queryCommunitiesWithin lat lng radius limit, s =>
    (if s.deployment.postgis then some ((s.communitiesWithin (lat, lng) radius).take limit) else none, s)
  | .communityFindManyPublic take, s =>
    (((s.communities.select fun _ community =>
        community.deletedAt.isNone && decide (community.visibility = .isPublic)).insertionSort
      fun first second => second.2.membersCount ≤ first.2.membersCount).take take, s)
  | .communityFindManyByIds ids, s =>
    (s.communities.select fun communityId community =>
      decide (communityId ∈ ids) && community.deletedAt.isNone, s)
  | .elapse milliseconds, s => ((), s.elapsed milliseconds)

/-! ## Service functions -/

abbrev Flow (Value : Type) := Program CommunityCall CommunityReply ServiceError Value

/-- Run a service function alone. -/
abbrev Flow.exec {Value : Type} (flow : Flow Value) (s : State) :
    Except ServiceError Value × State :=
  Program.run answer flow s

/-- Make one call and return its reply. -/
abbrev call (request : CommunityCall) : Flow (CommunityReply request) := .call request .done

def rethrow {Value : Type} (reply : Except PrismaError Value) : Flow Value :=
  match reply with
  | .ok value => .done value
  | .error error => .fail (.prisma error)

end Motogram.Communities
