import Motogram.Foundation.Reading
import Motogram.Social.Service

/-!
# The lists of followers

`follows.service.ts`: `listFollowersForProfile` and `listFollowingForProfile`. Both read the
accepted follows of a profile in the order of their ids, without the riders whom a block
separates from the viewer, and show the rider on the other side of each follow. The two
differ in the column that is the profile's and in the one that is shown.
-/

set_option autoImplicit false

namespace Motogram.Listings

open Foundation
open Social (userNotFound addToSet blockPeer)

abbrev FollowId := Nat

/-! ## Rows -/

/-- `FOLLOW_LIST_USER_SELECT`, without the key. -/
structure FollowListUser where
  username : String
  name : Option String
  bio : Option String
  avatarUrl : Option String
  coverImageUrl : Option String
  city : Option String
  country : Option String
  ridingStyle : List String
  isPrivate : Bool
  isVerified : Bool
  followersCount : Int
  followingCount : Int
  postsCount : Int
  xp : Nat
  level : Nat
  createdAt : Time
  deriving DecidableEq

/-- A row of the users, of the columns read here. -/
structure UserRow extends FollowListUser where
  isBanned : Bool
  deletedAt : Option Time
  deriving DecidableEq

structure Follow where
  followerId : UserId
  followingId : UserId
  status : FollowStatus
  deriving DecidableEq

/-- The tables the follow lists read. The riders of a follow are there: a follow goes with
either of them. -/
structure FollowTables where
  users : Table UserId UserRow
  follows : Table FollowId Follow
  blocks : Table (UserId × UserId) Unit
  refers : ∀ entry ∈ follows.entries,
    (users.find? entry.2.followerId).isSome ∧ (users.find? entry.2.followingId).isSome

/-! ## Requests and responses -/

/-- A query `FollowListQuerySchema` accepts. -/
structure FollowListQueryDto where
  cursor : Option FollowId
  limit : Nat
  limit_range : 1 ≤ limit ∧ limit ≤ 50

structure FollowListItem extends FollowListUser where
  id : UserId
  isFollowedByMe : Bool
  deriving DecidableEq

structure FollowListPage where
  items : List FollowListItem
  nextCursor : Option FollowId
  deriving DecidableEq

/-! ## Queries -/

/-- The two lists of a profile. -/
inductive FollowSide where
  | followers
  | following
  deriving DecidableEq

/-- The column that is the profile's. -/
def FollowSide.profileId : FollowSide → Follow → UserId
  | .followers, follow => follow.followingId
  | .following, follow => follow.followerId

/-- The column of the rider who is shown. -/
def FollowSide.peerId : FollowSide → Follow → UserId
  | .followers, follow => follow.followerId
  | .following, follow => follow.followingId

/-- The filter of a list, its cursor apart. -/
def FollowSide.listed (side : FollowSide) (profileUserId : UserId) (blocked : List UserId)
    (follow : Follow) : Bool :=
  decide (side.profileId follow = profileUserId) && decide (follow.status = .accepted) &&
    (blocked.isEmpty || !decide (side.peerId follow ∈ blocked))

section Queries

variable (s : FollowTables)

def FollowTables.includePeers (side : FollowSide) (rows : List (FollowId × Follow)) :
    List (FollowId × UserId × UserRow) :=
  rows.filterMap fun entry => (s.users.find? (side.peerId entry.2)).map fun user =>
    (entry.1, side.peerId entry.2, user)

/-- `follow.findMany` of a list. -/
def FollowTables.followFindMany (side : FollowSide) (profileUserId : UserId) (blocked : List UserId)
    (cursor : Option FollowId) (take : Nat) : List (FollowId × UserId × UserRow) :=
  s.includePeers side (((s.follows.select fun followId follow => side.listed profileUserId blocked follow &&
    cursor.all fun cursor => decide (cursor < followId)).insertionSort
      fun first second => first.1 ≤ second.1).take take)

def FollowTables.assertViewableUser (userId : UserId) : Except ServiceError Unit :=
  if ((s.users.find? userId).filter fun user => user.deletedAt.isNone && !user.isBanned).isSome then
    .ok ()
  else .error Social.userNotFound

def FollowTables.viewerBlockedPeerIds (viewerId : UserId) : List UserId :=
  ((s.blocks.select fun pair _ => decide (pair.1 = viewerId) || decide (pair.2 = viewerId)).map
    Prod.fst).foldl (fun ids pair => addToSet ids (blockPeer viewerId pair)) []

def FollowTables.batchIsFollowedByMe (viewerId : UserId) (targetUserIds : List UserId) : List UserId :=
  if targetUserIds = [] then []
  else (s.follows.select fun _ follow => decide (follow.followerId = viewerId) &&
    decide (follow.followingId ∈ targetUserIds) && decide (follow.status = .accepted)).map
      fun entry => entry.2.followingId

end Queries

/-! ## The lists -/

/-- `{ ...u, isFollowedByMe: followed.has(u.id) }`. -/
def toItem (isFollowed : UserId → Bool) (userId : UserId) (user : UserRow) : FollowListItem where
  toFollowListUser := user.toFollowListUser
  id := userId
  isFollowedByMe := isFollowed userId

section Lists

variable (s : FollowTables)

/-- `pageToFollowListResponse` and `pageToFollowingListResponse`, with `buildFollowListPage`. -/
def FollowTables.buildFollowListPage (viewerId : UserId) (rows : List (FollowId × UserId × UserRow))
    (limit : Nat) : FollowListPage :=
  let hasMore := decide (rows.length > limit)
  let page := if hasMore then rows.take limit else rows
  let followed := s.batchIsFollowedByMe viewerId (page.map fun row => row.2.1)
  { items := page.map fun row => toItem (fun userId => decide (userId ∈ followed)) row.2.1 row.2.2
    nextCursor := if hasMore then page.getLast?.map Prod.fst else none }

def FollowTables.listForProfile (side : FollowSide) (viewerId profileUserId : UserId)
    (query : FollowListQueryDto) : Except ServiceError FollowListPage := do
  s.assertViewableUser profileUserId
  let blocked := s.viewerBlockedPeerIds viewerId
  let rows := s.followFindMany side profileUserId blocked query.cursor (query.limit + 1)
  return s.buildFollowListPage viewerId rows query.limit

def FollowTables.listFollowersForProfile (viewerId profileUserId : UserId) (query : FollowListQueryDto) :
    Except ServiceError FollowListPage :=
  s.listForProfile .followers viewerId profileUserId query

def FollowTables.listFollowingForProfile (viewerId profileUserId : UserId) (query : FollowListQueryDto) :
    Except ServiceError FollowListPage :=
  s.listForProfile .following viewerId profileUserId query

end Lists

end Motogram.Listings
