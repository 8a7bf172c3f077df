import Mathlib.Data.List.Sort
import Mathlib.Tactic.Simps.Basic
import Motogram.Entities
import Motogram.Foundation.Interleaving
import Motogram.Foundation.Table

/-!
# The stores of the social services

The tables of riders, follows, blocks, posts, stories, communities and events: the columns
of them that the follow, block, user, like, comment, post and story services read or write,
and those the counters are counted from. A table that has a unique index is kept under the
columns of that index.

`SocialCall` lists the calls of the follow, block and user services, each of them atomic,
and `answer` says what a call replies and changes.
-/

set_option autoImplicit false

namespace Motogram.Social

open Foundation

abbrev PostId := Nat
abbrev CommentId := Nat
abbrev StoryId := Nat
abbrev CommunityId := Nat

/-! ## Rows -/

structure User where
  username : String
  name : Option String
  isPrivate : Bool
  isBanned : Bool
  deletedAt : Option Time
  followersCount : Int
  followingCount : Int
  postsCount : Int
  deriving DecidableEq

structure Post where
  userId : UserId
  likesCount : Int
  commentsCount : Int
  deletedAt : Option Time
  deriving DecidableEq

structure Comment where
  postId : PostId
  userId : UserId
  deletedAt : Option Time
  deriving DecidableEq

structure Story where
  userId : UserId
  viewsCount : Int
  expiresAt : Time
  deriving DecidableEq

inductive MemberStatus where
  | pending
  | active
  | banned
  deriving DecidableEq

structure Community where
  ownerId : UserId
  membersCount : Int
  deriving DecidableEq

inductive RsvpStatus where
  | going
  | interested
  | notGoing
  | waitlist
  deriving DecidableEq

structure Event where
  organizerId : UserId
  communityId : Option CommunityId
  participantsCount : Int
  deriving DecidableEq

/-! ## The state -/

/-- What the database compares texts with: the filters `startsWith` and `contains` with
`mode: 'insensitive'`. -/
structure Deployment where
  startsWithInsensitive : String → String → Bool
  containsInsensitive : String → String → Bool

structure State where
  deployment : Deployment
  now : Time
  fresh : Nat
  users : Table UserId User
  -- `@@unique([followerId, followingId])`
  follows : Table (UserId × UserId) FollowStatus
  -- `@@unique([initiatorId, targetId])`, with `createdAt`
  blocks : Table (UserId × UserId) Time
  posts : Table PostId Post
  comments : Table CommentId Comment
  -- `@@unique([postId, userId])`
  likes : Table (PostId × UserId) Unit
  stories : Table StoryId Story
  -- `@@unique([storyId, viewerId])`
  storyViews : Table (StoryId × UserId) Unit
  communities : Table CommunityId Community
  -- `@@id([communityId, userId])`
  communityMembers : Table (CommunityId × UserId) MemberStatus
  events : Table EventId Event
  -- `@@id([eventId, userId])`
  eventParticipants : Table (EventId × UserId) RsvpStatus
  -- `gamification.trigger` FOLLOW_GAINED: the followed rider and the follower
  followGained : List (UserId × UserId)

/-- An installation with these riders and nothing else. -/
def State.initial (deployment : Deployment) (now : Time) (users : Table UserId User) : State where
  deployment := deployment
  now := now
  fresh := 0
  users := users
  follows := .empty
  blocks := .empty
  posts := .empty
  comments := .empty
  likes := .empty
  stories := .empty
  storyViews := .empty
  communities := .empty
  communityMembers := .empty
  events := .empty
  eventParticipants := .empty
  followGained := []

section Setters

variable (s : State)

@[simps -fullyApplied] def State.withFollows (users : Table UserId User)
    (follows : Table (UserId × UserId) FollowStatus) : State :=
  { s with users := users, follows := follows }

@[simps -fullyApplied] def State.withBlocks (blocks : Table (UserId × UserId) Time) : State :=
  { s with blocks := blocks }

@[simps -fullyApplied] def State.withUsers (users : Table UserId User) : State :=
  { s with users := users }

@[simps -fullyApplied] def State.withFollowGained (userId followerId : UserId) : State :=
  { s with followGained := s.followGained ++ [(userId, followerId)] }

end Setters

/-! ## Requests and responses -/

/-- A body `UpdateProfileSchema` accepts, of the columns kept here. -/
structure UpdateProfileDto where
  name : Option String
  isPrivate : Option Bool
  deriving DecidableEq

/-- A query `UserSearchQuerySchema` accepts. -/
structure UserSearchQueryDto where
  q : String
  limit : Nat
  cursor : Option UserId
  limit_range : 1 ≤ limit ∧ limit ≤ 30
  deriving DecidableEq

/-- `publicSelect()`, of the columns kept here. -/
structure UserPublic where
  id : UserId
  username : String
  name : Option String
  isPrivate : Bool
  followersCount : Int
  followingCount : Int
  postsCount : Int
  deriving DecidableEq

def User.toPublic (userId : UserId) (user : User) : UserPublic where
  id := userId
  username := user.username
  name := user.name
  isPrivate := user.isPrivate
  followersCount := user.followersCount
  followingCount := user.followingCount
  postsCount := user.postsCount

/-- A condition on the column `id`. -/
inductive IdFilter where
  | notIn (userIds : List UserId)
  | gt (cursor : UserId)
  deriving DecidableEq

def IdFilter.holds : IdFilter → UserId → Bool
  | .notIn userIds, userId => !decide (userId ∈ userIds)
  | .gt cursor, userId => decide (cursor < userId)

/-- The filter of a search: active riders that are not banned, whose username starts with
the text or whose name contains it. -/
structure UserWhere where
  id : IdFilter
  text : String
  deriving DecidableEq

/-- The texts of a rider that a search compares. -/
def User.matchesText (deployment : Deployment) (text : String) (user : User) : Bool :=
  deployment.startsWithInsensitive user.username text ||
    user.name.any fun name => deployment.containsInsensitive name text

/-- An active rider who is not banned and whom the text finds. -/
def User.found (deployment : Deployment) (text : String) (user : User) : Bool :=
  user.deletedAt.isNone && !user.isBanned && user.matchesText deployment text

/-! ## Calls and replies -/

inductive SocialCall where
  | userFindActive (userId : UserId)
  | userUpdate (userId : UserId) (dto : UpdateProfileDto)
  | userFindMany (filter : UserWhere) (take : Nat)
  | blockFindBetween (first second : UserId)
  | blockFindManyOf (userId : UserId)
  | blockUpsert (initiatorId targetId : UserId)
  | blockDeleteMany (initiatorId targetId : UserId)
  | followFindUnique (followerId followingId : UserId)
  | followTransaction (followerId followingId : UserId) (status : FollowStatus)
  | unfollowTransaction (followerId followingId : UserId) (existing : FollowStatus)
  | emitFollowGained (userId followerId : UserId)
  deriving DecidableEq

@[reducible] def SocialReply : SocialCall → Type
  | .userFindActive _ => Option User
  | .userUpdate _ _ => Except PrismaError UserPublic
  | .userFindMany _ _ => List UserPublic
  | .blockFindBetween _ _ => Bool
  | .blockFindManyOf _ => List (UserId × UserId)
  | .blockUpsert _ _ => Except PrismaError Time
  | .blockDeleteMany _ _ => Unit
  | .followFindUnique _ _ => Option FollowStatus
  | .followTransaction _ _ _ => Except PrismaError Unit
  | .unfollowTransaction _ _ _ => Except PrismaError Unit
  | .emitFollowGained _ _ => Unit

/-! ## Changing the rows -/

def User.patch (dto : UpdateProfileDto) (user : User) : User :=
  { user with
    name := dto.name.or user.name
    isPrivate := dto.isPrivate.getD user.isPrivate }

def User.countFollower (change : Int) (user : User) : User :=
  { user with followersCount := user.followersCount + change }

def User.countFollowing (change : Int) (user : User) : User :=
  { user with followingCount := user.followingCount + change }

/-- The two counters an accepted follow is counted in. -/
def countFollow (users : Table UserId User) (followerId followingId : UserId) (change : Int) :
    Table UserId User :=
  (users.modify followingId (User.countFollower change)).modify followerId
    (User.countFollowing change)

/-- The rows a filter of a search selects, in the order of their ids. -/
def State.search (s : State) (filter : UserWhere) : List (UserId × User) :=
  (s.users.select fun userId user =>
    filter.id.holds userId && user.found s.deployment filter.text).insertionSort
      fun first second => first.1 ≤ second.1

/-! ## Answers -/

def answer : (call : SocialCall) → State → SocialReply call × State
  | .userFindActive userId, s =>
    ((s.users.find? userId).filter fun user => user.deletedAt.isNone && !user.isBanned, s)
  | .userUpdate userId dto, s =>
    match s.users.find? userId with
    | none => (.error .recordNotFound, s)
    | some user =>
      (.ok ((user.patch dto).toPublic userId), s.withUsers (s.users.modify userId (User.patch dto)))
  | .userFindMany filter take, s =>
    (((s.search filter).take take).map fun entry => entry.2.toPublic entry.1, s)
  | .blockFindBetween first second, s =>
    ((s.blocks.find? (first, second)).isSome || (s.blocks.find? (second, first)).isSome, s)
  | .blockFindManyOf userId, s =>
    ((s.blocks.select fun pair _ => decide (pair.1 = userId) || decide (pair.2 = userId)).map
      Prod.fst, s)
  | .blockUpsert initiatorId targetId, s =>
    match s.blocks.find? (initiatorId, targetId) with
    | some createdAt => (.ok createdAt, s)
    | none =>
      if (s.users.find? initiatorId).isNone || (s.users.find? targetId).isNone then
        (.error .foreignKeyViolation, s)
      else (.ok s.now, s.withBlocks (s.blocks.insert (initiatorId, targetId) s.now))
  | .blockDeleteMany initiatorId targetId, s =>
    ((), s.withBlocks (s.blocks.erase (initiatorId, targetId)))
  | .followFindUnique followerId followingId, s => (s.follows.find? (followerId, followingId), s)
  | .followTransaction followerId followingId status, s =>
    if (s.users.find? followerId).isNone || (s.users.find? followingId).isNone then
      (.error .foreignKeyViolation, s)
    else
      (.ok (), s.withFollows
        (if status = .accepted then countFollow s.users followerId followingId 1 else s.users)
        (s.follows.upsert (followerId, followingId) status))
  | .unfollowTransaction followerId followingId existing, s =>
    if (s.follows.find? (followerId, followingId)).isNone then (.error .recordNotFound, s)
    else if existing = .accepted then
      if (s.users.find? followerId).isNone || (s.users.find? followingId).isNone then
        (.error .recordNotFound, s)
      else
        (.ok (), s.withFollows (countFollow s.users followerId followingId (-1))
          (s.follows.erase (followerId, followingId)))
    else
      (.ok (), s.withFollows s.users
        (s.follows.erase (followerId, followingId)))
  | .emitFollowGained userId followerId, s => ((), s.withFollowGained userId followerId)

/-! ## Service functions -/

abbrev Flow (Value : Type) := Program SocialCall SocialReply ServiceError Value

/-- Run a service function alone. -/
abbrev Flow.exec {Value : Type} (flow : Flow Value) (s : State) :
    Except ServiceError Value × State :=
  Program.run answer flow s

/-- Make one call and return its reply. -/
abbrev call (request : SocialCall) : Flow (SocialReply request) := .call request .done

def rethrow {Value : Type} (reply : Except PrismaError Value) : Flow Value :=
  match reply with
  | .ok value => .done value
  | .error error => .fail (.prisma error)

end Motogram.Social
