import Mathlib.Data.Rat.Defs

/-!
# Rows, payloads and errors

The data the party and location services read, write and send: the columns of
the Prisma schema that they use, the request bodies after validation, the
responses, the socket events and the exceptions.

An identifier is a UUID in its canonical text form. It is only compared, and
two canonical UUIDs compare as their 128-bit values do, so it is a number here.
A time is a count of milliseconds, as `Date.now()` gives it; `toISOString` is a
rendering of it and is left out. Coordinates, headings and speeds are the
numbers the schemas accept; the services pass them on and compute nothing with
them.
-/

set_option autoImplicit false

namespace Motogram

abbrev UserId := Nat
abbrev PartyId := Nat
abbrev InviteId := Nat
abbrev RouteId := Nat
abbrev EventId := Nat
abbrev SocketId := Nat

/-- Milliseconds since the epoch. -/
abbrev Time := Nat

/-! ## Rows -/

inductive LocationSharingMode where
  | off
  | followersOnly
  | mutualFollowers
  | groupMembers
  | partyOnly
  | publicMode
  deriving DecidableEq

structure User where
  username : String
  avatarUrl : Option String
  city : Option String
  locationSharing : LocationSharingMode
  isBanned : Bool
  deletedAt : Option Time
  deriving DecidableEq

inductive RoutePrivacy where
  | publicRoute
  | followersOnly
  | privateRoute
  deriving DecidableEq

structure PartyWaypoint where
  lat : ℚ
  lng : ℚ
  label : Option String
  deriving DecidableEq

structure Route where
  name : String
  distance : ℚ
  estimatedDuration : Nat
  waypoints : List PartyWaypoint
  privacy : RoutePrivacy
  deletedAt : Option Time
  deriving DecidableEq

inductive PartyStatus where
  | waiting
  | riding
  | paused
  | ended
  deriving DecidableEq

structure Party where
  name : String
  leaderId : UserId
  coLeaderIds : List UserId
  routeId : Option RouteId
  eventId : Option EventId
  status : PartyStatus
  isPrivate : Bool
  maxMembers : Nat
  startedAt : Option Time
  endedAt : Option Time
  createdAt : Time
  deletedAt : Option Time
  deriving DecidableEq

inductive PartyRole where
  | leader
  | coLeader
  | member
  deriving DecidableEq

/-- A membership row. Its key, the pair of party and user, is kept by the table. -/
structure PartyMember where
  role : PartyRole
  isOnline : Bool
  joinedAt : Time
  leftAt : Option Time
  serverHostname : Option String
  deriving DecidableEq

inductive PartyInviteStatus where
  | pending
  | accepted
  | declined
  | expired
  deriving DecidableEq

structure PartyInvite where
  partyId : PartyId
  inviterId : UserId
  inviteeId : UserId
  status : PartyInviteStatus
  createdAt : Time
  respondedAt : Option Time
  deriving DecidableEq

inductive FollowStatus where
  | pending
  | accepted
  | blocked
  deriving DecidableEq

/-! ## Requests and responses -/

/-- A body `CreatePartySchema` accepts. -/
structure CreatePartyDto where
  name : String
  routeId : Option RouteId
  eventId : Option EventId
  isPrivate : Bool
  maxMembers : Nat
  coLeaderIds : List UserId
  maxMembers_range : 2 ≤ maxMembers ∧ maxMembers ≤ 50

structure PartySummary where
  id : PartyId
  name : String
  leaderId : UserId
  coLeaderIds : List UserId
  status : PartyStatus
  routeId : Option RouteId
  memberCount : Nat
  isPrivate : Bool
  maxMembers : Nat
  startedAt : Option Time
  endedAt : Option Time
  createdAt : Time
  deriving DecidableEq

structure PartyMemberDto where
  userId : UserId
  username : String
  avatarUrl : Option String
  role : PartyRole
  isOnline : Bool
  joinedAt : Time
  deriving DecidableEq

structure RouteSummary where
  id : RouteId
  name : String
  distance : ℚ
  estimatedDuration : Nat
  waypoints : List PartyWaypoint
  privacy : RoutePrivacy
  deriving DecidableEq

structure PartyDetail extends PartySummary where
  route : Option RouteSummary
  members : List PartyMemberDto
  deriving DecidableEq

/-- What `leaveParty` returns. -/
structure LeaveResult where
  ended : Bool
  newLeaderId : Option UserId
  deriving DecidableEq

inductive SessionSource where
  | globalVisibility
  | party
  | emergency
  deriving DecidableEq

/-- The fields of `UpdateLocationSchema` that `updateLocation` reads. -/
structure UpdateLocationDto where
  lat : ℚ
  lng : ℚ
  heading : Option ℚ
  speed : Option ℚ
  city : Option String
  partyId : Option PartyId
  source : Option SessionSource
  deriving DecidableEq

/-- The fields of `WsPartyUpdateLocationSchema` that the gateway reads. -/
structure WsPartyUpdateLocation where
  partyId : PartyId
  lat : ℚ
  lng : ℚ
  heading : Option ℚ
  speed : Option ℚ
  deriving DecidableEq

inductive PartySignalType where
  | regroup
  | stop
  | fuel
  deriving DecidableEq

structure WsPartySendSignal where
  partyId : PartyId
  type : PartySignalType
  deriving DecidableEq

inductive MapFilter where
  | nearby
  | friends
  | parties
  | events
  deriving DecidableEq

structure NearbyQuery where
  lat : ℚ
  lng : ℚ
  radius : ℚ
  filter : MapFilter
  limit : Nat
  city : Option String
  deriving DecidableEq

/-! ## Socket events -/

inductive LeaveReason where
  | left
  | disconnectTimeout
  | kicked
  deriving DecidableEq

inductive EndReason where
  | leaderLeftAlone
  | manual
  | timeout
  deriving DecidableEq

inductive LeaderChangeReason where
  | leaderLeft
  | leaderOffline
  | manual
  deriving DecidableEq

/-- The events the gateway broadcasts to the room of a party. -/
inductive PartyEvent where
  | memberJoined (partyId : PartyId) (member : PartyMemberDto)
  | memberLeft (partyId : PartyId) (userId : UserId) (reason : LeaveReason)
  | statusChanged (partyId : PartyId) (status : PartyStatus)
  | leaderChanged (partyId : PartyId) (newLeaderId : UserId) (reason : LeaderChangeReason)
  | signalReceived (partyId : PartyId) (type : PartySignalType) (senderId : UserId)
      (senderName : String) (timestamp : Time)
  | ended (partyId : PartyId) (reason : EndReason)
  | memberUpdated (partyId : PartyId) (userId : UserId) (lat lng : ℚ)
      (heading speed : Option ℚ) (timestamp : Time)
  deriving DecidableEq

/-- The party whose room an event is sent to. -/
def PartyEvent.partyId : PartyEvent → PartyId
  | .memberJoined partyId _ => partyId
  | .memberLeft partyId _ _ => partyId
  | .statusChanged partyId _ => partyId
  | .leaderChanged partyId _ _ => partyId
  | .signalReceived partyId _ _ _ _ => partyId
  | .ended partyId _ => partyId
  | .memberUpdated partyId _ _ _ _ _ _ => partyId

/-! ## Exceptions -/

/-- The known request errors of Prisma that the services can meet. -/
inductive PrismaError where
  | uniqueViolation      -- P2002
  | foreignKeyViolation  -- P2003
  | recordNotFound       -- P2025
  deriving DecidableEq

/-- The errors of Redis: a key of another type, and coordinates the geo index does not take. -/
inductive RedisError where
  | wrongType
  | invalidCoordinates
  deriving DecidableEq

inductive ExceptionKind where
  | badRequest
  | conflict
  | forbidden
  | notFound
  | unauthorized
  | tooManyRequests
  | serviceUnavailable
  deriving DecidableEq

/-- The numbers of `ErrorCodes`. -/
inductive ErrorCode where
  | validationFailed
  | unauthorized
  | invalidCredentials
  | tokenInvalid
  | forbidden
  | blocked
  | notFound
  | conflict
  | userExists
  | rateLimited
  | oauthNotConfigured
  deriving DecidableEq

/-- An exception a service throws or lets through. -/
inductive ServiceError where
  | http (kind : ExceptionKind) (error : String) (code : ErrorCode) (details : Option PartyId)
  | prisma (error : PrismaError)
  | redis (error : RedisError)
  deriving DecidableEq

/-- The message of a `party:error`: a fixed text, the text of an exception, or
the text of the validation library. -/
inductive WsErrorMessage where
  | text (message : String)
  | exception (error : ServiceError)
  | validation
  deriving DecidableEq

structure WsPartyError where
  event : String
  code : String
  message : WsErrorMessage
  deriving DecidableEq

/-- What the gateway hands to Socket.IO: an event for the room of a party,
possibly sparing one socket, or an error for one socket. -/
inductive Emission where
  | room (event : PartyEvent) (except : Option SocketId)
  | client (socket : SocketId) (error : WsPartyError)
  deriving DecidableEq

end Motogram
