import Mathlib.Data.List.Sort
import Mathlib.Data.Rat.Defs
import Mathlib.Algebra.Order.Ring.Unbundled.Rat
import Mathlib.Tactic.Simps.Basic
import Motogram.Entities
import Motogram.Foundation.Interleaving
import Motogram.Foundation.Table

/-!
# The stores the services share

`State` is everything the party and location services keep outside their own
variables: the tables in Postgres, the keys in Redis, the sockets and rooms of
Socket.IO, the events handed to Socket.IO so far, and the clock.

`StoreCall` lists the calls the services make, each of them atomic: one Prisma
call, one `$transaction`, one Redis command, one `multi` block, one Socket.IO
call. `answer` says what a call replies and what it changes. A Redis `pipeline`
is not atomic, so a service sends its commands one by one.

The keys of one family never meet the keys of another, so a family is a field
of its own. The one exception is kept: `user_locations:_shards` holds the set of
shard names, and it is also the shard of a city called `_shards`. The location
keys are therefore one field, and a command on a key of the wrong type fails.

A key with a time to live carries its deadline and is read as absent from the
deadline on.
-/

set_option autoImplicit false

namespace Motogram

open Foundation Program Function

/-! ## Values kept in Redis -/

structure Expiring (Value : Type) where
  value : Value
  deadline : Option Time
  deriving DecidableEq

namespace Expiring

variable {Value : Type}

/-- The entry as it is read at a time: absent from its deadline on. -/
def live (now : Time) (entry : Option (Expiring Value)) : Option (Expiring Value) :=
  entry.filter fun stored => stored.deadline.all fun deadline => decide (now < deadline)

@[simp] theorem live_none (now : Time) : live now (none : Option (Expiring Value)) = none := rfl

theorem live_of_lt {now deadline : Time} (later : now < deadline) (value : Value) :
    live now (some ⟨value, some deadline⟩) = some ⟨value, some deadline⟩ :=
  Option.filter_eq_some_iff.mpr ⟨rfl, decide_eq_true later⟩

theorem live_eq_some {now : Time} {entry : Option (Expiring Value)} {stored : Expiring Value}
    (alive : live now entry = some stored) : entry = some stored :=
  (Option.filter_eq_some_iff.mp alive).1

end Expiring

/-- The fixed-window counters: their keys are `rate:party_create:{userId}`,
`rate:party_signal:{userId}` and `rate:location_ping:{userId}`. -/
inductive CounterKey where
  | partyCreate (userId : UserId)
  | partySignal (userId : UserId)
  | locationPing (userId : UserId)
  deriving DecidableEq

structure Coordinates where
  lat : ℚ
  lng : ℚ
  deriving DecidableEq

/-- The geo index takes every longitude, and no latitude near a pole. -/
def Coordinates.Indexable (coordinates : Coordinates) : Prop :=
  (-180 ≤ coordinates.lng ∧ coordinates.lng ≤ 180) ∧
    -8505112878 / 100000000 ≤ coordinates.lat ∧ coordinates.lat ≤ 8505112878 / 100000000

instance (coordinates : Coordinates) : Decidable coordinates.Indexable :=
  inferInstanceAs (Decidable (_ ∧ _))

/-- The value under a key `user_locations:…`. -/
inductive LocationValue where
  | geo (entries : List (UserId × Coordinates))
  | names (members : List String)
  deriving DecidableEq

/-- The fields of `user:{userId}:status` that a location update writes together
with `online`. -/
structure StatusPing where
  inParty : Option PartyId
  privacyMode : LocationSharingMode
  lastPing : Time
  heading : Option ℚ
  speed : Option ℚ
  city : String
  deriving DecidableEq

/-- The hash `user:{userId}:status`. Before the first update and after the hash
has expired, writing `online` creates it with that field alone. -/
structure UserStatus where
  online : Bool
  ping : Option StatusPing
  deriving DecidableEq

/-- A hit of `GEOSEARCH … WITHCOORD WITHDIST`. -/
structure GeoHit where
  userId : UserId
  distance : ℚ
  coordinates : Coordinates
  deriving DecidableEq

/-- A row of `notification` as the party service asks for it. -/
structure PartyInviteNotification where
  userId : UserId
  partyId : PartyId
  partyName : String
  inviterId : UserId
  deriving DecidableEq

/-- What the installation fixes: the distance the geo index measures with, the
lower-casing of the JavaScript engine, and the name of the server. -/
structure Deployment where
  distance : Coordinates → Coordinates → ℚ
  toLowerCase : String → String
  serverHostname : String

/-! ## The state -/

structure State where
  deployment : Deployment
  now : Time
  -- Postgres
  users : UserId → Option User
  routes : RouteId → Option Route
  follows : Table (UserId × UserId) FollowStatus
  blocks : List (UserId × UserId)
  liveSessions : UserId → Option Bool
  parties : Table PartyId Party
  partyMembers : Table (PartyId × UserId) PartyMember
  partyInvites : Table InviteId PartyInvite
  notifications : List PartyInviteNotification
  -- Redis
  counters : CounterKey → Option (Expiring Nat)
  partyMemberSet : PartyId → List UserId
  userParty : UserId → Option PartyId
  activePartyIndex : List PartyId
  zombieWatch : PartyId → List (UserId × Time)
  leaderLock : PartyId → Option (Expiring UserId)
  locationKeys : String → Option LocationValue
  userStatus : UserId → Option (Expiring UserStatus)
  userPing : UserId → Option (Expiring Time)
  -- Socket.IO
  sockets : SocketId → Option (UserId × String)
  rooms : PartyId → List SocketId
  outbox : List Emission

/-- An installation before its first party: users, routes, follows and blocks,
empty Redis, no sockets. -/
def State.initial (deployment : Deployment) (now : Time) (users : UserId → Option User)
    (routes : RouteId → Option Route) (follows : Table (UserId × UserId) FollowStatus)
    (blocks : List (UserId × UserId)) (liveSessions : UserId → Option Bool) : State where
  deployment := deployment
  now := now
  users := users
  routes := routes
  follows := follows
  blocks := blocks
  liveSessions := liveSessions
  parties := .empty
  partyMembers := .empty
  partyInvites := .empty
  notifications := []
  counters := fun _ => none
  partyMemberSet := fun _ => []
  userParty := fun _ => none
  activePartyIndex := []
  zombieWatch := fun _ => []
  leaderLock := fun _ => none
  locationKeys := fun _ => none
  userStatus := fun _ => none
  userPing := fun _ => none
  sockets := fun _ => none
  rooms := fun _ => []
  outbox := []

/-! ## Constants -/

/-- `PARTY_CREATE_LIMIT`. -/
def partyCreateLimitPerHour : Nat := 5
def partyCreateLimitWindowSeconds : Nat := 60 * 60

/-- `PARTY_TTL`. -/
def leaderLockSeconds : Nat := 5
def zombieOfflineSeconds : Nat := 60
def signalRatePerMinute : Nat := 12

/-- `TTL` and `RATE_LIMITS` of the location service. -/
def userStatusSeconds : Nat := 60
def userPingSeconds : Nat := 30
def locationPingPerSecond : Nat := 1

/-- The suffix of `user_locations:_shards`, the set of shard names. -/
def userLocationShardIndex : String := "_shards"

/-! ## Redis commands whose reply the services ignore -/

inductive RedisCommand where
  | saddMembers (partyId : PartyId) (userId : UserId)
  | sremMembers (partyId : PartyId) (userId : UserId)
  | delMembers (partyId : PartyId)
  | delMeta (partyId : PartyId)
  | delZombieWatch (partyId : PartyId)
  | saddActiveParty (partyId : PartyId)
  | sremActiveParty (partyId : PartyId)
  | setUserParty (userId : UserId) (partyId : PartyId)
  | delUserParty (userId : UserId)
  | zaddZombieWatch (partyId : PartyId) (score : Time) (userId : UserId)
  | zremZombieWatch (partyId : PartyId) (userId : UserId)
  | geoadd (shard : String) (coordinates : Coordinates) (userId : UserId)
  | zremShard (shard : String) (userId : UserId)
  | zremShardAll (shard : String) (userIds : List UserId)
  | saddShardIndex (shard : String)
  | hsetOffline (userId : UserId)
  | hsetStatus (userId : UserId) (ping : StatusPing)
  | expireStatus (userId : UserId) (seconds : Nat)
  | setPing (userId : UserId) (now : Time) (seconds : Nat)
  | delPing (userId : UserId)
  deriving DecidableEq

def setAdd {Value : Type} [DecidableEq Value] (members : List Value) (value : Value) : List Value :=
  if value ∈ members then members else members ++ [value]

def setRemove {Value : Type} [DecidableEq Value] (members : List Value) (value : Value) :
    List Value :=
  members.filter fun other => other ≠ value

variable {Value : Type}

@[simp] theorem mem_setAdd [DecidableEq Value] {members : List Value} {value other : Value} :
    other ∈ setAdd members value ↔ other = value ∨ other ∈ members := by
  unfold setAdd
  split
  · rename_i present
    exact ⟨Or.inr, fun either => either.elim (fun same => same ▸ present) id⟩
  · simp [or_comm]

@[simp] theorem mem_setRemove [DecidableEq Value] {members : List Value} {value other : Value} :
    other ∈ setRemove members value ↔ other ≠ value ∧ other ∈ members := by
  simp [setRemove, and_comm]

def scoreSet {Value : Type} (entries : List (UserId × Value)) (member : UserId) (score : Value) :
    List (UserId × Value) :=
  (member, score) :: entries.filter fun entry => entry.1 ≠ member

/-- Remove a member from a sorted set. -/
def scoreRemove {Value : Type} (entries : List (UserId × Value)) (member : UserId) :
    List (UserId × Value) :=
  entries.filter fun entry => entry.1 ≠ member

@[simp] theorem mem_scoreSet {entries : List (UserId × Value)} {member : UserId} {score : Value}
    {entry : UserId × Value} :
    entry ∈ scoreSet entries member score ↔ entry = (member, score) ∨ entry ∈ entries ∧ entry.1 ≠ member := by
  simp [scoreSet]

@[simp] theorem mem_scoreRemove {entries : List (UserId × Value)} {member : UserId} {entry : UserId × Value} :
    entry ∈ scoreRemove entries member ↔ entry ∈ entries ∧ entry.1 ≠ member := by
  simp [scoreRemove]

/-- `GEOADD` creates the key when it is absent, and refuses coordinates it cannot index. -/
def LocationValue.geoadd (value : Option LocationValue) (coordinates : Coordinates)
    (userId : UserId) : Option LocationValue :=
  if coordinates.Indexable then
    match value with
    | none => some (.geo [(userId, coordinates)])
    | some (.geo entries) => some (.geo (scoreSet entries userId coordinates))
    | some (.names members) => some (.names members)
  else value

/-- `ZREM` deletes the key with its last entry. -/
def LocationValue.zrem (value : Option LocationValue) (userId : UserId) : Option LocationValue :=
  match value with
  | none => none
  | some (.geo entries) =>
    match scoreRemove entries userId with
    | [] => none
    | entry :: rest => some (.geo (entry :: rest))
  | some (.names members) => some (.names members)

/-- `SADD` creates the key when it is absent. -/
def LocationValue.sadd (value : Option LocationValue) (name : String) : Option LocationValue :=
  match value with
  | none => some (.names [name])
  | some (.geo entries) => some (.geo entries)
  | some (.names members) => some (.names (setAdd members name))

/-- The entries of a geo key; none when the key is absent or of another type. -/
def LocationValue.entries : Option LocationValue → List (UserId × Coordinates)
  | some (.geo entries) => entries
  | _ => []

/-- `ZRANGE … 0 -1`. -/
def LocationValue.zrange : Option LocationValue → Except RedisError (List UserId)
  | some (.names _) => .error .wrongType
  | value => .ok ((LocationValue.entries value).map Prod.fst)

def LocationValue.smembers : Option LocationValue → Except RedisError (List String)
  | none => .ok []
  | some (.geo _) => .error .wrongType
  | some (.names members) => .ok members

/-- The deadline a time to live gives. -/
def State.after (s : State) (seconds : Nat) : Time := s.now + seconds * 1000

/-- `HSET … online false`; the time to live stays. -/
def UserStatus.hsetOffline (stored : Option (Expiring UserStatus)) : Option (Expiring UserStatus) :=
  match stored with
  | none => some ⟨⟨false, none⟩, none⟩
  | some status => some { status with value := { status.value with online := false } }

/-- `HSET` of all fields; the time to live stays. -/
def UserStatus.hset (stored : Option (Expiring UserStatus)) (ping : StatusPing) :
    Option (Expiring UserStatus) :=
  match stored with
  | none => some ⟨⟨true, some ping⟩, none⟩
  | some status => some { status with value := ⟨true, some ping⟩ }

/-! ## Writing one field -/

section Setters

variable (s : State)

@[simps -fullyApplied] def State.withMemberSet (partyId : PartyId) (members : List UserId) :
    State :=
  { s with partyMemberSet := update s.partyMemberSet partyId members }

@[simps -fullyApplied] def State.withUserParty (userId : UserId) (partyId : Option PartyId) :
    State :=
  { s with userParty := update s.userParty userId partyId }

@[simps -fullyApplied] def State.withActiveIndex (index : List PartyId) : State :=
  { s with activePartyIndex := index }

@[simps -fullyApplied] def State.withZombieWatch (partyId : PartyId)
    (watch : List (UserId × Time)) : State :=
  { s with zombieWatch := update s.zombieWatch partyId watch }

@[simps -fullyApplied] def State.withLocationKey (shard : String) (value : Option LocationValue) :
    State :=
  { s with locationKeys := update s.locationKeys shard value }

@[simps -fullyApplied] def State.withStatus (userId : UserId)
    (status : Option (Expiring UserStatus)) : State :=
  { s with userStatus := update s.userStatus userId status }

@[simps -fullyApplied] def State.withPing (userId : UserId) (ping : Option (Expiring Time)) :
    State :=
  { s with userPing := update s.userPing userId ping }

@[simps -fullyApplied] def State.withCounter (key : CounterKey) (counter : Option (Expiring Nat)) :
    State :=
  { s with counters := update s.counters key counter }

@[simps -fullyApplied] def State.withLeaderLock (partyId : PartyId)
    (lock : Option (Expiring UserId)) : State :=
  { s with leaderLock := update s.leaderLock partyId lock }

@[simps -fullyApplied] def State.withSocket (socket : SocketId) (data : Option (UserId × String)) :
    State :=
  { s with sockets := update s.sockets socket data }

@[simps -fullyApplied] def State.withRooms (rooms : PartyId → List SocketId) : State :=
  { s with rooms := rooms }

@[simps -fullyApplied] def State.withUser (userId : UserId) (user : Option User) : State :=
  { s with users := update s.users userId user }

@[simps -fullyApplied] def State.withLiveSession (userId : UserId) (active : Option Bool) : State :=
  { s with liveSessions := update s.liveSessions userId active }

@[simps -fullyApplied] def State.withParties (parties : Table PartyId Party) : State :=
  { s with parties := parties }

@[simps -fullyApplied] def State.withPartyMembers
    (partyMembers : Table (PartyId × UserId) PartyMember) : State :=
  { s with partyMembers := partyMembers }

@[simps -fullyApplied] def State.withPartyInvites (partyInvites : Table InviteId PartyInvite) :
    State :=
  { s with partyInvites := partyInvites }

@[simps -fullyApplied] def State.withNotification (notification : PartyInviteNotification) : State :=
  { s with notifications := s.notifications ++ [notification] }

@[simps -fullyApplied] def State.sent (emission : Emission) : State :=
  { s with outbox := s.outbox ++ [emission] }

@[simps -fullyApplied] def State.elapsed (milliseconds : Nat) : State :=
  { s with now := s.now + milliseconds }

end Setters

theorem State.withCounter_withCounter (s : State) (key : CounterKey) (first second : Option (Expiring Nat)) :
    (s.withCounter key first).withCounter key second = s.withCounter key second := by
  simp only [State.withCounter, update_idem]

def State.redis (s : State) : RedisCommand → State
  | .saddMembers partyId userId =>
    s.withMemberSet partyId (setAdd (s.partyMemberSet partyId) userId)
  | .sremMembers partyId userId =>
    s.withMemberSet partyId (setRemove (s.partyMemberSet partyId) userId)
  | .delMembers partyId => s.withMemberSet partyId []
  | .delMeta _ => s  -- nothing reads or writes `party:{partyId}:meta`
  | .delZombieWatch partyId => s.withZombieWatch partyId []
  | .saddActiveParty partyId => s.withActiveIndex (setAdd s.activePartyIndex partyId)
  | .sremActiveParty partyId => s.withActiveIndex (setRemove s.activePartyIndex partyId)
  | .setUserParty userId partyId => s.withUserParty userId (some partyId)
  | .delUserParty userId => s.withUserParty userId none
  | .zaddZombieWatch partyId score userId =>
    s.withZombieWatch partyId (scoreSet (s.zombieWatch partyId) userId score)
  | .zremZombieWatch partyId userId =>
    s.withZombieWatch partyId (scoreRemove (s.zombieWatch partyId) userId)
  | .geoadd shard coordinates userId =>
    s.withLocationKey shard (LocationValue.geoadd (s.locationKeys shard) coordinates userId)
  | .zremShard shard userId =>
    s.withLocationKey shard (LocationValue.zrem (s.locationKeys shard) userId)
  | .zremShardAll shard userIds =>
    s.withLocationKey shard (userIds.foldl LocationValue.zrem (s.locationKeys shard))
  | .saddShardIndex shard =>
    s.withLocationKey userLocationShardIndex
      (LocationValue.sadd (s.locationKeys userLocationShardIndex) shard)
  | .hsetOffline userId =>
    s.withStatus userId (UserStatus.hsetOffline (Expiring.live s.now (s.userStatus userId)))
  | .hsetStatus userId ping =>
    s.withStatus userId (UserStatus.hset (Expiring.live s.now (s.userStatus userId)) ping)
  | .expireStatus userId seconds =>
    s.withStatus userId ((Expiring.live s.now (s.userStatus userId)).map fun status =>
      { status with deadline := some (s.after seconds) })
  | .setPing userId now seconds => s.withPing userId (some ⟨now, some (s.after seconds)⟩)
  | .delPing userId => s.withPing userId none

/-! ## Reading the tables -/

/-- The rows of a party, as `include: { members: true }` returns them. -/
def State.membersOf (s : State) (partyId : PartyId) : List (UserId × PartyMember) :=
  (s.partyMembers.select fun key _ => decide (key.1 = partyId)).map fun entry =>
    (entry.1.2, entry.2)

/-- A party with its rows. -/
structure PartyWithMembers where
  party : Party
  members : List (UserId × PartyMember)
  deriving DecidableEq

/-- A party as `getPartyDetail` reads it. -/
structure PartyDetailRow where
  party : Party
  members : List (UserId × PartyMember × User)
  route : Option (RouteId × Route)

/-- Stable ascending order by a date, as `orderBy` and `Array.prototype.sort`
give it. -/
def sortByDate {Row : Type} (date : Row → Time) (rows : List Row) : List Row :=
  rows.insertionSort fun first second => date first ≤ date second

/-- The active rows of a party by `joinedAt`, each with its user. The foreign key
makes every row have one. -/
def State.activeMembersWithUser (s : State) (partyId : PartyId) :
    List (UserId × PartyMember × User) :=
  (sortByDate (fun entry => entry.2.joinedAt)
    ((s.membersOf partyId).filter fun entry => entry.2.leftAt.isNone)).filterMap fun entry =>
      (s.users entry.1).map fun user => (entry.1, entry.2, user)

/-- `party: { status: { not: 'ENDED' }, deletedAt: null }`. -/
def State.partyIsLive (s : State) (partyId : PartyId) : Bool :=
  match s.parties.find? partyId with
  | some party => decide (party.status ≠ .ended) && party.deletedAt.isNone
  | none => false

def State.firstActiveMembership (s : State) (userId : UserId) : Option (PartyId × PartyRole) :=
  (s.partyMembers.entries.find? fun entry =>
    decide (entry.1.2 = userId) && entry.2.leftAt.isNone && s.partyIsLive entry.1.1).map
      fun entry => (entry.1.1, entry.2.role)

/-- The invite under the unique pair of party and invitee. -/
def State.inviteOf (s : State) (partyId : PartyId) (inviteeId : UserId) :
    Option (InviteId × PartyInvite) :=
  s.partyInvites.entries.find? fun entry =>
    decide (entry.2.partyId = partyId) && decide (entry.2.inviteeId = inviteeId)

/-! ## Changes to rows -/

/-- The `data` of the updates of a membership row that the services make. -/
inductive MemberPatch where
  | rejoin                            -- isOnline: true, leftAt: null
  | leave                             -- leftAt: new Date(), isOnline: false
  | online                            -- isOnline: true
  | offline                           -- isOnline: false, serverHostname: null
  | hostname (serverHostname : String)
  deriving DecidableEq

def MemberPatch.apply (now : Time) : MemberPatch → PartyMember → PartyMember
  | .rejoin, row => { row with isOnline := true, leftAt := none }
  | .leave, row => { row with leftAt := some now, isOnline := false }
  | .online, row => { row with isOnline := true }
  | .offline, row => { row with isOnline := false, serverHostname := none }
  | .hostname serverHostname, row => { row with serverHostname := some serverHostname }

/-- The row `createParty` inserts. -/
def newParty (now : Time) (leaderId : UserId) (dto : CreatePartyDto) : Party where
  name := dto.name
  leaderId := leaderId
  coLeaderIds := dto.coLeaderIds
  routeId := dto.routeId
  eventId := dto.eventId
  status := .waiting
  isPrivate := dto.isPrivate
  maxMembers := dto.maxMembers
  startedAt := none
  endedAt := none
  createdAt := now
  deletedAt := none

/-- A fresh membership row. -/
def newMember (now : Time) (role : PartyRole) : PartyMember where
  role := role
  isOnline := true
  joinedAt := now
  leftAt := none
  serverHostname := none

/-! ## Calls and replies -/

/-- What the environment does between calls: time passes, and the stores list
rows and set members in whatever order they like. -/
inductive EnvironmentEvent where
  | elapse (milliseconds : Nat)
  | relist (rows : List ((PartyId × UserId) × PartyMember)) (index : List PartyId)

inductive StoreCall where
  -- Prisma
  | userFindUnique (userId : UserId)
  | userUpdateLocationSharing (userId : UserId) (mode : LocationSharingMode)
  | liveSessionFindUnique (userId : UserId)
  | liveSessionDeactivate (userId : UserId)
  | routeFindUnique (routeId : RouteId)
  | followFindUnique (followerId followingId : UserId)
  | followingOf (followerId : UserId)
  | followersAmong (candidates : List UserId) (followingId : UserId)
  | blockFindFirst (userId otherId : UserId)
  | partyFindUnique (partyId : PartyId)
  | partyFindUniqueWithMembers (partyId : PartyId)
  | partyFindUniqueDetail (partyId : PartyId)
  | createPartyTransaction (partyId : PartyId) (leaderId : UserId) (dto : CreatePartyDto)
  | endPartyTransaction (partyId : PartyId)
  | changeLeaderTransaction (partyId : PartyId) (newLeaderId : UserId)
  | partyMemberFindUnique (partyId : PartyId) (userId : UserId)
  | partyMemberFindFirstActive (userId : UserId)
  | partyMemberCreate (partyId : PartyId) (userId : UserId) (role : PartyRole)
  | partyMemberUpdate (partyId : PartyId) (userId : UserId) (patch : MemberPatch)
  | partyMemberUpdateManyActive (partyId : PartyId) (userId : UserId) (patch : MemberPatch)
  | partyInviteFindUnique (inviteId : InviteId)
  | partyInviteFindByInvitee (partyId : PartyId) (inviteeId : UserId)
  | partyInviteCreate (inviteId : InviteId) (partyId : PartyId) (inviterId inviteeId : UserId)
  | partyInviteDecline (inviteId : InviteId)
  | partyInviteAcceptPending (partyId : PartyId) (inviteeId : UserId)
  | notificationCreate (notification : PartyInviteNotification)
  -- Redis
  | redis (command : RedisCommand)
  | multi (commands : List RedisCommand)
  | incr (key : CounterKey)
  | expireCounter (key : CounterKey) (seconds : Nat)
  | sismemberMembers (partyId : PartyId) (userId : UserId)
  | smembersMembers (partyId : PartyId)
  | smembersActiveParties
  | zrangebyscoreZombieWatch (partyId : PartyId) (threshold : Int)
  | getUserParty (userId : UserId)
  | setLeaderLockNx (partyId : PartyId) (value : UserId) (seconds : Nat)
  | releaseLeaderLock (partyId : PartyId) (expected : UserId)
  | geosearch (shard : String) (center : Coordinates) (radius : ℚ) (count : Nat)
  | hgetallStatus (userId : UserId)
  | smembersShardIndex
  | zrangeShard (shard : String)
  | getPing (userId : UserId)
  -- Socket.IO
  | socketConnect (socket : SocketId) (userId : UserId) (username : String)
  | socketDisconnect (socket : SocketId)
  | socketData (socket : SocketId)
  | socketJoin (socket : SocketId) (partyId : PartyId)
  | socketLeave (socket : SocketId) (partyId : PartyId)
  | emit (emission : Emission)
  -- the process
  | dateNow
  | environment (event : EnvironmentEvent)

@[reducible] def StoreReply : StoreCall → Type
  | .userFindUnique _ => Option User
  | .userUpdateLocationSharing _ _ => Except PrismaError Unit
  | .liveSessionFindUnique _ => Option Bool
  | .liveSessionDeactivate _ => Unit
  | .routeFindUnique _ => Option Route
  | .followFindUnique _ _ => Option FollowStatus
  | .followingOf _ => List UserId
  | .followersAmong _ _ => List UserId
  | .blockFindFirst _ _ => Bool
  | .partyFindUnique _ => Option Party
  | .partyFindUniqueWithMembers _ => Option PartyWithMembers
  | .partyFindUniqueDetail _ => Option PartyDetailRow
  | .createPartyTransaction _ _ _ => Except PrismaError Party
  | .endPartyTransaction _ => Except PrismaError Unit
  | .changeLeaderTransaction _ _ => Except PrismaError Unit
  | .partyMemberFindUnique _ _ => Option PartyMember
  | .partyMemberFindFirstActive _ => Option (PartyId × PartyRole)
  | .partyMemberCreate _ _ _ => Except PrismaError PartyMember
  | .partyMemberUpdate _ _ _ => Except PrismaError PartyMember
  | .partyMemberUpdateManyActive _ _ _ => Unit
  | .partyInviteFindUnique _ => Option PartyInvite
  | .partyInviteFindByInvitee _ _ => Option PartyInvite
  | .partyInviteCreate _ _ _ _ => Except PrismaError Unit
  | .partyInviteDecline _ => Except PrismaError Unit
  | .partyInviteAcceptPending _ _ => Unit
  | .notificationCreate _ => Unit
  | .redis _ => Unit
  | .multi _ => Unit
  | .incr _ => Nat
  | .expireCounter _ _ => Unit
  | .sismemberMembers _ _ => Bool
  | .smembersMembers _ => List UserId
  | .smembersActiveParties => List PartyId
  | .zrangebyscoreZombieWatch _ _ => List UserId
  | .getUserParty _ => Option PartyId
  | .setLeaderLockNx _ _ _ => Bool
  | .releaseLeaderLock _ _ => Bool
  | .geosearch _ _ _ _ => Except RedisError (List GeoHit)
  | .hgetallStatus _ => Option UserStatus
  | .smembersShardIndex => Except RedisError (List String)
  | .zrangeShard _ => Except RedisError (List UserId)
  | .getPing _ => Option Time
  | .socketConnect _ _ _ => Unit
  | .socketDisconnect _ => Option (UserId × String)
  | .socketData _ => Option (UserId × String)
  | .socketJoin _ _ => Unit
  | .socketLeave _ _ => Unit
  | .emit _ => Unit
  | .dateNow => Time
  | .environment _ => Unit

/-! ## Answers -/

/-- `INCR`: a key that is absent counts from zero and has no time to live. -/
def bumped (now : Time) (counter : Option (Expiring Nat)) : Expiring Nat :=
  match Expiring.live now counter with
  | none => ⟨1, none⟩
  | some stored => { stored with value := stored.value + 1 }

/-- `GEOSEARCH … BYRADIUS … ASC COUNT`. -/
def State.geosearch (s : State) (entries : List (UserId × Coordinates)) (center : Coordinates)
    (radius : ℚ) (count : Nat) : List GeoHit :=
  (((entries.map fun entry => GeoHit.mk entry.1 (s.deployment.distance center entry.2) entry.2).filter
    fun hit => decide (hit.distance ≤ radius)).insertionSort
      fun first second => first.distance ≤ second.distance).take count

/-- `GEOSEARCH` on a key: the type of the key is checked before the center. -/
def State.geosearchKey (s : State) (shard : String) (center : Coordinates) (radius : ℚ)
    (count : Nat) : Except RedisError (List GeoHit) :=
  match s.locationKeys shard with
  | some (.names _) => .error .wrongType
  | value =>
    if center.Indexable then .ok (s.geosearch (LocationValue.entries value) center radius count)
    else .error .invalidCoordinates

/-- The members of a zombie watch with a score from 0 to the threshold, by score
and then by name. -/
def staleMembers (watch : List (UserId × Time)) (threshold : Int) : List UserId :=
  ((watch.filter fun entry => decide ((entry.2 : Int) ≤ threshold)).insertionSort
    fun first second => first.2 < second.2 ∨ first.2 = second.2 ∧ first.1 ≤ second.1).map Prod.fst

/-- `party.update({ data: { status: 'ENDED', endedAt: new Date() } })`. -/
@[simps -fullyApplied] def State.markEnded (s : State) (partyId : PartyId) : State :=
  { s with
    parties := s.parties.modify partyId fun party =>
      { party with status := .ended, endedAt := some s.now } }

/-- `partyMember.updateMany` on the active rows that satisfy the condition. -/
@[simps -fullyApplied] def State.patchActive (s : State) (condition : PartyId × UserId → Bool)
    (patch : MemberPatch) : State :=
  { s with
    partyMembers := s.partyMembers.modifyWhere
      (fun key row => condition key && row.leftAt.isNone) (patch.apply s.now) }

/-- `partyMember.update`. -/
@[simps -fullyApplied] def State.patchMember (s : State) (partyId : PartyId) (userId : UserId)
    (patch : MemberPatch) : State :=
  { s with partyMembers := s.partyMembers.modify (partyId, userId) (patch.apply s.now) }

@[simps -fullyApplied] def State.insertMember (s : State) (partyId : PartyId) (userId : UserId)
    (row : PartyMember) : State :=
  { s with partyMembers := s.partyMembers.insert (partyId, userId) row }

/-- The transaction of `createParty`. -/
@[simps -fullyApplied] def State.insertParty (s : State) (partyId : PartyId) (leaderId : UserId)
    (dto : CreatePartyDto) : State :=
  { s with
    parties := s.parties.insert partyId (newParty s.now leaderId dto)
    partyMembers := s.partyMembers.insert (partyId, leaderId) (newMember s.now .leader) }

/-- The transaction of `leaveParty`. -/
@[simps -fullyApplied] def State.changeLeader (s : State) (partyId : PartyId)
    (newLeaderId : UserId) : State :=
  { s with
    parties := s.parties.modify partyId fun party => { party with leaderId := newLeaderId }
    partyMembers := s.partyMembers.modify (partyId, newLeaderId) fun row =>
      { row with role := .leader } }

/-- `partyInvite.updateMany` to `ACCEPTED`. -/
@[simps -fullyApplied] def State.acceptInvites (s : State) (partyId : PartyId)
    (inviteeId : UserId) : State :=
  { s with
    partyInvites := s.partyInvites.modifyWhere (fun _ invite =>
        decide (invite.partyId = partyId) && decide (invite.inviteeId = inviteeId) &&
          decide (invite.status = .pending)) fun invite =>
      { invite with status := .accepted, respondedAt := some s.now } }

def answer : (call : StoreCall) → State → StoreReply call × State
  | .userFindUnique userId, s => (s.users userId, s)
  | .userUpdateLocationSharing userId mode, s =>
    match s.users userId with
    | none => (.error .recordNotFound, s)
    | some user =>
      (.ok (), s.withUser userId (some { user with locationSharing := mode }))
  | .liveSessionFindUnique userId, s => (s.liveSessions userId, s)
  | .liveSessionDeactivate userId, s =>
    ((), s.withLiveSession userId (some false))
  | .routeFindUnique routeId, s => (s.routes routeId, s)
  | .followFindUnique followerId followingId, s => (s.follows.find? (followerId, followingId), s)
  | .followingOf followerId, s =>
    ((s.follows.select fun key status =>
      decide (key.1 = followerId) && decide (status = .accepted)).map fun entry => entry.1.2, s)
  | .followersAmong candidates followingId, s =>
    ((s.follows.select fun key status => candidates.contains key.1 &&
      decide (key.2 = followingId) && decide (status = .accepted)).map fun entry => entry.1.1, s)
  | .blockFindFirst userId otherId, s =>
    (s.blocks.contains (userId, otherId) || s.blocks.contains (otherId, userId), s)
  | .partyFindUnique partyId, s => (s.parties.find? partyId, s)
  | .partyFindUniqueWithMembers partyId, s =>
    ((s.parties.find? partyId).map fun party => ⟨party, s.membersOf partyId⟩, s)
  | .partyFindUniqueDetail partyId, s =>
    ((s.parties.find? partyId).map fun party =>
      { party := party
        members := s.activeMembersWithUser partyId
        route := party.routeId.bind fun id => (s.routes id).map fun route => (id, route) }, s)
  | .createPartyTransaction partyId leaderId dto, s =>
    if (s.parties.find? partyId).isSome || (s.partyMembers.find? (partyId, leaderId)).isSome then
      (.error .uniqueViolation, s)
    else if (s.users leaderId).isNone then (.error .foreignKeyViolation, s)
    else
      (.ok (newParty s.now leaderId dto), s.insertParty partyId leaderId dto)
  | .endPartyTransaction partyId, s =>
    match s.parties.find? partyId with
    | none => (.error .recordNotFound, s)
    | some _ =>
      (.ok (), (s.markEnded partyId).patchActive (fun key => decide (key.1 = partyId)) .leave)
  | .changeLeaderTransaction partyId newLeaderId, s =>
    if (s.parties.find? partyId).isNone || (s.partyMembers.find? (partyId, newLeaderId)).isNone then
      (.error .recordNotFound, s)
    else
      (.ok (), s.changeLeader partyId newLeaderId)
  | .partyMemberFindUnique partyId userId, s => (s.partyMembers.find? (partyId, userId), s)
  | .partyMemberFindFirstActive userId, s => (s.firstActiveMembership userId, s)
  | .partyMemberCreate partyId userId role, s =>
    if (s.partyMembers.find? (partyId, userId)).isSome then (.error .uniqueViolation, s)
    else if (s.parties.find? partyId).isNone || (s.users userId).isNone then
      (.error .foreignKeyViolation, s)
    else
      (.ok (newMember s.now role), s.insertMember partyId userId (newMember s.now role))
  | .partyMemberUpdate partyId userId patch, s =>
    match s.partyMembers.find? (partyId, userId) with
    | none => (.error .recordNotFound, s)
    | some row => (.ok (patch.apply s.now row), s.patchMember partyId userId patch)
  | .partyMemberUpdateManyActive partyId userId patch, s =>
    ((), s.patchActive (fun key => decide (key = (partyId, userId))) patch)
  | .partyInviteFindUnique inviteId, s => (s.partyInvites.find? inviteId, s)
  | .partyInviteFindByInvitee partyId inviteeId, s =>
    ((s.inviteOf partyId inviteeId).map Prod.snd, s)
  | .partyInviteCreate inviteId partyId inviterId inviteeId, s =>
    if (s.partyInvites.find? inviteId).isSome || (s.inviteOf partyId inviteeId).isSome then
      (.error .uniqueViolation, s)
    else if (s.users inviteeId).isNone then (.error .foreignKeyViolation, s)
    else
      (.ok (), s.withPartyInvites (s.partyInvites.insert inviteId
        ⟨partyId, inviterId, inviteeId, .pending, s.now, none⟩))
  | .partyInviteDecline inviteId, s =>
    match s.partyInvites.find? inviteId with
    | none => (.error .recordNotFound, s)
    | some _ =>
      (.ok (), s.withPartyInvites (s.partyInvites.modify inviteId fun invite =>
        { invite with status := .declined, respondedAt := some s.now }))
  | .partyInviteAcceptPending partyId inviteeId, s =>
    ((), s.acceptInvites partyId inviteeId)
  | .notificationCreate notification, s =>
    ((), s.withNotification notification)
  | .redis command, s => ((), s.redis command)
  | .multi commands, s => ((), commands.foldl State.redis s)
  | .incr key, s =>
    ((bumped s.now (s.counters key)).value,
      s.withCounter key (some (bumped s.now (s.counters key))))
  | .expireCounter key seconds, s =>
    ((), s.withCounter key ((Expiring.live s.now (s.counters key)).map fun stored =>
      { stored with deadline := some (s.after seconds) }))
  | .sismemberMembers partyId userId, s => (decide (userId ∈ s.partyMemberSet partyId), s)
  | .smembersMembers partyId, s => (s.partyMemberSet partyId, s)
  | .smembersActiveParties, s => (s.activePartyIndex, s)
  | .zrangebyscoreZombieWatch partyId threshold, s =>
    (staleMembers (s.zombieWatch partyId) threshold, s)
  | .getUserParty userId, s => (s.userParty userId, s)
  | .setLeaderLockNx partyId value seconds, s =>
    match Expiring.live s.now (s.leaderLock partyId) with
    | some _ => (false, s)
    | none =>
      (true, s.withLeaderLock partyId (some ⟨value, some (s.after seconds)⟩))
  | .releaseLeaderLock partyId expected, s =>
    if (Expiring.live s.now (s.leaderLock partyId)).map Expiring.value = some expected then
      (true, s.withLeaderLock partyId none)
    else (false, s)
  | .geosearch shard center radius count, s =>
    (s.geosearchKey shard center radius count, s)
  | .hgetallStatus userId, s =>
    ((Expiring.live s.now (s.userStatus userId)).map Expiring.value, s)
  | .smembersShardIndex, s =>
    (LocationValue.smembers (s.locationKeys userLocationShardIndex), s)
  | .zrangeShard shard, s => (LocationValue.zrange (s.locationKeys shard), s)
  | .getPing userId, s => ((Expiring.live s.now (s.userPing userId)).map Expiring.value, s)
  | .socketConnect socket userId username, s =>
    match s.sockets socket with
    | some _ => ((), s)  -- the names of connected sockets are unique
    | none => ((), s.withSocket socket (some (userId, username)))
  | .socketDisconnect socket, s =>
    (s.sockets socket,
      (s.withSocket socket none).withRooms fun partyId => setRemove (s.rooms partyId) socket)
  | .socketData socket, s => (s.sockets socket, s)
  | .socketJoin socket partyId, s =>
    ((), s.withRooms (update s.rooms partyId (setAdd (s.rooms partyId) socket)))
  | .socketLeave socket partyId, s =>
    ((), s.withRooms (update s.rooms partyId (setRemove (s.rooms partyId) socket)))
  | .emit emission, s => ((), s.sent emission)
  | .dateNow, s => (s.now, s)
  | .environment (.elapse milliseconds), s => ((), s.elapsed milliseconds)
  | .environment (.relist rows index), s =>
    if perm : rows.Perm s.partyMembers.entries ∧ index.Perm s.activePartyIndex then
      ((), (s.withPartyMembers (s.partyMembers.reorder rows perm.1)).withActiveIndex index)
    else ((), s)

/-! ## Service functions -/

abbrev Flow (Value : Type) := Program StoreCall StoreReply ServiceError Value

/-- Run a service function alone. -/
abbrev Flow.exec {Value : Type} (flow : Flow Value) (s : State) :
    Except ServiceError Value × State :=
  run answer flow s

/-- The calls a service function makes when it runs alone. -/
abbrev Flow.calls {Value : Type} (flow : Flow Value) (s : State) : List (StoreCall × State) :=
  issued answer flow s

/-- Make one call and return its reply. -/
abbrev call (request : StoreCall) : Flow (StoreReply request) := .call request .done

def rethrow {Value : Type} (reply : Except PrismaError Value) : Flow Value :=
  match reply with
  | .ok value => .done value
  | .error error => .fail (.prisma error)

@[simp] theorem rethrow_ok (value : Value) : rethrow (.ok value) = done value := rfl

@[simp] theorem rethrow_error (error : PrismaError) :
    (rethrow (.error error) : Flow Value) = fail (.prisma error) := rfl

end Motogram
