import Motogram.Store
import Motogram.Text

/-!
# The location service and the nearby query

`location.service.ts`, `location.controller.ts` and `map.service.ts`: a location
update with its rate limit and its pipeline, the removal of a position, the
sweep of the shards, the query of a shard, the privacy rule, and the routes over
them.

A position is kept in the shard of a city. The shard is chosen from the city the
update names, and from the profile of the user when it names none; a removal
knows the profile only.
-/

set_option autoImplicit false

namespace Motogram

open Foundation

/-! ## Shards -/

/-- `userLocationShard`, without the constant `user_locations:`. -/
def userLocationShard (deployment : Deployment) (city : Option String) : String :=
  match city with
  | none => "global"
  | some name =>
    let key := deployment.toLowerCase (jsTrim name)
    if key = "" then "global" else key

/-! ## Exceptions -/

def userBanned : ServiceError := .http .forbidden "user_banned" .forbidden none
def userNotFound : ServiceError := .http .notFound "user_not_found" .notFound none

/-! ## Updates -/

inductive SkipReason where
  | rateLimited
  | sharingDisabled
  deriving DecidableEq

structure UpdateLocationResult where
  accepted : Bool
  shard : String
  skipped : Option SkipReason
  deriving DecidableEq

/-- `removeFromRedis`: one `multi` block on the shard of the given city. -/
def removeFromRedis (deployment : Deployment) (userId : UserId) (city : Option String) : Flow Unit :=
  call (.multi [.zremShard (userLocationShard deployment city) userId, .hsetOffline userId,
    .delPing userId])

/-- `(dto.city ?? user.city ?? undefined) || undefined`. -/
def updateCity (dto : UpdateLocationDto) (user : User) : Option String :=
  (dto.city.or user.city).filter fun city => decide (city ≠ "")

/-- The status fields an update writes. -/
def statusPing (dto : UpdateLocationDto) (user : User) (now : Time) : StatusPing where
  inParty := dto.partyId
  privacyMode := user.locationSharing
  lastPing := now
  heading := dto.heading
  speed := dto.speed
  city := (updateCity dto user).getD ""

/-- A Redis pipeline: its commands are sent in order and are not atomic together. -/
def pipeline : List RedisCommand → Flow Unit
  | [] => pure ()
  | command :: rest => do
    let _ : Unit ← call (.redis command)
    pipeline rest

/-- The commands of an accepted update that write its position. -/
def positionCommands (userId : UserId) (dto : UpdateLocationDto) (user : User) (shard : String)
    (now : Time) : List RedisCommand :=
  [.geoadd shard ⟨dto.lat, dto.lng⟩ userId, .hsetStatus userId (statusPing dto user now),
    .expireStatus userId userStatusSeconds, .setPing userId now userPingSeconds,
    .saddShardIndex shard]

/-- The commands of an accepted update; the last one only when it names a party. -/
def updateCommands (userId : UserId) (dto : UpdateLocationDto) (user : User) (shard : String)
    (now : Time) : List RedisCommand :=
  positionCommands userId dto user shard now ++
    (dto.partyId.map fun partyId => .saddMembers partyId userId).toList

def countPing (userId : UserId) : Flow Nat := do
  let count : Nat ← call (.incr (.locationPing userId))
  if count = 1 then do
    let _ : Unit ← call (.expireCounter (.locationPing userId) 1)
    pure count
  else pure count

def updateLocation (deployment : Deployment) (userId : UserId) (dto : UpdateLocationDto)
    (user : User) : Flow UpdateLocationResult := do
  Program.throwIf (user.isBanned = true) userBanned
  let count ← countPing userId
  if count > locationPingPerSecond then
    pure ⟨false, userLocationShard deployment (dto.city.or user.city), some .rateLimited⟩
  else if user.locationSharing = .off ∧ dto.partyId = none then do
    removeFromRedis deployment userId user.city
    pure ⟨false, userLocationShard deployment user.city, some .sharingDisabled⟩
  else do
    let now : Time ← call .dateNow
    pipeline (updateCommands userId dto user (userLocationShard deployment (updateCity dto user)) now)
    pure ⟨true, userLocationShard deployment (updateCity dto user), none⟩

/-! ## The sweep -/

/-- `TTL.zombieThreshold`. -/
def zombieThresholdSeconds : Nat := 300

/-- A ping that is absent or older than the threshold. -/
def isZombie (threshold : Int) (ping : Option Time) : Bool :=
  let lastPing := ping.getD 0
  decide (lastPing = 0) || decide ((lastPing : Int) < threshold)

/-- The `GET` pipeline over the members of a shard; the zombies among them. -/
def findZombies (threshold : Int) : List UserId → Flow (List UserId)
  | [] => pure []
  | userId :: members => do
    let ping : Option Time ← call (.getPing userId)
    let toRemove ← findZombies threshold members
    pure (if isZombie threshold ping then userId :: toRemove else toRemove)

/-- The commands that clean up a shard. -/
def cleanupCommands (shard : String) (toRemove : List UserId) : List RedisCommand :=
  .zremShardAll shard toRemove :: toRemove.map .hsetOffline

/-- The sweep of one shard: how many were removed, and how many scanned. -/
def sweepShard (threshold : Int) (shard : String) : Flow (Nat × Nat) := do
  let members : Except RedisError (List UserId) ← call (.zrangeShard shard)
  match members with
  | .error error => .fail (.redis error)
  | .ok members =>
    if members.isEmpty then pure (0, 0)
    else do
      let toRemove ← findZombies threshold members
      if toRemove.isEmpty then pure (0, members.length)
      else do
        pipeline (cleanupCommands shard toRemove)
        pure (toRemove.length, members.length)

def sweepShards (threshold : Int) : List String → Flow (Nat × Nat)
  | [] => pure (0, 0)
  | shard :: shards => do
    let first ← sweepShard threshold shard
    let rest ← sweepShards threshold shards
    pure (first.1 + rest.1, first.2 + rest.2)

structure SweepResult where
  removed : Nat
  scanned : Nat
  shardsChecked : Nat
  deriving DecidableEq

def sweepZombies : Flow SweepResult := do
  let now : Time ← call .dateNow
  let shards : Except RedisError (List String) ← call .smembersShardIndex
  match shards with
  | .error error => .fail (.redis error)
  | .ok shards => do
    let counts ← sweepShards ((now : Int) - (zombieThresholdSeconds * 1000 : Nat)) shards
    pure ⟨counts.1, counts.2, shards.length⟩

/-! ## Routes of the location controller -/

/-- `PUT /location/update`. -/
def restUpdateLocation (deployment : Deployment) (userId : UserId) (dto : UpdateLocationDto) :
    Flow UpdateLocationResult := do
  let found : Option User ← call (.userFindUnique userId)
  match found with
  | none => .fail userNotFound
  | some user => updateLocation deployment userId dto user

def stopLiveSession (userId : UserId) : Flow Unit := do
  let session : Option Bool ← call (.liveSessionFindUnique userId)
  match session with
  | none => pure ()
  | some _ => call (.liveSessionDeactivate userId)

/-- `POST /location/session/stop`. -/
def stopSession (deployment : Deployment) (userId : UserId) : Flow Unit := do
  stopLiveSession userId
  let user : Option User ← call (.userFindUnique userId)
  removeFromRedis deployment userId (user.bind User.city)

/-- `PUT /location/sharing`. -/
def updateSharing (deployment : Deployment) (userId : UserId) (mode : LocationSharingMode) :
    Flow LocationSharingMode := do
  let updated : Except PrismaError Unit ← call (.userUpdateLocationSharing userId mode)
  rethrow updated
  if mode = .off then do
    let user : Option User ← call (.userFindUnique userId)
    removeFromRedis deployment userId (user.bind User.city)
    pure mode
  else pure mode

/-! ## Nearby riders -/

structure NearbyRiderRaw where
  userId : UserId
  coordinates : Coordinates
  distance : ℚ
  inParty : Bool
  partyId : Option PartyId
  heading : Option ℚ
  privacyMode : LocationSharingMode
  lastPingAt : Time
  deriving DecidableEq

/-- A hit with its status hash. A hash that was created by writing `online` alone
has no privacy mode, which counts as `OFF`. -/
def nearbyRiderRaw (hit : GeoHit) (status : UserStatus) : NearbyRiderRaw where
  userId := hit.userId
  coordinates := hit.coordinates
  distance := hit.distance
  inParty := (status.ping.bind StatusPing.inParty).isSome
  partyId := status.ping.bind StatusPing.inParty
  heading := status.ping.bind StatusPing.heading
  privacyMode := (status.ping.map StatusPing.privacyMode).getD .off
  lastPingAt := (status.ping.map StatusPing.lastPing).getD 0

/-- The `HGETALL` pipeline over the hits; a hit without a status is skipped. -/
def readStatuses : List GeoHit → Flow (List NearbyRiderRaw)
  | [] => pure []
  | hit :: hits => do
    let status : Option UserStatus ← call (.hgetallStatus hit.userId)
    let rest ← readStatuses hits
    match status with
    | none => pure rest
    | some status => pure (nearbyRiderRaw hit status :: rest)

def queryNearbyRaw (deployment : Deployment) (center : Coordinates) (radiusMeters : ℚ)
    (city : Option String) (limit : Nat) : Flow (List NearbyRiderRaw) := do
  let hits : Except RedisError (List GeoHit) ←
    call (.geosearch (userLocationShard deployment city) center radiusMeters limit)
  match hits with
  | .error error => .fail (.redis error)
  | .ok hits => readStatuses hits

def hasBlock (viewerId targetId : UserId) : Flow Bool :=
  call (.blockFindFirst viewerId targetId)

def isAcceptedFollow (followerId followingId : UserId) : Flow Bool := do
  let follow : Option FollowStatus ← call (.followFindUnique followerId followingId)
  pure (decide (follow = some .accepted))

/-- `canViewBasedOnPrivacy`. -/
def canViewBasedOnPrivacy (viewerId targetId : UserId) (mode : LocationSharingMode)
    (targetInParty viewerInSameParty : Bool) : Flow Bool :=
  if viewerId = targetId then pure true
  else if viewerInSameParty && targetInParty then pure true
  else
    match mode with
    | .off => pure false
    | .publicMode => do
      let blocked ← hasBlock viewerId targetId
      pure !blocked
    | .partyOnly => pure false
    | .followersOnly => do
      let blocked ← hasBlock viewerId targetId
      if blocked then pure false else isAcceptedFollow viewerId targetId
    | .mutualFollowers => do
      let blocked ← hasBlock viewerId targetId
      if blocked then pure false
      else do
        let first ← isAcceptedFollow viewerId targetId
        let second ← isAcceptedFollow targetId viewerId
        pure (first && second)
    | .groupMembers => do
      let _ ← hasBlock viewerId targetId
      pure false

structure ViewerContext where
  city : Option String
  partyId : Option PartyId

structure NearbyRider where
  userId : UserId
  username : String
  avatarUrl : Option String
  coordinates : Coordinates
  distance : ℚ
  inParty : Bool
  partyId : Option PartyId
  heading : Option ℚ
  lastPingAt : Time
  deriving DecidableEq

def nearbyRider (raw : NearbyRiderRaw) (user : User) : NearbyRider where
  userId := raw.userId
  username := user.username
  avatarUrl := user.avatarUrl
  coordinates := raw.coordinates
  distance := raw.distance
  inParty := raw.inParty
  partyId := raw.partyId
  heading := raw.heading
  lastPingAt := raw.lastPingAt

def sameParty (viewer rider : Option PartyId) : Bool := viewer.isSome && decide (viewer = rider)

/-- The loop of `getNearbyRiders` over the candidates. -/
def visibleRiders (viewerId : UserId) (filter : MapFilter) (context : ViewerContext)
    (allowed : Option (List UserId)) : List NearbyRiderRaw → Flow (List NearbyRider)
  | [] => pure []
  | raw :: rest =>
    if allowed.any fun ids => !ids.contains raw.userId then
      visibleRiders viewerId filter context allowed rest
    else if filter = .parties ∧ raw.inParty = false then
      visibleRiders viewerId filter context allowed rest
    else do
      let canView ← canViewBasedOnPrivacy viewerId raw.userId raw.privacyMode raw.inParty
        (sameParty context.partyId raw.partyId)
      if canView = false then visibleRiders viewerId filter context allowed rest
      else do
        let found : Option User ← call (.userFindUnique raw.userId)
        let more ← visibleRiders viewerId filter context allowed rest
        match found with
        | none => pure more
        | some user =>
          if user.deletedAt.isSome ∨ user.isBanned = true then pure more
          else pure (nearbyRider raw user :: more)

/-- `getMutualFollowerIds`. -/
def getMutualFollowerIds (userId : UserId) : Flow (List UserId) := do
  let following : List UserId ← call (.followingOf userId)
  if following.isEmpty then pure []
  else call (.followersAmong following userId)

def getNearbyRiders (deployment : Deployment) (viewerId : UserId) (query : NearbyQuery)
    (context : ViewerContext) : Flow (List NearbyRider) := do
  let riders ← queryNearbyRaw deployment ⟨query.lat, query.lng⟩ query.radius
    (query.city.or context.city) query.limit
  if riders.isEmpty then pure []
  else do
    let candidates := riders.filter fun rider => decide (rider.userId ≠ viewerId)
    if query.filter = .friends then do
      let mutuals ← getMutualFollowerIds viewerId
      visibleRiders viewerId query.filter context (some mutuals) candidates
    else visibleRiders viewerId query.filter context none candidates

/-- `GET /map/nearby`: the controller passes no party for the viewer. -/
def nearby (deployment : Deployment) (viewerId : UserId) (query : NearbyQuery) :
    Flow (List NearbyRider) := do
  let found : Option User ← call (.userFindUnique viewerId)
  match found with
  | none => .fail userNotFound
  | some user => getNearbyRiders deployment viewerId query ⟨user.city, none⟩

end Motogram
