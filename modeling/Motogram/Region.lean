import Motogram.Store

/-!
# What a call writes

Every call writes some regions of the state, most of them one and the reads
none. `Flow.Writes` bounds the regions a service function can write, whatever
the replies. What lies outside those regions it leaves as it was: for the
functions that have nothing to do with memberships this replaces following them
call by call.
-/

set_option autoImplicit false

namespace Motogram

open Foundation

/-- The parts of the state that are written together. -/
inductive Region where
  | membership
  | membershipKeys  -- the Redis keys that repeat memberships
  | election
  | presence
  | invites
  | counters
  | locations
  | profiles
  | connections
  | rooms
  | outbox
  | speech
  | environment
  deriving DecidableEq

/-- Events that carry the signal or the position of a member are kept apart from
the other events. -/
@[simp] def PartyEvent.region : PartyEvent → Region
  | .signalReceived _ _ _ _ _ => .speech
  | .memberUpdated _ _ _ _ _ _ _ => .speech
  | .memberJoined _ _ => .outbox
  | .memberLeft _ _ _ => .outbox
  | .statusChanged _ _ => .outbox
  | .leaderChanged _ _ _ => .outbox
  | .ended _ _ => .outbox

@[simp] def Emission.region : Emission → Region
  | .room event _ => event.region
  | .client _ _ => .outbox

def MemberPatch.region : MemberPatch → Region
  | .rejoin => .membership
  | .leave => .membership
  | .online => .presence
  | .offline => .presence
  | .hostname _ => .presence

@[simp] def RedisCommand.region : RedisCommand → Region
  | .saddMembers _ _ => .membershipKeys
  | .sremMembers _ _ => .membershipKeys
  | .delMembers _ => .membershipKeys
  | .delMeta _ => .membershipKeys
  | .delZombieWatch _ => .presence
  | .saddActiveParty _ => .membershipKeys
  | .sremActiveParty _ => .membershipKeys
  | .setUserParty _ _ => .membershipKeys
  | .delUserParty _ => .membershipKeys
  | .zaddZombieWatch _ _ _ => .presence
  | .zremZombieWatch _ _ => .presence
  | .geoadd _ _ _ => .locations
  | .zremShard _ _ => .locations
  | .zremShardAll _ _ => .locations
  | .saddShardIndex _ => .locations
  | .hsetOffline _ => .locations
  | .hsetStatus _ _ => .locations
  | .expireStatus _ _ => .locations
  | .setPing _ _ _ => .locations
  | .delPing _ => .locations

@[simp] def StoreCall.regions : StoreCall → List Region
  | .createPartyTransaction _ _ _ => [.membership]
  | .endPartyTransaction _ => [.membership]
  | .changeLeaderTransaction _ _ => [.membership]
  | .partyMemberCreate _ _ _ => [.membership]
  | .partyMemberUpdate _ _ patch => [patch.region]
  | .partyMemberUpdateManyActive _ _ patch => [patch.region]
  | .setLeaderLockNx _ _ _ => [.election]
  | .releaseLeaderLock _ _ => [.election]
  | .partyInviteCreate _ _ _ _ => [.invites]
  | .partyInviteDecline _ => [.invites]
  | .partyInviteAcceptPending _ _ => [.invites]
  | .notificationCreate _ => [.invites]
  | .incr _ => [.counters]
  | .expireCounter _ _ => [.counters]
  | .userUpdateLocationSharing _ _ => [.profiles]
  | .liveSessionDeactivate _ => [.profiles]
  | .redis command => [command.region]
  | .multi commands => commands.map RedisCommand.region
  | .socketConnect _ _ _ => [.connections]
  | .socketDisconnect _ => [.connections, .rooms]
  | .socketJoin _ _ => [.rooms]
  | .socketLeave _ _ => [.rooms]
  | .emit emission => [emission.region]
  | .environment _ => [.environment]
  | .userFindUnique _ => []
  | .liveSessionFindUnique _ => []
  | .routeFindUnique _ => []
  | .followFindUnique _ _ => []
  | .followingOf _ => []
  | .followersAmong _ _ => []
  | .blockFindFirst _ _ => []
  | .partyFindUnique _ => []
  | .partyFindUniqueWithMembers _ => []
  | .partyFindUniqueDetail _ => []
  | .partyMemberFindUnique _ _ => []
  | .partyMemberFindFirstActive _ => []
  | .partyInviteFindUnique _ => []
  | .partyInviteFindByInvitee _ _ => []
  | .sismemberMembers _ _ => []
  | .smembersMembers _ => []
  | .smembersActiveParties => []
  | .zrangebyscoreZombieWatch _ _ => []
  | .getUserParty _ => []
  | .geosearch _ _ _ _ => []
  | .hgetallStatus _ => []
  | .smembersShardIndex => []
  | .zrangeShard _ => []
  | .getPing _ => []
  | .socketData _ => []
  | .dateNow => []

/-- The function writes these regions at most. -/
abbrev Flow.Writes {Value : Type} (flow : Flow Value) (allowed : List Region) : Prop :=
  flow.Uses fun call => call.regions ⊆ allowed

theorem MemberPatch.region_eq_presence {patch : MemberPatch} (elsewhere : patch.region ≠ .membership) :
    patch.region = .presence := by
  cases patch with
  | rejoin | leave => exact absurd rfl elsewhere
  | online | offline | hostname => rfl

namespace Flow

variable {First Second : Type} {allowed more : List Region}

theorem Writes.mono {flow : Flow First} (writes : flow.Writes allowed) (wider : allowed ⊆ more) :
    flow.Writes more :=
  Program.Uses.mono writes fun _ within => List.Subset.trans within wider

end Flow

end Motogram
