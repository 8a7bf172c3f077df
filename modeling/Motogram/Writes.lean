import Motogram.System

/-!
# What each operation writes

For every service function the regions it writes at most, and from them the
regions of every operation. An invariant that speaks of some regions needs a
proof for the operations that write them; all others keep it by these bounds.
-/

set_option autoImplicit false

namespace Motogram

open Foundation Program Uses

theorem writes_call {request : StoreCall} {allowed : List Region}
    (within : (request.regions.all fun region => decide (region ∈ allowed)) = true) :
    Flow.Writes (call request) allowed :=
  ⟨fun region member => of_decide_eq_true (List.all_eq_true.mp within region member), fun _ => trivial⟩

theorem writes_then {Value : Type} {request : StoreCall} {allowed : List Region}
    {next : StoreReply request → Flow Value}
    (within : (request.regions.all fun region => decide (region ∈ allowed)) = true)
    (rest : ∀ reply, (next reply).Writes allowed) : (call request >>= next).Writes allowed :=
  bind (writes_call within) rest

/-! ## The party service -/

theorem incrementActionCount_writes (key : CounterKey) (windowSeconds : Nat) :
    (incrementActionCount key windowSeconds).Writes [.counters] := by
  simp only [incrementActionCount, call_bind, done_bind, uses_call]
  refine ⟨by simp, fun count => ?_⟩
  split
  · exact writes_call rfl
  · trivial

theorem rethrow_writes {Value : Type} (reply : Except PrismaError Value) (allowed : List Region) :
    (rethrow reply).Writes allowed := by
  cases reply <;> simp

theorem requireRoute_writes (routeId : Option RouteId) : (requireRoute routeId).Writes [] := by
  unfold requireRoute
  split
  · trivial
  · exact writes_then rfl fun route => by simp

theorem createParty_writes (leaderId : UserId) (partyId : PartyId) (dto : CreatePartyDto) :
    (createParty leaderId partyId dto).Writes [.counters, .membership, .membershipKeys] := by
  refine bind ((incrementActionCount_writes _ _).mono (by simp)) fun count => ?_
  refine bind (by simp) fun _ => ?_
  refine bind (by simp [findActivePartyForUser]) fun existing => ?_
  cases existing with
  | some other => trivial
  | none =>
    refine bind ((requireRoute_writes _).mono (by simp)) fun _ => ?_
    refine writes_then rfl fun created => ?_
    exact bind (rethrow_writes _ _) fun party => by simp

variable (deployment : Deployment) (viewerId : UserId) (socket : SocketId) (userId : UserId)
  (dto : UpdateLocationDto) (partyId : PartyId)

theorem completeJoin_writes (isPrivate : Bool) (member : PartyMember) :
    (completeJoin userId partyId isPrivate member).Writes [.membershipKeys, .invites, .outbox] := by
  have detail : (getPartyDetail partyId).Writes [.membershipKeys, .invites, .outbox] := by
    refine writes_then rfl fun read => ?_
    cases read <;> simp
  unfold completeJoin
  cases isPrivate with
  | true =>
    exact ⟨by simp, fun _ => ⟨by simp, fun _ => ⟨by simp, fun user => ⟨by simp, fun _ => detail⟩⟩⟩⟩
  | false =>
    exact ⟨by simp, fun _ => ⟨by simp, fun user => ⟨by simp, fun _ => detail⟩⟩⟩

theorem requireInvite_writes (party : Party) : (requireInvite userId partyId party).Writes [] := by
  unfold requireInvite
  split
  · exact writes_then rfl fun invite => by simp
  · trivial

theorem joinAdmitted_writes (found : PartyWithMembers) :
    (joinAdmitted userId partyId found).Writes [.membership, .membershipKeys, .invites, .outbox] := by
  refine bind ?_ fun member => (completeJoin_writes ..).mono (by simp)
  unfold writeMembership
  split
  · exact bind (by simp [MemberPatch.region]) fun updated => rethrow_writes _ _
  · exact writes_then rfl fun created => rethrow_writes _ _

theorem joinParty_writes :
    (joinParty userId partyId).Writes [.membership, .membershipKeys, .invites, .outbox] := by
  refine writes_then rfl fun read => ?_
  cases read with
  | none => trivial
  | some found =>
    refine bind (by simp) fun _ => ?_
    refine bind (by simp) fun _ => ?_
    refine bind (by simp [findActivePartyForUser]) fun other => ?_
    cases other with
    | none => exact bind ((requireInvite_writes ..).mono (by simp)) fun _ =>
      joinAdmitted_writes ..
    | some membership =>
      refine bind (by simp) fun _ => ?_
      exact bind ((requireInvite_writes ..).mono (by simp)) fun _ =>
      joinAdmitted_writes ..

theorem endFlush_regions (memberIds : List UserId) :
    (endFlush partyId memberIds).map RedisCommand.region ⊆ [.membership, .membershipKeys, .presence, .outbox] := by
  intro region written
  rw [endFlush, List.map_append, List.mem_append] at written
  rcases written with fixed | each
  · simp only [List.map_cons, List.map_nil, RedisCommand.region, List.mem_cons,
      List.not_mem_nil, or_false] at fixed ⊢
    tauto
  · obtain ⟨command, member, rfl⟩ := List.mem_map.mp each
    obtain ⟨userId, -, rfl⟩ := List.mem_map.mp member
    simp

theorem endParty_writes (reason : EndReason) :
    (endParty partyId reason).Writes [.membership, .membershipKeys, .presence, .outbox] := by
  refine writes_then rfl fun found => ?_
  cases found with
  | none => trivial
  | some party =>
    dsimp only
    split
    · trivial
    · refine writes_then rfl fun ended => ?_
      refine bind (rethrow_writes _ _) fun _ => ?_
      refine writes_then rfl fun memberIds => ?_
      refine bind ?_ fun _ => by simp
      exact ⟨endFlush_regions partyId memberIds, fun _ => trivial⟩

theorem replaceLeader_writes (found : PartyWithMembers) :
    (replaceLeader userId partyId found).Writes [.membership, .membershipKeys, .presence, .election, .outbox] := by
  have ended : (endParty partyId .leaderLeftAlone).Writes
      [.membership, .membershipKeys, .presence, .election, .outbox] := (endParty_writes ..).mono (by simp)
  have fallen (newLeaderId : Option UserId) :
      (leaveWithoutElection partyId (found.candidates userId) newLeaderId).Writes
        [.membership, .membershipKeys, .presence, .election, .outbox] := by
    unfold leaveWithoutElection
    split
    · exact bind ended fun _ => trivial
    · trivial
  unfold replaceLeader
  split
  · exact bind ended fun _ => trivial
  · refine bind ?_ fun election => ?_
    · unfold elect
      split
      · trivial
      · exact writes_then rfl fun locked => by split <;> simp
    · split
      · refine writes_then rfl fun changed => ?_
        exact bind (rethrow_writes _ _) fun _ => by simp [release]
      · exact fallen _

theorem leaveParty_writes (reason : LeaveReason) :
    (leaveParty userId partyId reason).Writes [.membership, .membershipKeys, .presence, .election, .outbox] := by
  refine writes_then rfl fun read => ?_
  cases read with
  | none => trivial
  | some found =>
    refine bind (by simp) fun _ => ?_
    split
    · trivial
    · refine bind (by simp) fun _ => ?_
      refine bind (by simp [MemberPatch.region]) fun updated => ?_
      refine bind (rethrow_writes _ _) fun _ => ?_
      refine writes_then rfl fun _ => ?_
      refine writes_then rfl fun _ => ?_
      split
      · trivial
      · exact replaceLeader_writes ..

theorem respondInvite_writes (inviteId : InviteId) (accept : Bool) :
    (respondInvite userId inviteId accept).Writes [.membership, .membershipKeys, .invites, .outbox] := by
  refine writes_then rfl fun found => ?_
  cases found with
  | none => trivial
  | some invite =>
    refine bind (by simp) fun _ => ?_
    refine bind (by simp) fun _ => ?_
    split
    · exact bind (joinParty_writes ..) fun _ => trivial
    · refine writes_then rfl fun declined => ?_
      exact bind (rethrow_writes _ _) fun _ => trivial

theorem sweepMembers_writes (userIds : List UserId) :
    (sweepMembers partyId userIds).Writes [.membership, .membershipKeys, .presence, .election, .outbox] := by
  induction userIds with
  | nil => simp [sweepMembers]
  | cons userId rest ih =>
    refine bind ?_ fun removed => bind ih fun more => by simp
    refine rescue ?_ fun error => by simp
    exact bind (leaveParty_writes ..) fun _ => writes_call rfl

theorem sweepZombieMembers_writes :
    sweepZombieMembers.Writes [.membership, .membershipKeys, .presence, .election, .outbox] := by
  have parties (threshold : Int) (partyIds : List PartyId) :
      (sweepParties threshold partyIds).Writes [.membership, .membershipKeys, .presence, .election, .outbox] := by
    induction partyIds with
    | nil => simp [sweepParties]
    | cons partyId rest ih =>
      refine writes_then rfl fun stale => ?_
      refine bind (sweepMembers_writes ..) fun removed => ?_
      exact bind ih fun more => by simp
  refine writes_then rfl fun now => ?_
  exact writes_then rfl fun partyIds => parties _ _

theorem markOffline_writes : (markOffline userId partyId).Writes [.presence] := by
  simp [markOffline, MemberPatch.region]

theorem clearOfflineMark_writes : (clearOfflineMark userId partyId).Writes [.presence] := by
  simp [clearOfflineMark, MemberPatch.region]

theorem inviteEach_writes (inviterId : UserId) (partyId : PartyId) (partyName : String)
    (invitees : List (UserId × InviteId)) (result : InviteResult) :
    (inviteEach inviterId partyId partyName invitees result).Writes [.invites] := by
  induction invitees generalizing result with
  | nil => simp [inviteEach]
  | cons invitee rest ih =>
    unfold inviteEach
    split
    · exact ih _
    · refine writes_then rfl fun existing => ?_
      cases existing with
      | some invite => exact ih _
      | none =>
        refine writes_then rfl fun created => ?_
        cases created with
        | error error => trivial
        | ok value =>
          exact writes_then rfl fun _ => ih _

theorem invite_writes (inviterId : UserId) (partyId : PartyId) (invitees : List (UserId × InviteId)) :
    (invite inviterId partyId invitees).Writes [.invites] := by
  refine writes_then rfl fun read => ?_
  cases read with
  | none => trivial
  | some found =>
    refine bind (by simp) fun _ => ?_
    refine bind (by simp) fun _ => ?_
    refine bind (by simp) fun _ => ?_
    exact inviteEach_writes ..

theorem handleConnection_writes (username : String) :
    (handleConnection socket userId username).Writes [.connections] := by
  simp [handleConnection]

theorem handleDisconnect_writes :
    (handleDisconnect socket).Writes [.connections, .rooms, .presence, .locations] := by
  refine writes_then rfl fun data => ?_
  cases data with
  | none => trivial
  | some identity =>
    refine writes_then rfl fun activePartyId => ?_
    cases activePartyId with
    | none => exact writes_call rfl
    | some partyId =>
      exact bind ((markOffline_writes _ _).mono (by simp)) fun _ => by
        simp

theorem recordSignal_writes (senderId : UserId) (type : PartySignalType) (senderName : String) :
    (recordSignal partyId senderId type senderName).Writes [.counters, .speech] := by
  refine bind ((incrementActionCount_writes _ _).mono (by simp)) fun count => ?_
  split
  · trivial
  · simp only [call_bind, done_bind, uses_call]
    refine ⟨by simp, fun isMember => ?_⟩
    refine bind (by simp) fun _ => ?_
    simp

theorem replyError_writes (event code : String) (message : WsErrorMessage) :
    (replyError socket event code message).Writes [.outbox] := by
  simp [replyError]

theorem handleSendSignal_writes (payload : Option WsPartySendSignal) :
    (handleSendSignal socket payload).Writes [.counters, .outbox, .speech] := by
  refine writes_then rfl fun data => ?_
  cases data with
  | none => trivial
  | some identity =>
    cases payload with
    | none => exact (replyError_writes ..).mono (by simp)
    | some payload =>
      refine rescue ?_ fun error => (replyError_writes ..).mono (by simp)
      refine bind ((recordSignal_writes ..).mono (by simp)) fun result => ?_
      split
      · exact bind ((replyError_writes ..).mono (by simp)) fun _ => trivial
      · trivial

theorem removeFromRedis_writes (city : Option String) :
    (removeFromRedis deployment userId city).Writes [.locations] := by
  simp [removeFromRedis]

theorem countPing_writes : (countPing userId).Writes [.counters] := by
  simp only [countPing, call_bind, done_bind, uses_call]
  refine ⟨by simp, fun count => ?_⟩
  split
  · exact writes_call rfl
  · trivial

theorem pipeline_writes {commands : List RedisCommand} {allowed : List Region}
    (within : commands.map RedisCommand.region ⊆ allowed) : (pipeline commands).Writes allowed := by
  induction commands with
  | nil => simp [pipeline]
  | cons command rest ih =>
    rw [List.map_cons, List.cons_subset] at within
    have first : (call (.redis command)).Writes allowed :=
      ⟨List.cons_subset.mpr ⟨within.1, List.nil_subset _⟩, fun _ => trivial⟩
    exact bind first fun _ => ih within.2

/-- What a location update writes: the member set too when it names a party. -/
@[simp] def updateRegions : Option PartyId → List Region
  | none => [.counters, .locations]
  | some _ => [.counters, .locations, .membershipKeys]

theorem updateCommands_regions (user : User) (shard : String) (now : Time) :
    (updateCommands userId dto user shard now).map RedisCommand.region ⊆ updateRegions dto.partyId := by
  cases named : dto.partyId with
  | none | some => simp [updateCommands, positionCommands, named]

theorem updateLocation_writes (user : User) :
    (updateLocation deployment userId dto user).Writes (updateRegions dto.partyId) := by
  have counters : [Region.counters] ⊆ updateRegions dto.partyId := by
    cases dto.partyId <;> simp
  have locations : [Region.locations] ⊆ updateRegions dto.partyId := by
    cases dto.partyId <;> simp
  refine bind (by simp) fun _ => ?_
  refine bind ((countPing_writes userId).mono counters) fun count => ?_
  split
  · trivial
  · split
    · exact bind ((removeFromRedis_writes ..).mono locations) fun _ => trivial
    · refine writes_then rfl fun now => ?_
      exact bind (pipeline_writes (updateCommands_regions ..)) fun _ => trivial

theorem restUpdateLocation_writes :
    (restUpdateLocation deployment userId dto).Writes (updateRegions dto.partyId) := by
  refine writes_then rfl fun found => ?_
  cases found with
  | none => trivial
  | some user => exact updateLocation_writes deployment userId dto user

theorem updateSharing_writes (mode : LocationSharingMode) :
    (updateSharing deployment userId mode).Writes [.profiles, .locations] := by
  refine writes_then rfl fun updated => ?_
  cases updated with
  | error error => trivial
  | ok value =>
    split
    · refine writes_then rfl fun user => ?_
      exact bind ((removeFromRedis_writes ..).mono (by simp)) fun _ => trivial
    · trivial

theorem stopSession_writes : (stopSession deployment userId).Writes [.profiles, .locations] := by
  refine bind ?_ fun _ => ?_
  · refine writes_then rfl fun session => ?_
    cases session with
    | none => trivial
    | some active => exact writes_call rfl
  · refine writes_then rfl fun user => ?_
    exact (removeFromRedis_writes ..).mono (by simp)

theorem readStatuses_writes (hits : List GeoHit) : (readStatuses hits).Writes [] := by
  induction hits with
  | nil => simp [readStatuses]
  | cons hit hits ih =>
    refine writes_then rfl fun status => ?_
    refine bind ih fun rest => ?_
    split <;> simp

theorem canViewBasedOnPrivacy_writes (targetId : UserId) (mode : LocationSharingMode)
    (targetInParty viewerInSameParty : Bool) :
    (canViewBasedOnPrivacy viewerId targetId mode targetInParty viewerInSameParty).Writes [] := by
  unfold canViewBasedOnPrivacy
  split
  · trivial
  · split
    · trivial
    · cases mode with
      | off | partyOnly => trivial
      | publicMode | groupMembers => simp [hasBlock]
      | followersOnly | mutualFollowers =>
        refine bind (by simp [hasBlock]) fun blocked => ?_
        split <;> simp [isAcceptedFollow]

theorem visibleRiders_writes (filter : MapFilter) (context : ViewerContext) (allowed : Option (List UserId))
    (riders : List NearbyRiderRaw) : (visibleRiders viewerId filter context allowed riders).Writes [] := by
  induction riders with
  | nil => simp [visibleRiders]
  | cons raw rest ih =>
    unfold visibleRiders
    split
    · exact ih
    · split
      · exact ih
      · refine bind (canViewBasedOnPrivacy_writes ..) fun canView => ?_
        split
        · exact ih
        · refine writes_then rfl fun found => ?_
          refine bind ih fun more => ?_
          cases found with
          | none => trivial
          | some user => dsimp only; split <;> simp

theorem nearby_writes (query : NearbyQuery) : (nearby deployment viewerId query).Writes [] := by
  refine writes_then rfl fun found => ?_
  cases found with
  | none => trivial
  | some user =>
    refine bind ?_ fun riders => ?_
    · refine writes_then rfl fun hits => ?_
      cases hits with
      | error error => trivial
      | ok hits => exact readStatuses_writes hits
    · split
      · trivial
      · split
        · refine bind ?_ fun mutuals => visibleRiders_writes ..
          refine writes_then rfl fun following => ?_
          split <;> simp
        · exact visibleRiders_writes ..

theorem findZombies_writes (threshold : Int) (members : List UserId) :
    (findZombies threshold members).Writes [] := by
  induction members with
  | nil => simp [findZombies]
  | cons userId members ih =>
    refine writes_then rfl fun ping => ?_
    exact bind ih fun toRemove => by simp

theorem cleanupCommands_regions (shard : String) (toRemove : List UserId) :
    (cleanupCommands shard toRemove).map RedisCommand.region ⊆ [.locations] := by
  intro region written
  obtain ⟨command, member, rfl⟩ := List.mem_map.mp written
  rcases List.mem_cons.mp member with rfl | offline
  · simp
  · obtain ⟨userId, -, rfl⟩ := List.mem_map.mp offline
    simp

theorem sweepShards_writes (threshold : Int) (shards : List String) :
    (sweepShards threshold shards).Writes [.locations] := by
  induction shards with
  | nil => simp [sweepShards]
  | cons shard shards ih =>
    refine bind ?_ fun first => bind ih fun rest => by simp
    refine writes_then rfl fun members => ?_
    cases members with
    | error error => trivial
    | ok members =>
      dsimp only
      split
      · trivial
      · refine bind ((findZombies_writes ..).mono (by simp)) fun toRemove => ?_
        split
        · trivial
        · exact bind (pipeline_writes (cleanupCommands_regions ..)) fun _ => trivial

theorem sweepZombies_writes : sweepZombies.Writes [.locations] := by
  refine writes_then rfl fun now => writes_then rfl fun shards => ?_
  cases shards with
  | error error => trivial
  | ok shards => exact bind (sweepShards_writes ..) fun counts => by simp

/-! ## The messages of the gateway that change memberships or rooms -/

theorem handlePartyJoin_writes (payload : Option PartyId) :
    (handlePartyJoin deployment socket payload).Writes [.rooms, .presence, .membershipKeys, .outbox] := by
  refine writes_then rfl fun data => ?_
  cases data with
  | none => trivial
  | some identity =>
    cases payload with
    | none => exact (replyError_writes ..).mono (by simp)
    | some partyId =>
      refine writes_then rfl fun member => ?_
      cases member with
      | none => exact (replyError_writes ..).mono (by simp)
      | some row =>
        dsimp only
        split
        · exact (replyError_writes ..).mono (by simp)
        · refine writes_then rfl fun _ => ?_
          refine bind ((clearOfflineMark_writes ..).mono (by simp)) fun _ => ?_
          refine bind (by simp [MemberPatch.region]) fun updated => ?_
          exact bind (rethrow_writes _ _) fun _ => writes_call rfl

theorem handlePartyLeave_writes (payload : Option PartyId) :
    (handlePartyLeave socket payload).Writes
      [.membership, .membershipKeys, .presence, .election, .outbox, .rooms] := by
  refine writes_then rfl fun data => ?_
  cases data with
  | none => trivial
  | some identity =>
    cases payload with
    | none => exact (replyError_writes ..).mono (by simp)
    | some partyId =>
      refine rescue ?_ fun error => (replyError_writes ..).mono (by simp)
      exact bind ((leaveParty_writes ..).mono (by simp)) fun _ => writes_call rfl

theorem handlePartyUpdateLocation_writes (payload : Option WsPartyUpdateLocation) :
    (handlePartyUpdateLocation deployment socket payload).Writes
      [.counters, .locations, .membershipKeys, .outbox, .speech] := by
  refine writes_then rfl fun data => ?_
  cases data with
  | none => trivial
  | some identity =>
    cases payload with
    | none => exact (replyError_writes ..).mono (by simp)
    | some update =>
      refine writes_then rfl fun isMember => ?_
      split
      · exact (replyError_writes ..).mono (by simp)
      · refine writes_then rfl fun found => ?_
        cases found with
        | none => trivial
        | some user =>
          dsimp only
          split
          · trivial
          · refine bind ((updateLocation_writes ..).mono ?_) fun _ => by simp
            simp [WsPartyUpdateLocation.toDto]

/-! ## Operations -/

/-- The regions an operation writes at most. -/
@[simp] def Op.regions : Op → List Region
  | .createParty _ _ _ => [.counters, .membership, .membershipKeys]
  | .joinParty _ _ => [.membership, .membershipKeys, .invites, .outbox]
  | .leaveParty _ _ _ => [.membership, .membershipKeys, .presence, .election, .outbox]
  | .endParty _ _ => [.membership, .membershipKeys, .presence, .outbox]
  | .invite _ _ _ => [.invites]
  | .respondInvite _ _ _ => [.membership, .membershipKeys, .invites, .outbox]
  | .markOffline _ _ => [.presence]
  | .clearOfflineMark _ _ => [.presence]
  | .sweepZombieMembers => [.membership, .membershipKeys, .presence, .election, .outbox]
  | .connect _ _ _ => [.connections]
  | .disconnect _ => [.connections, .rooms, .presence, .locations]
  | .partyJoin _ _ => [.rooms, .presence, .membershipKeys, .outbox]
  | .partyLeave _ _ => [.membership, .membershipKeys, .presence, .election, .outbox, .rooms]
  | .partyUpdateLocation _ _ => [.counters, .locations, .membershipKeys, .outbox, .speech]
  | .partySendSignal _ _ => [.counters, .outbox, .speech]
  | .updateLocation _ dto => updateRegions dto.partyId
  | .updateSharing _ _ => [.profiles, .locations]
  | .stopSession _ => [.profiles, .locations]
  | .nearby _ _ => []
  | .sweepZombies => [.locations]
  | .environment _ => [.environment]

/-- **Every operation writes its regions at most.** -/
theorem Op.program_writes (op : Op) (deployment : Deployment) : (op.program deployment).Writes op.regions := by
  cases op with
  | createParty leaderId partyId dto => exact (createParty_writes ..).bind fun _ => trivial
  | joinParty userId partyId => exact (joinParty_writes ..).bind fun _ => trivial
  | leaveParty userId partyId reason => exact (leaveParty_writes ..).bind fun _ => trivial
  | endParty partyId reason => exact (endParty_writes ..).bind fun _ => trivial
  | invite inviterId partyId invitees => exact (invite_writes ..).bind fun _ => trivial
  | respondInvite userId inviteId accept => exact (respondInvite_writes ..).bind fun _ => trivial
  | markOffline userId partyId => exact (markOffline_writes ..).bind fun _ => trivial
  | clearOfflineMark userId partyId => exact (clearOfflineMark_writes ..).bind fun _ => trivial
  | sweepZombieMembers => exact sweepZombieMembers_writes.bind fun _ => trivial
  | connect socket userId username => exact (handleConnection_writes ..).bind fun _ => trivial
  | disconnect socket => exact (handleDisconnect_writes ..).bind fun _ => trivial
  | partyJoin socket payload => exact (handlePartyJoin_writes ..).bind fun _ => trivial
  | partyLeave socket payload => exact (handlePartyLeave_writes ..).bind fun _ => trivial
  | partyUpdateLocation socket payload =>
    exact (handlePartyUpdateLocation_writes ..).bind fun _ => trivial
  | partySendSignal socket payload => exact (handleSendSignal_writes ..).bind fun _ => trivial
  | updateLocation userId dto => exact (restUpdateLocation_writes ..).bind fun _ => trivial
  | updateSharing userId mode => exact (updateSharing_writes ..).bind fun _ => trivial
  | stopSession userId => exact (stopSession_writes ..).bind fun _ => trivial
  | nearby viewerId query => exact (nearby_writes ..).bind fun _ => trivial
  | sweepZombies => exact sweepZombies_writes.bind fun _ => trivial
  | environment event => exact writes_then rfl fun _ => trivial

theorem step_keeps {keeps : State → Prop} {op : Op} {s : State} (before : keeps s)
    (each : ∀ call s, call.regions ⊆ op.regions → keeps s → keeps (answer call s).2) : keeps (step s op) :=
  (op.program_writes s.deployment).run_keeps answer each before

end Motogram
