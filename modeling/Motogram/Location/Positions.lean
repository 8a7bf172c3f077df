import Motogram.Foundation.Sharding
import Motogram.Writes

/-!
# The positions and who writes them

The geo keys are an index in shards: every shard lists users with coordinates. Beside it
stands the status hash of a user, without which the nearby query skips a position.

Only an accepted location update adds to either. `Op.accepted?` is the accepted update of
an operation. An operation without one leaves less than it found (`Retreats`), and an
accepted update does what `Locates` says; `step_positions` is that every operation does the
one or the other.
-/

set_option autoImplicit false

namespace Motogram

open Foundation Program State

/-- What the shards list. -/
def State.positions (s : State) : Index String UserId Coordinates :=
  fun shard => LocationValue.entries (s.locationKeys shard)

/-- The fields that an update has written to the status hash, while it lives. -/
def State.ping? (s : State) (userId : UserId) : Option StatusPing :=
  (Expiring.live s.now (s.userStatus userId)).bind fun stored => stored.value.ping

/-- The geo index takes the coordinates under the shard. -/
def State.Takes (s : State) (shard : String) (coordinates : Coordinates) : Prop :=
  coordinates.Indexable ∧ ∀ names, s.locationKeys shard ≠ some (.names names)

/-! ## The keys -/

variable (value : Option LocationValue) (deployment : Deployment) (userId : UserId) {s t : State}

theorem entries_zrem :
    LocationValue.entries (LocationValue.zrem value userId) =
      scoreRemove (LocationValue.entries value) userId := by
  cases value with
  | none => rfl
  | some value =>
    cases value with
    | names members => rfl
    | geo entries =>
      simp only [LocationValue.zrem, LocationValue.entries]
      cases scoreRemove entries userId <;> rfl

theorem entries_sadd (name : String) :
    LocationValue.entries (LocationValue.sadd value name) = LocationValue.entries value := by
  cases value with
  | none => rfl
  | some value => cases value <;> rfl

theorem entries_zremAll (userIds : List UserId) (value : Option LocationValue) :
    LocationValue.entries (userIds.foldl LocationValue.zrem value) ⊆ LocationValue.entries value := by
  induction userIds generalizing value with
  | nil => exact List.Subset.refl _
  | cons userId rest ih =>
    refine List.Subset.trans (ih (LocationValue.zrem value userId)) ?_
    rw [entries_zrem]
    exact List.filter_subset_self _

/-! ## Less than before -/

/-- The shards list no more than they listed, and no status says what it did not say. -/
structure Retreats (s t : State) : Prop where
  deployment : t.deployment = s.deployment
  positions : t.positions.Within s.positions
  ping : ∀ userId ping, t.ping? userId = some ping → s.ping? userId = some ping

namespace Retreats

variable {first second third : State}

theorem refl (s : State) : Retreats s s :=
  ⟨rfl, .refl s.positions, fun _ _ found => found⟩

theorem trans (left : Retreats first second) (right : Retreats second third) :
    Retreats first third where
  deployment := right.deployment.trans left.deployment
  positions := right.positions.trans left.positions
  ping := fun userId ping found => left.ping userId ping (right.ping userId ping found)

/-- What leaves the keys and the clock alone. -/
theorem of_eq (deployment : second.deployment = first.deployment) (now : second.now = first.now)
    (keys : second.locationKeys = first.locationKeys)
    (status : second.userStatus = first.userStatus) : Retreats first second := by
  refine ⟨deployment, fun shard => ?_, fun userId ping found => ?_⟩
  · rw [State.positions, keys]
    exact List.Subset.refl _
  · rwa [State.ping?, now, status] at found

end Retreats

theorem retreats_locationKey {shard : String} {value : Option LocationValue}
    (fewer : LocationValue.entries value ⊆ LocationValue.entries (s.locationKeys shard)) :
    Retreats s (s.withLocationKey shard value) := by
  refine ⟨rfl, fun other => ?_, fun _ _ found => found⟩
  rw [State.positions, withLocationKey_locationKeys]
  by_cases same : other = shard
  · subst same
    rw [Function.update_self]
    exact fewer
  · rw [Function.update_of_ne same]
    exact List.Subset.refl _

theorem retreats_status {userId : UserId} {status : Option (Expiring UserStatus)}
    (fewer : ∀ ping, ((Expiring.live s.now status).bind fun stored => stored.value.ping) = some ping → s.ping? userId = some ping) :
    Retreats s (s.withStatus userId status) := by
  refine ⟨rfl, .refl s.positions, fun other ping found => ?_⟩
  rw [State.ping?, withStatus_userStatus] at found
  by_cases same : other = userId
  · subst same
    rw [Function.update_self] at found
    exact fewer ping found
  · rwa [Function.update_of_ne same] at found

/-- A command that neither adds a position nor writes a status in full. -/
def RedisCommand.Quiet : RedisCommand → Prop
  | .geoadd _ _ _ => False
  | .hsetStatus _ _ => False
  | _ => True

theorem redis_retreats {command : RedisCommand} (quiet : command.Quiet) (s : State) :
    Retreats s (s.redis command) := by
  cases command with
  | geoadd | hsetStatus => exact quiet.elim
  | zremShard shard userId =>
    refine retreats_locationKey ?_
    rw [entries_zrem]
    exact List.filter_subset_self _
  | zremShardAll shard userIds => exact retreats_locationKey (entries_zremAll userIds _)
  | saddShardIndex shard =>
    refine retreats_locationKey ?_
    rw [entries_sadd]
    exact List.Subset.refl _
  | hsetOffline userId | expireStatus userId =>
    refine retreats_status fun ping found => ?_
    rw [State.ping?]
    cases alive : Expiring.live s.now (s.userStatus userId) with
    | none =>
      rw [alive] at found
      cases found
    | some status =>
      rw [alive] at found
      obtain ⟨stored, listed, same⟩ := Option.bind_eq_some_iff.mp found
      cases Expiring.live_eq_some listed
      exact same
  | _ => exact .of_eq rfl rfl rfl rfl

theorem foldl_redis_retreats {commands : List RedisCommand} (quiet : ∀ command ∈ commands, command.Quiet)
    (s : State) : Retreats s (commands.foldl redis s) :=
  List.foldlRecOn (motive := Retreats s) commands redis (.refl s)
    fun t before command member => before.trans (redis_retreats (quiet command member) t)

/-- A call that neither adds a position nor writes a status in full. -/
def StoreCall.Quiet : StoreCall → Prop
  | .redis command => command.Quiet
  | .multi commands => ∀ command ∈ commands, command.Quiet
  | _ => True

theorem answer_retreats {call : StoreCall} (quiet : call.Quiet) (s : State) : Retreats s (answer call s).2 := by
  cases call with
  | redis command => exact redis_retreats quiet s
  | multi commands => exact foldl_redis_retreats quiet s
  | environment event =>
    cases event with
    | elapse milliseconds =>
      refine ⟨rfl, .refl s.positions, fun userId ping found => ?_⟩
      obtain ⟨stored, listed, same⟩ := Option.bind_eq_some_iff.mp found
      obtain ⟨here, alive⟩ := Option.filter_eq_some_iff.mp listed
      refine Option.bind_eq_some_iff.mpr ⟨stored, Option.filter_eq_some_iff.mpr ⟨here, ?_⟩, same⟩
      rw [Option.all_eq_true_iff_get] at alive ⊢
      intro some
      have later := of_decide_eq_true (alive some)
      exact decide_eq_true (Nat.lt_of_le_of_lt (Nat.le_add_right _ _) later)
    | relist rows index =>
      simp only [answer]
      split <;> exact .of_eq rfl rfl rfl rfl
  | createPartyTransaction | partyMemberCreate | partyInviteCreate =>
    simp only [answer]
    split
    · exact .refl s
    · split <;> exact .of_eq rfl rfl rfl rfl
  | changeLeaderTransaction | endPartyTransaction | partyMemberUpdate | partyInviteDecline
  | setLeaderLockNx | releaseLeaderLock | userUpdateLocationSharing | socketConnect =>
    simp only [answer]
    split <;> exact .of_eq rfl rfl rfl rfl
  | _ => exact .of_eq rfl rfl rfl rfl

theorem exec_retreats {Value : Type} {flow : Flow Value} (quiet : flow.Uses StoreCall.Quiet)
    (s : State) : Retreats s (flow.exec s).2 :=
  quiet.run_keeps answer (fun _ t allowed before => before.trans (answer_retreats allowed t))
    (.refl s)

/-! ## The operations without an accepted update -/

/-- The flow adds no position and writes no status in full. -/
abbrev Flow.Quiet {Value : Type} (flow : Flow Value) : Prop := flow.Uses StoreCall.Quiet

theorem StoreCall.quiet_of_elsewhere {call : StoreCall} (elsewhere : .locations ∉ call.regions) : call.Quiet := by
  have command_quiet : ∀ command : RedisCommand, command.region ≠ .locations → command.Quiet := by
    intro command apart
    cases command with
    | geoadd | hsetStatus => exact apart rfl
    | _ => trivial
  cases call with
  | redis command => exact command_quiet command fun same => elsewhere (List.mem_singleton.mpr same.symm)
  | multi commands =>
    intro command member
    refine command_quiet command fun same => elsewhere ?_
    exact List.mem_map.mpr ⟨command, member, same⟩
  | _ => trivial

theorem Flow.Writes.quiet {Value : Type} {flow : Flow Value} {allowed : List Region}
    (writes : flow.Writes allowed) (elsewhere : .locations ∉ allowed) : flow.Quiet :=
  Uses.mono writes fun _ within =>
    StoreCall.quiet_of_elsewhere fun locations => elsewhere (within locations)

theorem pipeline_quiet {commands : List RedisCommand}
    (quiet : ∀ command ∈ commands, command.Quiet) : (pipeline commands).Quiet := by
  induction commands with
  | nil => trivial
  | cons command rest ih =>
    rw [List.forall_mem_cons] at quiet
    exact ⟨quiet.1, fun _ => ih quiet.2⟩

theorem removal_quiet (city : Option String) :
    ∀ command ∈ [RedisCommand.zremShard (userLocationShard deployment city) userId,
      .hsetOffline userId, .delPing userId], command.Quiet := by
  intro command member
  simp only [List.mem_cons, List.not_mem_nil, or_false] at member
  rcases member with rfl | rfl | rfl <;> trivial

theorem removed_retreats (s : State) (userId : UserId) (city : Option String) :
    Retreats s (s.removed userId city) := 
  foldl_redis_retreats (removal_quiet s.deployment userId city) s

theorem removeFromRedis_quiet (city : Option String) : (removeFromRedis deployment userId city).Quiet := 
  ⟨removal_quiet deployment userId city, fun _ => trivial⟩

theorem updateSharing_quiet (mode : LocationSharingMode) : (updateSharing deployment userId mode).Quiet := by
  refine Uses.send trivial fun updated => ?_
  cases updated with
  | error error => trivial
  | ok value =>
    split
    · refine Uses.send trivial fun user => ?_
      exact Uses.bind (removeFromRedis_quiet ..) fun _ => trivial
    · trivial

theorem stopSession_quiet : (stopSession deployment userId).Quiet := by
  refine Uses.bind ?_ fun _ => ?_
  · refine Uses.send trivial fun session => ?_
    cases session with
    | none => trivial
    | some active => exact ⟨trivial, fun _ => trivial⟩
  · exact Uses.send trivial fun user => removeFromRedis_quiet ..

theorem handleDisconnect_quiet (socket : SocketId) : (handleDisconnect socket).Quiet := by
  refine Uses.send trivial fun data => ?_
  cases data with
  | none => trivial
  | some identity =>
    refine Uses.send trivial fun activePartyId => ?_
    cases activePartyId with
    | none => exact ⟨trivial, fun _ => trivial⟩
    | some partyId =>
      refine Uses.bind ((markOffline_writes ..).quiet (by simp)) fun _ => ?_
      exact ⟨trivial, fun _ => trivial⟩

theorem cleanupCommands_quiet (shard : String) (toRemove : List UserId) :
    ∀ command ∈ cleanupCommands shard toRemove, command.Quiet := by
  intro command member
  rcases List.mem_cons.mp member with rfl | offline
  · trivial
  · obtain ⟨userId, -, rfl⟩ := List.mem_map.mp offline
    trivial

theorem sweepShards_quiet (threshold : Int) (shards : List String) : (sweepShards threshold shards).Quiet := by
  induction shards with
  | nil => trivial
  | cons shard shards ih =>
    refine Uses.bind ?_ fun first => Uses.bind ih fun rest => trivial
    refine Uses.send trivial fun members => ?_
    cases members with
    | error error => trivial
    | ok members =>
      dsimp only
      split
      · trivial
      · refine Uses.bind ((findZombies_writes ..).quiet (by simp)) fun toRemove => ?_
        split
        · trivial
        · exact Uses.bind (pipeline_quiet (cleanupCommands_quiet shard toRemove))
            fun _ => trivial

theorem sweepZombies_quiet : sweepZombies.Quiet := by
  refine Uses.send trivial fun now => Uses.send trivial fun shards => ?_
  cases shards with
  | error error => trivial
  | ok shards => exact Uses.bind (sweepShards_quiet ..) fun counts => trivial

/-! ## The update of an operation -/

/-- An update as it reaches the location service. -/
structure Update where
  userId : UserId
  dto : UpdateLocationDto
  user : User

def UpdateLocationDto.coordinates (dto : UpdateLocationDto) : Coordinates := ⟨dto.lat, dto.lng⟩

/-- The update an operation hands to the location service. -/
def Op.update? (s : State) : Op → Option Update
  | .updateLocation userId dto => (s.users userId).map fun user => ⟨userId, dto, user⟩
  | .partyUpdateLocation socket (some payload) =>
    match s.sockets socket with
    | none => none
    | some (userId, _) =>
      if userId ∈ s.partyMemberSet payload.partyId then
        (s.users userId).map fun user => ⟨userId, payload.toDto, user⟩
      else none
  | _ => none

def Update.flow (update : Update) (deployment : Deployment) : Flow UpdateLocationResult :=
  updateLocation deployment update.userId update.dto update.user

/-- The location service accepts the update. -/
def Update.accepted (s : State) (update : Update) : Bool :=
  match ((update.flow s.deployment).exec s).1 with
  | .ok result => result.accepted
  | .error _ => false

def Op.accepted? (s : State) (op : Op) : Option Update := (op.update? s).filter (Update.accepted s)

theorem Op.program_quiet {op : Op} (deployment : Deployment)
    (other : ∀ userId dto, op ≠ .updateLocation userId dto)
    (other' : ∀ socket payload, op ≠ .partyUpdateLocation socket payload) : (op.program deployment).Quiet := by
  cases op with
  | updateLocation userId dto => exact absurd rfl (other userId dto)
  | partyUpdateLocation socket payload => exact absurd rfl (other' socket payload)
  | disconnect socket => exact (handleDisconnect_quiet socket).bind fun _ => trivial
  | updateSharing userId mode => exact (updateSharing_quiet ..).bind fun _ => trivial
  | stopSession userId => exact (stopSession_quiet ..).bind fun _ => trivial
  | sweepZombies => exact sweepZombies_quiet.bind fun _ => trivial
  | _ => exact (Op.program_writes _ deployment).quiet (by simp)

/-! ## What an accepted update does -/

def Update.shard (update : Update) (deployment : Deployment) : String :=
  userLocationShard deployment (updateCity update.dto update.user)

/-- The user has the position, when the geo index takes it, and the status of the update;
everything else about positions stays. -/
structure Locates (s t : State) (update : Update) : Prop where
  deployment : t.deployment = s.deployment
  taken : s.Takes (update.shard s.deployment) update.dto.coordinates →
    Index.Puts s.positions t.positions (update.shard s.deployment) update.userId
      update.dto.coordinates
  refused : ¬ s.Takes (update.shard s.deployment) update.dto.coordinates →
    t.positions = s.positions
  own : t.ping? update.userId = some (statusPing update.dto update.user s.now)
  others : ∀ other, other ≠ update.userId → t.ping? other = s.ping? other

/-- What leaves the keys and the clock alone. -/
structure SamePositions (s t : State) : Prop where
  deployment : t.deployment = s.deployment
  now : t.now = s.now
  locationKeys : t.locationKeys = s.locationKeys
  userStatus : t.userStatus = s.userStatus

/-- What leaves the pings alone as well. -/
structure SameLocations (s t : State) : Prop extends SamePositions s t where
  userPing : t.userPing = s.userPing

theorem SamePositions.retreats (same : SamePositions s t) : Retreats s t :=
  .of_eq same.deployment same.now same.locationKeys same.userStatus

theorem SamePositions.positions (same : SamePositions s t) : t.positions = s.positions := by
  funext shard
  rw [State.positions, State.positions, same.locationKeys]

theorem SamePositions.ping? (same : SamePositions s t) (userId : UserId) : t.ping? userId = s.ping? userId := by
  rw [State.ping?, State.ping?, same.now, same.userStatus]

theorem SamePositions.takes (same : SamePositions s t) (shard : String) (coordinates : Coordinates) :
    t.Takes shard coordinates ↔ s.Takes shard coordinates := by
  rw [State.Takes, State.Takes, same.locationKeys]

theorem Locates.after {u : State} {update : Update} (locates : Locates s t update)
    (same : SamePositions t u) : Locates s u update where
  deployment := same.deployment.trans locates.deployment
  taken := fun takes => same.positions ▸ locates.taken takes
  refused := fun refuses => same.positions.trans (locates.refused refuses)
  own := (same.ping? _).trans locates.own
  others := fun other apart => (same.ping? other).trans (locates.others other apart)

theorem Locates.before {u : State} {update : Update} (same : SamePositions s t)
    (locates : Locates t u update) : Locates s u update where
  deployment := locates.deployment.trans same.deployment
  taken := fun takes => by
    have puts := locates.taken (by rwa [same.deployment, same.takes])
    rwa [same.positions, same.deployment] at puts
  refused := fun refuses => by
    rw [← same.positions]
    exact locates.refused (by rwa [same.deployment, same.takes])
  own := by rw [locates.own, same.now]
  others := fun other apart => (locates.others other apart).trans (same.ping? other)

theorem Locates.lists {update : Update} (locates : Locates s t update) {other : UserId}
    (apart : other ≠ update.userId) {shard : String} (lists : t.positions.Lists other shard) :
    s.positions.Lists other shard := by
  obtain ⟨coordinates, listed⟩ := lists
  by_cases takes : s.Takes (update.shard s.deployment) update.dto.coordinates
  · rcases (locates.taken takes).mem listed with ⟨-, written⟩ | ⟨before, -⟩
    · exact absurd (congrArg Prod.fst written) apart
    · exact ⟨coordinates, before⟩
  · rw [locates.refused takes] at listed
    exact ⟨coordinates, listed⟩

theorem entries_geoadd_of_takes {shard : String} {coordinates : Coordinates}
    (takes : s.Takes shard coordinates) (userId : UserId) :
    LocationValue.entries (LocationValue.geoadd (s.locationKeys shard) coordinates userId) =
      scoreSet (s.positions shard) userId coordinates := by
  unfold LocationValue.geoadd
  rw [if_pos takes.1, State.positions]
  cases here : s.locationKeys shard with
  | none => rfl
  | some value =>
    cases value with
    | geo entries => rfl
    | names members => exact absurd here (takes.2 members)

theorem entries_geoadd_of_not_takes {shard : String} {coordinates : Coordinates}
    (refuses : ¬ s.Takes shard coordinates) (userId : UserId) :
    LocationValue.geoadd (s.locationKeys shard) coordinates userId = s.locationKeys shard := by
  unfold LocationValue.geoadd
  by_cases indexable : coordinates.Indexable
  · rw [if_pos indexable]
    cases here : s.locationKeys shard with
    | none => exact absurd ⟨indexable, fun names taken => by rw [here] at taken; cases taken⟩ refuses
    | some value =>
      cases value with
      | geo entries =>
        exact absurd ⟨indexable, fun names taken => by rw [here] at taken; cases taken⟩ refuses
      | names members => rfl
  · rw [if_neg indexable]

theorem located_locationKeys (s : State) (update : Update) :
    (s.located update.userId update.dto update.user).locationKeys =
      Function.update
        (Function.update s.locationKeys (update.shard s.deployment)
          (LocationValue.geoadd (s.locationKeys (update.shard s.deployment)) update.dto.coordinates
            update.userId))
        userLocationShardIndex
        (LocationValue.sadd (Function.update s.locationKeys (update.shard s.deployment)
          (LocationValue.geoadd (s.locationKeys (update.shard s.deployment)) update.dto.coordinates
            update.userId) userLocationShardIndex) (update.shard s.deployment)) := by
  cases named : update.dto.partyId with
  | none | some => simp [located, updateCommands, positionCommands, named, redis]; rfl

theorem located_positions (s : State) (update : Update) :
    (s.located update.userId update.dto update.user).positions =
      Function.update s.positions (update.shard s.deployment)
        (LocationValue.entries (LocationValue.geoadd (s.locationKeys (update.shard s.deployment))
          update.dto.coordinates update.userId)) := by
  have entries_update : ∀ (keys : String → Option LocationValue) shard value,
      (fun other => LocationValue.entries (Function.update keys shard value other)) =
        Function.update (fun other => LocationValue.entries (keys other)) shard
          (LocationValue.entries value) := by
    intro keys shard value
    funext other
    by_cases same : other = shard
    · subst same
      rw [Function.update_self, Function.update_self]
    · rw [Function.update_of_ne same, Function.update_of_ne same]
  unfold State.positions
  rw [located_locationKeys, entries_update, entries_sadd, Function.update_eq_self, entries_update]

theorem located_userStatus (s : State) (update : Update) :
    (s.located update.userId update.dto update.user).userStatus =
      Function.update s.userStatus update.userId
        ((Expiring.live s.now (UserStatus.hset (Expiring.live s.now (s.userStatus update.userId))
          (statusPing update.dto update.user s.now))).map fun status =>
            { status with deadline := some (s.after userStatusSeconds) }) := by
  cases named : update.dto.partyId with
  | none => simp [located, updateCommands, positionCommands, named, redis, after]
  | some partyId =>
    simp [located, updateCommands, positionCommands, named, redis, after]

theorem foldl_redis_clock (commands : List RedisCommand) (s : State) :
    (commands.foldl redis s).now = s.now ∧ (commands.foldl redis s).deployment = s.deployment := by
  refine List.foldlRecOn (motive := fun t => t.now = s.now ∧ t.deployment = s.deployment) commands
    redis ⟨rfl, rfl⟩ ?_
  intro t same command _
  cases command <;> exact same

/-- A hash that is written in full lives, with what was written. -/
theorem live_hset (now : Time) (stored : Option (Expiring UserStatus)) (ping : StatusPing) :
    ∃ deadline, Expiring.live now (UserStatus.hset (Expiring.live now stored) ping) =
      some ⟨⟨true, some ping⟩, deadline⟩ := by
  cases alive : Expiring.live now stored with
  | none => exact ⟨none, rfl⟩
  | some status =>
    refine ⟨status.deadline, ?_⟩
    obtain ⟨-, lives⟩ := Option.filter_eq_some_iff.mp alive
    exact Option.filter_eq_some_iff.mpr ⟨rfl, lives⟩

theorem located_clock (s : State) (update : Update) :
    (s.located update.userId update.dto update.user).now = s.now ∧
      (s.located update.userId update.dto update.user).deployment = s.deployment := by
  exact foldl_redis_clock _ s

theorem located_locates (s : State) (update : Update) :
    Locates s (s.located update.userId update.dto update.user) update := by
  obtain ⟨now, deployment⟩ := located_clock s update
  refine ⟨deployment, fun takes => ?_, fun refuses => ?_, ?_, fun other apart => ?_⟩
  · rw [located_positions, entries_geoadd_of_takes takes]
    refine ⟨fun entry => ?_, fun other apart => Function.update_of_ne apart _ _⟩
    rw [Function.update_self, mem_scoreSet]
  · rw [located_positions, entries_geoadd_of_not_takes refuses]
    exact Function.update_eq_self _ _
  · obtain ⟨deadline, lives⟩ := live_hset s.now (s.userStatus update.userId)
      (statusPing update.dto update.user s.now)
    rw [State.ping?, now, located_userStatus, Function.update_self, lives, Option.map_some]
    have later : s.now < s.after userStatusSeconds := by
      exact Nat.lt_add_of_pos_right (by decide)
    rw [Expiring.live_of_lt later]
    rfl
  · rw [State.ping?, State.ping?, now, located_userStatus, Function.update_of_ne apart]

/-! ## Every operation -/

theorem Update.exec_flow (s : State) (update : Update) :
    (update.accepted s = true → Locates s ((update.flow s.deployment).exec s).2 update) ∧
      (update.accepted s = false → Retreats s ((update.flow s.deployment).exec s).2) := by
  have pinged : SamePositions s (s.pinged update.userId) := ⟨rfl, rfl, rfl, rfl⟩
  have outcome := updateLocation_outcome s update.userId update.dto update.user
  rw [Update.accepted]
  change UpdateOutcome s update.userId update.dto update.user
    ((update.flow s.deployment).exec s).1 ((update.flow s.deployment).exec s).2 at outcome
  cases ran : (update.flow s.deployment).exec s with
  | mk result after =>
    rw [ran] at outcome
    cases outcome with
    | banned banned =>
      exact ⟨fun accepted => absurd accepted Bool.false_ne_true, fun _ => .refl _⟩
    | limited shard allowed limited =>
      exact ⟨fun accepted => absurd accepted Bool.false_ne_true, fun _ => pinged.retreats⟩
    | disabled shard allowed counted off apart =>
      refine ⟨fun accepted => absurd accepted Bool.false_ne_true, fun _ => ?_⟩
      exact pinged.retreats.trans (removed_retreats _ _ _)
    | accepted allowed counted shared =>
      exact ⟨fun _ => .before pinged (located_locates (s.pinged update.userId) update),
        fun refused => absurd refused.symm Bool.false_ne_true⟩

/-- The message of the gateway hands on an update, or touches no position. -/
theorem partyUpdateLocation_hands (s : State) (socket : SocketId)
    (payload : Option WsPartyUpdateLocation) :
    match (Op.partyUpdateLocation socket payload).update? s with
    | none => SameLocations s ((handlePartyUpdateLocation s.deployment socket payload).exec s).2
    | some update => SameLocations ((update.flow s.deployment).exec s).2
        ((handlePartyUpdateLocation s.deployment socket payload).exec s).2 := by
  unfold handlePartyUpdateLocation Flow.exec
  simp only [run_sends, answer]
  cases payload with
  | none =>
    cases s.sockets socket with
    | none | some => exact ⟨⟨rfl, rfl, rfl, rfl⟩, rfl⟩
  | some payload =>
    rw [Op.update?]
    cases s.sockets socket with
    | none => exact ⟨⟨rfl, rfl, rfl, rfl⟩, rfl⟩
    | some identity =>
      obtain ⟨userId, username⟩ := identity
      dsimp only [partyUpdateLocation]
      rw [call_bind, run_call_of_answer _
        (rfl : answer (.sismemberMembers payload.partyId userId) s = (_, _)), done_bind]
      by_cases listed : userId ∈ s.partyMemberSet payload.partyId
      · rw [if_pos listed, if_neg (by simp [listed])]
        unfold relayLocation
        simp only [run_sends, answer]
        cases s.users userId with
        | none => exact ⟨⟨rfl, rfl, rfl, rfl⟩, rfl⟩
        | some user =>
          dsimp only [Option.map_some]
          by_cases banned : user.isBanned = true
          · rw [if_pos banned]
            unfold Update.flow updateLocation
            rw [run_throwIf_bind, if_pos banned]
            exact ⟨⟨rfl, rfl, rfl, rfl⟩, rfl⟩
          · rw [if_neg banned, run_bind]
            unfold Update.flow
            cases run answer (updateLocation s.deployment userId payload.toDto user) s with
            | mk result after => cases result <;> exact ⟨⟨rfl, rfl, rfl, rfl⟩, rfl⟩
      · rw [if_neg listed, if_pos (by simp [listed])]
        exact ⟨⟨rfl, rfl, rfl, rfl⟩, rfl⟩

/-- An operation that asks for no update adds nothing. -/
theorem step_retreats_of_unasked {op : Op} (unasked : op.update? s = none) : Retreats s (step s op) := by
  cases op with
  | updateLocation userId dto =>
    rw [step_updateLocation]
    have unknown : s.users userId = none := Option.map_eq_none_iff.mp unasked
    unfold restUpdateLocation Flow.exec
    simp only [run_sends, answer, unknown]
    exact .refl s
  | partyUpdateLocation socket payload =>
    have hands := partyUpdateLocation_hands s socket payload
    rw [unasked] at hands
    rw [step_partyUpdateLocation]
    exact hands.retreats
  | _ => exact exec_retreats (Op.program_quiet s.deployment (by rintro _ _ ⟨⟩) (by rintro _ _ ⟨⟩)) s

theorem step_of_asked {op : Op} {update : Update} (asks : op.update? s = some update) :
    SameLocations ((update.flow s.deployment).exec s).2 (step s op) := by
  cases op with
  | updateLocation userId dto =>
    rw [step_updateLocation]
    obtain ⟨user, known, rfl⟩ := Option.map_eq_some_iff.mp asks
    unfold restUpdateLocation Flow.exec
    simp only [run_sends, answer, known]
    exact ⟨⟨rfl, rfl, rfl, rfl⟩, rfl⟩
  | partyUpdateLocation socket payload =>
    have hands := partyUpdateLocation_hands s socket payload
    rw [asks] at hands
    rw [step_partyUpdateLocation]
    exact hands
  | _ => cases asks

/-- **Every operation does what its accepted update does, or leaves less than it found.** -/
theorem step_positions (s : State) (op : Op) :
    match op.accepted? s with
    | none => Retreats s (step s op)
    | some update => Locates s (step s op) update := by
  rw [Op.accepted?]
  cases asks : op.update? s with
  | none => exact step_retreats_of_unasked asks
  | some update =>
    have same := (step_of_asked asks).toSamePositions
    obtain ⟨accepts, refuses⟩ := update.exec_flow s
    cases decided : update.accepted s with
    | true =>
      rw [Option.filter_some, if_pos decided]
      exact (accepts decided).after same
    | false =>
      rw [Option.filter_some, if_neg (by simp [decided])]
      exact (refuses decided).trans same.retreats

end Motogram
