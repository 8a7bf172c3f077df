import Motogram.Writes

/-!
# What leaves memberships alone

Two states have the same rows when they agree on what the tables say about
parties and their members, and the same keys when they agree on the Redis keys
that repeat it. Together the two are `SameStanding`: agreement on everything the
membership invariants speak of. A function that does not write the regions
concerned keeps each of them.
-/

set_option autoImplicit false

namespace Motogram

open Foundation State

/-- The two states agree on parties, on the roles of active members, on the rows
that exist and on the election locks. -/
structure SameRows (before after : State) : Prop where
  parties : after.parties = before.parties
  activeRole : ∀ partyId userId, after.activeRole partyId userId = before.activeRole partyId userId
  listed : ∀ key, (after.partyMembers.find? key).isSome = (before.partyMembers.find? key).isSome
  leaderLock : after.leaderLock = before.leaderLock

/-- The two states agree on the Redis keys that repeat memberships. -/
structure SameKeys (before after : State) : Prop where
  partyMemberSet : after.partyMemberSet = before.partyMemberSet
  userParty : after.userParty = before.userParty
  activePartyIndex : ∀ partyId, partyId ∈ after.activePartyIndex ↔ partyId ∈ before.activePartyIndex

/-- The two states agree on the sockets and on the rooms they are in. -/
structure SameSockets (before after : State) : Prop where
  sockets : after.sockets = before.sockets
  rooms : after.rooms = before.rooms

/-- Agreement on everything the membership invariants speak of. -/
structure SameStanding (before after : State) : Prop extends
  SameRows before after, SameKeys before after

section

variable {first second third : State}

namespace SameRows

theorem refl (s : State) : SameRows s s := ⟨rfl, fun _ _ => rfl, fun _ => rfl, rfl⟩

theorem trans (left : SameRows first second) (right : SameRows second third) :
    SameRows first third where
  parties := right.parties.trans left.parties
  activeRole := fun partyId userId =>
    (right.activeRole partyId userId).trans (left.activeRole partyId userId)
  listed := fun key => (right.listed key).trans (left.listed key)
  leaderLock := right.leaderLock.trans left.leaderLock

theorem of_eq (parties : second.parties = first.parties)
    (partyMembers : second.partyMembers = first.partyMembers)
    (leaderLock : second.leaderLock = first.leaderLock) : SameRows first second where
  parties := parties
  activeRole := fun _ _ => activeRole_congr partyMembers
  listed := fun key => by rw [partyMembers]
  leaderLock := leaderLock

theorem active (same : SameRows first second) (partyId : PartyId) (userId : UserId) :
    second.Active partyId userId ↔ first.Active partyId userId :=
  active_of_activeRole_eq (same.activeRole partyId userId)

theorem isOpen (same : SameRows first second) (partyId : PartyId) : second.Open partyId ↔ first.Open partyId :=
  open_congr same.parties

theorem leaderOf (same : SameRows first second) (partyId : PartyId) :
    second.leaderOf partyId = first.leaderOf partyId :=
  leaderOf_congr same.parties

end SameRows

namespace SameKeys

theorem refl (s : State) : SameKeys s s := ⟨rfl, rfl, fun _ => Iff.rfl⟩

theorem trans (left : SameKeys first second) (right : SameKeys second third) :
    SameKeys first third where
  partyMemberSet := right.partyMemberSet.trans left.partyMemberSet
  userParty := right.userParty.trans left.userParty
  activePartyIndex := fun partyId =>
    (right.activePartyIndex partyId).trans (left.activePartyIndex partyId)

end SameKeys

namespace SameStanding

theorem refl (s : State) : SameStanding s s := ⟨.refl s, .refl s⟩

theorem trans (left : SameStanding first second) (right : SameStanding second third) : SameStanding first third :=
  ⟨left.toSameRows.trans right.toSameRows, left.toSameKeys.trans right.toSameKeys⟩

theorem of_eq (parties : second.parties = first.parties) (partyMembers : second.partyMembers = first.partyMembers)
    (partyMemberSet : second.partyMemberSet = first.partyMemberSet)
    (userParty : second.userParty = first.userParty)
    (activePartyIndex : second.activePartyIndex = first.activePartyIndex)
    (leaderLock : second.leaderLock = first.leaderLock) : SameStanding first second :=
  ⟨.of_eq parties partyMembers leaderLock,
    ⟨partyMemberSet, userParty, fun partyId => by rw [activePartyIndex]⟩⟩

end SameStanding

end

/-! ## Single writes -/

variable {call : StoreCall} (s : State) (commands : List RedisCommand)

theorem redis_keepsRows (command : RedisCommand) : SameRows s (s.redis command) := by
  cases command <;> exact .of_eq rfl rfl rfl

theorem multi_keepsRows : SameRows s (commands.foldl redis s) :=
  List.foldlRecOn (motive := SameRows s) commands redis (.refl s)
    fun t same command _ => same.trans (redis_keepsRows t command)

theorem redis_keepsKeys {command : RedisCommand} (elsewhere : command.region ≠ .membershipKeys)
    (s : State) : SameKeys s (s.redis command) := by
  cases command with
  | saddMembers | sremMembers | delMembers | saddActiveParty | sremActiveParty | setUserParty
  | delUserParty => exact absurd rfl elsewhere
  | _ => exact ⟨rfl, rfl, fun _ => Iff.rfl⟩

theorem multi_keepsKeys {commands : List RedisCommand}
    (elsewhere : Region.membershipKeys ∉ commands.map RedisCommand.region) (s : State) :
    SameKeys s (commands.foldl redis s) := by
  refine List.foldlRecOn (motive := SameKeys s) commands redis (.refl s) ?_
  intro t same command member
  refine same.trans (redis_keepsKeys (fun keys => elsewhere ?_) t)
  exact List.mem_map.mpr ⟨command, member, keys⟩

theorem multi_keepsStanding {commands : List RedisCommand}
    (elsewhere : Region.membershipKeys ∉ commands.map RedisCommand.region) (s : State) :
    SameStanding s (commands.foldl redis s) :=
  ⟨multi_keepsRows s commands, multi_keepsKeys elsewhere s⟩

theorem patchMember_keepsStanding {patch : MemberPatch} (presence : patch.region = .presence) (s : State)
    (partyId : PartyId) (userId : UserId) : SameStanding s (s.patchMember partyId userId patch) := by
  refine ⟨⟨rfl, fun _ _ => activeRole_patchMember_presence presence, fun key => ?_, rfl⟩,
    ⟨rfl, rfl, fun _ => Iff.rfl⟩⟩
  rw [patchMember_partyMembers, Table.find?_modify]
  split <;> simp

theorem patchActive_keepsRows {patch : MemberPatch} (presence : patch.region = .presence) (s : State)
    (condition : PartyId × UserId → Bool) : SameRows s (s.patchActive condition patch) :=
  ⟨rfl, fun _ _ => activeRole_patchActive_presence presence condition, fun key => by simp, rfl⟩

theorem rejoined_keepsRows {s : State} {partyId : PartyId} {userId : UserId}
    {row stored : PartyMember} {isPrivate : Bool}
    (found : s.partyMembers.find? (partyId, userId) = some stored) (present : stored.leftAt = none) :
    SameRows s ((s.patchMember partyId userId .rejoin).joined partyId userId row isPrivate) := by
  refine ⟨parties_joined, fun other member => activeRole_rejoined found present, fun key => ?_,
    leaderLock_joined⟩
  rw [partyMembers_joined, patchMember_partyMembers, Table.find?_modify]
  split
  · rw [Option.isSome_map]
  · rfl

theorem joined_keepsRows {s : State} {partyId : PartyId} {userId : UserId} {row : PartyMember}
    {isPrivate : Bool} : SameRows s (s.joined partyId userId row isPrivate) :=
  .of_eq parties_joined partyMembers_joined leaderLock_joined

theorem joined_keepsSockets {s : State} {partyId : PartyId} {userId : UserId} {row : PartyMember}
    {isPrivate : Bool} : SameSockets s (s.joined partyId userId row isPrivate) := by
  cases isPrivate <;> exact ⟨by simp [joined], by simp [joined]⟩

theorem relist_keepsStanding (rows : List ((PartyId × UserId) × PartyMember)) (index : List PartyId) :
    SameStanding s (answer (.environment (.relist rows index)) s).2 := by
  by_cases perm : rows.Perm s.partyMembers.entries ∧ index.Perm s.activePartyIndex
  · simp only [answer, dif_pos perm]
    refine ⟨⟨rfl, fun partyId userId => ?_, fun key => ?_, rfl⟩, ⟨rfl, rfl, fun _ => perm.2.mem_iff⟩⟩
    · simp [activeRole]
    · simp
  · simp only [answer, dif_neg perm]
    exact .refl s

theorem multi_keepsTables :
    (commands.foldl redis s).partyMembers = s.partyMembers ∧ (commands.foldl redis s).parties = s.parties := by
  refine List.foldlRecOn (motive := fun t => t.partyMembers = s.partyMembers ∧ t.parties = s.parties)
    commands redis ⟨rfl, rfl⟩ ?_
  intro t same command _
  cases command <;> exact same

theorem multi_keepsSockets : SameSockets s (commands.foldl redis s) := by
  refine List.foldlRecOn (motive := SameSockets s) commands redis ⟨rfl, rfl⟩ ?_
  intro t same command _
  cases command <;> exact ⟨same.sockets, same.rooms⟩

/-! ## Calls and operations -/

/-- **A call that writes no memberships and no lock keeps the rows.** -/
theorem answer_keepsRows (memberships : .membership ∉ call.regions) (locks : .election ∉ call.regions)
    (s : State) : SameRows s (answer call s).2 := by
  cases call with
  | createPartyTransaction | endPartyTransaction | changeLeaderTransaction | partyMemberCreate =>
    simp at memberships
  | setLeaderLockNx | releaseLeaderLock => simp at locks
  | partyMemberUpdate partyId userId patch =>
    have presence : patch.region = .presence := MemberPatch.region_eq_presence
      fun same => memberships (by simp [same])
    simp only [answer]
    split
    · exact .refl s
    · exact (patchMember_keepsStanding presence s partyId userId).toSameRows
  | partyMemberUpdateManyActive partyId userId patch =>
    have presence : patch.region = .presence := MemberPatch.region_eq_presence
      fun same => memberships (by simp [same])
    exact patchActive_keepsRows presence s _
  | redis command => exact redis_keepsRows s command
  | multi commands => exact multi_keepsRows s commands
  | environment event =>
    cases event with
    | elapse milliseconds => exact .of_eq rfl rfl rfl
    | relist rows index => exact (relist_keepsStanding s rows index).toSameRows
  | partyInviteCreate inviteId partyId inviterId inviteeId =>
    simp only [answer]
    split
    · exact .refl s
    · split
      · exact .refl s
      · exact .of_eq rfl rfl rfl
  | userUpdateLocationSharing | partyInviteDecline | socketConnect =>
    simp only [answer]
    split <;> exact .of_eq rfl rfl rfl
  | _ => exact .of_eq rfl rfl rfl

theorem answer_keepsKeys (keys : .membershipKeys ∉ call.regions) (s : State) : SameKeys s (answer call s).2 := by
  cases call with
  | redis command => exact redis_keepsKeys (by simpa [eq_comm] using keys) s
  | multi commands => exact multi_keepsKeys keys s
  | environment event =>
    cases event with
    | elapse milliseconds => exact ⟨rfl, rfl, fun _ => Iff.rfl⟩
    | relist rows index => exact (relist_keepsStanding s rows index).toSameKeys
  | createPartyTransaction | partyMemberCreate | partyInviteCreate =>
    simp only [answer]
    split
    · exact .refl s
    · split <;> exact ⟨rfl, rfl, fun _ => Iff.rfl⟩
  | changeLeaderTransaction | endPartyTransaction | partyMemberUpdate | partyInviteDecline
  | setLeaderLockNx | releaseLeaderLock | userUpdateLocationSharing | socketConnect =>
    simp only [answer]
    split <;> exact ⟨rfl, rfl, fun _ => Iff.rfl⟩
  | _ => exact ⟨rfl, rfl, fun _ => Iff.rfl⟩

theorem answer_keepsSockets (connections : .connections ∉ call.regions) (rooms : .rooms ∉ call.regions)
    (s : State) : SameSockets s (answer call s).2 := by
  cases call with
  | socketConnect | socketDisconnect => simp at connections
  | socketJoin | socketLeave => simp at rooms
  | redis command => cases command <;> exact ⟨rfl, rfl⟩
  | multi commands => exact multi_keepsSockets s commands
  | environment event =>
    cases event with
    | elapse milliseconds => exact ⟨rfl, rfl⟩
    | relist rows index =>
      simp only [answer]
      split <;> exact ⟨rfl, rfl⟩
  | createPartyTransaction | partyMemberCreate | partyInviteCreate =>
    simp only [answer]
    split
    · exact ⟨rfl, rfl⟩
    · split <;> exact ⟨rfl, rfl⟩
  | changeLeaderTransaction | endPartyTransaction | partyMemberUpdate | partyInviteDecline
  | setLeaderLockNx | releaseLeaderLock | userUpdateLocationSharing =>
    simp only [answer]
    split <;> exact ⟨rfl, rfl⟩
  | _ => exact ⟨rfl, rfl⟩

section

variable {Value : Type} {flow : Flow Value} {allowed : List Region}

theorem exec_keepsRows (writes : flow.Writes allowed) (memberships : .membership ∉ allowed)
    (locks : .election ∉ allowed) (s : State) : SameRows s (flow.exec s).2 :=
  writes.run_keeps answer
    (fun _ t within same => same.trans (answer_keepsRows (fun member => memberships (within member))
      (fun member => locks (within member)) t))
    (SameRows.refl s)

theorem exec_keepsKeys (writes : flow.Writes allowed) (keys : .membershipKeys ∉ allowed)
    (s : State) : SameKeys s (flow.exec s).2 :=
  writes.run_keeps answer
    (fun _ t within same => same.trans (answer_keepsKeys (fun member => keys (within member)) t))
    (SameKeys.refl s)

theorem exec_keepsStanding (writes : flow.Writes allowed) (memberships : .membership ∉ allowed)
    (keys : .membershipKeys ∉ allowed) (locks : .election ∉ allowed) (s : State) :
    SameStanding s (flow.exec s).2 :=
  ⟨exec_keepsRows writes memberships locks s, exec_keepsKeys writes keys s⟩

theorem exec_keepsSockets (writes : flow.Writes allowed) (connections : .connections ∉ allowed)
    (rooms : .rooms ∉ allowed) (s : State) : SameSockets s (flow.exec s).2 :=
  writes.run_keeps answer
    (fun _ t within same =>
      have next := answer_keepsSockets (fun member => connections (within member))
        (fun member => rooms (within member)) t
      ⟨next.sockets.trans same.sockets, next.rooms.trans same.rooms⟩)
    ⟨rfl, rfl⟩

end

theorem step_keepsRows {op : Op} (memberships : .membership ∉ op.regions)
    (locks : .election ∉ op.regions) (s : State) : SameRows s (step s op) :=
  exec_keepsRows (op.program_writes s.deployment) memberships locks s

/-- An operation that connects and disconnects nobody and changes no room. -/
theorem step_keepsSockets {op : Op} (connections : .connections ∉ op.regions)
    (rooms : .rooms ∉ op.regions) (s : State) : SameSockets s (step s op) :=
  exec_keepsSockets (op.program_writes s.deployment) connections rooms s

theorem step_keepsStanding {op : Op} (memberships : .membership ∉ op.regions)
    (keys : .membershipKeys ∉ op.regions) (locks : .election ∉ op.regions) (s : State) :
    SameStanding s (step s op) :=
  exec_keepsStanding (op.program_writes s.deployment) memberships keys locks s

end Motogram
