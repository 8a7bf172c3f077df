import Motogram.Mobile.PartyStore
import Motogram.Party.Housing

/-!
# The party a member watches

A member opens a party: the client keeps what `getPartyDetail` answers, and from then
on it applies the events that the gateway sends to the room. `Watched` is the server
with the store of that client.

The server forgets nothing the store remembers, and the other way round, because both
can be described by one list: the standing of a party, the pairs of user and role of its
active members. A leave takes a pair out of it, a join puts one in, and a change of leader
changes one role in the table but any number of roles in the store. The two agree there
because nobody but the stored leader is active in the role `LEADER` (`State.Housed`), so
the old leader is gone from both before the new one is named.
-/

set_option autoImplicit false

namespace Motogram

open Foundation Program List State

/-! ## What is shown -/

def PartyMemberDto.standing (member : PartyMemberDto) : UserId × PartyRole :=
  (member.userId, member.role)

def PartyDetail.standing (party : PartyDetail) : List (UserId × PartyRole) :=
  party.members.map PartyMemberDto.standing

/-- Two views of a party have the same leader, the same pairs of user and role, and the
same count. -/
structure PartyDetail.Agrees (shown answered : PartyDetail) : Prop where
  leaderId : shown.leaderId = answered.leaderId
  standing : ∀ entry, entry ∈ shown.standing ↔ entry ∈ answered.standing
  memberCount : shown.memberCount = answered.memberCount

/-- The status of the party is `ENDED`. -/
def State.HasEnded (s : State) (partyId : PartyId) : Prop :=
  ∃ party, s.parties.find? partyId = some party ∧ party.status = .ended

structure Watched where
  server : State
  store : PartyStore

namespace Watched

/-- An operation is completed, and what it has sent to the room arrives at the socket. -/
def step (partyId : PartyId) (socket : SocketId) (watched : Watched) (op : Op) : Watched :=
  let after := Motogram.step watched.server op
  let sent := after.outbox.drop watched.server.outbox.length
  ⟨after, watched.store.receive partyId (arrivals partyId socket sent)⟩

/-- The store shows the party as `getPartyDetail` would answer it, and no party exactly
when the party has ended. -/
structure InStep (partyId : PartyId) (watched : Watched) : Prop where
  ended : watched.store.party = none ↔ watched.server.HasEnded partyId
  shown : ∀ party, watched.store.party = some party →
    ∃ detail, ((getPartyDetail partyId).exec watched.server).1 = .ok detail ∧ party.Agrees detail

end Watched

/-! ## Lists of members -/

section Members

variable {members : List PartyMemberDto} {userId : UserId} {role : PartyRole}

theorem mem_standing_filter {gone : UserId} :
    (userId, role) ∈ (members.filter fun other => other.userId ≠ gone).map
        PartyMemberDto.standing ↔
      userId ≠ gone ∧ (userId, role) ∈ members.map PartyMemberDto.standing := by
  simp only [mem_map, mem_filter, decide_eq_true_eq]
  constructor
  · rintro ⟨member, ⟨listed, different⟩, same⟩
    cases same
    exact ⟨different, member, listed, rfl⟩
  · rintro ⟨different, member, listed, same⟩
    cases same
    exact ⟨member, ⟨listed, different⟩, rfl⟩

/-- Nobody is listed twice once a user is taken out. -/
theorem nodup_filter {gone : UserId} (distinct : (members.map PartyMemberDto.userId).Nodup) :
    ((members.filter fun other => other.userId ≠ gone).map PartyMemberDto.userId).Nodup :=
  distinct.sublist (filter_sublist.map _)

theorem nodup_upsert {member : PartyMemberDto}
    (distinct : (members.map PartyMemberDto.userId).Nodup) :
    (((members.filter fun other => other.userId ≠ member.userId) ++ [member]).map
      PartyMemberDto.userId).Nodup := by
  rw [map_append, nodup_append]
  refine ⟨nodup_filter distinct, nodup_singleton _, ?_⟩
  intro first kept second added
  obtain ⟨other, listed, rfl⟩ := mem_map.mp kept
  rw [map_singleton, mem_singleton] at added
  rw [added]
  exact of_decide_eq_true (mem_filter.mp listed).2

theorem mem_standing_setLeader {leaderId : UserId}
    (nobody : ∀ other, (other, PartyRole.leader) ∉ members.map PartyMemberDto.standing) :
    (userId, role) ∈ (members.map fun member =>
        { member with role := PartyStore.roleUnder leaderId member }).map PartyMemberDto.standing ↔
      ∃ before, (userId, before) ∈ members.map PartyMemberDto.standing ∧
        role = if userId = leaderId then .leader else before := by
  simp only [mem_map, map_map, Function.comp_apply]
  have kept : ∀ member ∈ members, PartyStore.roleUnder leaderId member =
      if member.userId = leaderId then .leader else member.role := by
    intro member listed
    have follows : member.role ≠ .leader := fun leads =>
      nobody member.userId (mem_map.mpr ⟨member, listed, by rw [PartyMemberDto.standing, leads]⟩)
    rw [PartyStore.roleUnder, if_neg follows]
  constructor
  · rintro ⟨member, listed, same⟩
    rw [kept member listed] at same
    cases same
    exact ⟨member.role, ⟨member, listed, rfl⟩, rfl⟩
  · rintro ⟨before, ⟨member, listed, same⟩, rfl⟩
    cases same
    refine ⟨member, listed, ?_⟩
    rw [PartyMemberDto.standing, kept member listed]

end Members

/-! ## The mirror -/

structure ShowsMembers (s : State) (partyId : PartyId) (members : List PartyMemberDto) : Prop where
  distinct : (members.map PartyMemberDto.userId).Nodup
  roles : ∀ userId role, (userId, role) ∈ members.map PartyMemberDto.standing ↔
    s.activeRole partyId userId = some role

structure ShowsParty (s : State) (partyId : PartyId) (party : PartyDetail) : Prop where
  isOpen : s.Open partyId
  leader : s.leaderOf partyId = some party.leaderId
  members : ShowsMembers s partyId party.members
  count : party.memberCount = party.members.length

structure Mirrors (partyId : PartyId) (s : State) (shown : Option PartyDetail) : Prop where
  isOpen : ∀ party, shown = some party → ShowsParty s partyId party
  hasEnded : shown = none → s.HasEnded partyId

/-- The two states agree on one party. -/
structure SameParty (partyId : PartyId) (before after : State) : Prop where
  activeRole : ∀ userId, after.activeRole partyId userId = before.activeRole partyId userId
  leaderOf : after.leaderOf partyId = before.leaderOf partyId
  isOpen : after.Open partyId ↔ before.Open partyId

variable (socket : SocketId) {s : State} {partyId : PartyId}

theorem State.hasEnded_iff : s.HasEnded partyId ↔ (s.leaderOf partyId).isSome ∧ ¬ s.Open partyId := by
  rw [State.HasEnded, leaderOf, State.Open]
  cases s.parties.find? partyId with
  | none | some => simp

theorem SameRows.sameParty {s' : State} (same : SameRows s s') (partyId : PartyId) : SameParty partyId s s' :=
  ⟨same.activeRole partyId, same.leaderOf partyId, same.isOpen partyId⟩

namespace Mirrors

variable {partyId : PartyId} {s s' : State} {shown : Option PartyDetail} {userId : UserId}

theorem of_sameParty (mirrors : Mirrors partyId s shown) (same : SameParty partyId s s') :
    Mirrors partyId s' shown where
  isOpen := fun party here =>
    have shows := mirrors.isOpen party here
    { isOpen := same.isOpen.mpr shows.isOpen
      leader := same.leaderOf.trans shows.leader
      members := ⟨shows.members.distinct, fun userId role => by
        rw [same.activeRole]
        exact shows.members.roles userId role⟩
      count := shows.count }
  hasEnded := fun gone => by
    rw [hasEnded_iff, same.leaderOf, same.isOpen, ← hasEnded_iff]
    exact mirrors.hasEnded gone

theorem isStored (mirrors : Mirrors partyId s shown) : ∃ leader, s.leaderOf partyId = some leader := by
  cases held : shown with
  | none =>
    have stopped := hasEnded_iff.mp (mirrors.hasEnded held)
    exact Option.isSome_iff_exists.mp stopped.1
  | some party => exact ⟨party.leaderId, (mirrors.isOpen party held).leader⟩

theorem departed {store : PartyStore} {reason : LeaveReason} (mirrors : Mirrors partyId s store.party) :
    Mirrors partyId (s.departed partyId userId reason) (store.removeMember userId).party := by
  rw [PartyStore.party_removeMember]
  refine ⟨fun party shown => ?_, fun gone => ?_⟩
  · obtain ⟨before, held, rfl⟩ := Option.map_eq_some_iff.mp shown
    have shows := mirrors.isOpen before held
    refine ⟨open_departed.mpr shows.isOpen, leaderOf_departed.trans shows.leader,
      ⟨nodup_filter shows.members.distinct, fun member role => ?_⟩, rfl⟩
    rw [mem_standing_filter, shows.members.roles, activeRole_departed_eq]
    by_cases same : member = userId
    · simp [same]
    · simp [same]
  · have stopped := mirrors.hasEnded (Option.map_eq_none_iff.mp gone)
    rw [hasEnded_iff] at stopped ⊢
    rwa [leaderOf_departed, open_departed]

theorem promoted {store : PartyStore} (mirrors : Mirrors partyId s store.party)
    (nobody : ∀ member, s.activeRole partyId member ≠ some .leader) (stays : s.Active partyId userId) :
    Mirrors partyId (s.promoted partyId userId) (store.setLeader userId).party := by
  rw [PartyStore.party_setLeader]
  have roles (member : UserId) : (s.promoted partyId userId).activeRole partyId member =
      if member = userId then some .leader else s.activeRole partyId member := by
    rw [activeRole_promoted]
    by_cases same : member = userId
    · obtain ⟨role, holds⟩ := stays.activeRole
      simp [same, holds]
    · simp [same]
  refine ⟨fun party shown => ?_, fun gone => ?_⟩
  · obtain ⟨before, held, rfl⟩ := Option.map_eq_some_iff.mp shown
    have shows := mirrors.isOpen before held
    have unled : ∀ other, (other, PartyRole.leader) ∉ before.members.map PartyMemberDto.standing :=
      fun other listed => nobody other ((shows.members.roles other .leader).mp listed)
    refine ⟨open_promoted.mpr shows.isOpen, ?_, ⟨?_, fun member role => ?_⟩, ?_⟩
    · rw [leaderOf_promoted, if_pos rfl, shows.leader]
      rfl
    · rw [map_map]
      exact shows.members.distinct
    · rw [mem_standing_setLeader unled, roles]
      simp only [shows.members.roles]
      by_cases same : member = userId
      · obtain ⟨earlier, holds⟩ := stays.activeRole
        simp [same, holds, eq_comm]
      · simp [same]
    · rw [length_map]
      exact shows.count
  · have stopped := mirrors.hasEnded (Option.map_eq_none_iff.mp gone)
    rw [hasEnded_iff] at stopped ⊢
    rw [leaderOf_promoted, open_promoted]
    simpa using stopped

theorem closed {reason : EndReason} (mirrors : Mirrors partyId s shown) :
    Mirrors partyId (s.closed partyId reason) none where
  isOpen := fun _ here => by cases here
  hasEnded := fun _ => by
    obtain ⟨leader, led⟩ := mirrors.isStored
    rw [hasEnded_iff, leaderOf_closed, open_closed, led]
    exact ⟨rfl, fun both => both.2 rfl⟩

theorem joined {store : PartyStore} {member : PartyMemberDto}
    (mirrors : Mirrors partyId s store.party) (leader : s'.leaderOf partyId = s.leaderOf partyId)
    (isOpen : s'.Open partyId ↔ s.Open partyId)
    (roles : ∀ userId, s'.activeRole partyId userId =
      if userId = member.userId then some member.role else s.activeRole partyId userId) :
    Mirrors partyId s' (store.upsertMember member).party := by
  rw [PartyStore.party_upsertMember]
  refine ⟨fun party shown => ?_, fun gone => ?_⟩
  · obtain ⟨before, held, rfl⟩ := Option.map_eq_some_iff.mp shown
    have shows := mirrors.isOpen before held
    refine ⟨isOpen.mpr shows.isOpen, leader.trans shows.leader,
      ⟨nodup_upsert shows.members.distinct, fun other role => ?_⟩, rfl⟩
    rw [map_append, mem_append, mem_standing_filter, shows.members.roles, roles]
    by_cases same : other = member.userId
    · simp [same, PartyMemberDto.standing, eq_comm]
    · simp [same, PartyMemberDto.standing]
  · have stopped := mirrors.hasEnded (Option.map_eq_none_iff.mp gone)
    rw [hasEnded_iff] at stopped ⊢
    rwa [leader, isOpen]

end Mirrors

/-! ## What is sent -/

/-- Between the two states the server has sent what takes a mirror of the first to a
mirror of the second. -/
def Relays (partyId : PartyId) (socket : SocketId) (before after : State) : Prop :=
  ∃ emissions, after.outbox = before.outbox ++ emissions ∧
    ∀ store : PartyStore, Mirrors partyId before store.party →
      Mirrors partyId after (store.receive partyId (arrivals partyId socket emissions)).party

section Sending

variable {partyId other : PartyId} {socket : SocketId} {userId : UserId} {s s' : State}

theorem Relays.of_sameParty (emissions : List Emission) (sent : s'.outbox = s.outbox ++ emissions)
    (quiet : ∀ store : PartyStore,
      (store.receive partyId (arrivals partyId socket emissions)).party = store.party)
    (same : SameParty partyId s s') : Relays partyId socket s s' := by
  refine ⟨emissions, sent, fun store mirrors => ?_⟩
  rw [quiet]
  exact mirrors.of_sameParty same

theorem Relays.silent (sent : s'.outbox = s.outbox) (same : SameParty partyId s s') :
    Relays partyId socket s s' :=
  .of_sameParty [] (sent.trans (append_nil _).symm) (fun _ => rfl) same

theorem Relays.refl (s : State) : Relays partyId socket s s :=
  .silent rfl ((SameRows.refl s).sameParty partyId)

theorem Relays.trans {first second third : State} (left : Relays partyId socket first second)
    (right : Relays partyId socket second third) : Relays partyId socket first third := by
  obtain ⟨earlier, sent, mirrored⟩ := left
  obtain ⟨later, sent', mirrored'⟩ := right
  refine ⟨earlier ++ later, by rw [sent', sent, append_assoc], fun store mirrors => ?_⟩
  rw [arrivals_append, PartyStore.receive_append]
  exact mirrored' _ (mirrored store mirrors)

theorem Relays.announced (event : PartyEvent) (sent : s'.outbox = s.outbox ++ [.room event none])
    (here : event.partyId = partyId → ∀ store : PartyStore, Mirrors partyId s store.party →
      Mirrors partyId s' (store.onEvent partyId event).party)
    (elsewhere : event.partyId ≠ partyId → SameParty partyId s s') :
    Relays partyId socket s s' := by
  by_cases same : event.partyId = partyId
  · refine ⟨_, sent, fun store mirrors => ?_⟩
    have arrives : arrivals partyId socket [.room event none] = [event] := by
      simp [arrivals, Emission.arrival, same]
    rw [arrives]
    exact here same store mirrors
  · refine .of_sameParty _ sent (fun store => ?_) (elsewhere same)
    have dropped : arrivals partyId socket [.room event none] = [] := by
      simp [arrivals, Emission.arrival, same]
    rw [dropped]
    rfl

theorem relays_departed {reason : LeaveReason} : Relays partyId socket s (s.departed other userId reason) := by
  refine .announced (.memberLeft other userId reason) rfl ?_ ?_
  · rintro rfl store mirrors
    have removed : store.onEvent other (.memberLeft other userId reason) =
        store.removeMember userId := if_neg (not_not.mpr rfl)
    rw [PartyEvent.partyId, removed]
    exact mirrors.departed
  · intro different
    exact ⟨fun member => activeRole_departed fun both => different (Prod.mk.inj both).1.symm,
      leaderOf_departed, open_departed⟩

theorem relays_closed {reason : EndReason} : Relays partyId socket s (s.closed other reason) := by
  by_cases here : other = partyId
  · subst here
    refine ⟨[.room (.statusChanged other .ended) none, .room (.ended other reason) none], ?_,
      fun store mirrors => ?_⟩
    · simp [closed]
    · have cleared : (store.receive other (arrivals other socket
          [.room (.statusChanged other .ended) none, .room (.ended other reason) none])).party =
          none := by
        simp [arrivals, Emission.arrival, PartyEvent.partyId, PartyStore.receive, PartyStore.onEvent,
          PartyStore.clearParty, PartyStore.setParty]
      rw [cleared]
      exact mirrors.closed
  · refine .of_sameParty
      [.room (.statusChanged other .ended) none, .room (.ended other reason) none]
      (by simp [closed]) (fun store => ?_)
      ⟨fun member => activeRole_closed (Ne.symm here), leaderOf_closed, ?_⟩
    · simp [arrivals, Emission.arrival, PartyEvent.partyId, here, PartyStore.receive]
    · rw [open_closed]
      exact ⟨And.left, fun standing => ⟨standing, Ne.symm here⟩⟩

/-- The leader goes and another member is named. -/
theorem relays_replaced {reason : LeaveReason} {newLeaderId : UserId} (housed : s.Housed)
    (leads : s.leaderOf other = some userId) (different : newLeaderId ≠ userId)
    (stays : s.Active other newLeaderId) :
    Relays partyId socket s ((s.departed other userId reason).promoted other newLeaderId) := by
  by_cases here : other = partyId
  · subst here
    refine ⟨[.room (.memberLeft other userId reason) none,
      .room (.leaderChanged other newLeaderId .leaderLeft) none], ?_, fun store mirrors => ?_⟩
    · simp [promoted, departed]
    · have applied : store.receive other (arrivals other socket
          [.room (.memberLeft other userId reason) none,
            .room (.leaderChanged other newLeaderId .leaderLeft) none]) =
          (store.removeMember userId).setLeader newLeaderId := by
        simp [arrivals, Emission.arrival, PartyEvent.partyId, PartyStore.receive, PartyStore.onEvent]
      rw [applied]
      exact mirrors.departed.promoted (housed.nobody_leads leads)
        (active_departed.mpr ⟨stays, fun both => different (Prod.mk.inj both).2⟩)
  · refine relays_departed.trans (.announced
      (.leaderChanged other newLeaderId .leaderLeft) rfl (fun same => absurd same here) fun _ => ?_)
    refine ⟨fun member => ?_, ?_, open_promoted⟩
    · rw [activeRole_promoted, if_neg fun both => here (Prod.mk.inj both).1.symm]
    · rw [leaderOf_promoted, if_neg (Ne.symm here)]

theorem relays_joined {row : PartyMember} {isPrivate : Bool} {dto : PartyMemberDto}
    {written : State} (kept : written.outbox = s.outbox) (stored : written.parties = s.parties)
    (named : dto = memberDto userId row (written.users userId))
    (roles : ∀ party member, (written.joined other userId row isPrivate).activeRole party member =
      if (party, member) = (other, userId) then some row.role else s.activeRole party member) :
    Relays partyId socket s (written.joined other userId row isPrivate) := by
  have same : (written.joined other userId row isPrivate).parties = s.parties := by
    rw [parties_joined, stored]
  have sent : (written.joined other userId row isPrivate).outbox =
      s.outbox ++ [.room (.memberJoined other dto) none] := by
    rw [named, ← kept]
    cases isPrivate <;> rfl
  refine .announced (.memberJoined other dto) sent ?_ ?_
  · intro (here : other = partyId) store mirrors
    subst here
    have upserted : store.onEvent other (.memberJoined other dto) = store.upsertMember dto :=
      if_neg (not_not.mpr rfl)
    rw [upserted]
    subst named
    refine mirrors.joined (leaderOf_congr same) (open_congr same) fun member => ?_
    rw [roles]
    by_cases mine : member = userId
    · simp [mine, memberDto]
    · simp [mine, memberDto]
  · intro different
    refine ⟨fun member => ?_, leaderOf_congr same, open_congr same⟩
    have apart : (partyId, member) ≠ (other, userId) :=
      fun both => different (Prod.mk.inj both).1.symm
    rw [roles, if_neg apart]

theorem LeaveOutcome.relays {reason : LeaveReason} {result : Except ServiceError LeaveResult}
    (outcome : LeaveOutcome s userId other reason result s') (housed : s.Housed) :
    Relays partyId socket s s' := by
  cases outcome with
  | rejected | finished => exact .refl s
  | follower | leaderless | locked => exact relays_departed
  | alone standing active leads last => exact relays_departed.trans relays_closed
  | elected newLeaderId row standing active leads different candidate stays online free =>
    exact relays_replaced housed leads different ⟨row, candidate, stays⟩

theorem JoinOutcome.relays {result : Except ServiceError PartyDetail}
    (outcome : JoinOutcome s userId other result s') : Relays partyId socket s s' := by
  cases outcome with
  | rejected error => exact .refl s
  | rejoined party row detail found live listed present =>
    have holds : s.activeRole other userId = some row.role :=
      activeRole_eq_some.mpr ⟨row, listed, present, rfl⟩
    refine relays_joined rfl rfl rfl fun otherId member => ?_
    rw [activeRole_rejoined listed present, MemberPatch.role_apply]
    by_cases same : (otherId, member) = (other, userId)
    · cases same
      rw [if_pos rfl, holds]
    · rw [if_neg same]
  | entered party user detail found live known unlisted space single =>
    exact relays_joined rfl rfl rfl fun otherId member => activeRole_entered unlisted

theorem CreateOutcome.relays {dto : CreatePartyDto} {result : Except ServiceError PartySummary}
    (outcome : CreateOutcome s userId other dto result s') : Relays partyId socket s s' := by
  have counted : SameRows s (s.counted (.partyCreate userId) partyCreateLimitWindowSeconds) :=
    .of_eq rfl rfl rfl
  cases outcome with
  | rejected error => exact .silent rfl (counted.sameParty partyId)
  | opened user known fresh unlisted single =>
    have silent : ((s.counted (.partyCreate userId) partyCreateLimitWindowSeconds).opened other userId
        dto).outbox = s.outbox := by
      simp [State.opened]
    refine ⟨[], by rw [silent, append_nil], fun store mirrors => ?_⟩
    have different : partyId ≠ other := by
      rintro rfl
      obtain ⟨leader, led⟩ := mirrors.isStored
      rw [leaderOf, fresh] at led
      cases led
    have opened : SameParty partyId (s.counted (.partyCreate userId) partyCreateLimitWindowSeconds)
        ((s.counted (.partyCreate userId) partyCreateLimitWindowSeconds).opened other userId dto) := by
      generalize s.counted (.partyCreate userId) partyCreateLimitWindowSeconds = t at counted ⊢
      rw [← counted.parties] at fresh
      have free : t.partyMembers.find? (other, userId) = none := by
        rw [← Option.isNone_iff_eq_none, ← Option.not_isSome, counted.listed, unlisted]
        rfl
      refine ⟨fun member => ?_, ?_, ?_⟩
      · rw [activeRole_opened free, if_neg fun both => different (Prod.mk.inj both).1]
      · rw [leaderOf_opened fresh, if_neg different]
      · rw [open_opened fresh]
        exact ⟨fun either => either.resolve_right different, .inl⟩
    exact (mirrors.of_sameParty (counted.sameParty partyId)).of_sameParty opened

theorem RespondOutcome.relays (outcome : RespondOutcome s userId s') : Relays partyId socket s s' := by
  cases outcome with
  | untouched => exact .refl s
  | declined invites =>
    have same : SameRows s (s.withPartyInvites invites) := .of_eq rfl rfl rfl
    exact .silent rfl (same.sameParty partyId)
  | accepted other => exact (joinParty_outcome s userId other).relays

theorem relays_sweepTurn (housed : s.Housed) (turn : SweepTurn) : Relays partyId socket s (sweepTurn s turn) := by
  obtain ⟨other, userId⟩ := turn
  obtain ⟨result, after, outcome, turned⟩ := sweepTurn_outcome s other userId
  rw [turned]
  cases result with
  | error error => exact outcome.relays housed
  | ok result =>
    have cleared := redis_keepsRows after (.zremZombieWatch other userId)
    exact (outcome.relays housed).trans (.silent rfl (cleared.sameParty partyId))

theorem PartyLeaveOutcome.relays {caller : SocketId} {payload : Option PartyId}
    (outcome : PartyLeaveOutcome s caller payload s') (housed : s.Housed) : Relays partyId socket s s' := by
  cases outcome with
  | unknown => exact .refl s
  | invalid error | refused userId username other error =>
    exact .of_sameParty _ rfl (fun _ => rfl) ⟨fun _ => rfl, rfl, Iff.rfl⟩
  | left userId username other result after identity asked ran outcome =>
    have roomLeft : SameRows after (after.roomLeft caller other) := .of_eq rfl rfl rfl
    exact (outcome.relays housed).trans (.silent rfl (roomLeft.sameParty partyId))

end Sending

/-! ## Calls that leave the standing of the party alone -/

/-- A call that changes no membership and tells no room of one. -/
structure StoreCall.Aside (call : StoreCall) : Prop where
  membership : .membership ∉ call.regions
  election : .election ∉ call.regions
  announces : ∀ event except, call = .emit (.room event except) → event.region = .speech

theorem aside_of_regions {call : StoreCall} (membership : .membership ∉ call.regions)
    (election : .election ∉ call.regions) (outbox : .outbox ∉ call.regions) : call.Aside where
  membership := membership
  election := election
  announces := fun event except same => by
    subst same
    cases event <;> simp_all

theorem replyError_aside (event code : String) (message : WsErrorMessage) :
    (replyError socket event code message).Uses StoreCall.Aside :=
  ⟨⟨by simp, by simp, fun _ _ same => by cases same⟩, fun _ => trivial⟩

theorem aside_of_writes {Value : Type} {flow : Flow Value} {allowed : List Region}
    (writes : flow.Writes allowed) (membership : .membership ∉ allowed)
    (election : .election ∉ allowed) (outbox : .outbox ∉ allowed) : flow.Uses StoreCall.Aside :=
  Uses.mono writes fun _ within => aside_of_regions (fun member => membership (within member))
    (fun member => election (within member)) fun member => outbox (within member)

theorem handlePartyJoin_aside (deployment : Deployment) (socket : SocketId) (payload : Option PartyId) :
    (handlePartyJoin deployment socket payload).Uses StoreCall.Aside := by
  refine Uses.send (aside_of_regions (by simp) (by simp) (by simp)) fun data => ?_
  cases data with
  | none => trivial
  | some identity =>
    cases payload with
    | none => exact replyError_aside ..
    | some partyId =>
      refine Uses.send (aside_of_regions (by simp) (by simp) (by simp)) fun member => ?_
      cases member with
      | none => exact replyError_aside ..
      | some row =>
        dsimp only
        split
        · exact replyError_aside ..
        · have entered : (joinRoom deployment socket identity.1 partyId).Writes
              [.rooms, .presence, .membershipKeys] := by
            refine Uses.bind (by simp) fun _ => ?_
            refine Uses.bind ((clearOfflineMark_writes ..).mono (by simp)) fun _ => ?_
            refine Uses.bind (by simp [MemberPatch.region]) fun updated => ?_
            exact Uses.bind (rethrow_writes _ _) fun _ => by simp
          exact aside_of_writes entered (by simp) (by simp) (by simp)

theorem handleSendSignal_aside (payload : Option WsPartySendSignal) :
    (handleSendSignal socket payload).Uses StoreCall.Aside := by
  refine Uses.send (aside_of_regions (by simp) (by simp) (by simp)) fun data => ?_
  cases data with
  | none => trivial
  | some identity =>
    cases payload with
    | none => exact replyError_aside ..
    | some payload =>
      refine Uses.rescue ?_ fun error => replyError_aside ..
      refine Uses.bind ?_ fun result => ?_
      · refine aside_of_writes (recordSignal_writes ..) ?_ ?_ ?_
        all_goals simp
      · split
        · exact Uses.bind (replyError_aside ..) fun _ => trivial
        · trivial

theorem handlePartyUpdateLocation_aside (deployment : Deployment) (socket : SocketId)
    (payload : Option WsPartyUpdateLocation) :
    (handlePartyUpdateLocation deployment socket payload).Uses StoreCall.Aside := by
  refine Uses.send (aside_of_regions (by simp) (by simp) (by simp)) fun data => ?_
  cases data with
  | none => trivial
  | some identity =>
    cases payload with
    | none => exact replyError_aside ..
    | some update =>
      refine Uses.send (aside_of_regions (by simp) (by simp) (by simp)) fun isMember => ?_
      split
      · exact replyError_aside ..
      · refine Uses.send (aside_of_regions (by simp) (by simp) (by simp)) fun found => ?_
        cases found with
        | none => trivial
        | some user =>
          dsimp only
          split
          · trivial
          · refine Uses.bind ?_ fun _ => ?_
            · refine aside_of_writes (updateLocation_writes ..) ?_ ?_ ?_
              all_goals simp [WsPartyUpdateLocation.toDto]
            · refine Uses.send (aside_of_regions (by simp) (by simp) (by simp))
                fun now => ?_
              refine Uses.send ⟨by simp, by simp, fun event except same => ?_⟩
                fun _ => trivial
              cases same
              rfl

theorem answer_keepsOutbox {call : StoreCall} (silent : ∀ emission, call ≠ .emit emission)
    (s : State) : (answer call s).2.outbox = s.outbox := by
  cases call with
  | emit emission => exact absurd rfl (silent emission)
  | redis command => cases command <;> rfl
  | multi commands =>
    refine foldlRecOn (motive := fun t => t.outbox = s.outbox) commands redis rfl ?_
    intro t same command _
    cases command <;> exact same
  | environment event =>
    cases event with
    | elapse milliseconds => rfl
    | relist rows index =>
      simp only [answer]
      split <;> rfl
  | createPartyTransaction | partyMemberCreate | partyInviteCreate =>
    simp only [answer]
    split
    · rfl
    · split <;> rfl
  | changeLeaderTransaction | endPartyTransaction | partyMemberUpdate | partyInviteDecline
  | setLeaderLockNx | releaseLeaderLock | userUpdateLocationSharing | socketConnect =>
    simp only [answer]
    split <;> rfl
  | _ => rfl

section Operations

variable {partyId : PartyId} {socket : SocketId}

theorem relays_answer {call : StoreCall} (aside : call.Aside) (s : State) :
    Relays partyId socket s (answer call s).2 := by
  have same := (answer_keepsRows aside.membership aside.election s).sameParty partyId
  by_cases sends : ∃ emission, call = .emit emission
  · obtain ⟨emission, rfl⟩ := sends
    refine .of_sameParty [emission] rfl (fun store => ?_) same
    cases emission with
    | client receiver error => rfl
    | room event except =>
      have region := aside.announces event except rfl
      rw [arrivals, filterMap_cons]
      dsimp only [Emission.arrival]
      by_cases arrives : event.partyId = partyId ∧ except ≠ some socket
      · rw [if_pos arrives]
        change (store.onEvent partyId event).party = store.party
        unfold PartyStore.onEvent
        rw [if_neg (not_not.mpr arrives.1)]
        cases event with
        | signalReceived | memberUpdated => rfl
        | _ => cases region
      · rw [if_neg arrives]
        rfl
  · exact .silent (answer_keepsOutbox (fun emission same => sends ⟨emission, same⟩) s) same

/-- A function that changes no membership and tells no room of one. -/
theorem relays_exec {Value : Type} {flow : Flow Value} (aside : flow.Uses StoreCall.Aside)
    (s : State) : Relays partyId socket s (flow.exec s).2 :=
  aside.run_keeps answer (fun _ t permitted relays => relays.trans (relays_answer permitted t))
    (Relays.refl s)

/-- **Every operation sends what its changes need.** -/
theorem step_relays {s : State} (settled : s.Settled) (housed : s.Housed) (op : Op) :
    Relays partyId socket s (step s op) := by
  cases op with
  | createParty leaderId other dto =>
    rw [step_createParty]
    exact (createParty_outcome s leaderId other dto).relays
  | joinParty userId other =>
    rw [step_joinParty]
    exact (joinParty_outcome s userId other).relays
  | leaveParty userId other reason =>
    rw [step_leaveParty]
    exact (leaveParty_outcome s userId other reason).relays housed
  | endParty other reason =>
    rw [step_endParty, exec_endParty]
    by_cases standing : s.Open other
    · simpa only [if_pos standing] using relays_closed
    · simpa only [if_neg standing] using Relays.refl s
  | respondInvite userId inviteId accept =>
    rw [step_respondInvite]
    exact (respondInvite_outcome s userId inviteId accept).relays
  | sweepZombieMembers =>
    rw [step_sweepZombieMembers]
    generalize s.sweepTurns = turns
    induction turns generalizing s with
    | nil => exact .refl s
    | cons turn turns ih =>
      have later := housed_rowsInvariant.sweepTurn turn ⟨settled, housed⟩ trivial
      exact (relays_sweepTurn housed turn).trans (ih later.1 later.2)
  | partyLeave caller payload =>
    rw [step_partyLeave]
    exact (partyLeave_outcome s caller payload).relays housed
  | partyJoin caller payload =>
    rw [step_partyJoin]
    exact relays_exec (handlePartyJoin_aside ..) s
  | partySendSignal caller payload =>
    rw [step_partySendSignal]
    exact relays_exec (handleSendSignal_aside ..) s
  | partyUpdateLocation caller payload =>
    rw [step_partyUpdateLocation]
    exact relays_exec (handlePartyUpdateLocation_aside ..) s
  | updateLocation userId dto =>
    refine relays_exec (aside_of_writes (Op.program_writes _ _) ?_ ?_ ?_) s
    all_goals
      simp only [Op.regions]
      cases dto.partyId <;> simp
  | _ => exact relays_exec (aside_of_writes (Op.program_writes _ _) (by simp) (by simp) (by simp)) s

end Operations

/-! ## What the server answers -/

section Answer

variable {s : State} {partyId : PartyId}

/-- What `getPartyDetail` answers of a party that is stored. -/
theorem getPartyDetail_shows (known : s.Known) {party : Party}
    (found : s.parties.find? partyId = some party) :
    ∃ detail, ((getPartyDetail partyId).exec s).1 = .ok detail ∧
      detail.leaderId = party.leaderId ∧ ShowsMembers s partyId detail.members ∧
        detail.memberCount = detail.members.length := by
  unfold getPartyDetail Flow.exec
  simp only [run_sends, answer, found]
  refine ⟨_, rfl, rfl, ⟨?_, fun userId role => ?_⟩, ?_⟩
  · rw [partyDetail, map_map]
    exact nodup_activeMembersWithUser s partyId
  · rw [activeRole_eq_some, partyDetail, map_map, mem_map]
    constructor
    · rintro ⟨⟨member, row, user⟩, listed, same⟩
      cases same
      have standing := (mem_activeMembersWithUser.mp listed).1
      exact ⟨row, standing.1, standing.2, rfl⟩
    · rintro ⟨row, stored, present, rfl⟩
      obtain ⟨user, named⟩ := Option.isSome_iff_exists.mp
        (known (partyId, userId) (by rw [stored]; rfl))
      exact ⟨(userId, row, user), mem_activeMembersWithUser.mpr ⟨⟨stored, present⟩, named⟩, rfl⟩
  · rw [partyDetail, length_map]
    rfl

end Answer

/-- Two lists of the active members hold the same pairs, and are equally long. -/
theorem ShowsMembers.agree {first second : List PartyMemberDto} (left : ShowsMembers s partyId first)
    (right : ShowsMembers s partyId second) :
    (∀ entry, entry ∈ first.map PartyMemberDto.standing ↔
        entry ∈ second.map PartyMemberDto.standing) ∧ first.length = second.length := by
  have same : ∀ entry, entry ∈ first.map PartyMemberDto.standing ↔
      entry ∈ second.map PartyMemberDto.standing := by
    rintro ⟨userId, role⟩
    rw [left.roles, right.roles]
  have distinct {members : List PartyMemberDto}
      (users : (members.map PartyMemberDto.userId).Nodup) :
      (members.map PartyMemberDto.standing).Nodup := by
    refine List.Nodup.of_map Prod.fst ?_
    rw [map_map]
    exact users
  have perm := (perm_ext_iff_of_nodup (distinct left.distinct) (distinct right.distinct)).mpr same
  refine ⟨same, ?_⟩
  rw [← length_map PartyMemberDto.standing, perm.length_eq, length_map]

/-- A mirror shows what the server would answer. -/
theorem Mirrors.inStep {store : PartyStore} (known : s.Known) (mirrors : Mirrors partyId s store.party) :
    Watched.InStep partyId ⟨s, store⟩ where
  ended := by
    refine ⟨mirrors.hasEnded, fun stopped => ?_⟩
    cases held : store.party with
    | none => rfl
    | some party =>
      exact absurd (mirrors.isOpen party held).isOpen (hasEnded_iff.mp stopped).2
  shown := by
    intro party held
    have shows := mirrors.isOpen party held
    obtain ⟨stored, found, -⟩ := shows.isOpen
    obtain ⟨detail, answered, leader, members, count⟩ := getPartyDetail_shows known found
    obtain ⟨standing, length⟩ := shows.members.agree members
    refine ⟨detail, answered, ?_, standing, by rw [shows.count, count, length]⟩
    have led := shows.leader
    rw [leaderOf, found] at led
    rw [leader]
    exact (Option.some.inj led).symm

/-! ## Whole runs -/

/-- What every run keeps of the server. -/
structure State.Watchable (s : State) : Prop where
  settled : s.Settled
  housed : s.Housed
  known : s.Known

theorem State.Watchable.step (watchable : s.Watchable) (op : Op) : (step s op).Watchable :=
  have rows := housed_rowsInvariant.step op (fun _ _ => trivial)
    ⟨watchable.settled, watchable.housed⟩
  ⟨rows.1, rows.2, watchable.known.step op⟩

theorem Watched.step_mirrors {socket : SocketId} {watched : Watched} (watchable : watched.server.Watchable)
    (mirrors : Mirrors partyId watched.server watched.store.party) (op : Op) :
    Mirrors partyId (watched.step partyId socket op).server (watched.step partyId socket op).store.party := by
  obtain ⟨emissions, sent, mirrored⟩ : Relays partyId socket watched.server _ :=
    step_relays watchable.settled watchable.housed op
  have news : (Motogram.step watched.server op).outbox.drop watched.server.outbox.length =
      emissions := by
    rw [sent, drop_left]
  unfold Watched.step
  dsimp only
  rw [news]
  exact mirrored watched.store mirrors

section Initial

variable (deployment : Deployment) (now : Time) (users : UserId → Option User)
  (routes : RouteId → Option Route) (follows : Table (UserId × UserId) FollowStatus)
  (blocks : List (UserId × UserId)) (liveSessions : UserId → Option Bool)

theorem initial_watchable :
    (State.initial deployment now users routes follows blocks liveSessions).Watchable where
  settled := initial_settled ..
  housed := ⟨fun _ _ ⟨_, found, _⟩ => (nomatch found), fun _ _ leader => (nomatch leader)⟩
  known := fun _ found => (nomatch found)

/-- **A client that has opened a party stays in step with the server.** Its store was set
to the answer of `getPartyDetail` while one of the members watched, and applies what
arrives at a socket of theirs. -/
theorem watched_party_in_step (earlier later : List Op) (partyId : PartyId) (observer : UserId)
    (socket : SocketId) (store : PartyStore) (detail : PartyDetail)
    (member : (follow step (.initial deployment now users routes follows blocks liveSessions)
      earlier).Active partyId observer)
    (answered : ((getPartyDetail partyId).exec (follow step
      (.initial deployment now users routes follows blocks liveSessions) earlier)).1 = .ok detail) :
    Throughout (Watched.step partyId socket) (Watched.InStep partyId)
      ⟨follow step (.initial deployment now users routes follows blocks liveSessions) earlier,
        store.setParty (some detail)⟩ later := by
  have watchable := (throughout_of_invariant
    (fun s op holds => State.Watchable.step (s := s) holds op)
    (initial_watchable deployment now users routes follows blocks liveSessions) earlier).last
  generalize follow step (.initial deployment now users routes follows blocks liveSessions) earlier =
    s at watchable member answered ⊢
  have opened : Mirrors partyId s (store.setParty (some detail)).party := by
    have standing := watchable.housed.isOpen partyId observer member
    obtain ⟨party, found, -⟩ := watchable.housed.isOpen partyId observer member
    obtain ⟨shown, same, leader, members, count⟩ := getPartyDetail_shows watchable.known found
    rw [answered] at same
    cases same
    refine ⟨fun party' held => ?_, fun gone => by cases gone⟩
    cases held
    refine ⟨standing, ?_, members, count⟩
    rw [State.leaderOf, found, leader]
    rfl
  have kept : Throughout (Watched.step partyId socket)
      (fun watched => watched.server.Watchable ∧
        Mirrors partyId watched.server watched.store.party)
      ⟨s, store.setParty (some detail)⟩ later :=
    throughout_of_invariant
      (fun watched op both => ⟨both.1.step op, Watched.step_mirrors both.1 both.2 op⟩)
      ⟨watchable, opened⟩ later
  exact kept.mono fun watched both => both.2.inStep both.1.known

end Initial

/-- A party that members join, once more too, that its leader leaves and that is ended. -/
theorem watched_party_in_step_small :
    ∃ detail, ((getPartyDetail 10).exec
        (follow step smallInstallation [.createParty 1 10 smallParty, .joinParty 2 10])).1 =
          .ok detail ∧
      Throughout (Watched.step 10 7) (Watched.InStep 10)
        ⟨follow step smallInstallation [.createParty 1 10 smallParty, .joinParty 2 10],
          (PartyStore.mk none (fun _ => none) []).setParty (some detail)⟩
        [.connect 7 2 "r", .partyJoin 7 (some 10), .joinParty 3 10, .joinParty 3 10,
          .leaveParty 1 10 .left, .sweepZombieMembers, .endParty 10 .manual] :=
  ⟨_, rfl, watched_party_in_step smallDeployment 0 _ _ _ _ _ _ _ 10 2 7 _ _
    (by decide +kernel) rfl⟩

end Motogram
