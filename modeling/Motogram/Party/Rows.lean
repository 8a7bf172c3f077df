import Motogram.Party.Frame

/-!
# Invariants of the rows

An invariant that speaks of parties, of their members and of the election locks
has to survive what the party service does to them: a member leaves, joins,
opens a party, or a party is closed. Nothing else changes the rows. From these
four the rule concludes for every operation, the sweep included, whose turns are
calls of `leaveParty` one after the other.

A rule may demand something of every call of `leaveParty`; then it concludes for
the operations whose calls all meet the demand.

The first such invariant is unconditional. Between two operations the tables are
settled: every membership row belongs to a party that exists, no party is marked
deleted, and no election holds its lock.
-/

set_option autoImplicit false

namespace Motogram

open Foundation Table

/-- The invariant survives every change of the rows, where each call of
`leaveParty` is allowed. -/
structure RowsInvariant (allowed : LeaveCall → Prop) (invariant : State → Prop) : Prop where
  rows : ∀ {s s'}, SameRows s s' → invariant s → invariant s'
  leave : ∀ {s userId partyId reason result s'}, LeaveOutcome s userId partyId reason result s' →
    allowed ⟨s, userId, partyId, reason⟩ → invariant s → invariant s'
  join : ∀ {s userId partyId result s'}, JoinOutcome s userId partyId result s' →
    invariant s → invariant s'
  create : ∀ {s leaderId partyId dto result s'}, CreateOutcome s leaderId partyId dto result s' →
    invariant s → invariant s'
  close : ∀ {s partyId reason}, s.Open partyId → invariant s → invariant (s.closed partyId reason)

def SweepTurn.leaveCall (s : State) (turn : SweepTurn) : LeaveCall :=
  ⟨s, turn.2, turn.1, .disconnectTimeout⟩

theorem forall_leaveCalls_sweep {s : State} {allowed : LeaveCall → Prop} :
    (∀ leave ∈ Op.sweepZombieMembers.leaveCalls s, allowed leave) ↔
      EachStep sweepTurn (fun t turn => allowed (turn.leaveCall t)) s s.sweepTurns := by
  rw [eachStep_iff_visits]
  simp only [Op.leaveCalls, SweepTurn.leaveCall, List.forall_mem_map]

namespace RowsInvariant

variable {allowed : LeaveCall → Prop} {invariant : State → Prop} {s : State}

theorem sweepTurn (kept : RowsInvariant allowed invariant) (turn : SweepTurn) (before : invariant s)
    (permitted : allowed (turn.leaveCall s)) : invariant (sweepTurn s turn) := by
  obtain ⟨partyId, userId⟩ := turn
  obtain ⟨result, after, outcome, turned⟩ := sweepTurn_outcome s partyId userId
  rw [turned]
  have left := kept.leave outcome permitted before
  cases result with
  | error error => exact left
  | ok result => exact kept.rows (redis_keepsRows after _) left

/-- **The invariant survives every operation whose calls are allowed.** -/
theorem step (kept : RowsInvariant allowed invariant) (op : Op)
    (permitted : ∀ leave ∈ op.leaveCalls s, allowed leave) (before : invariant s) : invariant (step s op) := by
  cases op with
  | createParty leaderId partyId dto =>
    rw [step_createParty]
    exact kept.create (createParty_outcome s leaderId partyId dto) before
  | joinParty userId partyId =>
    rw [step_joinParty]
    exact kept.join (joinParty_outcome s userId partyId) before
  | leaveParty userId partyId reason =>
    rw [step_leaveParty]
    exact kept.leave (leaveParty_outcome s userId partyId reason)
      (permitted _ (List.mem_singleton_self _)) before
  | endParty partyId reason =>
    rw [step_endParty, exec_endParty]
    split
    · rename_i standing
      exact kept.close standing before
    · exact before
  | respondInvite userId inviteId accept =>
    rw [step_respondInvite]
    have outcome := respondInvite_outcome s userId inviteId accept
    generalize ((respondInvite userId inviteId accept).exec s).2 = after at outcome
    cases outcome with
    | untouched => exact before
    | declined invites =>
      have declined : SameRows s (s.withPartyInvites invites) := .of_eq rfl rfl rfl
      exact kept.rows declined before
    | accepted partyId => exact kept.join (joinParty_outcome s userId partyId) before
  | sweepZombieMembers =>
    rw [step_sweepZombieMembers]
    exact (throughout_of_keeps (fun _ turn holds met => kept.sweepTurn turn holds met) before
      (forall_leaveCalls_sweep.mp permitted)).last
  | partyLeave socket payload =>
    rw [step_partyLeave]
    have outcome := partyLeave_outcome s socket payload
    generalize ((handlePartyLeave socket payload).exec s).2 = after at outcome
    cases outcome with
    | unknown => exact before
    | invalid error =>
      have sent : SameRows s (s.sent (.client socket error)) := .of_eq rfl rfl rfl
      exact kept.rows sent before
    | refused userId username partyId error identity asked outcome =>
      have sent : SameRows s (s.sent (.client socket ⟨"party:leave", "FAIL", .exception error⟩)) :=
        .of_eq rfl rfl rfl
      exact kept.rows sent before
    | left userId username partyId result after identity asked ran outcome =>
      subst asked
      have called : allowed ⟨s, userId, partyId, .left⟩ :=
        permitted _ (by simp [Op.leaveCalls, identity])
      have roomLeft : SameRows after (after.roomLeft socket partyId) := .of_eq rfl rfl rfl
      exact kept.rows roomLeft (kept.leave outcome called before)
  | updateLocation userId dto =>
    refine kept.rows (step_keepsRows ?_ ?_ s) before
    · simp only [Op.regions]
      cases dto.partyId <;> simp
    · simp only [Op.regions]
      cases dto.partyId <;> simp
  | _ => exact kept.rows (step_keepsRows (by simp) (by simp) s) before

theorem at_leaveCalls (kept : RowsInvariant allowed invariant) (op : Op)
    (permitted : ∀ leave ∈ op.leaveCalls s, allowed leave) (before : invariant s) :
    ∀ leave ∈ op.leaveCalls s, invariant leave.before := by
  cases op with
  | leaveParty userId partyId reason =>
    intro leave called
    rw [Op.leaveCalls, List.mem_singleton] at called
    rw [called]
    exact before
  | partyLeave socket payload =>
    intro leave called
    cases payload with
    | none => simp [Op.leaveCalls] at called
    | some partyId =>
      cases identity : s.sockets socket with
      | none => simp [Op.leaveCalls, identity] at called
      | some data =>
        simp only [Op.leaveCalls, identity, List.mem_singleton] at called
        rw [called]
        exact before
  | sweepZombieMembers =>
    rw [forall_leaveCalls_sweep]
    exact eachStep_of_keeps (fun _ turn holds met => kept.sweepTurn turn holds met)
      (fun _ _ holds _ => holds) before (forall_leaveCalls_sweep.mp permitted)
  | _ =>
    intro leave called
    cases called

end RowsInvariant

/-! ## Who is active after a leave -/

section Leaving

variable {s s' : State} {userId member : UserId} {partyId other : PartyId} {reason : LeaveReason}
  {result : Except ServiceError LeaveResult}

theorem LeaveOutcome.was_active (outcome : LeaveOutcome s userId partyId reason result s')
    (active : s'.Active other member) : s.Active other member := by
  cases outcome with
  | rejected | finished => exact active
  | follower | leaderless | locked => exact (active_departed.mp active).1
  | alone => exact (active_departed.mp (active_closed.mp active).1).1
  | elected => exact (active_departed.mp (active_promoted.mp active)).1

/-- A leave takes its user out of the party and nobody else out of any. -/
theorem LeaveOutcome.still_active (outcome : LeaveOutcome s userId partyId reason result s')
    (active : s.Active other member) (different : (other, member) ≠ (partyId, userId)) :
    s'.Active other member := by
  have departed : (s.departed partyId userId reason).Active other member :=
    active_departed.mpr ⟨active, different⟩
  cases outcome with
  | rejected | finished => exact active
  | follower | leaderless | locked => exact departed
  | alone standing present leads last =>
    refine active_closed.mpr ⟨departed, ?_⟩
    rintro rfl
    exact last member (fun same => different (same ▸ rfl)) active
  | elected => exact active_promoted.mpr departed

theorem LeaveOutcome.gone (outcome : LeaveOutcome s userId partyId reason result s')
    (live : s.partyIsLive partyId = true) (standing : s.Open partyId) : ¬ s'.Active partyId userId := by
  have departed : ¬ (s.departed partyId userId reason).Active partyId userId :=
    fun active => (active_departed.mp active).2 rfl
  cases outcome with
  | rejected error stranger => exact stranger live
  | finished ended => exact absurd standing ended
  | follower | leaderless | locked => exact departed
  | alone => exact fun active => (active_closed.mp active).2 rfl
  | elected => exact fun active => departed (active_promoted.mp active)

end Leaving

/-! ## The tables between two operations -/

/-- Every membership row belongs to a party that exists. -/
def State.ForeignKey (s : State) : Prop :=
  ∀ partyId userId, (s.partyMembers.find? (partyId, userId)).isSome →
    (s.parties.find? partyId).isSome

/-- Every membership row belongs to a party that exists, no party is marked
deleted, and no election holds its lock. -/
structure State.Settled (s : State) : Prop where
  foreignKey : s.ForeignKey
  undeleted : ∀ partyId party, s.parties.find? partyId = some party → party.deletedAt = none
  unlocked : ∀ partyId, s.leaderLock partyId = none

section ForeignKey

variable {s : State} {partyId : PartyId} {userId : UserId}

theorem State.ForeignKey.insertMember {row : PartyMember} {party : Party} (foreignKey : s.ForeignKey)
    (found : s.parties.find? partyId = some party) : (s.insertMember partyId userId row).ForeignKey := by
  intro other member listed
  rw [State.insertMember_partyMembers, find?_insert] at listed
  rw [State.insertMember_parties]
  split at listed
  · rename_i here
    cases here.1
    rw [found]
    rfl
  · exact foreignKey other member listed

theorem State.ForeignKey.insertParty {dto : CreatePartyDto} (foreignKey : s.ForeignKey)
    (fresh : s.parties.find? partyId = none) : (s.insertParty partyId userId dto).ForeignKey := by
  intro other member listed
  rw [State.insertParty_partyMembers, find?_insert] at listed
  rw [State.insertParty_parties, find?_insert]
  by_cases here : other = partyId
  · simp [here, fresh]
  · rw [if_neg (fun same => here (Prod.mk.inj same.1).1)] at listed
    rw [if_neg (fun same => here same.1)]
    exact foreignKey other member listed

end ForeignKey

namespace State.Settled

variable {s s' : State} {partyId : PartyId} {userId : UserId}

theorem live_iff (settled : s.Settled) : s.partyIsLive partyId = true ↔ s.Open partyId := by
  rw [State.partyIsLive]
  cases found : s.parties.find? partyId with
  | none => simp [State.Open, found]
  | some party => simp [State.Open, found, settled.undeleted partyId party found]

theorem of_sameRows (settled : s.Settled) (same : SameRows s s') : s'.Settled where
  foreignKey := fun partyId userId listed => by
    rw [same.listed] at listed
    rw [same.parties]
    exact settled.foreignKey partyId userId listed
  undeleted := fun partyId party found => by
    rw [same.parties] at found
    exact settled.undeleted partyId party found
  unlocked := fun partyId => by
    rw [same.leaderLock]
    exact settled.unlocked partyId

theorem departed {reason : LeaveReason} (settled : s.Settled) : (s.departed partyId userId reason).Settled := by
  refine ⟨fun other member listed => ?_, fun other party found => ?_, fun other => ?_⟩
  · rw [parties_departed]
    refine settled.foreignKey other member ?_
    simp only [State.departed, State.sent_partyMembers, State.withUserParty_partyMembers,
      State.withMemberSet_partyMembers, State.patchMember_partyMembers, find?_modify] at listed
    split at listed
    · simpa using listed
    · exact listed
  · rw [parties_departed] at found
    exact settled.undeleted other party found
  · exact settled.unlocked other

theorem promoted {newLeaderId : UserId} (settled : s.Settled) : (s.promoted partyId newLeaderId).Settled := by
  refine ⟨fun other member listed => ?_, fun other party found => ?_, fun other => ?_⟩
  · have before : (s.partyMembers.find? (other, member)).isSome := by
      simp only [State.promoted, State.withLeaderLock_partyMembers, State.sent_partyMembers,
        State.changeLeader_partyMembers, find?_modify] at listed
      split at listed
      · simpa using listed
      · exact listed
    simp only [State.promoted, State.withLeaderLock_parties, State.sent_parties,
      State.changeLeader_parties, find?_modify]
    split
    · simpa using settled.foreignKey other member before
    · exact settled.foreignKey other member before
  · simp only [State.promoted, State.withLeaderLock_parties, State.sent_parties,
      State.changeLeader_parties, find?_modify] at found
    split at found
    · obtain ⟨old, read, rfl⟩ := Option.map_eq_some_iff.mp found
      exact settled.undeleted other old read
    · exact settled.undeleted other party found
  · simp only [State.promoted, State.withLeaderLock_leaderLock, State.sent_leaderLock,
      State.changeLeader_leaderLock]
    by_cases here : other = partyId
    · rw [here, Function.update_self]
    · rw [Function.update_of_ne here]
      exact settled.unlocked other

theorem closed {reason : EndReason} (settled : s.Settled) : (s.closed partyId reason).Settled := by
  refine ⟨fun other member listed => ?_, fun other party found => ?_, settled.unlocked⟩
  · have before : (s.partyMembers.find? (other, member)).isSome := by
      simpa [State.closed] using listed
    simp only [State.closed, State.sent_parties, State.withoutParty_parties,
      State.withActiveIndex_parties, State.withZombieWatch_parties, State.withMemberSet_parties,
      State.patchActive_parties, State.markEnded_parties, find?_modify]
    split
    · simpa using settled.foreignKey other member before
    · exact settled.foreignKey other member before
  · simp only [State.closed, State.sent_parties, State.withoutParty_parties,
      State.withActiveIndex_parties, State.withZombieWatch_parties, State.withMemberSet_parties,
      State.patchActive_parties, State.markEnded_parties, find?_modify] at found
    split at found
    · obtain ⟨old, read, rfl⟩ := Option.map_eq_some_iff.mp found
      exact settled.undeleted other old read
    · exact settled.undeleted other party found

theorem entered {row stored : PartyMember} {isPrivate : Bool} {party : Party} (settled : s.Settled)
    (found : s.parties.find? partyId = some party) :
    ((s.insertMember partyId userId stored).joined partyId userId row isPrivate).Settled := by
  have inserted : (s.insertMember partyId userId stored).Settled :=
    ⟨settled.foreignKey.insertMember found, settled.undeleted, settled.unlocked⟩
  exact inserted.of_sameRows joined_keepsRows

theorem opened {dto : CreatePartyDto} (settled : s.Settled) (fresh : s.parties.find? partyId = none) :
    (s.opened partyId userId dto).Settled := by
  refine ⟨settled.foreignKey.insertParty fresh, fun other party found => ?_, settled.unlocked⟩
  have parties : (s.opened partyId userId dto).parties =
      s.parties.insert partyId (newParty s.now userId dto) := rfl
  rw [parties, find?_insert] at found
  split at found
  · cases found
    rfl
  · exact settled.undeleted other party found

end State.Settled

theorem settled_rowsInvariant : RowsInvariant (fun _ => True) State.Settled where
  rows := fun same settled => settled.of_sameRows same
  leave := fun outcome _ settled => by
    cases outcome with
    | rejected | finished => exact settled
    | follower | leaderless | locked => exact settled.departed
    | alone => exact settled.departed.closed
    | elected => exact settled.departed.promoted
  join := fun outcome settled => by
    cases outcome with
    | rejected => exact settled
    | rejoined party row detail found live listed present =>
      exact settled.of_sameRows (rejoined_keepsRows listed present)
    | entered party user detail found => exact settled.entered found
  create := fun {s leaderId partyId dto result s'} outcome settled => by
    have counted : (s.counted (.partyCreate leaderId) partyCreateLimitWindowSeconds).Settled :=
      settled.of_sameRows (.of_eq rfl rfl rfl)
    cases outcome with
    | rejected => exact counted
    | opened user known fresh => exact counted.opened fresh
  close := fun _ settled => settled.closed

/-- **The tables are settled after every operation.** -/
theorem State.Settled.step {s : State} (settled : s.Settled) (op : Op) : (step s op).Settled :=
  settled_rowsInvariant.step op (fun _ _ => trivial) settled

theorem initial_settled (deployment : Deployment) (now : Time) (users : UserId → Option User)
    (routes : RouteId → Option Route) (follows : Table (UserId × UserId) FollowStatus)
    (blocks : List (UserId × UserId)) (liveSessions : UserId → Option Bool) :
    (State.initial deployment now users routes follows blocks liveSessions).Settled where
  foreignKey := fun _ _ listed => by cases listed
  undeleted := fun _ _ found => by cases found
  unlocked := fun _ => rfl

end Motogram
