import Motogram.Party.Rows

/-!
# Who leads a party

The leader of a party is written twice: in the row of the party and as the role
of a membership. They say the same when the party is governed: the stored leader
is an active member with the role of a leader, and the only one.

A leader who leaves hands the party on to a member who is online. When nobody
who stays is online, `leaveParty` names a fallback in its result and writes
nothing: the party stays with a leader who has gone. That is the only call that
names a leader it has not stored, and a run without such calls keeps every open
party governed (`governed_iff`).
-/

set_option autoImplicit false

namespace Motogram

open Foundation

def State.Governs (s : State) (partyId : PartyId) : Prop :=
  ∃ leaderId, s.leaderOf partyId = some leaderId ∧
    ∀ member, s.activeRole partyId member = some .leader ↔ member = leaderId

def State.Governed (s : State) : Prop := ∀ partyId, s.Open partyId → s.Governs partyId

def LeaveCall.NamesLeader (leave : LeaveCall) : Prop :=
  ∀ result newLeaderId, leave.result = .ok result → result.newLeaderId = some newLeaderId →
    leave.after.leaderOf leave.partyId = some newLeaderId

structure LeaveCall.Strands (leave : LeaveCall) : Prop where
  standing : leave.before.Open leave.partyId
  active : leave.before.Active leave.partyId leave.userId
  leads : leave.before.leaderOf leave.partyId = some leave.userId
  company : ∃ member, member ≠ leave.userId ∧ leave.before.Active leave.partyId member
  offline : ∀ member row, member ≠ leave.userId →
    leave.before.partyMembers.find? (leave.partyId, member) = some row → row.leftAt = none →
      row.isOnline = false

section

variable {s s' : State} {partyId other : PartyId} {userId : UserId}

theorem State.governs_congr (leader : s'.leaderOf partyId = s.leaderOf partyId)
    (roles : ∀ member, s'.activeRole partyId member = s.activeRole partyId member) :
    s'.Governs partyId ↔ s.Governs partyId := by
  simp only [State.Governs, leader, roles]

theorem State.Governed.of_sameRows (governed : s.Governed) (same : SameRows s s') : s'.Governed := by
  intro other standing
  rw [State.governs_congr (same.leaderOf other) fun member => same.activeRole other member]
  exact governed other ((same.isOpen other).mp standing)

/-! ## Leaving -/

/-- A member who does not lead the party goes. -/
theorem State.Governs.departed {reason : LeaveReason} (governs : s.Governs other)
    (follows : other = partyId → s.leaderOf partyId ≠ some userId) :
    (s.departed partyId userId reason).Governs other := by
  obtain ⟨leaderId, leads, roles⟩ := governs
  refine ⟨leaderId, leaderOf_departed.trans leads, fun member => ?_⟩
  by_cases gone : (other, member) = (partyId, userId)
  · obtain ⟨rfl, rfl⟩ := Prod.mk.inj gone
    have different : member ≠ leaderId := fun same => follows rfl (same ▸ leads)
    have absent : (s.departed other member reason).activeRole other member ≠ some .leader := by
      intro role
      exact (active_departed.mp (State.active_of_activeRole role)).2 rfl
    exact iff_of_false absent different
  · rw [activeRole_departed gone]
    exact roles member

theorem State.Governs.promoted {newLeaderId : UserId} {reason : LeaveReason}
    (governs : s.Governs partyId) (leads : s.leaderOf partyId = some userId)
    (stays : s.Active partyId newLeaderId) (different : newLeaderId ≠ userId) :
    ((s.departed partyId userId reason).promoted partyId newLeaderId).Governs partyId := by
  obtain ⟨leaderId, stored, roles⟩ := governs
  obtain rfl : leaderId = userId := Option.some.inj (stored.symm.trans leads)
  refine ⟨newLeaderId, ?_, fun member => ?_⟩
  · rw [leaderOf_promoted, if_pos rfl, leaderOf_departed, leads]
    rfl
  · rw [activeRole_promoted]
    by_cases chosen : member = newLeaderId
    · subst chosen
      have apart : (partyId, member) ≠ (partyId, leaderId) :=
        fun same => different (Prod.mk.inj same).2
      obtain ⟨role, before⟩ := stays.activeRole
      rw [activeRole_departed apart, before]
      simp
    · rw [if_neg fun same => chosen (Prod.mk.inj same).2]
      refine iff_of_false (fun role => ?_) chosen
      have apart := (active_departed.mp (State.active_of_activeRole role)).2
      rw [activeRole_departed apart, roles] at role
      exact apart (role ▸ rfl)

theorem LeaveOutcome.governed {reason : LeaveReason} {result : Except ServiceError LeaveResult}
    (outcome : LeaveOutcome s userId partyId reason result s')
    (led : ¬ LeaveCall.Strands ⟨s, userId, partyId, reason⟩) (settled : s.Settled)
    (governed : s.Governed) : s'.Governed := by
  intro other standing
  cases outcome with
  | rejected | finished => exact governed other standing
  | follower running active follows =>
    exact (governed other (open_departed.mp standing)).departed fun _ => follows
  | alone running active leads last =>
    obtain ⟨before, different⟩ := open_closed.mp standing
    have departed : (s.departed partyId userId reason).Governs other :=
      (governed other (open_departed.mp before)).departed fun same => absurd same different
    exact (State.governs_congr leaderOf_closed fun member => activeRole_closed different).mpr
      departed
  | leaderless fallback running active leads apart stays offline =>
    exact absurd ⟨running, active, leads, ⟨fallback, apart, stays⟩, offline⟩ led
  | locked fallback running active leads held =>
    rw [settled.unlocked] at held
    exact absurd rfl held
  | elected newLeaderId row running active leads apart candidate stays online free =>
    by_cases here : other = partyId
    · subst here
      exact (governed other running).promoted leads ⟨row, candidate, stays⟩ apart
    · have departed : (s.departed partyId userId reason).Governs other :=
        (governed other (open_departed.mp (open_promoted.mp standing))).departed
          fun same => absurd same here
      refine (State.governs_congr ?_ fun member => ?_).mpr departed
      · rw [leaderOf_promoted, if_neg here]
      · rw [activeRole_promoted, if_neg fun same => here (Prod.mk.inj same).1]

/-! ## Joining and opening -/

theorem JoinOutcome.governed {result : Except ServiceError PartyDetail}
    (outcome : JoinOutcome s userId partyId result s') (governed : s.Governed) : s'.Governed := by
  cases outcome with
  | rejected => exact governed
  | rejoined party row detail found live listed present =>
    exact governed.of_sameRows (rejoined_keepsRows listed present)
  | entered party user detail found live known unlisted =>
    intro other standing
    have parties : ((s.insertMember partyId userId (newMember s.now .member)).joined partyId userId
        (newMember s.now .member) party.isPrivate).parties = s.parties := parties_joined
    obtain ⟨leaderId, leads, roles⟩ := governed other ((State.open_congr parties).mp standing)
    refine ⟨leaderId, (State.leaderOf_congr parties).trans leads, fun member => ?_⟩
    rw [activeRole_entered unlisted]
    split
    · rename_i newcomer
      refine iff_of_false (by simp) fun same => ?_
      -- the newcomer had no row, so the newcomer does not lead
      have role := (roles member).mpr same
      rw [State.activeRole, newcomer, unlisted] at role
      cases role
    · exact roles member

theorem State.Governed.opened {dto : CreatePartyDto} (governed : s.Governed) (settled : s.Settled)
    (fresh : s.parties.find? partyId = none) (unlisted : s.partyMembers.find? (partyId, userId) = none) :
    (s.opened partyId userId dto).Governed := by
  intro other standing
  by_cases here : other = partyId
  · subst here
    refine ⟨userId, (leaderOf_opened fresh).trans (if_pos rfl), fun member => ?_⟩
    rw [activeRole_opened unlisted]
    split
    · rename_i founder
      exact iff_of_true rfl (Prod.mk.inj founder).2
    · rename_i stranger
      refine iff_of_false (fun role => ?_) fun same => stranger (same ▸ rfl)
      obtain ⟨row, listed, -⟩ := State.active_of_activeRole role
      have stored := settled.foreignKey other member (Option.isSome_of_eq_some listed)
      rw [fresh] at stored
      cases stored
  · have before := ((open_opened fresh).mp standing).resolve_right here
    refine (State.governs_congr ?_ fun member => ?_).mpr (governed other before)
    · rw [leaderOf_opened fresh, if_neg here]
    · rw [activeRole_opened unlisted, if_neg fun same => here (Prod.mk.inj same).1]

theorem CreateOutcome.governed {dto : CreatePartyDto} {result : Except ServiceError PartySummary}
    (outcome : CreateOutcome s userId partyId dto result s') (settled : s.Settled)
    (governed : s.Governed) : s'.Governed := by
  have same : SameRows s (s.counted (.partyCreate userId) partyCreateLimitWindowSeconds) :=
    .of_eq rfl rfl rfl
  cases outcome with
  | rejected => exact governed.of_sameRows same
  | opened user known fresh unlisted =>
    exact (governed.of_sameRows same).opened (settled.of_sameRows same) fresh unlisted

end

theorem governed_rowsInvariant :
    RowsInvariant (fun leave => ¬ leave.Strands) fun s => s.Settled ∧ s.Governed where
  rows := fun same before => ⟨before.1.of_sameRows same, before.2.of_sameRows same⟩
  leave := fun outcome led before =>
    ⟨settled_rowsInvariant.leave outcome trivial before.1, outcome.governed led before.1 before.2⟩
  join := fun outcome before =>
    ⟨settled_rowsInvariant.join outcome before.1, outcome.governed before.2⟩
  create := fun outcome before =>
    ⟨settled_rowsInvariant.create outcome before.1, outcome.governed before.1 before.2⟩
  close := fun standing before => by
    refine ⟨settled_rowsInvariant.close standing before.1, fun other open' => ?_⟩
    obtain ⟨running, different⟩ := open_closed.mp open'
    exact (State.governs_congr leaderOf_closed fun member => activeRole_closed different).mpr
      (before.2 other running)

/-! ## What a call names -/

theorem LeaveCall.namesLeader_iff {leave : LeaveCall} (settled : leave.before.Settled) :
    leave.NamesLeader ↔ ¬ leave.Strands := by
  obtain ⟨s, userId, partyId, reason⟩ := leave
  have outcome := leaveParty_outcome s userId partyId reason
  simp only [LeaveCall.NamesLeader, LeaveCall.result, LeaveCall.after]
  generalize ((leaveParty userId partyId reason).exec s).1 = result at outcome
  generalize ((leaveParty userId partyId reason).exec s).2 = after at outcome
  constructor
  · intro names strands
    cases outcome with
    | rejected error stranger => exact stranger (settled.live_iff.mpr strands.standing) strands.active
    | finished ended => exact ended strands.standing
    | follower standing active follows => exact follows strands.leads
    | alone standing active leads last =>
      obtain ⟨member, different, stays⟩ := strands.company
      exact last member different stays
    | leaderless fallback standing active leads different =>
      have stored := names _ fallback rfl rfl
      rw [leaderOf_departed, leads] at stored
      exact different (Option.some.inj stored).symm
    | locked fallback standing active leads held => exact held (by rw [settled.unlocked]; rfl)
    | elected newLeaderId row standing active leads different candidate stays online =>
      rw [strands.offline newLeaderId row different candidate stays] at online
      cases online
  · intro led result newLeaderId ran named
    cases outcome with
    | rejected => cases ran
    | finished | follower | alone =>
      cases ran
      cases named
    | leaderless fallback standing active leads different stays offline =>
      exact absurd ⟨standing, active, leads, ⟨fallback, different, stays⟩, offline⟩ led
    | locked fallback standing active leads held =>
      exact absurd (by rw [settled.unlocked]; rfl) held
    | elected elect row standing active leads =>
      cases ran
      cases named
      rw [leaderOf_promoted, if_pos rfl, leaderOf_departed, leads]
      rfl

section Runs

variable (deployment : Deployment) (now : Time) (users : UserId → Option User)
  (routes : RouteId → Option Route) (follows : Table (UserId × UserId) FollowStatus)
  (blocks : List (UserId × UserId)) (liveSessions : UserId → Option Bool)

/-- **Every open party is governed throughout, and every leader a call names is
stored, in exactly the runs in which no leader strands a party.** -/
theorem governed_iff (ops : List Op) :
    Throughout step State.Governed
        (.initial deployment now users routes follows blocks liveSessions) ops ∧
      EachStep step (fun s op => ∀ leave ∈ op.leaveCalls s, leave.NamesLeader)
        (.initial deployment now users routes follows blocks liveSessions) ops ↔
    EachStep step (fun s op => ∀ leave ∈ op.leaveCalls s, ¬ leave.Strands)
      (.initial deployment now users routes follows blocks liveSessions) ops := by
  have initially := initial_settled deployment now users routes follows blocks liveSessions
  have names_iff (s : State) (settled : s.Settled) (op : Op) :
      ∀ leave ∈ op.leaveCalls s, (leave.NamesLeader ↔ ¬ leave.Strands) := fun leave called =>
    LeaveCall.namesLeader_iff
      (settled_rowsInvariant.at_leaveCalls op (fun _ _ => trivial) settled leave called)
  constructor
  · rintro ⟨-, names⟩
    exact eachStep_of_keeps (fun s op (settled : s.Settled) _ => settled.step op)
      (fun s op settled named leave called => (names_iff s settled op leave called).mp
        (named leave called)) initially names
  · intro led
    refine ⟨?_, ?_⟩
    · have governed : (State.initial deployment now users routes follows blocks
          liveSessions).Governed := by
        rintro partyId ⟨party, found, -⟩
        cases found
      have both := throughout_of_keeps
        (fun s op (before : s.Settled ∧ s.Governed) allowed =>
          governed_rowsInvariant.step op allowed before) ⟨initially, governed⟩ led
      exact both.mono fun _ before => before.2
    · exact eachStep_of_keeps (fun s op (settled : s.Settled) _ => settled.step op)
        (fun s op settled allowed leave called => (names_iff s settled op leave called).mpr
          (allowed leave called)) initially led

end Runs

/-- Rider 1 leaves rider 2 behind, who is offline. -/
theorem offline_member_stranded :
    ¬ (Throughout step State.Governed smallInstallation
          [.createParty 1 10 smallParty, .joinParty 2 10, .markOffline 2 10, .leaveParty 1 10 .left] ∧
        EachStep step (fun s op => ∀ leave ∈ op.leaveCalls s, leave.NamesLeader) smallInstallation
          [.createParty 1 10 smallParty, .joinParty 2 10, .markOffline 2 10,
            .leaveParty 1 10 .left]) := by
  rintro ⟨governed, -⟩
  obtain ⟨leaderId, leads, roles⟩ := governed.last 10 (by decide +kernel)
  have stored : (follow step smallInstallation [.createParty 1 10 smallParty, .joinParty 2 10,
      .markOffline 2 10, .leaveParty 1 10 .left]).leaderOf 10 = some 1 := by decide +kernel
  have gone : (follow step smallInstallation [.createParty 1 10 smallParty, .joinParty 2 10,
      .markOffline 2 10, .leaveParty 1 10 .left]).activeRole 10 1 = none := by decide +kernel
  obtain rfl : leaderId = 1 := Option.some.inj (leads.symm.trans stored)
  have role := (roles 1).mpr rfl
  rw [gone] at role
  cases role

end Motogram
