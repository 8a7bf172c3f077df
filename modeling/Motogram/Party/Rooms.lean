import Motogram.Party.Rows

/-!
# Who is in the room of a party

A socket enters the room of a party when its user, a member, asks for it. It
leaves the room when it disconnects, and when it sends `party:leave` itself.
Nothing else takes a socket out of a room: a leave over REST, a turn of the
sweep, the end of the party, and a `party:leave` from another socket of the same
user all end memberships and leave sockets where they are.

So a room holds members only as long as every call that ends a membership finds
no socket behind that it does not evict, and no longer (`rooms_hold_members_iff`).
-/

set_option autoImplicit false

namespace Motogram

open Foundation Program Function

def State.RoomHoldsMembers (s : State) (partyId : PartyId) : Prop :=
  ∀ socket ∈ s.rooms partyId,
    ∃ userId username, s.sockets socket = some (userId, username) ∧ s.Active partyId userId

def State.RoomsHoldMembers (s : State) : Prop := ∀ partyId, s.RoomHoldsMembers partyId

/-- When the call broadcasts a live position, the sockets it reaches belong to
active members. -/
def ReachesMembers : StoreCall → State → Prop
  | .emit (.room (.memberUpdated partyId _ _ _ _ _ _) _), s => s.RoomHoldsMembers partyId
  | _, _ => True

def Op.ReachesMembersOnly (s : State) (op : Op) : Prop :=
  ∀ entry ∈ op.calls s, ReachesMembers entry.1 entry.2

/-- A call of `leaveParty` for the user goes through. -/
def State.CanLeave (s : State) (partyId : PartyId) (userId : UserId) : Prop :=
  s.Open partyId ∧ s.Active partyId userId

def State.OutOfRoom (s : State) (partyId : PartyId) (userId : UserId) (spared : Option SocketId) :
    Prop :=
  ∀ socket ∈ s.rooms partyId, (s.sockets socket).map Prod.fst = some userId → some socket = spared

def SweepTurn.EvictsSockets (s : State) (turn : SweepTurn) : Prop :=
  s.CanLeave turn.1 turn.2 → s.OutOfRoom turn.1 turn.2 none

/-- The operation ends no membership of a user with a socket in the room that it
does not evict. The one socket an operation evicts is the one that sends
`party:leave`. -/
def Op.EvictsSockets (s : State) : Op → Prop
  | .leaveParty userId partyId _ => s.CanLeave partyId userId → s.OutOfRoom partyId userId none
  | .partyLeave socket (some partyId) => ∀ identity, s.sockets socket = some identity →
      s.CanLeave partyId identity.1 → s.OutOfRoom partyId identity.1 (some socket)
  | .endParty partyId _ => s.Open partyId → s.rooms partyId = []
  | .sweepZombieMembers => EachStep sweepTurn SweepTurn.EvictsSockets s s.sweepTurns
  | _ => True

section

variable {s s' : State} {partyId : PartyId} {userId : UserId}

theorem State.RoomsHoldMembers.mono (holds : s.RoomsHoldMembers) (sockets : s'.sockets = s.sockets)
    (rooms : ∀ partyId socket, socket ∈ s'.rooms partyId → socket ∈ s.rooms partyId)
    (stays : ∀ partyId socket userId username, socket ∈ s'.rooms partyId →
      s.sockets socket = some (userId, username) → s.Active partyId userId →
        s'.Active partyId userId) : s'.RoomsHoldMembers := by
  intro partyId socket inside
  obtain ⟨userId, username, identity, active⟩ := holds partyId socket (rooms partyId socket inside)
  exact ⟨userId, username, sockets ▸ identity,
    stays partyId socket userId username inside identity active⟩

theorem State.RoomsHoldMembers.of_same (holds : s.RoomsHoldMembers) (same : SameSockets s s')
    (stays : ∀ partyId userId, s.Active partyId userId → s'.Active partyId userId) : s'.RoomsHoldMembers :=
  holds.mono same.sockets (fun _ _ inside => same.rooms ▸ inside)
    fun partyId _ userId _ _ _ active => stays partyId userId active

/-! ## Leaving -/

/-- **Rooms hold members after a leave exactly when the leave evicts the sockets
of its user.** -/
theorem roomsHoldMembers_leave_iff {after : State} {reason : LeaveReason}
    {result : Except ServiceError LeaveResult} {spared : Option SocketId}
    (outcome : LeaveOutcome s userId partyId reason result after) (settled : s.Settled)
    (holds : s.RoomsHoldMembers) (sockets : s'.sockets = s.sockets)
    (members : s'.partyMembers = after.partyMembers)
    (rooms : ∀ other socket, socket ∈ s'.rooms other ↔
      socket ∈ s.rooms other ∧ ¬ (other = partyId ∧ some socket = spared)) :
    s'.RoomsHoldMembers ↔ (s.CanLeave partyId userId → s.OutOfRoom partyId userId spared) := by
  constructor
  · intro still canLeave socket inside owner
    by_contra kept
    obtain ⟨member, username, identity, active⟩ :=
      still partyId socket ((rooms partyId socket).mpr ⟨inside, fun evicted => kept evicted.2⟩)
    rw [sockets] at identity
    rw [identity] at owner
    obtain rfl : member = userId := Option.some.inj owner
    exact outcome.gone (settled.live_iff.mpr canLeave.1) canLeave.1
      ((State.active_congr members).mp active)
  · intro evicts
    refine holds.mono sockets (fun other socket inside => ((rooms other socket).mp inside).1) ?_
    intro other socket member username inside identity active
    obtain ⟨before, kept⟩ := (rooms other socket).mp inside
    rw [State.active_congr members]
    by_cases leaver : (other, member) = (partyId, userId)
    · obtain ⟨rfl, rfl⟩ := Prod.mk.inj leaver
      by_cases standing : s.Open other
      · exact absurd ⟨rfl, evicts ⟨standing, active⟩ socket before (by rw [identity]; rfl)⟩ kept
      · cases outcome with
        | rejected | finished => exact active
        | follower running | alone running | leaderless _ running | locked _ running
        | elected _ _ running => exact absurd running standing
    · exact outcome.still_active active leaver

theorem leaveParty_keepsSockets (s : State) (userId : UserId) (partyId : PartyId)
    (reason : LeaveReason) : SameSockets s ((leaveParty userId partyId reason).exec s).2 :=
  exec_keepsSockets (leaveParty_writes ..) (by simp) (by simp) s

theorem roomsHoldMembers_leaveParty_iff {reason : LeaveReason} (settled : s.Settled)
    (holds : s.RoomsHoldMembers) :
    ((leaveParty userId partyId reason).exec s).2.RoomsHoldMembers ↔
      (s.CanLeave partyId userId → s.OutOfRoom partyId userId none) := by
  have same := leaveParty_keepsSockets s userId partyId reason
  exact roomsHoldMembers_leave_iff (leaveParty_outcome s userId partyId reason) settled holds
    same.sockets rfl fun other socket => by simp [same.rooms]

/-! ## The sweep -/

theorem sweepTurn_keepsSockets (s : State) (turn : SweepTurn) : SameSockets s (sweepTurn s turn) := by
  obtain ⟨partyId, userId⟩ := turn
  have same := leaveParty_keepsSockets s userId partyId .disconnectTimeout
  rw [sweepTurn_eq]
  split
  · rename_i ran
    rw [ran] at same
    exact ⟨same.sockets, same.rooms⟩
  · rename_i ran
    rw [ran] at same
    exact same

/-- A turn changes the membership rows as its call of `leaveParty` does. -/
theorem partyMembers_sweepTurn (s : State) (turn : SweepTurn) :
    (sweepTurn s turn).partyMembers = ((leaveParty turn.2 turn.1 .disconnectTimeout).exec s).2.partyMembers := by
  obtain ⟨partyId, userId⟩ := turn
  rw [sweepTurn_eq]
  cases (leaveParty userId partyId .disconnectTimeout).exec s with
  | mk result after => cases result <;> rfl

variable (turn : SweepTurn) {socket : SocketId}

theorem roomsHoldMembers_sweepTurn_iff (settled : s.Settled) (holds : s.RoomsHoldMembers) :
    (sweepTurn s turn).RoomsHoldMembers ↔ turn.EvictsSockets s := by
  have same := sweepTurn_keepsSockets s turn
  exact roomsHoldMembers_leave_iff (leaveParty_outcome s turn.2 turn.1 .disconnectTimeout) settled
    holds same.sockets (partyMembers_sweepTurn s turn) fun other socket => by simp [same.rooms]

/-- A turn takes no socket out of a room and makes nobody active. -/
theorem roomsHoldMembers_of_sweepTurn (later : (sweepTurn s turn).RoomsHoldMembers) : s.RoomsHoldMembers := by
  have same := sweepTurn_keepsSockets s turn
  intro partyId socket inside
  obtain ⟨userId, username, identity, active⟩ := later partyId socket (same.rooms ▸ inside)
  rw [State.active_congr (partyMembers_sweepTurn s turn)] at active
  exact ⟨userId, username, same.sockets ▸ identity,
    (leaveParty_outcome s turn.2 turn.1 .disconnectTimeout).was_active active⟩

theorem roomsHoldMembers_sweep_iff (settled : s.Settled) (holds : s.RoomsHoldMembers) :
    (step s .sweepZombieMembers).RoomsHoldMembers ↔
      EachStep sweepTurn SweepTurn.EvictsSockets s s.sweepTurns := by
  have gives (t : State) (both : t.Settled ∧ t.RoomsHoldMembers) : t.RoomsHoldMembers := both.2
  have keeps (t : State) (turn : SweepTurn) (both : t.Settled ∧ t.RoomsHoldMembers)
      (evicts : turn.EvictsSockets t) :
      (sweepTurn t turn).Settled ∧ (sweepTurn t turn).RoomsHoldMembers :=
    ⟨settled_rowsInvariant.sweepTurn turn both.1 trivial,
      (roomsHoldMembers_sweepTurn_iff turn both.1 both.2).mpr evicts⟩
  have breaks (t : State) (turn : SweepTurn) (both : t.Settled ∧ t.RoomsHoldMembers)
      (stays : ¬ turn.EvictsSockets t) : ¬ (sweepTurn t turn).RoomsHoldMembers :=
    fun later => stays ((roomsHoldMembers_sweepTurn_iff turn both.1 both.2).mp later)
  rw [← throughout_iff_eachStep gives keeps breaks ⟨settled, holds⟩, step_sweepZombieMembers]
  exact ⟨throughout_of_last fun _ turn => roomsHoldMembers_of_sweepTurn turn, Throughout.last⟩

/-! ## The other operations -/

theorem roomsHoldMembers_closed_iff {reason : EndReason} (holds : s.RoomsHoldMembers) :
    (s.closed partyId reason).RoomsHoldMembers ↔ s.rooms partyId = [] := by
  have rooms : (s.closed partyId reason).rooms = s.rooms := by simp [State.closed]
  have sockets : (s.closed partyId reason).sockets = s.sockets := by simp [State.closed]
  constructor
  · intro later
    rw [List.eq_nil_iff_forall_not_mem]
    intro socket inside
    obtain ⟨userId, username, -, active⟩ := later partyId socket inside
    exact (active_closed.mp active).2 rfl
  · intro empty
    refine holds.mono sockets (fun other socket inside => by rwa [rooms] at inside) ?_
    intro other socket userId username inside identity active
    refine active_closed.mpr ⟨active, ?_⟩
    rintro rfl
    rw [rooms, empty] at inside
    cases inside

theorem roomsHoldMembers_endParty_iff {reason : EndReason} (holds : s.RoomsHoldMembers) :
    ((endParty partyId reason).exec s).2.RoomsHoldMembers ↔ (s.Open partyId → s.rooms partyId = []) := by
  rw [exec_endParty]
  by_cases standing : s.Open partyId
  · rw [if_pos standing, roomsHoldMembers_closed_iff holds]
    exact ⟨fun empty _ => empty, fun empty => empty standing⟩
  · rw [if_neg standing]
    exact iff_of_true holds fun running => absurd running standing

theorem JoinOutcome.still_active {result : Except ServiceError PartyDetail}
    (outcome : JoinOutcome s userId partyId result s') {other : PartyId} {member : UserId}
    (active : s.Active other member) : s'.Active other member := by
  cases outcome with
  | rejected => exact active
  | rejoined party row detail found live listed present =>
    exact ((rejoined_keepsRows listed present).active other member).mpr active
  | entered party user detail found live known unlisted =>
    rw [← State.activeRole_isSome, activeRole_entered unlisted]
    split
    · rfl
    · exact State.activeRole_isSome.mpr active

theorem CreateOutcome.still_active {dto : CreatePartyDto} {result : Except ServiceError PartySummary}
    (outcome : CreateOutcome s userId partyId dto result s') {other : PartyId} {member : UserId}
    (active : s.Active other member) : s'.Active other member := by
  cases outcome with
  | rejected => exact active
  | opened user known fresh unlisted =>
    have listed : (s.counted (.partyCreate userId) partyCreateLimitWindowSeconds).partyMembers.find?
        (partyId, userId) = none := unlisted
    rw [← State.activeRole_isSome, activeRole_opened listed]
    split
    · rfl
    · exact State.activeRole_isSome.mpr active

theorem roomsHoldMembers_connect {username : String} (holds : s.RoomsHoldMembers) :
    ((handleConnection socket userId username).exec s).2.RoomsHoldMembers := by
  intro other inside present
  simp only [handleConnection, Flow.exec, run_call, run_done, answer] at present ⊢
  cases known : s.sockets socket with
  | some identity =>
    simp only [known] at present ⊢
    exact holds other inside present
  | none =>
    simp only [known] at present ⊢
    obtain ⟨owner, name, identity, active⟩ := holds other inside present
    refine ⟨owner, name, ?_, active⟩
    rw [State.withSocket_sockets, update_of_ne]
    · exact identity
    · rintro rfl
      rw [known] at identity
      cases identity

theorem roomsHoldMembers_disconnect (holds : s.RoomsHoldMembers) :
    ((handleDisconnect socket).exec s).2.RoomsHoldMembers := by
  have rows : SameRows s ((handleDisconnect socket).exec s).2 :=
    exec_keepsRows (handleDisconnect_writes socket) (by simp) (by simp) s
  have sockets : ((handleDisconnect socket).exec s).2.sockets =
      update s.sockets socket none := by
    rw [exec_handleDisconnect]
    split
    · rfl
    · unfold State.disconnected
      split <;> rfl
  have rooms : ((handleDisconnect socket).exec s).2.rooms =
      fun partyId => setRemove (s.rooms partyId) socket := by
    rw [exec_handleDisconnect]
    split
    · rfl
    · unfold State.disconnected
      split <;> rfl
  intro other inside present
  rw [rooms, mem_setRemove] at present
  obtain ⟨owner, name, identity, active⟩ := holds other inside present.2
  refine ⟨owner, name, ?_, (rows.active other owner).mpr active⟩
  rw [sockets, update_of_ne present.1]
  exact identity

theorem PartyJoinOutcome.roomsHoldMembers {payload : Option PartyId}
    (outcome : PartyJoinOutcome s socket payload s') (rows : SameRows s s') (holds : s.RoomsHoldMembers) :
    s'.RoomsHoldMembers := by
  cases outcome with
  | unknown | rejected => exact holds
  | attended userId username partyId identity asked active =>
    intro other inside present
    have rooms : (s.attended socket userId partyId).rooms =
        update s.rooms partyId (setAdd (s.rooms partyId) socket) := rfl
    rw [rooms] at present
    by_cases newcomer : inside = socket ∧ other = partyId
    · obtain ⟨rfl, rfl⟩ := newcomer
      exact ⟨userId, username, identity, (rows.active _ _).mpr active⟩
    · have before : inside ∈ s.rooms other := by
        by_cases here : other = partyId
        · subst here
          rw [update_self, mem_setAdd] at present
          exact present.resolve_left fun same => newcomer ⟨same, rfl⟩
        · rwa [update_of_ne here] at present
      obtain ⟨owner, name, known, standing⟩ := holds other inside before
      exact ⟨owner, name, known, (rows.active _ _).mpr standing⟩

theorem PartyLeaveOutcome.roomsHoldMembers_iff {payload : Option PartyId}
    (outcome : PartyLeaveOutcome s socket payload s') (settled : s.Settled) (holds : s.RoomsHoldMembers) :
    s'.RoomsHoldMembers ↔ Op.EvictsSockets s (.partyLeave socket payload) := by
  cases outcome with
  | unknown anonymous =>
    refine iff_of_true holds ?_
    cases payload with
    | none => trivial
    | some partyId =>
      intro identity known
      rw [anonymous] at known
      cases known
  | invalid error empty =>
    subst empty
    exact iff_of_true holds trivial
  | refused userId username partyId error identity asked outcome =>
    subst asked
    refine iff_of_true holds ?_
    rintro known same ⟨standing, active⟩
    obtain rfl : (userId, username) = known := Option.some.inj (identity.symm.trans same)
    exact absurd active (outcome.gone (settled.live_iff.mpr standing) standing)
  | left userId username partyId result after identity asked ran outcome =>
    subst asked
    have same := leaveParty_keepsSockets s userId partyId .left
    rw [ran] at same
    have sockets : (after.roomLeft socket partyId).sockets = s.sockets := same.sockets
    have rooms : ∀ other inside, inside ∈ (after.roomLeft socket partyId).rooms other ↔
        inside ∈ s.rooms other ∧ ¬ (other = partyId ∧ some inside = some socket) := by
      intro other inside
      rw [← same.rooms]
      by_cases here : other = partyId
      · subst here
        simp [State.roomLeft, and_comm]
      · simp [State.roomLeft, here]
    rw [roomsHoldMembers_leave_iff outcome settled holds sockets rfl rooms]
    constructor
    · rintro evicts known same'
      obtain rfl : (userId, username) = known := Option.some.inj (identity.symm.trans same')
      exact evicts
    · intro evicts
      exact evicts _ identity

/-- **Rooms hold members after an operation exactly when it evicts the sockets of
the users it takes out.** -/
theorem step_roomsHoldMembers_iff (settled : s.Settled) (holds : s.RoomsHoldMembers) (op : Op) :
    (step s op).RoomsHoldMembers ↔ op.EvictsSockets s := by
  cases op with
  | leaveParty userId partyId reason =>
    rw [step_leaveParty]
    exact roomsHoldMembers_leaveParty_iff settled holds
  | endParty partyId reason =>
    rw [step_endParty]
    exact roomsHoldMembers_endParty_iff holds
  | sweepZombieMembers => exact roomsHoldMembers_sweep_iff settled holds
  | partyLeave socket payload =>
    rw [step_partyLeave]
    exact (partyLeave_outcome s socket payload).roomsHoldMembers_iff settled holds
  | createParty leaderId partyId dto =>
    refine iff_of_true (holds.of_same (step_keepsSockets (by simp) (by simp) s) ?_) trivial
    intro other member active
    rw [step_createParty]
    exact (createParty_outcome s leaderId partyId dto).still_active active
  | joinParty userId partyId =>
    refine iff_of_true (holds.of_same (step_keepsSockets (by simp) (by simp) s) ?_) trivial
    intro other member active
    rw [step_joinParty]
    exact (joinParty_outcome s userId partyId).still_active active
  | respondInvite userId inviteId accept =>
    refine iff_of_true (holds.of_same (step_keepsSockets (by simp) (by simp) s) ?_) trivial
    intro other member active
    rw [step_respondInvite]
    have outcome := respondInvite_outcome s userId inviteId accept
    generalize ((respondInvite userId inviteId accept).exec s).2 = after at outcome
    cases outcome with
    | untouched | declined => exact active
    | accepted partyId => exact (joinParty_outcome s userId partyId).still_active active
  | connect socket userId username =>
    exact iff_of_true (roomsHoldMembers_connect holds) trivial
  | disconnect socket =>
    rw [step_disconnect]
    exact iff_of_true (roomsHoldMembers_disconnect holds) trivial
  | partyJoin socket payload =>
    have rows : SameRows s (step s (.partyJoin socket payload)) :=
      step_keepsRows (by simp) (by simp) s
    rw [step_partyJoin] at rows ⊢
    exact iff_of_true ((partyJoin_outcome s socket payload).roomsHoldMembers rows holds) trivial
  | updateLocation userId dto =>
    have absent (region : Region) (elsewhere : region ∉ updateRegions (some 0)) :
        region ∉ (Op.updateLocation userId dto).regions := by
      simp only [Op.regions]
      cases dto.partyId <;> simp_all
    have rows := step_keepsRows (absent .membership (by simp)) (absent .election (by simp)) s
    exact iff_of_true (holds.of_same
      (step_keepsSockets (absent .connections (by simp)) (absent .rooms (by simp)) s)
      fun other member => (rows.active other member).mpr) trivial
  | _ =>
    refine iff_of_true (holds.of_same (step_keepsSockets (by simp) (by simp) s) ?_) trivial
    exact fun other member => ((step_keepsRows (by simp) (by simp) s).active other member).mpr

theorem reachesMembers_of_silent {call : StoreCall} (silent : .speech ∉ call.regions) (s : State) :
    ReachesMembers call s := by
  cases call with
  | emit emission =>
    cases emission with
    | client socket error => trivial
    | room event except =>
      cases event with
      | memberUpdated => simp at silent
      | _ => trivial
  | _ => trivial

theorem State.RoomsHoldMembers.reaches (holds : s.RoomsHoldMembers) (call : StoreCall) :
    ReachesMembers call s := by
  cases call with
  | emit emission =>
    cases emission with
    | client socket error => trivial
    | room event except =>
      cases event with
      | memberUpdated partyId => exact holds partyId
      | _ => trivial
  | _ => trivial

/-- An operation that broadcasts positions or signals writes no memberships and
changes no room. -/
theorem regions_of_speech {op : Op} (speech : .speech ∈ op.regions) {region : Region}
    (region_mem : region ∈ [Region.membership, .election, .connections, .rooms]) : region ∉ op.regions := by
  cases op with
  | partyUpdateLocation | partySendSignal =>
    simp only [List.mem_cons, List.not_mem_nil, or_false] at region_mem
    rcases region_mem with rfl | rfl | rfl | rfl <;> simp
  | updateLocation userId dto =>
    cases named : dto.partyId <;> simp [named] at speech
  | _ => simp at speech

theorem State.RoomsHoldMembers.reachesMembersOnly (holds : s.RoomsHoldMembers) (op : Op) :
    op.ReachesMembersOnly s := by
  have writes := op.program_writes s.deployment
  have ensured : (op.program s.deployment).Ensures answer ReachesMembers s := by
    by_cases speech : .speech ∈ op.regions
    · refine Uses.ensures_of_keeps answer writes (fun call t within before => ?_)
        (fun call t before => before.reaches call) holds
      have absent (region : Region)
          (listed : region ∈ [Region.membership, .election, .connections, .rooms]) :
          region ∉ call.regions :=
        fun member => regions_of_speech speech listed (within member)
      have rows : SameRows t (answer call t).2 :=
        answer_keepsRows (absent _ (by simp)) (absent _ (by simp)) t
      exact before.of_same (answer_keepsSockets (absent _ (by simp)) (absent _ (by simp)) t)
        fun other member => (rows.active other member).mpr
    · exact Uses.ensures answer writes
        (fun call t within => reachesMembers_of_silent (fun member => speech (within member)) t) s
  exact ensured

end

section Runs

variable (deployment : Deployment) (now : Time) (users : UserId → Option User)
  (routes : RouteId → Option Route) (follows : Table (UserId × UserId) FollowStatus)
  (blocks : List (UserId × UserId)) (liveSessions : UserId → Option Bool)

/-- **Rooms hold members after every operation, and live positions reach members
only, in exactly the runs whose operations evict the sockets of the users they
take out.** -/
theorem rooms_hold_members_iff (ops : List Op) :
    Throughout step State.RoomsHoldMembers
        (.initial deployment now users routes follows blocks liveSessions) ops ∧
      EachStep step (fun s op => op.ReachesMembersOnly s)
        (.initial deployment now users routes follows blocks liveSessions) ops ↔
    EachStep step Op.EvictsSockets
      (.initial deployment now users routes follows blocks liveSessions) ops := by
  have settled := initial_settled deployment now users routes follows blocks liveSessions
  have holds : (State.initial deployment now users routes follows blocks
      liveSessions).RoomsHoldMembers := by
    intro partyId socket inside
    cases inside
  have keeps (s : State) (op : Op) (both : s.Settled ∧ s.RoomsHoldMembers)
      (evicts : op.EvictsSockets s) : (step s op).Settled ∧ (step s op).RoomsHoldMembers :=
    ⟨both.1.step op, (step_roomsHoldMembers_iff both.1 both.2 op).mpr evicts⟩
  have breaks (s : State) (op : Op) (both : s.Settled ∧ s.RoomsHoldMembers)
      (stays : ¬ op.EvictsSockets s) : ¬ (step s op).RoomsHoldMembers :=
    fun later => stays ((step_roomsHoldMembers_iff both.1 both.2 op).mp later)
  rw [throughout_iff_eachStep (fun _ both => both.2) keeps breaks ⟨settled, holds⟩]
  refine and_iff_left_of_imp fun evicts => ?_
  exact eachStep_of_keeps keeps (fun s op both _ => both.2.reachesMembersOnly op)
    ⟨settled, holds⟩ evicts

end Runs

/-- Rider 2 leaves over REST and keeps socket 5 in the room. -/
theorem socket_stays_in_room :
    ¬ (Throughout step State.RoomsHoldMembers smallInstallation
          [.createParty 1 10 smallParty, .joinParty 2 10, .connect 5 2 "r", .partyJoin 5 (some 10),
            .leaveParty 2 10 .left] ∧
        EachStep step (fun s op => op.ReachesMembersOnly s) smallInstallation
          [.createParty 1 10 smallParty, .joinParty 2 10, .connect 5 2 "r", .partyJoin 5 (some 10),
            .leaveParty 2 10 .left]) := by
  rintro ⟨holds, -⟩
  obtain ⟨userId, username, identity, active⟩ := holds.last 10 5 (by decide +kernel)
  have owner : ((follow step smallInstallation [.createParty 1 10 smallParty, .joinParty 2 10,
      .connect 5 2 "r", .partyJoin 5 (some 10), .leaveParty 2 10 .left]).sockets 5).map Prod.fst =
        some 2 := by decide +kernel
  rw [identity] at owner
  obtain rfl : userId = 2 := Option.some.inj owner
  exact absurd active (by decide +kernel)

end Motogram
