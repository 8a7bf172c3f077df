import Motogram.Party.Rows

/-!
# The index of the open parties

The sweep visits the parties in the index. Between two operations the index holds the open parties and no
other (`indexed_of_run`), whatever the run. This is less than the agreement of all membership stores, which an
update over REST that names a party can break: such an update writes the member set only.

The index and the zombie watches are sets: every call leaves each member in them once at most
(`answer_keepsDistinct`).
-/

set_option autoImplicit false

namespace Motogram

open Foundation

variable {s s' : State} {userId : UserId} {partyId : PartyId}

/-! ## Sets -/

/-- No member is twice in the index or in a zombie watch. -/
structure State.Distinct (s : State) : Prop where
  index : s.activePartyIndex.Nodup
  watch : ∀ partyId, ((s.zombieWatch partyId).map Prod.fst).Nodup

theorem nodup_setAdd {Value : Type} [DecidableEq Value] {members : List Value} (distinct : members.Nodup)
    (value : Value) : (setAdd members value).Nodup := by
  unfold setAdd
  split
  · exact distinct
  · rename_i absent
    exact List.nodup_append'.mpr ⟨distinct, List.nodup_singleton value,
      fun other member here => absent (List.mem_singleton.mp here ▸ member)⟩

theorem nodup_scoreRemove {Value : Type} {entries : List (UserId × Value)}
    (distinct : (entries.map Prod.fst).Nodup) (member : UserId) :
    ((scoreRemove entries member).map Prod.fst).Nodup :=
  distinct.sublist (List.filter_sublist.map _)

theorem nodup_scoreSet {Value : Type} {entries : List (UserId × Value)} (distinct : (entries.map Prod.fst).Nodup)
    (member : UserId) (score : Value) : ((scoreSet entries member score).map Prod.fst).Nodup := by
  rw [scoreSet, List.map_cons, List.nodup_cons]
  refine ⟨?_, nodup_scoreRemove distinct member⟩
  intro inside
  obtain ⟨entry, kept, same⟩ := List.mem_map.mp inside
  exact (mem_scoreRemove.mp kept).2 same

namespace State.Distinct

theorem of_eq (distinct : s.Distinct) (index : s'.activePartyIndex = s.activePartyIndex)
    (watch : s'.zombieWatch = s.zombieWatch) : s'.Distinct :=
  ⟨index ▸ distinct.index, watch ▸ distinct.watch⟩

theorem withZombieWatch (distinct : s.Distinct) {entries : List (UserId × Time)}
    (new : (entries.map Prod.fst).Nodup) : (s.withZombieWatch partyId entries).Distinct := by
  refine ⟨distinct.index, fun other => ?_⟩
  rw [State.withZombieWatch_zombieWatch]
  by_cases here : other = partyId
  · rw [here, Function.update_self]
    exact new
  · rw [Function.update_of_ne here]
    exact distinct.watch other

theorem redis (distinct : s.Distinct) (command : RedisCommand) : (s.redis command).Distinct := by
  cases command with
  | delZombieWatch partyId => exact distinct.withZombieWatch List.nodup_nil
  | zaddZombieWatch partyId score userId =>
    exact distinct.withZombieWatch (nodup_scoreSet (distinct.watch partyId) userId score)
  | zremZombieWatch partyId userId =>
    exact distinct.withZombieWatch (nodup_scoreRemove (distinct.watch partyId) userId)
  | saddActiveParty partyId => exact ⟨nodup_setAdd distinct.index partyId, distinct.watch⟩
  | sremActiveParty partyId => exact ⟨distinct.index.filter _, distinct.watch⟩
  | _ => exact distinct.of_eq rfl rfl

theorem multi (distinct : s.Distinct) (commands : List RedisCommand) : (commands.foldl State.redis s).Distinct :=
  List.foldlRecOn (motive := State.Distinct) commands State.redis distinct
    fun _ kept command _ => kept.redis command

end State.Distinct

/-- **Every call leaves the sets without repetition.** -/
theorem answer_keepsDistinct (request : StoreCall) (distinct : s.Distinct) : (answer request s).2.Distinct := by
  cases request with
  | redis command => exact distinct.redis command
  | multi commands => exact distinct.multi commands
  | environment event =>
    cases event with
    | elapse milliseconds => exact distinct.of_eq rfl rfl
    | relist rows index =>
      simp only [answer]
      split
      · rename_i perm
        exact ⟨perm.2.nodup_iff.mpr distinct.index, distinct.watch⟩
      · exact distinct
  | createPartyTransaction | endPartyTransaction | changeLeaderTransaction | partyMemberCreate |
    partyMemberUpdate | setLeaderLockNx | releaseLeaderLock | userUpdateLocationSharing |
    socketConnect | partyInviteCreate | partyInviteDecline =>
      simp only [answer]
      repeat' split
      all_goals exact distinct.of_eq rfl rfl
  | _ => exact distinct.of_eq rfl rfl

theorem State.Distinct.step (distinct : s.Distinct) (op : Op) : (step s op).Distinct :=
  (op.program_writes s.deployment).run_keeps answer
    (fun request _ _ before => answer_keepsDistinct request before) distinct

/-! ## The index -/

/-- The tables are settled, and the index holds the open parties. -/
structure State.Indexed (s : State) : Prop where
  settled : s.Settled
  standing : ∀ partyId, s.Open partyId ↔ partyId ∈ s.activePartyIndex

namespace State.Indexed

theorem of_same (indexed : s.Indexed) (rows : SameRows s s')
    (index : ∀ other, other ∈ s'.activePartyIndex ↔ other ∈ s.activePartyIndex) : s'.Indexed where
  settled := indexed.settled.of_sameRows rows
  standing := fun other => ((rows.isOpen other).trans (indexed.standing other)).trans (index other).symm

theorem of_sameStanding (indexed : s.Indexed) (same : SameStanding s s') : s'.Indexed :=
  indexed.of_same same.toSameRows same.activePartyIndex

theorem departed {reason : LeaveReason} (indexed : s.Indexed) : (s.departed partyId userId reason).Indexed :=
  ⟨indexed.settled.departed, fun other => open_departed.trans (indexed.standing other)⟩

theorem promoted {newLeaderId : UserId} (indexed : s.Indexed) : (s.promoted partyId newLeaderId).Indexed :=
  ⟨indexed.settled.promoted, fun other => open_promoted.trans (indexed.standing other)⟩

theorem closed {reason : EndReason} (indexed : s.Indexed) : (s.closed partyId reason).Indexed := by
  refine ⟨indexed.settled.closed, fun other => open_closed.trans ?_⟩
  have removed : (s.closed partyId reason).activePartyIndex = setRemove s.activePartyIndex partyId := rfl
  rw [removed, indexed.standing other, mem_setRemove, and_comm]

end State.Indexed

theorem LeaveOutcome.indexed {reason : LeaveReason} {result : Except ServiceError LeaveResult}
    (outcome : LeaveOutcome s userId partyId reason result s') (indexed : s.Indexed) : s'.Indexed := by
  cases outcome with
  | rejected | finished => exact indexed
  | follower | leaderless | locked => exact indexed.departed
  | alone => exact indexed.departed.closed
  | elected => exact indexed.departed.promoted

theorem JoinOutcome.indexed {result : Except ServiceError PartyDetail}
    (outcome : JoinOutcome s userId partyId result s') (indexed : s.Indexed) : s'.Indexed := by
  cases outcome with
  | rejected => exact indexed
  | rejoined party row detail found live listed present =>
    refine indexed.of_same (rejoined_keepsRows listed present) fun other => ?_
    rw [activePartyIndex_joined]
    exact Iff.rfl
  | entered party user detail found =>
    refine ⟨indexed.settled.entered found, fun other => ?_⟩
    rw [State.open_congr parties_joined, activePartyIndex_joined]
    exact indexed.standing other

theorem CreateOutcome.indexed {dto : CreatePartyDto} {result : Except ServiceError PartySummary}
    (outcome : CreateOutcome s userId partyId dto result s') (indexed : s.Indexed) : s'.Indexed := by
  have counted : (s.counted (.partyCreate userId) partyCreateLimitWindowSeconds).Indexed :=
    indexed.of_sameStanding (.of_eq rfl rfl rfl rfl rfl rfl)
  cases outcome with
  | rejected => exact counted
  | opened user known fresh =>
    have untaken : (s.counted (.partyCreate userId) partyCreateLimitWindowSeconds).parties.find?
        partyId = none := fresh
    refine ⟨counted.settled.opened untaken, fun other => (open_opened untaken).trans ?_⟩
    have added : ((s.counted (.partyCreate userId) partyCreateLimitWindowSeconds).opened partyId userId
        dto).activePartyIndex = setAdd s.activePartyIndex partyId := rfl
    rw [added, mem_setAdd, counted.standing other]
    exact or_comm

theorem State.Indexed.saddMembers (indexed : s.Indexed) :
    (s.withMemberSet partyId (setAdd (s.partyMemberSet partyId) userId)).Indexed :=
  indexed.of_same (.of_eq rfl rfl rfl) fun _ => Iff.rfl

theorem indexed_endParty (indexed : s.Indexed) (partyId : PartyId) (reason : EndReason) :
    ((endParty partyId reason).exec s).2.Indexed := by
  rw [exec_endParty]
  split
  · exact indexed.closed
  · exact indexed

theorem indexed_sweepTurn (indexed : s.Indexed) (turn : SweepTurn) : (sweepTurn s turn).Indexed := by
  obtain ⟨partyId, userId⟩ := turn
  obtain ⟨result, after, outcome, turned⟩ := sweepTurn_outcome s partyId userId
  rw [turned]
  have left := outcome.indexed indexed
  cases result with
  | error error => exact left
  | ok result => exact left.of_sameStanding (.of_eq rfl rfl rfl rfl rfl rfl)

theorem indexed_attended (socket : SocketId) (indexed : s.Indexed) :
    (s.attended socket userId partyId).Indexed := by
  have entered : SameStanding s (s.roomEntered socket partyId) := .of_eq rfl rfl rfl rfl rfl rfl
  have cleared := exec_keepsStanding (clearOfflineMark_writes userId partyId) (by simp) (by simp)
    (by simp) (s.roomEntered socket partyId)
  have patched : SameStanding _ (((s.roomEntered socket partyId).cleared userId partyId).patchMember
      partyId userId (.hostname s.deployment.serverHostname)) :=
    patchMember_keepsStanding rfl _ partyId userId
  exact (indexed.of_sameStanding ((entered.trans cleared).trans patched)).saddMembers

theorem indexed_located {dto : UpdateLocationDto} {user : User} (indexed : s.Indexed) :
    (s.located userId dto user).Indexed := by
  unfold State.located updateCommands
  rw [List.foldl_append]
  have positions : SameStanding s ((positionCommands userId dto user
      (userLocationShard s.deployment (updateCity dto user)) s.now).foldl State.redis s) :=
    multi_keepsStanding (by simp [positionCommands]) s
  have before := indexed.of_sameStanding positions
  generalize (positionCommands userId dto user (userLocationShard s.deployment (updateCity dto user))
    s.now).foldl State.redis s = placed at before ⊢
  cases dto.partyId with
  | none => exact before
  | some partyId => exact before.saddMembers

theorem UpdateOutcome.indexed {dto : UpdateLocationDto} {user : User}
    {result : Except ServiceError UpdateLocationResult}
    (outcome : UpdateOutcome s userId dto user result s') (indexed : s.Indexed) : s'.Indexed := by
  have pinged : (s.pinged userId).Indexed := indexed.of_sameStanding (.of_eq rfl rfl rfl rfl rfl rfl)
  cases outcome with
  | banned banned => exact indexed
  | limited shard allowed limited => exact pinged
  | disabled shard allowed counted off apart =>
    exact pinged.of_sameStanding (multi_keepsStanding (by simp) _)
  | accepted allowed counted shared => exact indexed_located pinged

/-- **The index holds the open parties after every operation.** -/
theorem State.Indexed.step (indexed : s.Indexed) (op : Op) : (step s op).Indexed := by
  cases op with
  | createParty leaderId partyId dto =>
    rw [step_createParty]
    exact (createParty_outcome s leaderId partyId dto).indexed indexed
  | joinParty userId partyId =>
    rw [step_joinParty]
    exact (joinParty_outcome s userId partyId).indexed indexed
  | leaveParty userId partyId reason =>
    rw [step_leaveParty]
    exact (leaveParty_outcome s userId partyId reason).indexed indexed
  | endParty partyId reason =>
    rw [step_endParty]
    exact indexed_endParty indexed partyId reason
  | respondInvite userId inviteId accept =>
    rw [step_respondInvite]
    have outcome := respondInvite_outcome s userId inviteId accept
    generalize ((respondInvite userId inviteId accept).exec s).2 = after at outcome
    cases outcome with
    | untouched => exact indexed
    | declined invites => exact indexed.of_sameStanding (.of_eq rfl rfl rfl rfl rfl rfl)
    | accepted partyId => exact (joinParty_outcome s userId partyId).indexed indexed
  | sweepZombieMembers =>
    rw [step_sweepZombieMembers]
    have kept : ∀ (s : State) (turn : SweepTurn), s.Indexed → (sweepTurn s turn).Indexed :=
      fun s turn before => indexed_sweepTurn before turn
    exact (throughout_of_invariant kept indexed s.sweepTurns).last
  | partyJoin socket payload =>
    rw [step_partyJoin]
    have outcome := partyJoin_outcome s socket payload
    generalize ((handlePartyJoin s.deployment socket payload).exec s).2 = after at outcome
    cases outcome with
    | unknown => exact indexed
    | rejected error => exact indexed.of_sameStanding (.of_eq rfl rfl rfl rfl rfl rfl)
    | attended userId username partyId => exact indexed_attended socket indexed
  | partyLeave socket payload =>
    rw [step_partyLeave]
    have outcome := partyLeave_outcome s socket payload
    generalize ((handlePartyLeave socket payload).exec s).2 = after at outcome
    cases outcome with
    | unknown => exact indexed
    | invalid | refused => exact indexed.of_sameStanding (.of_eq rfl rfl rfl rfl rfl rfl)
    | left userId username partyId result after identity asked ran outcome =>
      exact (outcome.indexed indexed).of_sameStanding (.of_eq rfl rfl rfl rfl rfl rfl)
  | partyUpdateLocation socket payload =>
    rw [step_partyUpdateLocation]
    have outcome := partyUpdate_outcome s socket payload
    generalize ((handlePartyUpdateLocation s.deployment socket payload).exec s).2 = after at outcome
    cases outcome with
    | unknown => exact indexed
    | rejected error => exact indexed.of_sameStanding (.of_eq rfl rfl rfl rfl rfl rfl)
    | relayed userId username update user result after identity asked listed outcome =>
      exact (outcome.indexed indexed).of_sameStanding (.of_eq rfl rfl rfl rfl rfl rfl)
  | updateLocation userId dto =>
    rw [step_updateLocation]
    unfold restUpdateLocation Flow.exec
    simp only [Program.run_sends, answer]
    cases s.users userId with
    | none => exact indexed
    | some user => exact (updateLocation_outcome s userId dto user).indexed indexed
  | _ => exact indexed.of_sameStanding (step_keepsStanding (by simp) (by simp) (by simp) s)

section Runs

variable (deployment : Deployment) (now : Time) (users : UserId → Option User)
  (routes : RouteId → Option Route) (follows : Table (UserId × UserId) FollowStatus)
  (blocks : List (UserId × UserId)) (liveSessions : UserId → Option Bool)

/-- **After every run the index is the set of the open parties, and the watches are sets.** -/
theorem indexed_of_run (ops : List Op) :
    (follow step (.initial deployment now users routes follows blocks liveSessions) ops).Indexed ∧
      (follow step (.initial deployment now users routes follows blocks liveSessions) ops).Distinct := by
  have initially : (State.initial deployment now users routes follows blocks liveSessions).Indexed := by
    refine ⟨initial_settled .., fun partyId => iff_of_false ?_ List.not_mem_nil⟩
    rintro ⟨party, found, -⟩
    cases found
  have distinct : (State.initial deployment now users routes follows blocks liveSessions).Distinct :=
    ⟨List.nodup_nil, fun _ => List.nodup_nil⟩
  have kept : ∀ (s : State) (op : Op), s.Indexed ∧ s.Distinct → (step s op).Indexed ∧ (step s op).Distinct :=
    fun s op before => ⟨before.1.step op, before.2.step op⟩
  have throughout : Throughout step (fun s => s.Indexed ∧ s.Distinct)
      (.initial deployment now users routes follows blocks liveSessions) ops :=
    throughout_of_invariant kept ⟨initially, distinct⟩ ops
  exact throughout.last

end Runs

end Motogram
