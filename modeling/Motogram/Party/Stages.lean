import Motogram.Party.Rows

/-!
# Leaving, call by call

Between two calls of `leaveParty` other programs may run. A stage says how far a
leave has come: which call it sends next and what it still knows of the replies
it had. `Moves` is one call of a leave as a change of its stage and of the store,
and `stage_moves` says that the program of the service makes exactly these moves.

The stages are those of a leave whose party keeps another member: it never ends
the party.
-/

set_option autoImplicit false

namespace Motogram

open Foundation

/-- A call of `leaveParty` for a party. -/
structure LeaveRequest where
  userId : UserId
  reason : LeaveReason

/-- How far a leave has come: the call it sends next. -/
inductive Stage where
  | start
  | close (found : PartyWithMembers)
  | unlist (found : PartyWithMembers)
  | announce (found : PartyWithMembers)
  | contend (found : PartyWithMembers) (winner : UserId)
  | install (winner : UserId)
  | proclaim (winner : UserId)
  | unlock (winner : UserId)
  | finished (outcome : Except ServiceError LeaveResult)

/-- The end of a leave from the broadcast of `party:member_left` on. -/
def announceLeave (leave : LeaveRequest) (partyId : PartyId) (found : PartyWithMembers) :
    Flow LeaveResult := do
  let _ : Unit ← call (.emit (.room (.memberLeft partyId leave.userId leave.reason) none))
  if found.party.leaderId ≠ leave.userId then pure ⟨false, none⟩
  else replaceLeader leave.userId partyId found

def Stage.program (leave : LeaveRequest) (partyId : PartyId) : Stage → Flow LeaveResult
  | .start => leaveParty leave.userId partyId leave.reason
  | .close found => leaveAsMember leave.userId partyId leave.reason found
  | .unlist found => do
    let _ : Unit ← call (.multi [.sremMembers partyId leave.userId, .delUserParty leave.userId])
    announceLeave leave partyId found
  | .announce found => announceLeave leave partyId found
  | .contend found winner => do
    let locked : Bool ← call (.setLeaderLockNx partyId winner leaderLockSeconds)
    if locked then installLeader partyId winner
    else leaveWithoutElection partyId (found.candidates leave.userId) none
  | .install winner => installLeader partyId winner
  | .proclaim winner => do
    let _ : Unit ← call (.emit (.room (.leaderChanged partyId winner .leaderLeft) none))
    let _ ← release partyId winner
    pure ⟨false, some winner⟩
  | .unlock winner => do
    let _ ← release partyId winner
    pure ⟨false, some winner⟩
  | .finished (.ok result) => .done result
  | .finished (.error error) => .fail error

/-- The call a leave sends next. -/
def Stage.request? (leave : LeaveRequest) (partyId : PartyId) : Stage → Option StoreCall
  | .start => some (.partyFindUniqueWithMembers partyId)
  | .close _ => some (.partyMemberUpdate partyId leave.userId .leave)
  | .unlist _ => some (.multi [.sremMembers partyId leave.userId, .delUserParty leave.userId])
  | .announce _ => some (.emit (.room (.memberLeft partyId leave.userId leave.reason) none))
  | .contend _ winner => some (.setLeaderLockNx partyId winner leaderLockSeconds)
  | .install winner => some (.changeLeaderTransaction partyId winner)
  | .proclaim winner => some (.emit (.room (.leaderChanged partyId winner .leaderLeft) none))
  | .unlock winner => some (.releaseLeaderLock partyId winner)
  | .finished _ => none

@[simp] theorem Stage.next?_program (leave : LeaveRequest) (partyId : PartyId) (stage : Stage) :
    (stage.program leave partyId).next? = stage.request? leave partyId := by
  cases stage with
  | finished outcome => cases outcome <;> rfl
  | _ => rfl

/-- One call of a leave: its stage and the store before and after. -/
inductive Moves (leave : LeaveRequest) (partyId : PartyId) (s : State) :
    Stage → Stage → State → Prop where
  | read {party : Party} (found : s.parties.find? partyId = some party)
      (active : s.Active partyId leave.userId) :
      Moves leave partyId s .start (.close (snapshot s partyId party)) s
  | refuse (stranger : ¬ s.Active partyId leave.userId) :
      Moves leave partyId s .start (.finished (.error notMember)) s
  | close {found : PartyWithMembers} :
      Moves leave partyId s (.close found) (.unlist found)
        (s.patchMember partyId leave.userId .leave)
  | unlist {found : PartyWithMembers} :
      Moves leave partyId s (.unlist found) (.announce found)
        ((s.withMemberSet partyId (setRemove (s.partyMemberSet partyId) leave.userId)).withUserParty
          leave.userId none)
  | follow {found : PartyWithMembers} (follows : found.party.leaderId ≠ leave.userId) :
      Moves leave partyId s (.announce found) (.finished (.ok ⟨false, none⟩))
        (s.sent (.room (.memberLeft partyId leave.userId leave.reason) none))
  | strand {found : PartyWithMembers} (fallback : UserId)
      (leads : found.party.leaderId = leave.userId)
      (nobody : (pickNextLeader (found.electionInput partyId leave.userId)).1 = none) :
      Moves leave partyId s (.announce found) (.finished (.ok ⟨false, some fallback⟩))
        (s.sent (.room (.memberLeft partyId leave.userId leave.reason) none))
  | contend {found : PartyWithMembers} {winner : UserId}
      (leads : found.party.leaderId = leave.userId)
      (picked : (pickNextLeader (found.electionInput partyId leave.userId)).1 = some winner) :
      Moves leave partyId s (.announce found) (.contend found winner)
        (s.sent (.room (.memberLeft partyId leave.userId leave.reason) none))
  | win {found : PartyWithMembers} {winner : UserId}
      (free : Expiring.live s.now (s.leaderLock partyId) = none) :
      Moves leave partyId s (.contend found winner) (.install winner)
        (s.withLeaderLock partyId (some ⟨winner, some (s.after leaderLockSeconds)⟩))
  | lose {found : PartyWithMembers} {winner : UserId} (fallback : UserId)
      (held : Expiring.live s.now (s.leaderLock partyId) ≠ none) :
      Moves leave partyId s (.contend found winner) (.finished (.ok ⟨false, some fallback⟩)) s
  | install {winner : UserId} :
      Moves leave partyId s (.install winner) (.proclaim winner) (s.changeLeader partyId winner)
  | proclaim {winner : UserId} :
      Moves leave partyId s (.proclaim winner) (.unlock winner)
        (s.sent (.room (.leaderChanged partyId winner .leaderLeft) none))
  | unlock {winner : UserId} :
      Moves leave partyId s (.unlock winner) (.finished (.ok ⟨false, some winner⟩))
        (answer (.releaseLeaderLock partyId winner) s).2

/-- What the leave has read, while it still uses it. -/
def Stage.found? : Stage → Option PartyWithMembers
  | .close found => some found
  | .unlist found => some found
  | .announce found => some found
  | .contend found _ => some found
  | _ => none

/-- The winner of the election, until he is installed. -/
def Stage.winner? : Stage → Option UserId
  | .contend _ winner => some winner
  | .install winner => some winner
  | _ => none

/-- What a leave knows at a stage still holds: the rows it has read exist, and it
has seen somebody who remains. -/
structure Stage.Sound (userId : UserId) (partyId : PartyId) (s : State) (stage : Stage) : Prop where
  remaining : ∀ found, stage.found? = some found → found.remaining userId ≠ []
  own : ∀ found, stage.found? = some found → s.Listed partyId userId
  read : ∀ found, stage.found? = some found → ∀ entry ∈ found.members, s.Listed partyId entry.1
  chosen : ∀ winner, stage.winner? = some winner → s.Listed partyId winner

section

variable {leave : LeaveRequest} {partyId : PartyId} {s s' : State} {stage stage' : Stage}

theorem partyIsLive_iff : s.partyIsLive partyId = true ↔
    ∃ party, s.parties.find? partyId = some party ∧ party.status ≠ .ended ∧
      party.deletedAt = none := by
  unfold State.partyIsLive
  cases found : s.parties.find? partyId with
  | none | some => simp

theorem leaveWithoutElection_eq_done (partyId : PartyId) {candidates : List PartyMemberLite}
    (some : candidates ≠ []) :
    ∃ fallback, leaveWithoutElection partyId candidates none = .done ⟨false, Option.some fallback⟩ := by
  obtain ⟨fallback, oldest⟩ := oldestCandidate_isSome some
  refine ⟨fallback, ?_⟩
  rw [leaveWithoutElection, oldest]
  rfl

theorem replaceLeader_moves (s : State) (partyId : PartyId) {found : PartyWithMembers}
    (rest : found.remaining leave.userId ≠ [])
    (leads : found.party.leaderId = leave.userId) :
    ∃ stage', Moves leave partyId s (.announce found) stage'
        (s.sent (.room (.memberLeft partyId leave.userId leave.reason) none)) ∧
      replaceLeader leave.userId partyId found = stage'.program leave partyId := by
  have others : found.candidates leave.userId ≠ [] := by
    simpa [PartyWithMembers.candidates] using rest
  rw [replaceLeader, if_neg (by simpa using rest)]
  cases picked : pickNextLeader (found.electionInput partyId leave.userId) with
  | mk winner why =>
    cases winner with
    | none =>
      obtain ⟨fallback, named⟩ := leaveWithoutElection_eq_done partyId others
      refine ⟨_, .strand fallback leads (congrArg Prod.fst picked), ?_⟩
      simp only [elect, picked]
      exact named
    | some winner =>
      refine ⟨_, .contend leads (congrArg Prod.fst picked), ?_⟩
      simp only [elect, picked]
      refine congrArg (Program.call _) (funext fun locked => ?_)
      cases locked <;> rfl

/-- **A leave makes the moves of its stages**: unless it is finished, it sends a
call, and the reply takes it to the next stage. -/
theorem stage_moves (stage : Stage) (live : s.partyIsLive partyId = true)
    (sound : stage.Sound leave.userId partyId s) :
    (∃ outcome, stage = .finished outcome) ∨
      ∃ request next, stage.program leave partyId = .call request next ∧
        ∃ stage', Moves leave partyId s stage stage' (answer request s).2 ∧
          next (answer request s).1 = stage'.program leave partyId := by
  obtain ⟨party, found, running, undeleted⟩ := partyIsLive_iff.mp live
  cases stage with
  | finished outcome => exact .inl ⟨outcome, rfl⟩
  | start =>
    refine .inr ⟨_, _, rfl, ?_⟩
    simp only [answer, found, Option.map_some, Program.bind, Program.throwIf, undeleted,
      Option.isSome_none, Bool.false_eq_true, if_false, if_neg running, Program.done_bind]
    by_cases active : s.Active partyId leave.userId
    · refine ⟨_, .read found active, ?_⟩
      have member : PartyWithMembers.isMember ⟨party, s.membersOf partyId⟩ leave.userId = true :=
        isMember_iff.mpr active
      rw [member]
      rfl
    · refine ⟨_, .refuse active, ?_⟩
      have stranger : PartyWithMembers.isMember ⟨party, s.membersOf partyId⟩ leave.userId =
          false := by
        rw [← Bool.not_eq_true]
        exact mt isMember_iff.mp active
      rw [stranger]
      rfl
  | close found =>
    obtain ⟨row, listed⟩ := Option.isSome_iff_exists.mp (sound.own found rfl)
    refine .inr ⟨_, _, rfl, .unlist found, ?_⟩
    simp only [answer, listed]
    exact ⟨.close, rfl⟩
  | unlist found => exact .inr ⟨_, _, rfl, _, .unlist, rfl⟩
  | announce found =>
    refine .inr ⟨_, _, rfl, ?_⟩
    by_cases leads : found.party.leaderId = leave.userId
    · obtain ⟨stage', moves, same⟩ :=
        replaceLeader_moves s partyId (sound.remaining found rfl) leads
      refine ⟨stage', moves, ?_⟩
      simp only [Program.bind, leads, ne_eq, not_true_eq_false, if_false]
      exact same
    · refine ⟨_, .follow leads, ?_⟩
      simp only [Program.bind, ne_eq, leads, not_false_eq_true, if_true]
      rfl
  | contend found winner =>
    refine .inr ⟨_, _, rfl, ?_⟩
    cases held : Expiring.live s.now (s.leaderLock partyId) with
    | none =>
      simp only [answer, held]
      exact ⟨_, .win held, rfl⟩
    | some lock =>
      have others : found.candidates leave.userId ≠ [] := by
        simpa [PartyWithMembers.candidates] using sound.remaining found rfl
      obtain ⟨fallback, named⟩ := leaveWithoutElection_eq_done partyId others
      simp only [answer, held]
      exact ⟨_, .lose fallback (by simp [held]), named⟩
  | install winner =>
    refine .inr ⟨_, _, rfl, ?_⟩
    have stored : ((s.parties.find? partyId).isNone ||
        (s.partyMembers.find? (partyId, winner)).isNone) = false := by
      have listed : (s.partyMembers.find? (partyId, winner)).isSome := sound.chosen winner rfl
      rw [found]
      simpa using listed
    simp only [answer, stored]
    exact ⟨_, .install, rfl⟩
  | proclaim winner => exact .inr ⟨_, _, rfl, _, .proclaim, rfl⟩
  | unlock winner => exact .inr ⟨_, _, rfl, _, .unlock, rfl⟩

/-! ## What a move changes in the tables -/

theorem Moves.tables (moves : Moves leave partyId s stage stage' s') :
    (s'.partyMembers = s.partyMembers ∧ s'.parties = s.parties) ∨
      (∃ found, stage = .close found ∧ s' = s.patchMember partyId leave.userId .leave) ∨
      ∃ winner, stage = .install winner ∧ s' = s.changeLeader partyId winner := by
  cases moves with
  | @close found => exact .inr (.inl ⟨found, rfl, rfl⟩)
  | @install winner => exact .inr (.inr ⟨winner, rfl, rfl⟩)
  | unlock =>
    refine .inl ?_
    simp only [answer]
    split <;> exact ⟨rfl, rfl⟩
  | read | refuse | unlist | follow | strand | contend | win | lose | proclaim =>
    exact .inl ⟨rfl, rfl⟩

/-- No row disappears. -/
theorem Moves.listed (moves : Moves leave partyId s stage stage' s') {member : UserId}
    (listed : s.Listed partyId member) : s'.Listed partyId member := by
  unfold State.Listed at listed ⊢
  obtain ⟨members, -⟩ | ⟨found, -, rfl⟩ | ⟨winner, -, rfl⟩ := moves.tables
  · rwa [members]
  · rwa [State.patchMember_partyMembers, Table.isSome_find?_modify]
  · rwa [State.changeLeader_partyMembers, Table.isSome_find?_modify]

theorem Moves.live (moves : Moves leave partyId s stage stage' s')
    (live : s.partyIsLive partyId = true) : s'.partyIsLive partyId = true := by
  obtain ⟨party, found, running, undeleted⟩ := partyIsLive_iff.mp live
  obtain ⟨-, parties⟩ | ⟨-, -, rfl⟩ | ⟨winner, -, rfl⟩ := moves.tables
  · exact partyIsLive_iff.mpr ⟨party, parties ▸ found, running, undeleted⟩
  · exact partyIsLive_iff.mpr ⟨party, found, running, undeleted⟩
  · refine partyIsLive_iff.mpr ⟨{ party with leaderId := winner }, ?_, running, undeleted⟩
    rw [State.changeLeader_parties, Table.find?_modify_self, found]
    rfl

theorem Moves.was_active (moves : Moves leave partyId s stage stage' s') {member : UserId}
    (active : s'.Active partyId member) : s.Active partyId member := by
  obtain ⟨members, -⟩ | ⟨found, -, rfl⟩ | ⟨winner, -, rfl⟩ := moves.tables
  · exact (State.active_congr members).mp active
  · exact (State.active_patchMember_leave.mp active).1
  · exact State.active_changeLeader.mp active

theorem Moves.still_active (moves : Moves leave partyId s stage stage' s') {member : UserId}
    (active : s.Active partyId member) (elsewhere : member = leave.userId → ∀ found, stage ≠ .close found) :
    s'.Active partyId member := by
  obtain ⟨members, -⟩ | ⟨found, rfl, rfl⟩ | ⟨winner, -, rfl⟩ := moves.tables
  · exact (State.active_congr members).mpr active
  · refine State.active_patchMember_leave.mpr ⟨active, fun same => ?_⟩
    exact elsewhere (Prod.mk.inj same).2 found rfl
  · exact State.active_changeLeader.mpr active

theorem Moves.closes {found : PartyWithMembers} (moves : Moves leave partyId s (.close found) stage' s') :
    ¬ s'.Active partyId leave.userId := by
  cases moves with
  | close => exact fun active => (State.active_patchMember_leave.mp active).2 rfl

theorem Moves.leaderOf (moves : Moves leave partyId s stage stage' s')
    (elsewhere : ∀ winner, stage ≠ .install winner) : s'.leaderOf partyId = s.leaderOf partyId := by
  obtain ⟨-, parties⟩ | ⟨-, -, rfl⟩ | ⟨winner, installs, -⟩ := moves.tables
  · exact State.leaderOf_congr parties
  · rfl
  · exact absurd installs (elsewhere winner)

theorem Moves.installs {winner : UserId} (moves : Moves leave partyId s (.install winner) stage' s')
    (live : s.partyIsLive partyId = true) : s'.leaderOf partyId = some winner := by
  obtain ⟨party, found, -, -⟩ := partyIsLive_iff.mp live
  cases moves with
  | install =>
    rw [State.leaderOf_changeLeader, if_pos rfl, State.leaderOf, found]
    rfl

/-! ## What a leave knows stays true -/

/-- Soundness speaks of rows that exist, so it outlives the moves of others. -/
theorem Stage.Sound.mono {userId : UserId} (sound : stage.Sound userId partyId s)
    (listed : ∀ member, s.Listed partyId member → s'.Listed partyId member) :
    stage.Sound userId partyId s' where
  remaining := sound.remaining
  own := fun found read => listed _ (sound.own found read)
  read := fun found read entry member => listed _ (sound.read found read entry member)
  chosen := fun winner chosen => listed _ (sound.chosen winner chosen)

theorem Stage.sound_of_none {userId : UserId} (unread : stage.found? = none)
    (unchosen : stage.winner? = none) : stage.Sound userId partyId s := by
  refine ⟨fun found read => ?_, fun found read => ?_, fun found read => ?_,
    fun winner chosen => ?_⟩
  · simp [unread] at read
  · simp [unread] at read
  · simp [unread] at read
  · simp [unchosen] at chosen

/-- A move is made with what is known, and what it adds is known. -/
theorem Moves.sound (moves : Moves leave partyId s stage stage' s') (sound : stage.Sound leave.userId partyId s)
    (accompanied : ∃ stayer, stayer ≠ leave.userId ∧ s.Active partyId stayer) :
    stage'.Sound leave.userId partyId s' := by
  have kept := sound.mono fun member => moves.listed
  cases moves with
  | read found active =>
    obtain ⟨stayer, different, stays⟩ := accompanied
    refine ⟨?_, ?_, ?_, ?_⟩
    · rintro _ ⟨⟩ none
      exact remaining_eq_nil_iff.mp none stayer different stays
    · rintro _ ⟨⟩
      obtain ⟨row, listed, -⟩ := active
      exact Option.isSome_of_eq_some listed
    · rintro _ ⟨⟩ ⟨member, row⟩ listed
      exact Option.isSome_of_eq_some (mem_membersOf.mp listed)
    · rintro _ ⟨⟩
  | close | unlist => exact ⟨kept.remaining, kept.own, kept.read, kept.chosen⟩
  | contend leads picked =>
    refine ⟨kept.remaining, kept.own, kept.read, ?_⟩
    rintro _ ⟨⟩
    obtain ⟨lite, candidate, rfl⟩ := pickNextLeader_mem picked
    obtain ⟨listed, -⟩ := List.mem_filter.mp candidate
    obtain ⟨entry, remains, rfl⟩ := List.mem_map.mp listed
    exact kept.read _ rfl entry (List.mem_filter.mp remains).1
  | win =>
    refine ⟨?_, ?_, ?_, kept.chosen⟩
    · rintro _ ⟨⟩
    · rintro _ ⟨⟩
    · rintro _ ⟨⟩
  | refuse | follow | strand | lose | install | proclaim | unlock =>
    exact Stage.sound_of_none rfl rfl

end

end Motogram
