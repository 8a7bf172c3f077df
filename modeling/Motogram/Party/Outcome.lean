import Motogram.Party.Standing

/-!
# What the party service does when it runs alone

For each function that changes memberships: the ways it can end, each with its
result, with the state it leaves and with what held when it began. Everything
proved about sequential runs is derived from these relations; no other proof
follows a function through its calls.

The states are named by what happened: a party is `opened`, a user has `joined`
or `departed`, a leader is `promoted`, a party is `closed`.
-/

set_option autoImplicit false

namespace Motogram

open Foundation Program Function Table State

/-! ## Named changes of the state -/

namespace State

variable (s : State)

/-- A counter after `incrementActionCount`: its first count sets its deadline. -/
def countedValue (key : CounterKey) (windowSeconds : Nat) : Option (Expiring Nat) :=
  if (bumped s.now (s.counters key)).value = 1 then
    (Expiring.live s.now (some (bumped s.now (s.counters key)))).map fun stored =>
      { stored with deadline := some (s.after windowSeconds) }
  else some (bumped s.now (s.counters key))

/-- After `incrementActionCount`. -/
@[simps! -fullyApplied] def counted (key : CounterKey) (windowSeconds : Nat) : State :=
  s.withCounter key (s.countedValue key windowSeconds)

/-- After the writes of `createParty`. -/
def opened (partyId : PartyId) (leaderId : UserId) (dto : CreatePartyDto) : State :=
  (((s.insertParty partyId leaderId dto).withMemberSet partyId
    (setAdd (s.partyMemberSet partyId) leaderId)).withActiveIndex
      (setAdd s.activePartyIndex partyId)).withUserParty leaderId (some partyId)

/-- After the writes of `joinParty` that follow the write of the row. -/
def joined (partyId : PartyId) (userId : UserId) (row : PartyMember) (isPrivate : Bool) : State :=
  ((((if isPrivate then s.acceptInvites partyId userId else s).withMemberSet partyId
    (setAdd (s.partyMemberSet partyId) userId)).withUserParty userId (some partyId)).sent
      (.room (.memberJoined partyId (memberDto userId row (s.users userId))) none))

/-- After the writes that every successful `leaveParty` makes. -/
def departed (partyId : PartyId) (userId : UserId) (reason : LeaveReason) : State :=
  (((s.patchMember partyId userId .leave).withMemberSet partyId
    (setRemove (s.partyMemberSet partyId) userId)).withUserParty userId none).sent
      (.room (.memberLeft partyId userId reason) none)

/-- After the end of a won election. -/
def promoted (partyId : PartyId) (newLeaderId : UserId) : State :=
  ((s.changeLeader partyId newLeaderId).sent
    (.room (.leaderChanged partyId newLeaderId .leaderLeft) none)).withLeaderLock partyId none

/-- After `DEL` of the party of every listed user. -/
@[simps -fullyApplied] def withoutParty (userIds : List UserId) : State :=
  { s with userParty := fun userId => if userId ∈ userIds then none else s.userParty userId }

/-- After the writes of `endParty`. -/
def closed (partyId : PartyId) (reason : EndReason) : State :=
  ((((((s.markEnded partyId).patchActive (fun key => decide (key.1 = partyId)) .leave).withMemberSet
    partyId []).withZombieWatch partyId []).withActiveIndex
      (setRemove s.activePartyIndex partyId)).withoutParty (s.partyMemberSet partyId)).sent
        (.room (.statusChanged partyId .ended) none) |>.sent (.room (.ended partyId reason) none)

end State

variable (s : State) (partyId : PartyId)

theorem exec_incrementActionCount (key : CounterKey) (windowSeconds : Nat) :
    (incrementActionCount key windowSeconds).exec s =
      (.ok (bumped s.now (s.counters key)).value, s.counted key windowSeconds) := by
  unfold counted countedValue Flow.exec
  rw [incrementActionCount, call_bind,
    run_call_of_answer _ (rfl : answer (.incr key) s = (_, _))]
  by_cases first : (bumped s.now (s.counters key)).value = 1
  · simp only [done_bind, if_pos first, call_bind, pure_eq,
      run_call, run_done, answer, withCounter_withCounter,
      withCounter_now, withCounter_counters, update_self]
    rfl
  · simp only [done_bind, if_neg first, pure_eq, run_done]

/-! ## Standing after each change -/

section Standing

variable {s : State} {partyId other : PartyId} {userId member : UserId}

variable {dto : CreatePartyDto} {reason : LeaveReason} {row : PartyMember} {isPrivate : Bool}

theorem parties_departed : (s.departed partyId userId reason).parties = s.parties := by
  simp [departed]

theorem now_departed : (s.departed partyId userId reason).now = s.now := by
  simp [departed]

theorem active_departed :
    (s.departed partyId userId reason).Active other member ↔
      s.Active other member ∧ (other, member) ≠ (partyId, userId) := by
  have same : (s.departed partyId userId reason).partyMembers =
      (s.patchMember partyId userId .leave).partyMembers := rfl
  rw [active_congr same, active_patchMember_leave]

theorem activeRole_departed (different : (other, member) ≠ (partyId, userId)) :
    (s.departed partyId userId reason).activeRole other member = s.activeRole other member := by
  have same : (s.departed partyId userId reason).partyMembers =
      (s.patchMember partyId userId .leave).partyMembers := rfl
  rw [activeRole_congr same, activeRole_patchMember_leave different]

theorem open_departed : (s.departed partyId userId reason).Open other ↔ s.Open other := by
  rw [open_congr parties_departed]

theorem leaderOf_departed : (s.departed partyId userId reason).leaderOf other = s.leaderOf other := by
  rw [leaderOf_congr parties_departed]

theorem activeRole_promoted :
    (s.promoted partyId userId).activeRole other member =
      if (other, member) = (partyId, userId) then (s.activeRole other member).map fun _ => .leader
      else s.activeRole other member := by
  have same : (s.promoted partyId userId).partyMembers =
      (s.changeLeader partyId userId).partyMembers := rfl
  rw [activeRole_congr same, activeRole_changeLeader]

theorem active_promoted : (s.promoted partyId userId).Active other member ↔ s.Active other member := by
  rw [← activeRole_isSome, ← activeRole_isSome, activeRole_promoted]
  split <;> simp

theorem open_promoted : (s.promoted partyId userId).Open other ↔ s.Open other := by
  have same : (s.promoted partyId userId).parties = (s.changeLeader partyId userId).parties := rfl
  rw [open_congr same, open_changeLeader]

theorem leaderOf_promoted :
    (s.promoted partyId userId).leaderOf other =
      if other = partyId then (s.leaderOf other).map fun _ => userId else s.leaderOf other := by
  have same : (s.promoted partyId userId).parties = (s.changeLeader partyId userId).parties := rfl
  rw [leaderOf_congr same, leaderOf_changeLeader]

theorem active_closed {reason : EndReason} :
    (s.closed partyId reason).Active other member ↔ s.Active other member ∧ other ≠ partyId := by
  have same : (s.closed partyId reason).partyMembers =
      (s.patchActive (fun key => decide (key.1 = partyId)) .leave).partyMembers := rfl
  rw [active_congr same, active_patchActive_leave]

theorem activeRole_closed {reason : EndReason} (different : other ≠ partyId) :
    (s.closed partyId reason).activeRole other member = s.activeRole other member := by
  have same : (s.closed partyId reason).partyMembers =
      (s.patchActive (fun key => decide (key.1 = partyId)) .leave).partyMembers := rfl
  rw [activeRole_congr same, activeRole_patchActive_leave different]

theorem open_closed {reason : EndReason} :
    (s.closed partyId reason).Open other ↔ s.Open other ∧ other ≠ partyId := by
  have same : (s.closed partyId reason).parties = (s.markEnded partyId).parties := rfl
  rw [open_congr same, open_markEnded]

theorem leaderOf_closed {reason : EndReason} : (s.closed partyId reason).leaderOf other = s.leaderOf other := by
  have same : (s.closed partyId reason).parties = (s.markEnded partyId).parties := rfl
  rw [leaderOf_congr same, leaderOf_markEnded]

theorem partyMembers_joined : (s.joined partyId userId row isPrivate).partyMembers = s.partyMembers := by
  cases isPrivate <;> simp [joined]

theorem zombieWatch_joined : (s.joined partyId userId row isPrivate).zombieWatch = s.zombieWatch := by
  cases isPrivate <;> simp [joined]

theorem leaderLock_joined : (s.joined partyId userId row isPrivate).leaderLock = s.leaderLock := by
  cases isPrivate <;> simp [joined]

theorem activeRole_rejoined {stored : PartyMember}
    (found : s.partyMembers.find? (partyId, userId) = some stored) (present : stored.leftAt = none) :
    ((s.patchMember partyId userId .rejoin).joined partyId userId row isPrivate).activeRole other
      member = s.activeRole other member := by
  rw [activeRole_congr partyMembers_joined, activeRole_patchMember_rejoin found]
  split
  · rename_i here
    cases here
    exact (activeRole_eq_some.mpr ⟨stored, found, present, rfl⟩).symm
  · rfl

theorem activeRole_entered {now : Time} {role : PartyRole} {row : PartyMember} {isPrivate : Bool}
    (free : s.partyMembers.find? (partyId, userId) = none) :
    ((s.insertMember partyId userId (newMember now role)).joined partyId userId row
        isPrivate).activeRole other member =
      if (other, member) = (partyId, userId) then some role else s.activeRole other member := by
  rw [activeRole_congr partyMembers_joined, activeRole_insertMember free]

theorem parties_joined : (s.joined partyId userId row isPrivate).parties = s.parties := by
  cases isPrivate <;> simp [joined]

theorem partyInvites_joined :
    (s.joined partyId userId row isPrivate).partyInvites =
      if isPrivate then (s.acceptInvites partyId userId).partyInvites else s.partyInvites := by
  cases isPrivate <;> simp [joined]

theorem partyMemberSet_joined :
    (s.joined partyId userId row isPrivate).partyMemberSet =
      update s.partyMemberSet partyId (setAdd (s.partyMemberSet partyId) userId) := by
  cases isPrivate <;> rfl

theorem userParty_joined :
    (s.joined partyId userId row isPrivate).userParty = update s.userParty userId (some partyId) := by
  cases isPrivate <;> rfl

theorem activePartyIndex_joined :
    (s.joined partyId userId row isPrivate).activePartyIndex = s.activePartyIndex := by
  cases isPrivate <;> simp [joined]

theorem activeRole_opened (free : s.partyMembers.find? (partyId, userId) = none) :
    (s.opened partyId userId dto).activeRole other member =
      if (other, member) = (partyId, userId) then some .leader else s.activeRole other member := by
  have same : (s.opened partyId userId dto).partyMembers =
      (s.insertMember partyId userId (newMember s.now .leader)).partyMembers := rfl
  rw [activeRole_congr same, activeRole_insertMember free]

theorem open_opened (fresh : s.parties.find? partyId = none) :
    (s.opened partyId userId dto).Open other ↔ s.Open other ∨ other = partyId := by
  have same : (s.opened partyId userId dto).parties =
      s.parties.insert partyId (newParty s.now userId dto) := rfl
  rw [State.Open, same, find?_insert]
  by_cases here : other = partyId
  · subst here
    simp [fresh, newParty]
  · simp [here, State.Open]

theorem leaderOf_opened (fresh : s.parties.find? partyId = none) :
    (s.opened partyId userId dto).leaderOf other = if other = partyId then some userId else s.leaderOf other := by
  have same : (s.opened partyId userId dto).parties =
      s.parties.insert partyId (newParty s.now userId dto) := rfl
  rw [leaderOf, same, find?_insert]
  by_cases here : other = partyId
  · subst here
    simp [fresh, newParty]
  · simp [here, leaderOf]

end Standing

/-! ## End -/

theorem foldl_delUserParty (userIds : List UserId) :
    (userIds.map RedisCommand.delUserParty).foldl redis s = s.withoutParty userIds := by
  induction userIds generalizing s with
  | nil => rfl
  | cons userId rest ih =>
    rw [List.map_cons, List.foldl_cons, ih]
    have same : (fun other => if other ∈ rest then none
        else (s.withUserParty userId none).userParty other) =
        fun other => if other ∈ userId :: rest then none else s.userParty other := by
      funext other
      by_cases here : other = userId
      · subst here
        simp
      · simp [here]
    simp only [redis, withoutParty, same]
    rfl

/-- The Redis block of `endParty`. -/
theorem foldl_endFlush (memberIds : List UserId) :
    (endFlush partyId memberIds).foldl redis s =
      (((s.withMemberSet partyId []).withZombieWatch partyId []).withActiveIndex
        (setRemove s.activePartyIndex partyId)).withoutParty memberIds := by
  rw [endFlush, List.foldl_append, foldl_delUserParty]
  rfl

theorem exec_endParty (reason : EndReason) :
    (endParty partyId reason).exec s = (.ok (), if s.Open partyId then s.closed partyId reason else s) := by
  unfold endParty Flow.exec
  simp only [call_bind, done_bind, run_call, answer]
  cases found : s.parties.find? partyId with
  | none =>
    have shut : ¬ s.Open partyId := fun ⟨_, read, _⟩ => by rw [found] at read; cases read
    simp only [pure_eq, run_done, if_neg shut]
  | some party =>
    by_cases finished : party.status = .ended
    · have shut : ¬ s.Open partyId := fun ⟨other, read, running⟩ => by
        rw [found] at read
        cases read
        exact running finished
      simp only [if_pos finished, pure_eq, run_done, if_neg shut]
    · have standing : s.Open partyId := ⟨party, found, finished⟩
      simp only [if_neg finished, done_bind, run_call, answer, found, rethrow_ok,
        pure_eq, run_done, if_pos standing, foldl_endFlush]
      rfl

/-! ## Leave -/

/-- The ways `leaveParty` ends. -/
inductive LeaveOutcome (s : State) (userId : UserId) (partyId : PartyId) (reason : LeaveReason) :
    Except ServiceError LeaveResult → State → Prop where
  /-- The party is missing or the user is not an active member of it. -/
  | rejected (error : ServiceError)
      (stranger : s.partyIsLive partyId = true → ¬ s.Active partyId userId) :
      LeaveOutcome s userId partyId reason (.error error) s
  /-- The party has ended. -/
  | finished (ended : ¬ s.Open partyId) :
      LeaveOutcome s userId partyId reason (.ok ⟨true, none⟩) s
  /-- A member who does not lead goes. -/
  | follower (standing : s.Open partyId) (active : s.Active partyId userId)
      (follows : s.leaderOf partyId ≠ some userId) :
      LeaveOutcome s userId partyId reason (.ok ⟨false, none⟩) (s.departed partyId userId reason)
  /-- The leader goes and was the last member. -/
  | alone (standing : s.Open partyId) (active : s.Active partyId userId)
      (leads : s.leaderOf partyId = some userId)
      (last : ∀ member, member ≠ userId → ¬ s.Active partyId member) :
      LeaveOutcome s userId partyId reason (.ok ⟨true, none⟩)
        ((s.departed partyId userId reason).closed partyId .leaderLeftAlone)
  /-- The leader goes and nobody who stays is online: a fallback is named. -/
  | leaderless (fallback : UserId) (standing : s.Open partyId) (active : s.Active partyId userId)
      (leads : s.leaderOf partyId = some userId) (other : fallback ≠ userId)
      (stays : s.Active partyId fallback)
      (offline : ∀ member row, member ≠ userId →
        s.partyMembers.find? (partyId, member) = some row → row.leftAt = none →
          row.isOnline = false) :
      LeaveOutcome s userId partyId reason (.ok ⟨false, some fallback⟩)
        (s.departed partyId userId reason)
  /-- The leader goes while another election holds the lock. -/
  | locked (fallback : UserId) (standing : s.Open partyId) (active : s.Active partyId userId)
      (leads : s.leaderOf partyId = some userId)
      (held : Expiring.live s.now (s.leaderLock partyId) ≠ none) :
      LeaveOutcome s userId partyId reason (.ok ⟨false, some fallback⟩)
        (s.departed partyId userId reason)
  /-- The leader goes and an online member is elected. -/
  | elected (newLeaderId : UserId) (row : PartyMember) (standing : s.Open partyId)
      (active : s.Active partyId userId) (leads : s.leaderOf partyId = some userId)
      (other : newLeaderId ≠ userId)
      (candidate : s.partyMembers.find? (partyId, newLeaderId) = some row)
      (stays : row.leftAt = none) (online : row.isOnline = true)
      (free : Expiring.live s.now (s.leaderLock partyId) = none) :
      LeaveOutcome s userId partyId reason (.ok ⟨false, some newLeaderId⟩)
        ((s.departed partyId userId reason).promoted partyId newLeaderId)

section Leave

variable {s : State} {userId newLeaderId : UserId} {partyId : PartyId} {reason : LeaveReason}

/-- A lock that was just taken is released by its holder. -/
theorem live_fresh (now : Time) (seconds : Nat) (value : UserId) (positive : 0 < seconds) :
    Expiring.live now (some ⟨value, some (now + seconds * 1000)⟩) =
      some ⟨value, some (now + seconds * 1000)⟩ := by
  have later : now < now + seconds * 1000 := Nat.lt_add_of_pos_right (by omega)
  simp [Expiring.live, Option.filter, later]

variable {input : ElectionInput} {party : Party} {found : PartyWithMembers}

theorem exec_installLeader {row : PartyMember} (found : s.parties.find? partyId = some party)
    (candidate : s.partyMembers.find? (partyId, newLeaderId) = some row) :
    (installLeader partyId newLeaderId).exec
        (s.withLeaderLock partyId (some ⟨newLeaderId, some (s.after leaderLockSeconds)⟩)) =
      (.ok ⟨false, some newLeaderId⟩, s.promoted partyId newLeaderId) := by
  have held := live_fresh s.now leaderLockSeconds newLeaderId (by decide)
  unfold installLeader release Flow.exec
  simp only [call_bind, done_bind, run_call, answer,
    withLeaderLock_parties, withLeaderLock_partyMembers, found, candidate,
    Option.isNone_some, Bool.or_self, Bool.false_eq_true, if_false, rethrow_ok, sent_now,
    sent_leaderLock, changeLeader_now, changeLeader_leaderLock,
    withLeaderLock_now, withLeaderLock_leaderLock, update_self, after,
    held, Option.map_some, if_true, pure_eq, run_done]
  simp only [promoted, withLeaderLock, sent, changeLeader,
    update_idem]

theorem exec_elect_of_free {winner : UserId} {why : ElectionReason}
    (picked : pickNextLeader input = (some winner, why))
    (free : Expiring.live s.now (s.leaderLock input.partyId) = none) :
    (elect input).exec s = (.ok ⟨some winner, true, why⟩,
      s.withLeaderLock input.partyId (some ⟨winner, some (s.after leaderLockSeconds)⟩)) := by
  have taken : answer (.setLeaderLockNx input.partyId winner leaderLockSeconds) s =
      (true, s.withLeaderLock input.partyId (some ⟨winner, some (s.after leaderLockSeconds)⟩)) := by
    simp only [answer, free]
  unfold elect Flow.exec
  simp only [picked, call_bind]
  rw [run_call_of_answer _ taken]
  simp only [done_bind, if_true, pure_eq, run_done]

theorem exec_elect_of_held {winner : UserId} {why : ElectionReason}
    (picked : pickNextLeader input = (some winner, why))
    (held : Expiring.live s.now (s.leaderLock input.partyId) ≠ none) :
    (elect input).exec s = (.ok ⟨none, false, .lockFailed⟩, s) := by
  have refused : answer (.setLeaderLockNx input.partyId winner leaderLockSeconds) s =
      (false, s) := by
    obtain ⟨lock, here⟩ := Option.ne_none_iff_exists'.mp held
    simp only [answer, here]
  unfold elect Flow.exec
  simp only [picked, call_bind]
  rw [run_call_of_answer _ refused]
  simp only [done_bind, Bool.false_eq_true, if_false, pure_eq, run_done]

theorem exec_elect_of_nobody {why : ElectionReason} (picked : pickNextLeader input = (none, why)) :
    (elect input).exec s = (.ok ⟨none, false, why⟩, s) := by
  unfold elect Flow.exec
  simp only [picked, pure_eq, run_done]

/-- A fallback is named as long as somebody remains. -/
theorem exec_leaveWithoutElection {candidates : List PartyMemberLite} (some : candidates ≠ []) :
    ∃ fallback, oldestCandidate candidates = .some fallback ∧
      (leaveWithoutElection partyId candidates none).exec s =
        (.ok ⟨false, .some fallback⟩, s) := by
  obtain ⟨fallback, oldest⟩ := oldestCandidate_isSome some
  refine ⟨fallback, oldest, ?_⟩
  unfold leaveWithoutElection Flow.exec
  simp only [Option.none_or, oldest, pure_eq, run_done]

theorem active_of_oldestCandidate {fallback : UserId}
    (oldest : oldestCandidate ((snapshot s partyId party).candidates userId) = some fallback) :
    fallback ≠ userId ∧ s.Active partyId fallback := by
  obtain ⟨lite, listed, same⟩ := oldestCandidate_eq_some oldest
  obtain ⟨⟨member, row⟩, remains, rfl⟩ := List.mem_map.mp listed
  obtain ⟨different, found, present⟩ := mem_remaining.mp remains
  subst same
  exact ⟨different, row, found, present⟩

/-- The write that closes a membership and what follows it at once. -/
theorem exec_leaveAsMember (active : s.Active partyId userId) :
    (leaveAsMember userId partyId reason (snapshot s partyId party)).exec s =
      if party.leaderId ≠ userId then (.ok ⟨false, none⟩, s.departed partyId userId reason)
      else (replaceLeader userId partyId (snapshot s partyId party)).exec
        (s.departed partyId userId reason) := by
  obtain ⟨row, found, -⟩ := active
  unfold leaveAsMember Flow.exec
  simp only [run_sends, answer, found, rethrow_ok]
  by_cases follows : party.leaderId ≠ userId
  · rw [if_pos (show (snapshot s partyId party).party.leaderId ≠ userId from follows),
      if_pos follows]
    rfl
  · rw [if_neg (show ¬ (snapshot s partyId party).party.leaderId ≠ userId from follows),
      if_neg follows]
    rfl

theorem exec_replaceLeader_of_last (last : found.remaining userId = []) (standing : s.Open partyId) :
    (replaceLeader userId partyId found).exec s = (.ok ⟨true, none⟩, s.closed partyId .leaderLeftAlone) := by
  unfold replaceLeader Flow.exec
  rw [if_pos (by rw [last]; rfl), run_bind_of_ok _ (exec_endParty s partyId _),
    if_pos standing]
  rfl

theorem exec_replaceLeader_of_won {after : State} {why : ElectionReason} (rest : found.remaining userId ≠ [])
    (won : (elect (found.electionInput partyId userId)).exec s = (.ok ⟨some newLeaderId, true, why⟩, after)) :
    (replaceLeader userId partyId found).exec s = (installLeader partyId newLeaderId).exec after := by
  unfold replaceLeader Flow.exec
  rw [if_neg (by simpa using rest), run_bind_of_ok _ won]

theorem exec_replaceLeader_of_lost {why : ElectionReason} (rest : found.remaining userId ≠ [])
    (lost : (elect (found.electionInput partyId userId)).exec s = (.ok ⟨none, false, why⟩, s)) :
    ∃ fallback, oldestCandidate (found.candidates userId) = some fallback ∧
      (replaceLeader userId partyId found).exec s = (.ok ⟨false, some fallback⟩, s) := by
  obtain ⟨fallback, oldest, outcome⟩ : ∃ fallback,
      oldestCandidate (found.candidates userId) = some fallback ∧
        (leaveWithoutElection partyId (found.candidates userId) none).exec s =
          (.ok ⟨false, some fallback⟩, s) :=
    exec_leaveWithoutElection fun none => rest (List.map_eq_nil_iff.mp none)
  refine ⟨fallback, oldest, ?_⟩
  unfold replaceLeader Flow.exec
  rw [if_neg (by simpa using rest), run_bind_of_ok _ lost]
  exact outcome

theorem replaceLeader_outcome (found : s.parties.find? partyId = some party) (standing : s.Open partyId)
    (active : s.Active partyId userId) (leads : s.leaderOf partyId = some userId) :
    LeaveOutcome s userId partyId reason
      ((replaceLeader userId partyId (snapshot s partyId party)).exec
        (s.departed partyId userId reason)).1
      ((replaceLeader userId partyId (snapshot s partyId party)).exec
        (s.departed partyId userId reason)).2 := by
  by_cases last : (snapshot s partyId party).remaining userId = []
  · rw [exec_replaceLeader_of_last last (open_departed.mpr standing)]
    exact .alone standing active leads (remaining_eq_nil_iff.mp last)
  · cases picked : pickNextLeader ((snapshot s partyId party).electionInput partyId userId) with
    | mk winner why =>
      cases winner with
      | none =>
        -- nobody who stays is online: a fallback is named, nothing is written
        obtain ⟨fallback, oldest, outcome⟩ := exec_replaceLeader_of_lost last
          (exec_elect_of_nobody (s := s.departed partyId userId reason) picked)
        obtain ⟨other, stays⟩ := active_of_oldestCandidate oldest
        rw [outcome]
        refine .leaderless fallback standing active leads other stays ?_
        intro member row different found' present
        have nobody := pickNextLeader_eq_none.mp (congrArg Prod.fst picked)
        by_contra online
        have listed : PartyMemberLite.ofRow (member, row) ∈
            ((snapshot s partyId party).electionInput partyId userId).onlineMembers :=
          mem_onlineMembers.mpr ⟨different, row, found', present, by simpa using online, rfl⟩
        rw [nobody] at listed
        cases listed
      | some winner =>
        obtain ⟨lite, listed, rfl⟩ := pickNextLeader_mem (congrArg Prod.fst picked)
        obtain ⟨other, row, candidate, stays, online, -⟩ := mem_onlineMembers.mp listed
        by_cases free : Expiring.live s.now (s.leaderLock partyId) = none
        · -- the lock is won: the winner is written
          have elsewhere : (s.departed partyId userId reason).partyMembers.find?
              (partyId, lite.userId) = some row := by
            rw [← candidate]
            exact find?_modify_of_ne _ (by simpa using other) _
          have found' : (s.departed partyId userId reason).parties.find? partyId = some party := by
            rw [parties_departed]
            exact found
          have free' : Expiring.live (s.departed partyId userId reason).now
              ((s.departed partyId userId reason).leaderLock partyId) = none := by
            rw [now_departed]
            exact free
          have won : (elect ((snapshot s partyId party).electionInput partyId userId)).exec
              (s.departed partyId userId reason) = (.ok ⟨some lite.userId, true, why⟩,
                (s.departed partyId userId reason).withLeaderLock partyId
                  (some ⟨lite.userId, some ((s.departed partyId userId reason).after leaderLockSeconds)⟩)) :=
            exec_elect_of_free picked free'
          have installed := exec_installLeader found' elsewhere
          rw [exec_replaceLeader_of_won last won, installed]
          exact .elected lite.userId row standing active leads other candidate stays online free
        · -- another election holds the lock: a fallback is named, nothing is written
          have held : Expiring.live (s.departed partyId userId reason).now
              ((s.departed partyId userId reason).leaderLock partyId) ≠ none := by
            rw [now_departed]
            exact free
          obtain ⟨fallback, -, outcome⟩ := exec_replaceLeader_of_lost last
            (exec_elect_of_held (s := s.departed partyId userId reason) picked held)
          rw [outcome]
          exact .locked fallback standing active leads free

theorem leaveParty_outcome (s : State) (userId : UserId) (partyId : PartyId)
    (reason : LeaveReason) :
    LeaveOutcome s userId partyId reason ((leaveParty userId partyId reason).exec s).1
      ((leaveParty userId partyId reason).exec s).2 := by
  unfold leaveParty Flow.exec
  simp only [run_sends, answer]
  cases found : s.parties.find? partyId with
  | none =>
    refine .rejected _ fun live => ?_
    simp [partyIsLive, found] at live
  | some party =>
    simp only [Option.map_some, run_throwIf_bind]
    by_cases deleted : party.deletedAt.isSome
    · rw [if_pos deleted]
      refine .rejected _ fun live => ?_
      rw [partyIsLive, found] at live
      rw [Option.isSome_iff_ne_none] at deleted
      simp [deleted] at live
    · rw [if_neg deleted]
      by_cases finished : party.status = .ended
      · rw [if_pos finished]
        refine .finished fun ⟨other, read, running⟩ => ?_
        rw [found] at read
        cases read
        exact running finished
      · rw [if_neg finished, run_throwIf_bind]
        have standing : s.Open partyId := ⟨party, found, finished⟩
        by_cases member : PartyWithMembers.isMember ⟨party, s.membersOf partyId⟩ userId = false
        · rw [if_pos member]
          refine .rejected _ fun _ active => ?_
          rw [isMember_iff.mpr active] at member
          cases member
        · rw [if_neg member]
          have active : s.Active partyId userId :=
            isMember_iff.mp (Bool.eq_true_of_not_eq_false member)
          have leader : s.leaderOf partyId = some party.leaderId := by
            rw [leaderOf, found]
            rfl
          have ran : run answer (leaveAsMember userId partyId reason
              ⟨party, s.membersOf partyId⟩) s = _ := exec_leaveAsMember active
          rw [ran]
          by_cases follows : party.leaderId ≠ userId
          · rw [if_pos follows]
            exact .follower standing active fun same => follows (by simpa [leader] using same)
          · rw [if_neg follows]
            have leads : s.leaderOf partyId = some userId := by
              rw [leader, not_not.mp follows]
            exact replaceLeader_outcome found standing active leads

end Leave

/-! ## Join -/

def State.activeCount (s : State) (partyId : PartyId) : Nat :=
  s.partyMembers.count fun key row => decide (key.1 = partyId) && row.leftAt.isNone

theorem length_activeMembers (party : Party) :
    (snapshot s partyId party).activeMembers.length = s.activeCount partyId := by
  rw [snapshot, PartyWithMembers.activeMembers, membersOf, List.filter_map, List.length_map,
    select, List.filter_filter, activeCount, count, List.countP_eq_length_filter]
  simp only [comp_def, Bool.and_comm]

/-- The ways `joinParty` ends. -/
inductive JoinOutcome (s : State) (userId : UserId) (partyId : PartyId) :
    Except ServiceError PartyDetail → State → Prop where
  /-- A check or the insertion of the row fails. -/
  | rejected (error : ServiceError) : JoinOutcome s userId partyId (.error error) s
  /-- The user is an active member already. -/
  | rejoined (party : Party) (row : PartyMember) (detail : PartyDetail)
      (found : s.parties.find? partyId = some party) (live : s.partyIsLive partyId = true)
      (listed : s.partyMembers.find? (partyId, userId) = some row) (present : row.leftAt = none) :
      JoinOutcome s userId partyId (.ok detail)
        ((s.patchMember partyId userId .rejoin).joined partyId userId
          (MemberPatch.rejoin.apply s.now row) party.isPrivate)
  /-- The user becomes a member. -/
  | entered (party : Party) (user : User) (detail : PartyDetail)
      (found : s.parties.find? partyId = some party) (live : s.partyIsLive partyId = true)
      (known : s.users userId = some user)
      (unlisted : s.partyMembers.find? (partyId, userId) = none)
      (space : s.activeCount partyId < party.maxMembers)
      (single : ∀ other, s.Active other userId → s.partyIsLive other = false) :
      JoinOutcome s userId partyId (.ok detail)
        ((s.insertMember partyId userId (newMember s.now .member)).joined partyId userId
          (newMember s.now .member) party.isPrivate)

section Join

variable {s : State} {userId : UserId} {partyId : PartyId}

/-- The check of the invite changes nothing. -/
theorem exec_requireInvite (s : State) (userId : UserId) (partyId : PartyId) (party : Party) :
    ∃ outcome, (requireInvite userId partyId party).exec s = (outcome, s) := by
  unfold requireInvite Flow.exec
  by_cases demanded : party.isPrivate = true
  · rw [if_pos demanded, run_sends]
    exact ⟨_, run_throwIf ..⟩
  · exact ⟨.ok (), by rw [if_neg demanded]; rfl⟩

theorem exec_getPartyDetail {party : Party} (found : s.parties.find? partyId = some party) :
    ∃ detail, (getPartyDetail partyId).exec s = (.ok detail, s) := by
  unfold getPartyDetail Flow.exec
  simp only [run_sends, answer, found]
  exact ⟨_, rfl⟩

theorem exec_joinAdmitted_of_written {found : PartyWithMembers} {member : PartyMember}
    {after : State} {stored : Party}
    (written : (writeMembership userId partyId found).exec s = (.ok member, after))
    (kept : after.parties.find? partyId = some stored) :
    ∃ detail, (joinAdmitted userId partyId found).exec s =
      (.ok detail, after.joined partyId userId member found.party.isPrivate) := by
  have read : (after.joined partyId userId member found.party.isPrivate).parties.find? partyId =
      some stored := by
    cases found.party.isPrivate <;> exact kept
  obtain ⟨detail, answered⟩ := exec_getPartyDetail read
  refine ⟨detail, ?_⟩
  unfold joinAdmitted completeJoin Flow.exec
  rw [run_bind_of_ok _ written]
  rw [← answered]
  cases shut : found.party.isPrivate with
  | true | false => rfl

theorem exec_writeMembership (s : State) (userId : UserId) (partyId : PartyId) (party : Party) :
    (∃ row, s.partyMembers.find? (partyId, userId) = some row ∧ row.leftAt = none ∧
        (writeMembership userId partyId (snapshot s partyId party)).exec s =
          (.ok (MemberPatch.rejoin.apply s.now row), s.patchMember partyId userId .rejoin)) ∨
      (∃ user, s.users userId = some user ∧ s.partyMembers.find? (partyId, userId) = none ∧
        (writeMembership userId partyId (snapshot s partyId party)).exec s =
          (.ok (newMember s.now .member),
            s.insertMember partyId userId (newMember s.now .member))) ∨
      ∃ error, (writeMembership userId partyId (snapshot s partyId party)).exec s =
        (.error error, s) := by
  unfold writeMembership Flow.exec
  by_cases active : s.Active partyId userId
  · obtain ⟨row, found, present⟩ := active
    refine .inl ⟨row, found, present, ?_⟩
    rw [if_pos (any_activeMembers.mpr ⟨row, found, present⟩)]
    simp only [run_sends, answer, found, rethrow_ok,
      run_done]
  · rw [if_neg (mt any_activeMembers.mp active)]
    simp only [run_sends, answer]
    cases listed : s.partyMembers.find? (partyId, userId) with
    | some row => exact .inr (.inr ⟨_, rfl⟩)
    | none =>
      cases known : s.users userId with
      | none => exact .inr (.inr ⟨.prisma .foreignKeyViolation, by simp⟩)
      | some user =>
        by_cases missing : s.parties.find? partyId = none
        · exact .inr (.inr ⟨.prisma .foreignKeyViolation, by simp [missing]⟩)
        · refine .inr (.inl ⟨user, rfl, rfl, ?_⟩)
          simp [missing]

/-- `joinParty` once its reads have passed. -/
theorem admission_outcome {party : Party} (found : s.parties.find? partyId = some party)
    (live : s.partyIsLive partyId = true) (space : s.activeCount partyId < party.maxMembers)
    (elsewhere : ¬ s.Active partyId userId →
      ∀ other, s.Active other userId → s.partyIsLive other = false) :
    JoinOutcome s userId partyId
      (run answer (requireInvite userId partyId party >>= fun _ =>
        joinAdmitted userId partyId (snapshot s partyId party)) s).1
      (run answer (requireInvite userId partyId party >>= fun _ =>
        joinAdmitted userId partyId (snapshot s partyId party)) s).2 := by
  obtain ⟨outcome, checked⟩ := exec_requireInvite s userId partyId party
  cases outcome with
  | error error =>
    rw [run_bind_of_error _ checked]
    exact .rejected error
  | ok value =>
    rw [run_bind_of_ok _ checked]
    rcases exec_writeMembership s userId partyId party with
      ⟨row, listed, present, written⟩ | ⟨user, known, unlisted, written⟩ | ⟨error, written⟩
    · obtain ⟨detail, joined⟩ := exec_joinAdmitted_of_written written found
      unfold Flow.exec at joined
      rw [joined]
      exact .rejoined party row detail found live listed present
    · obtain ⟨detail, joined⟩ := exec_joinAdmitted_of_written written found
      unfold Flow.exec at joined
      rw [joined]
      refine .entered party user detail found live known unlisted space (elsewhere ?_)
      rintro ⟨row, listed, -⟩
      rw [unlisted] at listed
      cases listed
    · have refused : run answer (joinAdmitted userId partyId (snapshot s partyId party)) s =
          (.error error, s) := run_bind_of_error _ written _
      rw [refused]
      exact .rejected error

theorem joinParty_outcome (s : State) (userId : UserId) (partyId : PartyId) :
    JoinOutcome s userId partyId ((joinParty userId partyId).exec s).1 ((joinParty userId partyId).exec s).2 := by
  unfold joinParty Flow.exec
  simp only [call_bind, done_bind, run_call, answer, findActivePartyForUser]
  cases found : s.parties.find? partyId with
  | none => exact .rejected _
  | some party =>
    simp only [Option.map_some, run_throwIf_bind, run_call, answer]
    by_cases finished : party.deletedAt.isSome ∨ party.status = .ended
    · rw [if_pos finished]
      exact .rejected _
    · have live : s.partyIsLive partyId = true := by
        rw [partyIsLive, found]
        rw [not_or] at finished
        simpa using finished.symm
      rw [if_neg finished]
      by_cases full : (snapshot s partyId party).activeMembers.length ≥ party.maxMembers
      · rw [if_pos full]
        exact .rejected _
      · rw [if_neg full]
        have space : s.activeCount partyId < party.maxMembers := by
          rw [← length_activeMembers s partyId party]
          omega
        cases other : s.firstActiveMembership userId with
        | none =>
          exact admission_outcome found live space fun _ => firstActiveMembership_eq_none.mp other
        | some membership =>
          obtain ⟨otherId, role⟩ := membership
          simp only [run_throwIf_bind]
          by_cases different : otherId ≠ partyId
          · rw [if_pos different]
            exact .rejected _
          · rw [if_neg different]
            have here : s.Active partyId userId := by
              rw [← not_not.mp different]
              exact (firstActiveMembership_eq_some other).1
            exact admission_outcome found live space fun absent => absurd here absent

end Join

/-! ## Respond to an invite -/

/-- The ways `respondInvite` ends: it joins the party of the invite, or it writes
invites at most. -/
inductive RespondOutcome (s : State) (userId : UserId) : State → Prop where
  | untouched : RespondOutcome s userId s
  | declined (invites : Table InviteId PartyInvite) :
      RespondOutcome s userId (s.withPartyInvites invites)
  | accepted (partyId : PartyId) : RespondOutcome s userId ((joinParty userId partyId).exec s).2

theorem respondInvite_joins (userId : UserId) (inviteId : InviteId) (accept : Bool) :
    (accept = true ∧ ∃ invite, s.partyInvites.find? inviteId = some invite ∧
        ((respondInvite userId inviteId accept).exec s).2 =
          ((joinParty userId invite.partyId).exec s).2) ∨
      ((respondInvite userId inviteId accept).exec s).2 = s ∨
      ∃ invites, ((respondInvite userId inviteId accept).exec s).2 = s.withPartyInvites invites := by
  unfold respondInvite Flow.exec
  simp only [call_bind, done_bind, run_call, answer]
  cases found : s.partyInvites.find? inviteId with
  | none => exact .inr (.inl rfl)
  | some invite =>
    simp only [run_throwIf_bind]
    by_cases other : invite.inviteeId ≠ userId
    · rw [if_pos other]
      exact .inr (.inl rfl)
    · rw [if_neg other]
      by_cases resolved : invite.status ≠ .pending
      · rw [if_pos resolved]
        exact .inr (.inl rfl)
      · rw [if_neg resolved]
        cases accept with
        | true =>
          refine .inl ⟨rfl, invite, rfl, ?_⟩
          rw [if_pos rfl, run_bind]
          cases run answer (joinParty userId invite.partyId) s with
          | mk outcome after => cases outcome <;> rfl
        | false =>
          rw [if_neg Bool.false_ne_true]
          simp only [run_call, answer, found, rethrow_ok, done_bind,
            pure_eq, run_done]
          exact .inr (.inr ⟨_, rfl⟩)

theorem respondInvite_outcome (userId : UserId) (inviteId : InviteId) (accept : Bool) :
    RespondOutcome s userId ((respondInvite userId inviteId accept).exec s).2 := by
  rcases respondInvite_joins s userId inviteId accept with
    ⟨-, invite, -, joined⟩ | untouched | ⟨invites, declined⟩
  · rw [joined]
    exact .accepted invite.partyId
  · rw [untouched]
    exact .untouched
  · rw [declined]
    exact .declined invites

/-! ## Create -/

/-- The ways `createParty` ends. Every call is counted. -/
inductive CreateOutcome (s : State) (leaderId : UserId) (partyId : PartyId) (dto : CreatePartyDto) :
    Except ServiceError PartySummary → State → Prop where
  /-- A check or the transaction fails. -/
  | rejected (error : ServiceError) :
      CreateOutcome s leaderId partyId dto (.error error)
        (s.counted (.partyCreate leaderId) partyCreateLimitWindowSeconds)
  /-- The party is opened with its leader as the only member. -/
  | opened (user : User) (known : s.users leaderId = some user)
      (fresh : s.parties.find? partyId = none)
      (unlisted : s.partyMembers.find? (partyId, leaderId) = none)
      (single : ∀ other, s.Active other leaderId → s.partyIsLive other = false) :
      CreateOutcome s leaderId partyId dto (.ok (toSummary partyId (newParty s.now leaderId dto) 1))
        ((s.counted (.partyCreate leaderId) partyCreateLimitWindowSeconds).opened partyId leaderId
          dto)

section Create

variable {s : State} {leaderId : UserId} {partyId : PartyId} {dto : CreatePartyDto}

theorem exec_requireRoute (s : State) (routeId : Option RouteId) :
    ∃ outcome, (requireRoute routeId).exec s = (outcome, s) := by
  cases routeId with
  | none => exact ⟨.ok (), rfl⟩
  | some routeId => exact ⟨_, run_throwIf ..⟩

theorem createParty_outcome (s : State) (leaderId : UserId) (partyId : PartyId)
    (dto : CreatePartyDto) :
    CreateOutcome s leaderId partyId dto ((createParty leaderId partyId dto).exec s).1
      ((createParty leaderId partyId dto).exec s).2 := by
  unfold createParty Flow.exec
  rw [run_bind_of_ok _ (exec_incrementActionCount ..), run_throwIf_bind]
  by_cases limited : (bumped s.now (s.counters (.partyCreate leaderId))).value > partyCreateLimitPerHour
  · rw [if_pos limited]
    exact .rejected _
  · rw [if_neg limited]
    simp only [findActivePartyForUser, call_bind, run_call, answer]
    have same : (s.counted (.partyCreate leaderId) partyCreateLimitWindowSeconds).firstActiveMembership
        leaderId = s.firstActiveMembership leaderId := rfl
    rw [same]
    cases other : s.firstActiveMembership leaderId with
    | some membership => exact .rejected _
    | none =>
      simp only [done_bind]
      obtain ⟨outcome, checked⟩ := exec_requireRoute
        (s.counted (.partyCreate leaderId) partyCreateLimitWindowSeconds) dto.routeId
      cases outcome with
      | error error =>
        rw [run_bind_of_error _ checked]
        exact .rejected error
      | ok value =>
        rw [run_bind_of_ok _ checked]
        have single := firstActiveMembership_eq_none.mp other
        simp only [run_call, answer, counted_parties, counted_partyMembers,
          counted_users, counted_now]
        by_cases taken : (s.parties.find? partyId).isSome ||
            (s.partyMembers.find? (partyId, leaderId)).isSome
        · simp only [if_pos taken, rethrow_error, fail_bind, run_fail]
          exact .rejected _
        · rw [Bool.not_eq_true, Bool.or_eq_false_iff, Option.isSome_eq_false_iff,
            Option.isSome_eq_false_iff, Option.isNone_iff_eq_none, Option.isNone_iff_eq_none] at taken
          cases known : s.users leaderId with
          | none =>
            simp only [taken, Option.isSome_none, Bool.or_self, Bool.false_eq_true, if_false,
              Option.isNone_none, if_true, rethrow_error, fail_bind, run_fail]
            exact .rejected _
          | some user =>
            simp only [taken, Option.isSome_none, Bool.or_self, Bool.false_eq_true, if_false,
              Option.isNone_some, rethrow_ok, done_bind, run_call, answer,
              pure_eq, run_done]
            exact .opened user known taken.1 taken.2 single

end Create

end Motogram
