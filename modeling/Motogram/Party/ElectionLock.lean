import Motogram.Foundation.Lease
import Motogram.Writes

/-!
# The lock of the election

`elect` takes a lease: it writes the winner under the lock key of the party, when the key is not live, with five
seconds to live. `release` gives it back: it deletes the key when it holds the expected winner. The value is the
winner, not the call, so two elections that choose the same member write the same value.

Any number of calls of `leaveParty` run interleaved, with any other calls between them and with any time passing
(`Elections`). Each call gives back what it took (`leaveParty_inPairs`), so its steps are orderly events of the
lease (`lease_step`), and the rules of leases decide when each release deletes a key of its own
(`elections_safe_iff`).
-/

set_option autoImplicit false

namespace Motogram

open Foundation Program Function

/-! ## Elect, then release -/

/-- The program releases what it holds, the party and the winner, or nothing, and elects when it holds
nothing. -/
inductive InPairs {Value : Type} : Option (PartyId × UserId) → Flow Value → Prop where
  | done {held : Option (PartyId × UserId)} (value : Value) : InPairs held (.done value)
  | fail {held : Option (PartyId × UserId)} (error : ServiceError) : InPairs held (.fail error)
  | elect {partyId : PartyId} {winner : UserId} {next : Bool → Flow Value}
      (won : InPairs (some (partyId, winner)) (next true)) (lost : InPairs none (next false)) :
      InPairs none (.call (.setLeaderLockNx partyId winner leaderLockSeconds) next)
  | release {partyId : PartyId} {winner : UserId} {next : Bool → Flow Value}
      (rest : ∀ deleted, InPairs none (next deleted)) :
      InPairs (some (partyId, winner)) (.call (.releaseLeaderLock partyId winner) next)
  | other {held : Option (PartyId × UserId)} {request : StoreCall} {next : StoreReply request → Flow Value}
      (elsewhere : .election ∉ request.regions) (rest : ∀ reply, InPairs held (next reply)) :
      InPairs held (.call request next)

namespace InPairs

variable {First Second : Type} {held : Option (PartyId × UserId)}

/-- What does not touch the lock may come first. -/
theorem bind_of_writes {first : Flow First} {next : First → Flow Second} {allowed : List Region}
    (writes : first.Writes allowed) (elsewhere : .election ∉ allowed)
    (rest : ∀ value, InPairs held (next value)) : InPairs held (first >>= next) := by
  induction first with
  | done value => exact rest value
  | fail error => exact .fail error
  | call request continuation ih =>
    exact .other (fun member => elsewhere (writes.1 member)) fun reply => ih reply (writes.2 reply)

end InPairs

/-- A won election installs the winner and releases. -/
theorem installLeader_inPairs (partyId : PartyId) (newLeaderId : UserId) :
    InPairs (some (partyId, newLeaderId)) (installLeader partyId newLeaderId) := by
  have changes : Flow.Writes (call (.changeLeaderTransaction partyId newLeaderId)) [.membership] := by simp
  have proclaims : Flow.Writes (call (.emit (.room (.leaderChanged partyId newLeaderId .leaderLeft) none)))
      [.outbox] := by simp
  refine InPairs.bind_of_writes changes (by simp) fun changed => ?_
  refine InPairs.bind_of_writes (rethrow_writes changed []) (by simp) fun _ => ?_
  refine InPairs.bind_of_writes proclaims (by simp) fun _ => ?_
  exact .release fun deleted => .done _

/-- An election that was not won holds nothing. -/
theorem leaveWithoutElection_inPairs (partyId : PartyId) (candidates : List PartyMemberLite)
    (newLeaderId : Option UserId) : InPairs none (leaveWithoutElection partyId candidates newLeaderId) := by
  unfold leaveWithoutElection
  split
  · exact InPairs.bind_of_writes (endParty_writes partyId .leaderLeftAlone) (by simp) fun _ => .done _
  · exact .done _

theorem replaceLeader_inPairs (userId : UserId) (partyId : PartyId) (found : PartyWithMembers) :
    InPairs none (replaceLeader userId partyId found) := by
  unfold replaceLeader
  split
  · exact InPairs.bind_of_writes (endParty_writes partyId .leaderLeftAlone) (by simp) fun _ => .done _
  · unfold elect
    split
    · exact leaveWithoutElection_inPairs partyId _ _
    · exact .elect (installLeader_inPairs partyId _) (leaveWithoutElection_inPairs partyId _ _)

/-- **`leaveParty` releases the lock it took, and elects once at most.** -/
theorem leaveParty_inPairs (userId : UserId) (partyId : PartyId) (reason : LeaveReason) :
    InPairs none (leaveParty userId partyId reason) := by
  have reads : Flow.Writes (call (.partyFindUniqueWithMembers partyId)) [] := by simp
  refine InPairs.bind_of_writes reads (by simp) fun read => ?_
  cases read with
  | none => exact .fail _
  | some found =>
    have first : Flow.Writes (throwIf found.party.deletedAt.isSome partyNotFound) [] := by simp
    refine InPairs.bind_of_writes first (by simp) fun _ => ?_
    split
    · exact .done _
    · have second : Flow.Writes (throwIf (found.isMember userId = false) notMember) [] := by simp
      refine InPairs.bind_of_writes second (by simp) fun _ => ?_
      have closes : Flow.Writes (call (.partyMemberUpdate partyId userId .leave)) [.membership] := by
        simp [MemberPatch.region]
      refine InPairs.bind_of_writes closes (by simp) fun updated => ?_
      refine InPairs.bind_of_writes (rethrow_writes updated []) (by simp) fun _ => ?_
      have unlists : Flow.Writes (call (.multi [.sremMembers partyId userId, .delUserParty userId]))
          [.membershipKeys] := by simp
      refine InPairs.bind_of_writes unlists (by simp) fun _ => ?_
      have announces : Flow.Writes (call (.emit (.room (.memberLeft partyId userId reason) none)))
          [.outbox] := by simp
      refine InPairs.bind_of_writes announces (by simp) fun _ => ?_
      split
      · exact .done _
      · exact replaceLeader_inPairs userId partyId found

/-! ## Interleaved elections -/

/-- A call of `leaveParty`. -/
structure PartyLeave where
  userId : UserId
  partyId : PartyId
  reason : LeaveReason

/-- Calls of `leaveParty` under way, with the ledger of their locks. -/
structure Elections (Index : Type) where
  pool : Pool Index StoreCall StoreReply ServiceError LeaveResult State
  ledger : Ledger Index PartyId UserId

/-- One of the calls sends its next request, or a request comes from elsewhere: of another function, or the
clock goes on. -/
inductive ElectionTurn (Index : Type) where
  | advance (index : Index)
  | outside (request : StoreCall)

namespace Elections

variable {Index : Type} [DecidableEq Index]

def start (calls : Index → PartyLeave) (s : State) : Elections Index where
  pool :=
    { threads := fun index => leaveParty (calls index).userId (calls index).partyId (calls index).reason
      store := s }
  ledger := .empty

def lease (world : Elections Index) : Lease Index PartyId UserId where
  now := world.pool.store.now
  key := fun partyId => (world.pool.store.leaderLock partyId).map fun stored => (stored.value, stored.deadline)
  ledger := world.ledger

/-- The time that a request lets pass. -/
def passing : StoreCall → Nat
  | .environment (.elapse milliseconds) => milliseconds
  | _ => 0

def eventOf (index : Index) : Option StoreCall → LeaseEvent Index PartyId UserId
  | some (.setLeaderLockNx partyId winner seconds) => .take index partyId winner (seconds * 1000)
  | some (.releaseLeaderLock partyId winner) => .give index partyId winner
  | some request => .pass (passing request)
  | none => .pass 0

/-- What a turn is for the lease. Requests from elsewhere leave the lock alone. -/
def event (world : Elections Index) : ElectionTurn Index → LeaseEvent Index PartyId UserId
  | .advance index => eventOf index (world.pool.next? index)
  | .outside request => .pass (if .election ∈ request.regions then 0 else passing request)

def step (world : Elections Index) (turn : ElectionTurn Index) : Elections Index where
  pool :=
    match turn with
    | .advance index => world.pool.advance answer index
    | .outside request =>
      if .election ∈ request.regions then world.pool
      else { world.pool with store := (answer request world.pool.store).2 }
  ledger := (world.lease.step (world.event turn)).ledger

end Elections

theorem election_request {request : StoreCall} (locks : .election ∈ request.regions) :
    (∃ partyId winner seconds, request = .setLeaderLockNx partyId winner seconds) ∨
      ∃ partyId winner, request = .releaseLeaderLock partyId winner := by
  cases request with
  | setLeaderLockNx partyId winner seconds => exact .inl ⟨partyId, winner, seconds, rfl⟩
  | releaseLeaderLock partyId winner => exact .inr ⟨partyId, winner, rfl⟩
  | partyMemberUpdate _ _ patch | partyMemberUpdateManyActive _ _ patch =>
    cases patch <;> simp [MemberPatch.region] at locks
  | redis command => cases command <;> simp at locks
  | multi commands =>
    obtain ⟨command, -, region⟩ := List.mem_map.mp locks
    cases command <;> cases region
  | emit emission =>
    cases emission with
    | room event origin => cases event <;> simp at locks
    | client socket error => simp at locks
  | _ => simp at locks

theorem redis_lock (s : State) (command : RedisCommand) :
    (s.redis command).leaderLock = s.leaderLock ∧ (s.redis command).now = s.now := by
  cases command <;> exact ⟨rfl, rfl⟩

theorem multi_lock (s : State) (commands : List RedisCommand) :
    (commands.foldl State.redis s).leaderLock = s.leaderLock ∧ (commands.foldl State.redis s).now = s.now := by
  refine List.foldlRecOn (motive := fun t => t.leaderLock = s.leaderLock ∧ t.now = s.now) commands
    State.redis ⟨rfl, rfl⟩ ?_
  rintro t ⟨lock, now⟩ command -
  obtain ⟨lock', now'⟩ := redis_lock t command
  exact ⟨lock'.trans lock, now'.trans now⟩

theorem answer_lock {request : StoreCall} (elsewhere : .election ∉ request.regions) (s : State) :
    (answer request s).2.leaderLock = s.leaderLock ∧
      (answer request s).2.now = s.now + Elections.passing request := by
  cases request with
  | setLeaderLockNx | releaseLeaderLock => simp at elsewhere
  | redis command => exact redis_lock s command
  | multi commands => exact multi_lock s commands
  | environment event =>
    cases event with
    | elapse milliseconds => exact ⟨rfl, rfl⟩
    | relist rows index =>
      simp only [answer]
      split <;> exact ⟨rfl, rfl⟩
  | createPartyTransaction | endPartyTransaction | changeLeaderTransaction | partyMemberCreate |
    partyMemberUpdate | userUpdateLocationSharing | socketConnect | partyInviteCreate |
    partyInviteDecline =>
      simp only [answer]
      repeat' split
      all_goals exact ⟨rfl, rfl⟩
  | _ => exact ⟨rfl, rfl⟩

namespace Elections

variable {Index : Type} [DecidableEq Index] {world : Elections Index}

omit [DecidableEq Index] in
theorem live_lease (partyId : PartyId) :
    world.lease.live partyId =
      (Expiring.live world.pool.store.now (world.pool.store.leaderLock partyId)).map fun stored =>
        (stored.value, stored.deadline) := by
  unfold Lease.live Expiring.live
  exact Option.filter_map ..

theorem key_withLeaderLock (s : State) (partyId : PartyId) (stored : Option (Expiring UserId)) :
    (fun other => ((s.withLeaderLock partyId stored).leaderLock other).map fun entry =>
        (entry.value, entry.deadline)) =
      update (fun other => (s.leaderLock other).map fun entry => (entry.value, entry.deadline)) partyId
        (stored.map fun entry => (entry.value, entry.deadline)) := by
  funext other
  rw [State.withLeaderLock_leaderLock]
  by_cases here : other = partyId
  · subst here
    rw [update_self, update_self]
  · rw [update_of_ne here, update_of_ne here]

omit [DecidableEq Index] in
theorem eventOf_elsewhere (index : Index) {request : StoreCall} (elsewhere : .election ∉ request.regions) :
    eventOf index (some request) = .pass (passing request) := by
  cases request with
  | setLeaderLockNx | releaseLeaderLock => simp at elsewhere
  | _ => rfl

omit [DecidableEq Index] in
theorem lease_ext {first second : Lease Index PartyId UserId} (now : first.now = second.now)
    (key : first.key = second.key) (ledger : first.ledger = second.ledger) : first = second := by
  cases first
  cases second
  cases now
  cases key
  cases ledger
  rfl

/-- A request that leaves the lock alone only lets time pass. -/
theorem lease_elsewhere {request : StoreCall} (elsewhere : .election ∉ request.regions) {next : Elections Index}
    (store : next.pool.store = (answer request world.pool.store).2) (ledger : next.ledger = world.ledger) :
    next.lease = world.lease.step (.pass (passing request)) := by
  obtain ⟨lock, now⟩ := answer_lock elsewhere world.pool.store
  refine lease_ext ?_ ?_ ledger
  · rw [lease, store, now]
    rfl
  · rw [lease, store, lock]
    rfl

theorem ledger_step (turn : ElectionTurn Index) :
    (world.step turn).ledger = (world.lease.step (world.event turn)).ledger := rfl

variable (world) in
theorem lease_elect (index : Index) (partyId : PartyId) (winner : UserId) (seconds : Nat) :
    (answer (.setLeaderLockNx partyId winner seconds) world.pool.store).2.now =
        (world.lease.step (.take index partyId winner (seconds * 1000))).now ∧
      (fun other => ((answer (.setLeaderLockNx partyId winner seconds) world.pool.store).2.leaderLock
          other).map fun entry => (entry.value, entry.deadline)) =
        (world.lease.step (.take index partyId winner (seconds * 1000))).key := by
  have read : world.lease.live partyId = _ := live_lease partyId
  rw [Lease.step, read, Option.isSome_map]
  simp only [answer]
  cases Expiring.live world.pool.store.now (world.pool.store.leaderLock partyId) with
  | some stored => exact ⟨rfl, rfl⟩
  | none => exact ⟨rfl, key_withLeaderLock _ partyId _⟩

variable (world) in
theorem lease_release (index : Index) (partyId : PartyId) (winner : UserId) :
    (answer (.releaseLeaderLock partyId winner) world.pool.store).2.now =
        (world.lease.step (.give index partyId winner)).now ∧
      (fun other => ((answer (.releaseLeaderLock partyId winner) world.pool.store).2.leaderLock
          other).map fun entry => (entry.value, entry.deadline)) =
        (world.lease.step (.give index partyId winner)).key := by
  have read : (world.lease.live partyId).map Prod.fst =
      (Expiring.live world.pool.store.now (world.pool.store.leaderLock partyId)).map Expiring.value := by
    rw [live_lease, Option.map_map]
    rfl
  rw [Lease.step, read]
  simp only [answer]
  by_cases found : (Expiring.live world.pool.store.now (world.pool.store.leaderLock partyId)).map
      Expiring.value = some winner
  · rw [if_pos found, if_pos found]
    exact ⟨rfl, key_withLeaderLock _ partyId _⟩
  · rw [if_neg found, if_neg found]
    exact ⟨rfl, rfl⟩

/-- **A turn is an event of the lease.** -/
theorem lease_step (turn : ElectionTurn Index) :
    (world.step turn).lease = world.lease.step (world.event turn) := by
  cases turn with
  | outside request =>
    by_cases locks : .election ∈ request.regions
    · have same : (world.step (.outside request)).pool = world.pool := if_pos locks
      have idle : world.event (.outside request) = .pass 0 := congrArg LeaseEvent.pass (if_pos locks)
      rw [lease, same]
      rw [idle]
      rfl
    · have event : world.event (.outside request) = .pass (passing request) :=
        congrArg LeaseEvent.pass (if_neg locks)
      rw [event]
      refine lease_elsewhere locks ?_ ?_
      · exact congrArg Pool.store (if_neg locks)
      · rfl
  | advance index =>
    cases asked : world.pool.next? index with
    | none =>
      have same : (world.step (.advance index)).pool = world.pool := Pool.store_advance_of_none asked
      have idle : world.event (.advance index) = .pass 0 := congrArg (eventOf index) asked
      refine lease_ext ?_ ?_ ?_
      · rw [lease, same, idle]
        rfl
      · rw [lease, same, idle]
        rfl
      · rw [lease, ledger_step]
    | some request =>
      have store : (world.step (.advance index)).pool.store = (answer request world.pool.store).2 :=
        Pool.store_advance asked
      have event : world.event (.advance index) = eventOf index (some request) :=
        congrArg (eventOf index) asked
      rw [event]
      by_cases locks : .election ∈ request.regions
      · rcases election_request locks with ⟨partyId, winner, seconds, rfl⟩ | ⟨partyId, winner, rfl⟩
        · obtain ⟨now, key⟩ := lease_elect world index partyId winner seconds
          refine lease_ext ?_ ?_ ?_
          · rw [lease, store]
            exact now
          · rw [lease, store]
            exact key
          · rw [lease, ledger_step, event]
        · obtain ⟨now, key⟩ := lease_release world index partyId winner
          refine lease_ext ?_ ?_ ?_
          · rw [lease, store]
            exact now
          · rw [lease, store]
            exact key
          · rw [lease, ledger_step, event]
      · rw [eventOf_elsewhere index locks]
        refine lease_elsewhere locks store ?_
        rw [step, event, eventOf_elsewhere index locks]
        rfl

/-! ### What every turn keeps -/

/-- Each call still has to release what the ledger says it holds. -/
def Disciplined (world : Elections Index) : Prop :=
  ∀ index, InPairs ((world.ledger.inside index).map fun tenure => (tenure.resource, tenure.value))
    (world.pool.threads index)

omit [DecidableEq Index] in
theorem Disciplined.orderly (disciplined : world.Disciplined) (turn : ElectionTurn Index) :
    world.lease.Orderly (world.event turn) := by
  cases turn with
  | outside request => trivial
  | advance index =>
    have pairs := disciplined index
    rw [event, Pool.next?]
    generalize world.pool.threads index = thread at pairs
    generalize holds : (world.ledger.inside index).map (fun tenure => (tenure.resource, tenure.value)) =
      held at pairs
    cases pairs with
    | done | fail => trivial
    | elect won lost => exact Option.map_eq_none_iff.mp holds
    | release rest =>
      obtain ⟨⟨resource, value, deadline⟩, inside, same⟩ := Option.map_eq_some_iff.mp holds
      cases same
      exact ⟨deadline, inside⟩
    | other elsewhere rest =>
      rw [next?_call, eventOf_elsewhere index elsewhere]
      trivial

theorem inside_step_of_ne {index other : Index} (different : other ≠ index) :
    (world.step (.advance index)).ledger.inside other = world.ledger.inside other := by
  rw [ledger_step, event]
  unfold eventOf
  split
  · rw [Lease.step]
    split
    · rfl
    · exact update_of_ne different ..
  · rw [Lease.step]
    split
    · exact update_of_ne different ..
    · exact update_of_ne different ..
  · rfl
  · rfl

theorem threads_step_of_call {index : Index} {request : StoreCall}
    {next : StoreReply request → Flow LeaveResult} (shape : world.pool.threads index = .call request next) :
    (world.step (.advance index)).pool.threads index = next (answer request world.pool.store).1 := by
  have advanced : world.pool.advance answer index = _ := Pool.advance_of_call shape
  have threads := congrFun (congrArg Pool.threads advanced) index
  exact threads.trans (update_self ..)

theorem Disciplined.step (disciplined : world.Disciplined) (turn : ElectionTurn Index) :
    (world.step turn).Disciplined := by
  cases turn with
  | outside request =>
    intro index
    have threads : (world.step (.outside request)).pool.threads = world.pool.threads := by
      rw [Elections.step]
      split <;> rfl
    rw [threads]
    exact disciplined index
  | advance index =>
    intro other
    by_cases different : other ≠ index
    · have threads : (world.step (.advance index)).pool.threads other = world.pool.threads other :=
        Pool.threads_advance_of_ne different
      rw [inside_step_of_ne different, threads]
      exact disciplined other
    · obtain rfl := not_not.mp different
      have pairs := disciplined other
      have asked : world.event (.advance other) = eventOf other (world.pool.threads other).next? := rfl
      generalize shape : world.pool.threads other = thread at pairs asked
      generalize holds : (world.ledger.inside other).map (fun tenure => (tenure.resource, tenure.value)) =
        held at pairs
      cases pairs with
      | done value =>
        have same : (world.step (.advance other)).pool = world.pool :=
          Pool.advance_of_ended (by rw [shape]; rfl)
        rw [same, shape, ledger_step]
        exact .done value
      | fail error =>
        have same : (world.step (.advance other)).pool = world.pool :=
          Pool.advance_of_ended (by rw [shape]; rfl)
        rw [same, shape, ledger_step]
        exact .fail error
      | @elect partyId winner next won lost =>
        have reply := threads_step_of_call shape
        have read : world.lease.live partyId = _ := live_lease partyId
        rw [reply, ledger_step, asked, next?_call]
        simp only [eventOf, Lease.step, read, Option.isSome_map, answer]
        cases Expiring.live world.pool.store.now (world.pool.store.leaderLock partyId) with
        | some stored =>
          have outside : (world.lease.ledger.inside other).map
              (fun tenure => (tenure.resource, tenure.value)) = none := holds
          simp only [Option.isSome_some, if_true, outside]
          exact lost
        | none =>
          simp only [Option.isSome_none, Bool.false_eq_true, if_false, Lease.taken,
            update_self, Option.map_some]
          exact won
      | @release partyId winner next rest =>
        have reply := threads_step_of_call shape
        have outside : (world.step (.advance other)).ledger.inside other = none := by
          rw [ledger_step, asked, next?_call]
          simp only [eventOf, Lease.step]
          split
          · exact update_self ..
          · exact update_self ..
        rw [reply, outside]
        exact rest _
      | @other _ request next elsewhere rest =>
        have reply := threads_step_of_call shape
        rw [reply, ledger_step, asked, next?_call, eventOf_elsewhere other elsewhere]
        have inside : (world.lease.step (.pass (passing request))).ledger.inside other =
            world.ledger.inside other := rfl
        rw [inside, holds]
        exact rest _

/-! ### Runs -/

/-- Every release deletes a key only when the same call has written it, and of two calls inside their section
for one party the lock of the first has expired. -/
def Safe (world : Elections Index) : Prop := world.lease.Safe

/-- No call releases while another call that has chosen the same leader for the same party holds the lock. -/
def Timely (world : Elections Index) (turn : ElectionTurn Index) : Prop := world.lease.Timely (world.event turn)

end Elections

/-- **Elections delete their own locks only, and exclude each other until the first lock expires, exactly in
the interleavings in which nobody releases while another election holds the lock for the same leader.** -/
theorem elections_safe_iff {Index : Type} [DecidableEq Index] (calls : Index → PartyLeave) (s : State)
    (schedule : List (ElectionTurn Index)) :
    Throughout Elections.step Elections.Safe (Elections.start calls s) schedule ↔
      EachStep Elections.step Elections.Timely (Elections.start calls s) schedule := by
  have keeps : ∀ (world : Elections Index) (turn : ElectionTurn Index),
      world.lease.Sound ∧ world.Disciplined → world.Timely turn →
        (world.step turn).lease.Sound ∧ (world.step turn).Disciplined := by
    intro world turn held timely
    rw [Elections.lease_step]
    exact ⟨held.1.step (held.2.orderly turn) timely, held.2.step turn⟩
  have breaks : ∀ (world : Elections Index) (turn : ElectionTurn Index),
      world.lease.Sound ∧ world.Disciplined → ¬ world.Timely turn → ¬ (world.step turn).Safe := by
    intro world turn held untimely safe
    have own := safe.own
    exact held.1.strays_of_untimely untimely own
  have initially : (Elections.start calls s).lease.Sound ∧ (Elections.start calls s).Disciplined :=
    ⟨Lease.sound_of_empty _ _, fun index => leaveParty_inPairs ..⟩
  exact throughout_iff_eachStep (fun world held => held.1.safe) keeps breaks initially schedule

/-- Three times the leader of party 10 leaves it at once. -/
def threeLeaves : Elections Nat :=
  .start (fun _ => ⟨1, 10, .left⟩) (follow step smallInstallation [.createParty 1 10 smallParty, .joinParty 2 10])

/-- All three read the party and close the membership. The first elects rider 2 and is slow, the second elects
him when the lock has expired, the first releases, and the third elects. -/
def slowElection : List (ElectionTurn Nat) :=
  [.advance 0, .advance 1, .advance 2, .advance 0, .advance 0, .advance 0, .advance 1, .advance 1, .advance 1,
    .advance 2, .advance 2, .advance 2, .advance 0, .outside (.environment (.elapse 5000)), .advance 1,
    .advance 0, .advance 0, .advance 0, .advance 2]

/-- The first deletes the lock of the second, so the third is inside together with the second, and the locks of
both run for another five seconds. -/
theorem elections_overlap :
    ¬ Throughout Elections.step Elections.Safe threeLeaves slowElection ∧
      (follow Elections.step threeLeaves slowElection).ledger.inside 1 = some ⟨10, 2, 10000⟩ ∧
      (follow Elections.step threeLeaves slowElection).ledger.inside 2 = some ⟨10, 2, 10000⟩ ∧
      (follow Elections.step threeLeaves slowElection).pool.store.now = 5000 := by
  refine ⟨fun safe => ?_, by decide +kernel, by decide +kernel, by decide +kernel⟩
  have own := safe.last.own
  have stray : (follow Elections.step threeLeaves slowElection).ledger.strays = [(0, some 1)] := by
    decide +kernel
  exact absurd (stray.symm.trans own) (List.cons_ne_nil _ _)

end Motogram
