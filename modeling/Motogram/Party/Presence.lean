import Motogram.Party.Rooms

/-!
# Marks and presence

A member who goes offline is marked: the disconnect of a socket writes the time into
the zombie watch of the party and sets `isOnline` to false. A `party:join` takes both
back. The sweep removes the members whose mark is a minute old.

While no member is marked who still has a socket in the room, and no marked member comes
back over REST, a mark means what it says: who is marked and active is out of the room
and offline (`State.HeedsAt`). Every change of the state either takes something away
from a member, who then stays as they are (`Recedes`), or concerns one member of one
party.
-/

set_option autoImplicit false

namespace Motogram

open Foundation Function Table State

/-! ## Presence -/

namespace State

variable (s : State) (partyId : PartyId) (userId : UserId)

/-- A connected socket of the user is in the room of the party. A socket is out of all
rooms once it has disconnected, so this one has joined since the user was last without
a socket in the room. -/
def Attends : Prop := ∃ socket ∈ s.rooms partyId, (s.sockets socket).map Prod.fst = some userId

/-- The user is an active member whose row has `isOnline`. -/
def Online : Prop :=
  ∃ row, s.partyMembers.find? (partyId, userId) = some row ∧ row.leftAt = none ∧
    row.isOnline = true

def Marked : Prop := userId ∈ (s.zombieWatch partyId).map Prod.fst

instance : Decidable (s.Attends partyId userId) := List.decidableBEx ..

instance : Decidable (s.Online partyId userId) :=
  decidable_of_iff ((s.partyMembers.find? (partyId, userId)).any fun row =>
    row.leftAt.isNone && row.isOnline) <| by
    simp [Online, Option.any_eq_true]

instance : Decidable (s.Marked partyId userId) := inferInstanceAs (Decidable (_ ∈ _))

instance : Decidable (s.Listed partyId userId) := inferInstanceAs (Decidable (_ = true))

end State

/-- No member is marked who still has a socket in the room, and no marked member comes
back over REST. -/
def Op.HeedsPresence (s : State) : Op → Prop
  | .disconnect socket => ∀ identity ∈ s.sockets socket, ∀ partyId ∈ s.userParty identity.1,
      s.Active partyId identity.1 → ∀ other ∈ s.rooms partyId, other ≠ socket →
        (s.sockets other).map Prod.fst ≠ some identity.1
  | .joinParty userId partyId => ¬ (s.Active partyId userId ∧ s.Marked partyId userId)
  | .respondInvite userId inviteId accept => accept = true →
      ∀ invite ∈ s.partyInvites.find? inviteId,
        ¬ (s.Active invite.partyId userId ∧ s.Marked invite.partyId userId)
  | .markOffline userId partyId => s.Listed partyId userId ∧
      (s.Active partyId userId → ¬ s.Attends partyId userId)
  | _ => True

instance (s : State) (op : Op) : Decidable (op.HeedsPresence s) := by
  cases op <;> unfold Op.HeedsPresence <;> infer_instance

/-! ## The invariant -/

/-- A marked member is out of the room and offline, and only who has a row is marked or
about to be. -/
structure State.HeedsAt (s : State) (partyId : PartyId) (userId : UserId) : Prop where
  absent : s.Marked partyId userId → s.Active partyId userId →
    ¬ s.Attends partyId userId ∧ ¬ s.Online partyId userId
  listed : s.Marked partyId userId ∨ s.userParty userId = some partyId → s.Listed partyId userId

def State.Seated (s : State) : Prop := ∀ partyId, ∀ socket ∈ s.rooms partyId, (s.sockets socket).isSome

structure State.Heeded (s : State) : Prop where
  heeds : ∀ partyId userId, s.HeedsAt partyId userId
  seated : s.Seated

/-- From one state to the next the user loses in the party, and gains nothing: no mark, no
socket in the room, no membership and no presence. -/
structure Recedes (s s' : State) (partyId : PartyId) (userId : UserId) : Prop where
  marked : s'.Marked partyId userId → s.Marked partyId userId
  attends : s'.Attends partyId userId → s.Attends partyId userId
  row : ∀ row', s'.partyMembers.find? (partyId, userId) = some row' → row'.leftAt = none →
    ∃ row, s.partyMembers.find? (partyId, userId) = some row ∧ row.leftAt = none ∧
      (row'.isOnline = true → row.isOnline = true)
  userParty : s'.userParty userId = some partyId → s.userParty userId = some partyId
  listed : s.Listed partyId userId → s'.Listed partyId userId

section

variable {s s' s'' : State} {partyId other : PartyId} {userId member : UserId}

theorem State.Online.active (online : s.Online partyId userId) : s.Active partyId userId := by
  obtain ⟨row, found, present, -⟩ := online
  exact ⟨row, found, present⟩

theorem State.Active.listed (active : s.Active partyId userId) : s.Listed partyId userId := by
  obtain ⟨row, found, -⟩ := active
  rw [State.Listed, found]
  rfl

theorem marked_congr (same : s'.zombieWatch = s.zombieWatch) :
    s'.Marked partyId userId ↔ s.Marked partyId userId := by
  rw [State.Marked, State.Marked, same]

theorem attends_congr (same : SameSockets s s') : s'.Attends partyId userId ↔ s.Attends partyId userId := by
  rw [State.Attends, State.Attends, same.rooms, same.sockets]

namespace Recedes

theorem active (recedes : Recedes s s' partyId userId) (later : s'.Active partyId userId) :
    s.Active partyId userId := by
  obtain ⟨row', found', present'⟩ := later
  obtain ⟨row, found, present, -⟩ := recedes.row row' found' present'
  exact ⟨row, found, present⟩

theorem online (recedes : Recedes s s' partyId userId) (later : s'.Online partyId userId) :
    s.Online partyId userId := by
  obtain ⟨row', found', present', online'⟩ := later
  obtain ⟨row, found, present, kept⟩ := recedes.row row' found' present'
  exact ⟨row, found, present, kept online'⟩

theorem trans (first : Recedes s s' partyId userId) (second : Recedes s' s'' partyId userId) :
    Recedes s s'' partyId userId where
  marked := fun later => first.marked (second.marked later)
  attends := fun later => first.attends (second.attends later)
  row := fun row'' found'' present'' => by
    obtain ⟨row', found', present', kept'⟩ := second.row row'' found'' present''
    obtain ⟨row, found, present, kept⟩ := first.row row' found' present'
    exact ⟨row, found, present, fun online => kept (kept' online)⟩
  userParty := fun later => first.userParty (second.userParty later)
  listed := fun before => second.listed (first.listed before)

theorem of_row (marked : s'.Marked partyId userId → s.Marked partyId userId)
    (attends : s'.Attends partyId userId → s.Attends partyId userId)
    (row : s'.partyMembers.find? (partyId, userId) = s.partyMembers.find? (partyId, userId))
    (userParty : s'.userParty userId = some partyId → s.userParty userId = some partyId) :
    Recedes s s' partyId userId where
  marked := marked
  attends := attends
  row := fun row' found' present' => ⟨row', row ▸ found', present', id⟩
  userParty := userParty
  listed := by
    rw [State.Listed, State.Listed, row]
    exact id

theorem of_change (change : PartyMember → PartyMember)
    (found : s'.partyMembers.find? (partyId, userId) =
      (s.partyMembers.find? (partyId, userId)).map change)
    (lowers : ∀ row, (change row).leftAt = none →
      row.leftAt = none ∧ ((change row).isOnline = true → row.isOnline = true))
    (marked : s'.Marked partyId userId → s.Marked partyId userId)
    (attends : s'.Attends partyId userId → s.Attends partyId userId)
    (userParty : s'.userParty userId = some partyId → s.userParty userId = some partyId) :
    Recedes s s' partyId userId where
  marked := marked
  attends := attends
  row := fun row' found' present' => by
    rw [found] at found'
    obtain ⟨row, stored, rfl⟩ := Option.map_eq_some_iff.mp found'
    exact ⟨row, stored, lowers row present'⟩
  userParty := userParty
  listed := by
    rw [State.Listed, State.Listed, found, Option.isSome_map]
    exact id

end Recedes

/-- **Who loses stays out of reach of the sweep, or of harm.** -/
theorem State.HeedsAt.of_recedes (heeds : s.HeedsAt partyId userId)
    (recedes : Recedes s s' partyId userId) : s'.HeedsAt partyId userId where
  absent := fun marked active => by
    obtain ⟨away, offline⟩ := heeds.absent (recedes.marked marked) (recedes.active active)
    exact ⟨fun attends => away (recedes.attends attends),
      fun online => offline (recedes.online online)⟩
  listed := fun named => recedes.listed (heeds.listed (named.imp recedes.marked recedes.userParty))

/-! ## Leaving -/

/-- The patch makes nobody a member again and nobody present. -/
def MemberPatch.Lowers (patch : MemberPatch) : Prop :=
  ∀ now row, (patch.apply now row).leftAt = none →
    row.leftAt = none ∧ ((patch.apply now row).isOnline = true → row.isOnline = true)

theorem MemberPatch.lowers_leave : MemberPatch.leave.Lowers := fun _ _ present => by cases present

theorem MemberPatch.lowers_offline : MemberPatch.offline.Lowers :=
  fun _ _ present => ⟨present, fun online => by cases online⟩

theorem MemberPatch.lowers_hostname {serverHostname : String} :
    (MemberPatch.hostname serverHostname).Lowers := fun _ _ present => ⟨present, id⟩

theorem recedes_patchMember {patch : MemberPatch} (lowers : patch.Lowers) :
    Recedes s (s.patchMember partyId userId patch) other member := by
  refine .of_change (fun row => if (other, member) = (partyId, userId) then patch.apply s.now row
    else row) ?_ (fun row present => ?_) id id id
  · rw [patchMember_partyMembers, find?_modify]
    by_cases same : (other, member) = (partyId, userId)
    · simp only [if_pos same]
    · simp only [if_neg same, Option.map_id']
  · by_cases same : (other, member) = (partyId, userId)
    · simp only [if_pos same] at present ⊢
      exact lowers s.now row present
    · simp only [if_neg same] at present ⊢
      exact ⟨present, id⟩

theorem recedes_patchActive {condition : PartyId × UserId → Bool} {patch : MemberPatch}
    (lowers : patch.Lowers) : Recedes s (s.patchActive condition patch) other member := by
  refine .of_change (fun row => if condition (other, member) && row.leftAt.isNone then
    patch.apply s.now row else row) ?_ (fun row present => ?_) id id id
  · rw [patchActive_partyMembers, find?_modifyWhere]
  · by_cases hit : (condition (other, member) && row.leftAt.isNone) = true
    · simp only [if_pos hit] at present ⊢
      exact lowers s.now row present
    · simp only [if_neg hit] at present ⊢
      exact ⟨present, id⟩

theorem recedes_departed {reason : LeaveReason} : Recedes s (s.departed partyId userId reason) other member := by
  have left : Recedes s (s.patchMember partyId userId .leave) other member :=
    recedes_patchMember MemberPatch.lowers_leave
  refine left.trans (.of_row id id rfl fun home => ?_)
  obtain ⟨rfl, home'⟩ | ⟨-, home'⟩ := eq_of_update home
  · cases home'
  · exact home'

theorem recedes_promoted {newLeaderId : UserId} : Recedes s (s.promoted partyId newLeaderId) other member := by
  have rows : (s.promoted partyId newLeaderId).partyMembers =
      (s.changeLeader partyId newLeaderId).partyMembers := rfl
  refine .of_change (fun row => if (other, member) = (partyId, newLeaderId) then
    { row with role := .leader } else row) ?_ (fun row present => ?_) id id id
  · rw [rows, changeLeader_partyMembers, find?_modify]
    by_cases same : (other, member) = (partyId, newLeaderId)
    · simp only [if_pos same]
    · simp only [if_neg same, Option.map_id']
  · by_cases same : (other, member) = (partyId, newLeaderId)
    · simp only [if_pos same] at present ⊢
      exact ⟨present, id⟩
    · simp only [if_neg same] at present ⊢
      exact ⟨present, id⟩

theorem recedes_closed {reason : EndReason} : Recedes s (s.closed partyId reason) other member := by
  have left : Recedes s (s.patchActive (fun key => decide (key.1 = partyId)) .leave) other member :=
    recedes_patchActive MemberPatch.lowers_leave
  have rows : (s.closed partyId reason).partyMembers =
      (s.patchActive (fun key => decide (key.1 = partyId)) .leave).partyMembers := rfl
  have sockets : SameSockets (s.patchActive (fun key => decide (key.1 = partyId)) .leave)
      (s.closed partyId reason) := ⟨by simp [closed], by simp [closed]⟩
  refine left.trans (.of_row (fun marked => ?_) (attends_congr sockets).mp (by rw [rows])
    fun home => ?_)
  · have watch : (s.closed partyId reason).zombieWatch = update s.zombieWatch partyId [] := by
      simp [closed]
    rw [State.Marked, watch] at marked
    by_cases same : other = partyId
    · rw [same, update_self] at marked
      cases marked
    · rwa [update_of_ne same] at marked
  · simp only [closed, sent_userParty, withoutParty_userParty] at home
    by_cases listed : member ∈ s.partyMemberSet partyId
    · rw [if_pos listed] at home
      cases home
    · rwa [if_neg listed] at home

theorem recedes_unmarked : Recedes s (s.redis (.zremZombieWatch partyId userId)) other member := by
  refine .of_row (fun marked => ?_) id rfl id
  rw [State.Marked, redis, withZombieWatch_zombieWatch] at marked
  by_cases same : other = partyId
  · rw [same, update_self] at marked
    obtain ⟨entry, kept, named⟩ := List.mem_map.mp marked
    rw [same]
    exact List.mem_map.mpr ⟨entry, (mem_scoreRemove.mp kept).1, named⟩
  · rwa [update_of_ne same] at marked

theorem LeaveOutcome.recedes {reason : LeaveReason} {result : Except ServiceError LeaveResult}
    (outcome : LeaveOutcome s userId partyId reason result s') : Recedes s s' other member := by
  have departed : Recedes s (s.departed partyId userId reason) other member := recedes_departed
  cases outcome with
  | rejected | finished => exact .of_row id id rfl id
  | follower | leaderless | locked => exact departed
  | alone => exact departed.trans recedes_closed
  | elected => exact departed.trans recedes_promoted

theorem recedes_sweepTurn (turn : SweepTurn) : Recedes s (sweepTurn s turn) other member := by
  obtain ⟨partyId, userId⟩ := turn
  obtain ⟨result, after, outcome, turned⟩ := sweepTurn_outcome s partyId userId
  rw [turned]
  cases result with
  | error error => exact outcome.recedes
  | ok result => exact outcome.recedes.trans recedes_unmarked

theorem recedes_sweepTurns (turns : List SweepTurn) : Recedes s (follow sweepTurn s turns) other member := by
  induction turns generalizing s with
  | nil => exact .of_row id id rfl id
  | cons turn rest ih => exact (recedes_sweepTurn turn).trans ih

/-! ## Operations that are no concern of presence -/

/-- The two states agree on the watches and on the rows. -/
structure SamePresence (before after : State) : Prop where
  zombieWatch : after.zombieWatch = before.zombieWatch
  row : ∀ key, after.partyMembers.find? key = before.partyMembers.find? key

theorem SamePresence.trans (left : SamePresence s s') (right : SamePresence s' s'') : SamePresence s s'' :=
  ⟨right.zombieWatch.trans left.zombieWatch, fun key => (right.row key).trans (left.row key)⟩

theorem SamePresence.recedes (same : SamePresence s s') (sockets : SameSockets s s')
    (userParty : s'.userParty = s.userParty) : Recedes s s' partyId userId := by
  refine .of_row (fun marked => ?_) (attends_congr sockets).mp (same.row _) fun home => ?_
  · rwa [State.Marked, same.zombieWatch] at marked
  · rwa [userParty] at home

theorem redis_keepsPresence {command : RedisCommand} (elsewhere : command.region ≠ .presence)
    (s : State) : SamePresence s (s.redis command) := by
  cases command with
  | zaddZombieWatch | zremZombieWatch | delZombieWatch => exact absurd rfl elsewhere
  | _ => exact ⟨rfl, fun _ => rfl⟩

theorem multi_keepsPresence {commands : List RedisCommand}
    (elsewhere : Region.presence ∉ commands.map RedisCommand.region) (s : State) :
    SamePresence s (commands.foldl redis s) := by
  refine List.foldlRecOn (motive := SamePresence s) commands redis ⟨rfl, fun _ => rfl⟩ ?_
  intro t same command member
  refine same.trans (redis_keepsPresence (fun presence => elsewhere ?_) t)
  exact List.mem_map.mpr ⟨command, member, presence⟩

theorem answer_keepsPresence {call : StoreCall} (memberships : .membership ∉ call.regions)
    (presence : .presence ∉ call.regions) (s : State) : SamePresence s (answer call s).2 := by
  cases call with
  | createPartyTransaction | endPartyTransaction | changeLeaderTransaction | partyMemberCreate =>
    simp at memberships
  | partyMemberUpdate partyId userId patch | partyMemberUpdateManyActive partyId userId patch =>
    have written : patch.region = .presence := MemberPatch.region_eq_presence
      fun same => memberships (by simp [same])
    exact absurd (by simp [written]) presence
  | redis command => exact redis_keepsPresence (by simpa [eq_comm] using presence) s
  | multi commands => exact multi_keepsPresence presence s
  | environment event =>
    cases event with
    | elapse milliseconds => exact ⟨rfl, fun _ => rfl⟩
    | relist rows index =>
      simp only [answer]
      split
      · exact ⟨rfl, fun key => by simp⟩
      · exact ⟨rfl, fun _ => rfl⟩
  | partyInviteCreate =>
    simp only [answer]
    split
    · exact ⟨rfl, fun _ => rfl⟩
    · split <;> exact ⟨rfl, fun _ => rfl⟩
  | setLeaderLockNx | releaseLeaderLock | userUpdateLocationSharing | partyInviteDecline
  | socketConnect =>
    simp only [answer]
    split <;> exact ⟨rfl, fun _ => rfl⟩
  | _ => exact ⟨rfl, fun _ => rfl⟩

theorem step_keepsPresence {op : Op} (memberships : .membership ∉ op.regions)
    (presence : .presence ∉ op.regions) (s : State) : SamePresence s (step s op) :=
  (op.program_writes s.deployment).run_keeps answer
    (fun _ t within same => same.trans (answer_keepsPresence
      (fun member => memberships (within member)) (fun member => presence (within member)) t))
    ⟨rfl, fun _ => rfl⟩

theorem recedes_elsewhere {op : Op} (memberships : .membership ∉ op.regions) (keys : .membershipKeys ∉ op.regions)
    (presence : .presence ∉ op.regions) (connections : .connections ∉ op.regions) (rooms : .rooms ∉ op.regions) :
    Recedes s (step s op) other member :=
  (step_keepsPresence memberships presence s).recedes (step_keepsSockets connections rooms s)
    (exec_keepsKeys (op.program_writes s.deployment) keys s).userParty

/-! A position names the user a member of the party it is for, and writes no home. -/

theorem UpdateOutcome.userParty {dto : UpdateLocationDto} {user : User}
    {result : Except ServiceError UpdateLocationResult}
    (outcome : UpdateOutcome s userId dto user result s') : s'.userParty = s.userParty := by
  cases outcome with
  | banned | limited | disabled => rfl
  | accepted =>
    cases named : dto.partyId with
    | none | some => simp [located, updateCommands, positionCommands, named, redis]

theorem userParty_updateLocation (s : State) (userId : UserId) (dto : UpdateLocationDto) :
    (step s (.updateLocation userId dto)).userParty = s.userParty := by
  rw [step_updateLocation, restUpdateLocation]
  simp only [Program.run_sends, answer]
  cases known : s.users userId with
  | none => rfl
  | some user => exact (updateLocation_outcome s userId dto user).userParty

theorem userParty_partyUpdateLocation (s : State) (socket : SocketId) (payload : Option WsPartyUpdateLocation) :
    (step s (.partyUpdateLocation socket payload)).userParty = s.userParty := by
  rw [step_partyUpdateLocation]
  have outcome := partyUpdate_outcome s socket payload
  generalize ((handlePartyUpdateLocation s.deployment socket payload).exec s).2 = after at outcome
  cases outcome with
  | unknown | rejected => rfl
  | relayed userId username update user result after identity asked listed outcome =>
    exact outcome.userParty

/-! ## Marking a member and clearing the mark -/

theorem State.HeedsAt.of_unmarked (unmarked : ¬ s.Marked partyId userId)
    (listed : s.userParty userId = some partyId → s.Listed partyId userId) :
    s.HeedsAt partyId userId where
  absent := fun marked => absurd marked unmarked
  listed := fun named => named.elim (fun marked => absurd marked unmarked) listed

/-- A change of one row leaves the others. -/
theorem find?_patchActive_of_ne {patch : MemberPatch}
    (different : (other, member) ≠ (partyId, userId)) :
    (s.patchActive (fun key => decide (key = (partyId, userId))) patch).partyMembers.find?
      (other, member) = s.partyMembers.find? (other, member) := by
  simp [different]

theorem marked_of_ne {watch : List (UserId × Time)} (different : (other, member) ≠ (partyId, userId))
    (kept : ∀ entry ∈ watch, entry.1 ≠ userId → entry ∈ s.zombieWatch partyId)
    (marked : (s.withZombieWatch partyId watch).Marked other member) : s.Marked other member := by
  rw [State.Marked, withZombieWatch_zombieWatch] at marked
  by_cases same : other = partyId
  · rw [same, update_self] at marked
    obtain ⟨entry, there, named⟩ := List.mem_map.mp marked
    have apart : entry.1 ≠ userId := by
      rintro rfl
      exact different (by rw [same, named])
    rw [same]
    exact List.mem_map.mpr ⟨entry, kept entry there apart, named⟩
  · rwa [update_of_ne same] at marked

theorem recedes_marked (different : (other, member) ≠ (partyId, userId)) :
    Recedes s (s.marked userId partyId) other member := by
  refine .of_row (fun marked => ?_) id (find?_patchActive_of_ne different) id
  refine marked_of_ne different (fun entry there apart => ?_) marked
  rcases mem_scoreSet.mp there with rfl | ⟨kept, -⟩
  · exact absurd rfl apart
  · exact kept

theorem listed_marked (listed : s.Listed other member) : (s.marked userId partyId).Listed other member := by
  simpa [State.Listed, State.marked] using listed

/-- A member is marked who has no socket in the room. -/
theorem State.HeedsAt.marked (listed : s.Listed partyId userId)
    (away : s.Active partyId userId → ¬ s.Attends partyId userId) :
    (s.marked userId partyId).HeedsAt partyId userId := by
  refine ⟨fun _ active => ⟨fun attends => ?_, fun online => ?_⟩, fun _ => listed_marked listed⟩
  · obtain ⟨row', found', present'⟩ := active
    obtain ⟨row, found, present, -⟩ :=
      (recedes_patchActive (s := s.withZombieWatch partyId _) MemberPatch.lowers_offline).row row'
        found' present'
    exact away ⟨row, found, present⟩ attends
  · obtain ⟨row', found', present', online'⟩ := online
    have change : (s.marked userId partyId).partyMembers.find? (partyId, userId) =
        (s.partyMembers.find? (partyId, userId)).map fun row =>
          if row.leftAt.isNone then MemberPatch.offline.apply s.now row else row := by
      simp [State.marked]
    rw [change] at found'
    obtain ⟨row, found, rfl⟩ := Option.map_eq_some_iff.mp found'
    by_cases present : row.leftAt.isNone = true
    · rw [if_pos present] at online'
      cases online'
    · rw [if_neg present] at present'
      rw [present'] at present
      exact present rfl

theorem recedes_cleared (different : (other, member) ≠ (partyId, userId)) :
    Recedes s (s.cleared userId partyId) other member := by
  refine .of_row (fun marked => ?_) id (find?_patchActive_of_ne different) id
  exact marked_of_ne different (fun entry there _ => (mem_scoreRemove.mp there).1) marked

theorem unmarked_cleared : ¬ (s.cleared userId partyId).Marked partyId userId := by
  intro marked
  have watch : (s.cleared userId partyId).zombieWatch partyId =
      scoreRemove (s.zombieWatch partyId) userId := by
    simp [State.cleared]
  rw [State.Marked, watch] at marked
  obtain ⟨entry, there, named⟩ := List.mem_map.mp marked
  exact (mem_scoreRemove.mp there).2 named

theorem State.HeedsAt.cleared (listed : s.userParty userId = some partyId → s.Listed partyId userId) :
    (s.cleared userId partyId).HeedsAt partyId userId :=
  .of_unmarked unmarked_cleared fun home => by
    simpa [State.Listed, State.cleared] using listed home

/-! ## Sockets -/

theorem recedes_dropped (socket : SocketId) : Recedes s (s.dropped socket) other member := by
  refine .of_row id ?_ rfl id
  rintro ⟨inside, present, owner⟩
  have there : inside ≠ socket ∧ inside ∈ s.rooms other := mem_setRemove.mp present
  refine ⟨inside, there.2, ?_⟩
  rw [← owner, State.dropped, withRooms_sockets, withSocket_sockets,
    update_of_ne there.1]

variable {row : PartyMember} {dto : CreatePartyDto} {socket : SocketId} {username : String}

theorem mem_roomEntered {inside : SocketId} (present : inside ∈ (s.roomEntered socket partyId).rooms other) :
    other = partyId ∧ inside = socket ∨ inside ∈ s.rooms other := by
  rw [roomEntered, withRooms_rooms] at present
  by_cases here : other = partyId
  · rw [here, update_self, mem_setAdd] at present
    rw [here]
    exact present.imp_left fun same => ⟨rfl, same⟩
  · rw [update_of_ne here] at present
    exact .inr present

theorem recedes_roomEntered (identity : s.sockets socket = some (userId, username))
    (different : (other, member) ≠ (partyId, userId)) :
    Recedes s (s.roomEntered socket partyId) other member := by
  refine .of_row id ?_ rfl id
  rintro ⟨inside, present, owner⟩
  change (s.sockets inside).map Prod.fst = some member at owner
  rcases mem_roomEntered present with ⟨here, rfl⟩ | before
  · rw [identity] at owner
    exact absurd (by rw [here, ← Option.some.inj owner]) different
  · exact ⟨inside, before, owner⟩

/-- What a member does who joins the room heeds the invariant for everybody. -/
theorem State.HeedsAt.attended (identity : s.sockets socket = some (userId, username))
    (active : s.Active partyId userId) (heeds : s.HeedsAt other member) :
    (s.attended socket userId partyId).HeedsAt other member := by
  have cleared : ((s.roomEntered socket partyId).cleared userId partyId).HeedsAt other member := by
    by_cases same : (other, member) = (partyId, userId)
    · obtain ⟨rfl, rfl⟩ := Prod.mk.inj same
      exact .cleared fun _ => active.listed
    · exact (heeds.of_recedes (recedes_roomEntered identity same)).of_recedes
        (recedes_cleared same)
  have patched : Recedes ((s.roomEntered socket partyId).cleared userId partyId)
      (((s.roomEntered socket partyId).cleared userId partyId).patchMember partyId userId
        (.hostname s.deployment.serverHostname)) other member :=
    recedes_patchMember MemberPatch.lowers_hostname
  have named := cleared.of_recedes patched
  exact named.of_recedes (.of_row id id rfl id)

theorem recedes_connect (seated : s.Seated) :
    Recedes s (step s (.connect socket userId username)) other member := by
  rw [step_connect]
  simp only [handleConnection, Flow.exec, Program.run_call, answer]
  cases known : s.sockets socket with
  | some identity => exact .of_row id id rfl id
  | none =>
    refine .of_row id ?_ rfl id
    rintro ⟨inside, present, owner⟩
    have connected : inside ≠ socket := by
      rintro rfl
      have sits := seated other inside present
      rw [known] at sits
      cases sits
    refine ⟨inside, present, ?_⟩
    rw [← owner]
    simp [connected]

theorem State.HeedsAt.disconnected (heeded : s.Heeded) (identity : s.sockets socket = some (userId, username))
    (condition : (Op.disconnect socket).HeedsPresence s) :
    (s.disconnected socket userId).HeedsAt other member := by
  have dropped (partyId : PartyId) (userId : UserId) : (s.dropped socket).HeedsAt partyId userId :=
    (heeded.heeds partyId userId).of_recedes (recedes_dropped socket)
  rw [State.disconnected]
  cases home : s.userParty userId with
  | none => exact (dropped other member).of_recedes (.of_row id id rfl id)
  | some partyId =>
    have marked : ((s.dropped socket).marked userId partyId).HeedsAt other member := by
      by_cases same : (other, member) = (partyId, userId)
      · obtain ⟨rfl, rfl⟩ := Prod.mk.inj same
        refine .marked ((heeded.heeds other member).listed (.inr home)) fun active => ?_
        rintro ⟨inside, present, owner⟩
        obtain ⟨apart, there⟩ : inside ≠ socket ∧ inside ∈ s.rooms other := mem_setRemove.mp present
        refine condition (member, username) identity other home active inside there apart ?_
        rw [State.dropped, withRooms_sockets, withSocket_sockets,
          update_of_ne apart] at owner
        exact owner
      · exact (dropped other member).of_recedes (recedes_marked same)
    exact marked.of_recedes (.of_row id id rfl id)

/-! ## Joining and creating -/

theorem recedes_joined {isPrivate : Bool} (different : (other, member) ≠ (partyId, userId)) :
    Recedes s (s.joined partyId userId row isPrivate) other member := by
  refine .of_row (marked_congr zombieWatch_joined).mp (attends_congr joined_keepsSockets).mp
    (by rw [partyMembers_joined]) fun named => ?_
  rw [userParty_joined] at named
  by_cases same : member = userId
  · rw [same, update_self] at named
    exact absurd (by rw [same, ← Option.some.inj named]) different
  · rwa [update_of_ne same] at named

theorem State.HeedsAt.joined {isPrivate : Bool} (unmarked : ¬ s.Marked partyId userId)
    (listed : s.Listed partyId userId) : (s.joined partyId userId row isPrivate).HeedsAt partyId userId := by
  refine .of_unmarked (fun marked => unmarked ((marked_congr zombieWatch_joined).mp marked)) fun _ => ?_
  rw [State.Listed, partyMembers_joined]
  exact listed

theorem recedes_inserted (different : (other, member) ≠ (partyId, userId)) :
    Recedes s (s.insertMember partyId userId row) other member :=
  .of_row id id (find?_insert_of_ne _ different _) id

theorem State.HeedsAt.unmarked (heeds : s.HeedsAt partyId userId)
    (unlisted : s.partyMembers.find? (partyId, userId) = none) : ¬ s.Marked partyId userId := by
  intro marked
  have listed := heeds.listed (.inl marked)
  rw [State.Listed, unlisted] at listed
  cases listed

theorem JoinOutcome.heedsAt {result : Except ServiceError PartyDetail}
    (outcome : JoinOutcome s userId partyId result s')
    (condition : ¬ (s.Active partyId userId ∧ s.Marked partyId userId))
    (heeds : ∀ partyId userId, s.HeedsAt partyId userId) : s'.HeedsAt other member := by
  cases outcome with
  | rejected => exact heeds other member
  | rejoined party row detail found live listed present =>
    by_cases same : (other, member) = (partyId, userId)
    · obtain ⟨rfl, rfl⟩ := Prod.mk.inj same
      have unmarked : ¬ s.Marked other member :=
        fun marked => condition ⟨⟨row, listed, present⟩, marked⟩
      exact .joined unmarked (by simp [State.Listed, listed])
    · have patched : Recedes s (s.patchMember partyId userId .rejoin) other member :=
        .of_row id id (find?_modify_of_ne _ same _) id
      exact ((heeds other member).of_recedes patched).of_recedes (recedes_joined same)
  | entered party user detail found live known unlisted =>
    by_cases same : (other, member) = (partyId, userId)
    · obtain ⟨rfl, rfl⟩ := Prod.mk.inj same
      have unmarked : ¬ s.Marked other member := (heeds other member).unmarked unlisted
      exact .joined unmarked (by simp [State.Listed, find?_insert_self unlisted])
    · exact ((heeds other member).of_recedes (recedes_inserted same)).of_recedes
        (recedes_joined same)

theorem recedes_opened (different : (other, member) ≠ (partyId, userId)) :
    Recedes s (s.opened partyId userId dto) other member := by
  have rows : (s.opened partyId userId dto).partyMembers =
      s.partyMembers.insert (partyId, userId) (newMember s.now .leader) := rfl
  have home : (s.opened partyId userId dto).userParty =
      update s.userParty userId (some partyId) := rfl
  have watch : (s.opened partyId userId dto).zombieWatch = s.zombieWatch := by simp [State.opened]
  have sockets : SameSockets s (s.opened partyId userId dto) :=
    ⟨by simp [State.opened], by simp [State.opened]⟩
  refine .of_row (marked_congr watch).mp (attends_congr sockets).mp ?_ fun named => ?_
  · rw [rows, find?_insert_of_ne _ different]
  · rw [home] at named
    by_cases same : member = userId
    · rw [same, update_self] at named
      exact absurd (by rw [same, ← Option.some.inj named]) different
    · rwa [update_of_ne same] at named

theorem State.HeedsAt.opened (heeds : s.HeedsAt partyId userId)
    (unlisted : s.partyMembers.find? (partyId, userId) = none) :
    (s.opened partyId userId dto).HeedsAt partyId userId := by
  have rows : (s.opened partyId userId dto).partyMembers =
      s.partyMembers.insert (partyId, userId) (newMember s.now .leader) := rfl
  have watch : (s.opened partyId userId dto).zombieWatch = s.zombieWatch := by simp [State.opened]
  have unmarked := heeds.unmarked unlisted
  refine .of_unmarked (fun marked => unmarked ((marked_congr watch).mp marked)) fun _ => ?_
  rw [State.Listed, rows, find?_insert_self unlisted]
  rfl

theorem CreateOutcome.heedsAt {result : Except ServiceError PartySummary}
    (outcome : CreateOutcome s userId partyId dto result s')
    (heeds : ∀ partyId userId, s.HeedsAt partyId userId) : s'.HeedsAt other member := by
  have counted (partyId : PartyId) (member : UserId) :
      (s.counted (.partyCreate userId) partyCreateLimitWindowSeconds).HeedsAt partyId member :=
    (heeds partyId member).of_recedes (.of_row id id rfl id)
  cases outcome with
  | rejected => exact counted other member
  | opened user known fresh unlisted =>
    by_cases same : (other, member) = (partyId, userId)
    · obtain ⟨rfl, rfl⟩ := Prod.mk.inj same
      exact (counted other member).opened unlisted
    · exact (counted other member).of_recedes (recedes_opened same)

end

end Motogram
