import Motogram.Party.Presence

/-!
# The zombie sweep and the members who are there

The mark of a member is one for each member while the member may have several sockets,
and a `party:join` is not the only way back: joining over REST sets `isOnline` to true
and leaves the mark. So a sweep can remove a member who is in the room with another
socket, and one who is online again (`present_member_swept`).

In the runs in which no member is marked who still has a socket in the room, and no
marked member comes back over REST, a sweep removes neither (`sweeps_spare_present`).
-/

set_option autoImplicit false

namespace Motogram

open Foundation Function

/-- A sweep leaves in their parties the members who are in the room and the members who
are online. -/
def Op.Spares (s : State) : Op → Prop
  | .sweepZombieMembers => ∀ partyId userId, s.Active partyId userId →
      s.Attends partyId userId ∨ s.Online partyId userId →
        (step s .sweepZombieMembers).Active partyId userId
  | _ => True

section

variable {s s' : State} {partyId other : PartyId} {userId member : UserId}

/-! ## The sockets of the rooms -/

theorem State.Seated.of_same (seated : s.Seated) (same : SameSockets s s') : s'.Seated := by
  intro partyId socket inside
  rw [same.rooms] at inside
  rw [same.sockets]
  exact seated partyId socket inside

variable {socket : SocketId}

theorem mem_roomLeft {inside : SocketId} (present : inside ∈ (s.roomLeft socket partyId).rooms other) :
    inside ∈ s.rooms other := by
  rw [State.roomLeft, State.withRooms_rooms] at present
  by_cases here : other = partyId
  · rw [here, update_self, mem_setRemove] at present
    exact here ▸ present.2
  · rwa [update_of_ne here] at present

theorem State.Seated.attended {username : String} (seated : s.Seated)
    (identity : s.sockets socket = some (userId, username)) : (s.attended socket userId partyId).Seated := by
  intro party inside present
  change (s.sockets inside).isSome
  have entered : inside ∈ (s.roomEntered socket partyId).rooms party := present
  rcases mem_roomEntered entered with ⟨-, rfl⟩ | before
  · rw [identity]
    rfl
  · exact seated party inside before

theorem State.Seated.dropped (seated : s.Seated) : (s.dropped socket).Seated := by
  intro party inside present
  obtain ⟨apart, there⟩ : inside ≠ socket ∧ inside ∈ s.rooms party := mem_setRemove.mp present
  rw [State.dropped, State.withRooms_sockets, State.withSocket_sockets, update_of_ne apart]
  exact seated party inside there

theorem seated_connect {username : String} (seated : s.Seated) :
    (step s (.connect socket userId username)).Seated := by
  rw [step_connect]
  simp only [handleConnection, Flow.exec, Program.run_call, answer]
  cases known : s.sockets socket with
  | some identity => exact seated
  | none =>
    intro party inside present
    have before := seated party inside present
    by_cases same : inside = socket
    · simp [same]
    · simpa [same] using before

theorem seated_disconnect (seated : s.Seated) : (step s (.disconnect socket)).Seated := by
  have dropped : (s.dropped socket).Seated := seated.dropped
  rw [step_disconnect, exec_handleDisconnect]
  cases s.sockets socket with
  | none => exact dropped
  | some identity =>
    obtain ⟨userId, username⟩ := identity
    simp only [State.disconnected]
    cases s.userParty userId with
    | none => exact dropped.of_same (multi_keepsSockets _ [.hsetOffline userId])
    | some partyId =>
      have marked : ((s.dropped socket).marked userId partyId).Seated :=
        dropped.of_same ⟨by simp [State.marked], by simp [State.marked]⟩
      exact marked.of_same (multi_keepsSockets _ [.hsetOffline userId])

theorem seated_step (seated : s.Seated) (op : Op) : (step s op).Seated := by
  cases op with
  | connect socket userId username => exact seated_connect seated
  | disconnect socket => exact seated_disconnect seated
  | partyJoin socket payload =>
    rw [step_partyJoin]
    have outcome := partyJoin_outcome s socket payload
    generalize ((handlePartyJoin s.deployment socket payload).exec s).2 = after at outcome
    cases outcome with
    | unknown | rejected => exact seated
    | attended userId username partyId identity => exact seated.attended identity
  | partyLeave socket payload =>
    rw [step_partyLeave]
    have outcome := partyLeave_outcome s socket payload
    generalize ((handlePartyLeave socket payload).exec s).2 = after at outcome
    cases outcome with
    | unknown | invalid | refused => exact seated
    | left userId username partyId result after identity asked ran =>
      have same := leaveParty_keepsSockets s userId partyId .left
      rw [ran] at same
      exact fun party inside present => seated.of_same same party inside (mem_roomLeft present)
  | updateLocation userId dto =>
    refine seated.of_same (step_keepsSockets ?_ ?_ s)
    · simp only [Op.regions]
      cases dto.partyId <;> simp
    · simp only [Op.regions]
      cases dto.partyId <;> simp
  | _ => exact seated.of_same (step_keepsSockets (by simp) (by simp) s)

/-! ## Every operation -/

theorem recedes_roomLeft : Recedes s (s.roomLeft socket partyId) other member := by
  refine .of_row id ?_ rfl id
  rintro ⟨inside, present, owner⟩
  exact ⟨inside, mem_roomLeft present, owner⟩

theorem PartyLeaveOutcome.recedes {payload : Option PartyId}
    (outcome : PartyLeaveOutcome s socket payload s') : Recedes s s' other member := by
  cases outcome with
  | unknown | invalid | refused => exact .of_row id id rfl id
  | left userId username partyId result after identity asked ran outcome =>
    exact outcome.recedes.trans recedes_roomLeft

/-- **The invariant is kept by every operation that heeds presence.** -/
theorem State.Heeded.step (heeded : s.Heeded) (op : Op) (condition : op.HeedsPresence s) :
    (step s op).Heeded := by
  refine ⟨fun other member => ?_, seated_step heeded.seated op⟩
  have heeds := heeded.heeds other member
  cases op with
  | createParty leaderId partyId dto =>
    rw [step_createParty]
    exact (createParty_outcome s leaderId partyId dto).heedsAt heeded.heeds
  | joinParty userId partyId =>
    rw [step_joinParty]
    exact (joinParty_outcome s userId partyId).heedsAt condition heeded.heeds
  | leaveParty userId partyId reason =>
    rw [step_leaveParty]
    exact heeds.of_recedes (leaveParty_outcome s userId partyId reason).recedes
  | endParty partyId reason =>
    rw [step_endParty, exec_endParty]
    by_cases standing : s.Open partyId
    · rw [if_pos standing]
      exact heeds.of_recedes recedes_closed
    · rw [if_neg standing]
      exact heeds
  | respondInvite userId inviteId accept =>
    rw [step_respondInvite]
    rcases respondInvite_joins s userId inviteId accept with
      ⟨accepted, invite, found, joined⟩ | untouched | ⟨invites, declined⟩
    · rw [joined]
      exact (joinParty_outcome s userId invite.partyId).heedsAt
        (condition accepted invite found) heeded.heeds
    · rwa [untouched]
    · rw [declined]
      exact heeds.of_recedes (.of_row id id rfl id)
  | markOffline userId partyId =>
    rw [step_markOffline]
    by_cases same : (other, member) = (partyId, userId)
    · obtain ⟨rfl, rfl⟩ := Prod.mk.inj same
      exact .marked condition.1 condition.2
    · exact heeds.of_recedes (recedes_marked same)
  | clearOfflineMark userId partyId =>
    rw [step_clearOfflineMark]
    by_cases same : (other, member) = (partyId, userId)
    · obtain ⟨rfl, rfl⟩ := Prod.mk.inj same
      exact .cleared fun home => heeds.listed (.inr home)
    · exact heeds.of_recedes (recedes_cleared same)
  | sweepZombieMembers =>
    rw [step_sweepZombieMembers]
    exact heeds.of_recedes (recedes_sweepTurns _)
  | connect socket userId username => exact heeds.of_recedes (recedes_connect heeded.seated)
  | disconnect socket =>
    rw [step_disconnect, exec_handleDisconnect]
    cases identity : s.sockets socket with
    | none => exact heeds.of_recedes (recedes_dropped socket)
    | some data => exact .disconnected heeded identity condition
  | partyJoin socket payload =>
    rw [step_partyJoin]
    have outcome := partyJoin_outcome s socket payload
    generalize ((handlePartyJoin s.deployment socket payload).exec s).2 = after at outcome
    cases outcome with
    | unknown => exact heeds
    | rejected => exact heeds.of_recedes (.of_row id id rfl id)
    | attended userId username partyId identity asked active => exact heeds.attended identity active
  | partyLeave socket payload =>
    rw [step_partyLeave]
    exact heeds.of_recedes (partyLeave_outcome s socket payload).recedes
  | partyUpdateLocation socket payload =>
    exact heeds.of_recedes ((step_keepsPresence (by simp) (by simp) s).recedes
      (step_keepsSockets (by simp) (by simp) s) (userParty_partyUpdateLocation s socket payload))
  | updateLocation userId dto =>
    have absent (region : Region) (elsewhere : region ∉ updateRegions (some 0)) :
        region ∉ (Op.updateLocation userId dto).regions := by
      simp only [Op.regions]
      cases dto.partyId <;> simp_all
    exact heeds.of_recedes ((step_keepsPresence (absent .membership (by simp))
      (absent .presence (by simp)) s).recedes (step_keepsSockets (absent .connections (by simp))
        (absent .rooms (by simp)) s) (userParty_updateLocation s userId dto))
  | _ =>
    exact heeds.of_recedes (recedes_elsewhere (by simp) (by simp) (by simp) (by simp) (by simp))

/-! ## The sweep -/

theorem marked_of_partyTurns {threshold : Int} {partyIds : List PartyId} {turn : SweepTurn}
    (met : turn ∈ partyTurns threshold s partyIds) : s.Marked turn.1 turn.2 := by
  induction partyIds generalizing s with
  | nil => cases met
  | cons partyId rest ih =>
    rw [partyTurns, List.mem_append] at met
    rcases met with here | later
    · obtain ⟨userId, stale, rfl⟩ := List.mem_map.mp here
      obtain ⟨entry, listed, rfl⟩ := List.mem_map.mp stale
      rw [List.mem_insertionSort, List.mem_filter] at listed
      exact List.mem_map_of_mem listed.1
    · exact (recedes_sweepTurns _).marked (ih later)

theorem active_sweepTurns {turns : List SweepTurn} (active : s.Active other member)
    (spared : (other, member) ∉ turns) : (follow sweepTurn s turns).Active other member := by
  induction turns generalizing s with
  | nil => exact active
  | cons turn rest ih =>
    rw [List.mem_cons, not_or] at spared
    refine ih ?_ spared.2
    rw [State.active_congr (partyMembers_sweepTurn s turn)]
    exact (leaveParty_outcome s turn.2 turn.1 .disconnectTimeout).still_active active spared.1

theorem State.Heeded.spares (heeded : s.Heeded) (op : Op) : op.Spares s := by
  cases op with
  | sweepZombieMembers =>
    intro partyId userId active present
    rw [step_sweepZombieMembers]
    refine active_sweepTurns active fun met => ?_
    obtain ⟨away, offline⟩ :=
      (heeded.heeds partyId userId).absent (marked_of_partyTurns met) active
    exact present.elim away offline
  | _ => trivial

end

section Runs

variable (deployment : Deployment) (now : Time) (users : UserId → Option User)
  (routes : RouteId → Option Route) (follows : Table (UserId × UserId) FollowStatus)
  (blocks : List (UserId × UserId)) (liveSessions : UserId → Option Bool)

theorem initial_heeded :
    (State.initial deployment now users routes follows blocks liveSessions).Heeded where
  heeds := fun _ _ => .of_unmarked (fun marked => by cases marked) fun home => by cases home
  seated := fun _ _ inside => by cases inside

/-- **No sweep removes a member who is in the room or online, in the runs in which no
member is marked who still has a socket in the room and no marked member comes back
over REST.** -/
theorem sweeps_spare_present (ops : List Op)
    (heeds : EachStep step (fun s op => op.HeedsPresence s)
      (.initial deployment now users routes follows blocks liveSessions) ops) :
    EachStep step (fun s op => op.Spares s)
      (.initial deployment now users routes follows blocks liveSessions) ops :=
  eachStep_of_keeps (fun _ op heeded condition => heeded.step op condition)
    (fun _ op heeded _ => heeded.spares op)
    (initial_heeded deployment now users routes follows blocks liveSessions) heeds

end Runs

/-- Riders 1 and 2 are in the room, and the socket of rider 2 goes. -/
def awayFromRoom : List Op :=
  [.createParty 1 10 smallParty, .joinParty 2 10, .connect 5 1 "r", .connect 7 2 "r",
    .partyJoin 5 (some 10), .partyJoin 7 (some 10), .disconnect 7,
    .environment (.elapse 60000), .sweepZombieMembers]

/-- A minute later rider 2 is removed; rider 1, in the room, is not. -/
theorem sweeps_spare_present_small :
    EachStep step (fun s op => op.Spares s) smallInstallation awayFromRoom ∧
      ¬ (follow step smallInstallation awayFromRoom).Active 10 2 ∧
      (follow step smallInstallation awayFromRoom).Active 10 1 :=
  ⟨sweeps_spare_present _ _ _ _ _ _ _ awayFromRoom (by decide +kernel), by decide +kernel,
    by decide +kernel⟩

/-- Rider 2 disconnects one of two sockets in the room, and nothing else happens for a
minute. -/
def secondSocketGone : List Op :=
  [.createParty 1 10 smallParty, .joinParty 2 10, .connect 7 2 "r", .connect 8 2 "r",
    .partyJoin 7 (some 10), .partyJoin 8 (some 10), .disconnect 8,
    .environment (.elapse 60000), .sweepZombieMembers]

def backOverRest : List Op :=
  [.createParty 1 10 smallParty, .joinParty 2 10, .connect 7 2 "r", .partyJoin 7 (some 10),
    .disconnect 7, .joinParty 2 10, .environment (.elapse 60000), .sweepZombieMembers]

/-- The sweep removes rider 2, who has a socket in the room, and rider 2, who is online. -/
theorem present_member_swept :
    ¬ EachStep step (fun s op => op.Spares s) smallInstallation secondSocketGone ∧
      ¬ EachStep step (fun s op => op.Spares s) smallInstallation backOverRest := by
  constructor
  · rintro ⟨-, -, -, -, -, -, -, -, spares, -⟩
    exact absurd (spares 10 2 (by decide +kernel) (.inl (by decide +kernel))) (by decide +kernel)
  · rintro ⟨-, -, -, -, -, -, -, spares, -⟩
    exact absurd (spares 10 2 (by decide +kernel) (.inr (by decide +kernel))) (by decide +kernel)

end Motogram
