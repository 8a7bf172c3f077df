import Motogram.Location.Outcome

/-!
# What the messages of the gateway do when they run alone

The ways the handlers of the gateway end, each with the state it leaves. Where a
handler calls a service function, its outcome is stated by that of the function.
-/

set_option autoImplicit false

namespace Motogram

open Foundation Program

/-! ## Named changes of the state -/

namespace State

variable (s : State)

/-- After `markOffline`. -/
def marked (userId : UserId) (partyId : PartyId) : State :=
  (s.withZombieWatch partyId (scoreSet (s.zombieWatch partyId) userId s.now)).patchActive
    (fun key => decide (key = (partyId, userId))) .offline

/-- After `clearOfflineMark`. -/
def cleared (userId : UserId) (partyId : PartyId) : State :=
  (s.withZombieWatch partyId (scoreRemove (s.zombieWatch partyId) userId)).patchActive
    (fun key => decide (key = (partyId, userId))) .online

def roomEntered (socket : SocketId) (partyId : PartyId) : State :=
  s.withRooms (Function.update s.rooms partyId (setAdd (s.rooms partyId) socket))

def roomLeft (socket : SocketId) (partyId : PartyId) : State :=
  s.withRooms (Function.update s.rooms partyId (setRemove (s.rooms partyId) socket))

def attended (socket : SocketId) (userId : UserId) (partyId : PartyId) : State :=
  ((((s.roomEntered socket partyId).cleared userId partyId).patchMember partyId userId
    (.hostname s.deployment.serverHostname)).redis (.saddMembers partyId userId))

/-- After a socket has gone. -/
def dropped (socket : SocketId) : State :=
  (s.withSocket socket none).withRooms fun partyId => setRemove (s.rooms partyId) socket

def disconnected (socket : SocketId) (userId : UserId) : State :=
  match s.userParty userId with
  | none => (s.dropped socket).redis (.hsetOffline userId)
  | some partyId => ((s.dropped socket).marked userId partyId).redis (.hsetOffline userId)

end State

variable (s : State) (socket : SocketId)

theorem exec_clearOfflineMark (userId : UserId) (partyId : PartyId) :
    (clearOfflineMark userId partyId).exec s = (.ok (), s.cleared userId partyId) := rfl

/-! ## Disconnect -/

theorem exec_handleDisconnect :
    ((handleDisconnect socket).exec s).2 =
      match s.sockets socket with
      | none => s.dropped socket
      | some (userId, _) => s.disconnected socket userId := by
  unfold handleDisconnect Flow.exec
  simp only [call_bind, done_bind, run_call, answer]
  cases s.sockets socket with
  | none => rfl
  | some identity =>
    obtain ⟨userId, username⟩ := identity
    simp only [State.disconnected, run_call, answer, State.withRooms_userParty,
      State.withSocket_userParty]
    cases s.userParty userId with
    | none | some => rfl

/-! ## party:join -/

/-- The ways `party:join` ends. -/
inductive PartyJoinOutcome (s : State) (socket : SocketId) (payload : Option PartyId) :
    State → Prop where
  | unknown : PartyJoinOutcome s socket payload s
  | rejected (error : WsPartyError) : PartyJoinOutcome s socket payload (s.sent (.client socket error))
  | attended (userId : UserId) (username : String) (partyId : PartyId)
      (identity : s.sockets socket = some (userId, username)) (asked : payload = some partyId)
      (active : s.Active partyId userId) :
      PartyJoinOutcome s socket payload (s.attended socket userId partyId)

theorem find?_roomEntered_cleared {s : State} {userId : UserId} {partyId : PartyId} {row : PartyMember}
    (listed : s.partyMembers.find? (partyId, userId) = some row) :
    ∃ patched, ((s.roomEntered socket partyId).cleared userId partyId).partyMembers.find?
      (partyId, userId) = some patched := by
  simp [State.roomEntered, State.cleared, listed]

theorem exec_joinRoom {s : State} {userId : UserId} {partyId : PartyId} (active : s.Active partyId userId) :
    (joinRoom s.deployment socket userId partyId).exec s =
      (.ok ⟨true, false, false⟩, s.attended socket userId partyId) := by
  obtain ⟨row, listed, -⟩ := active
  obtain ⟨patched, found⟩ := find?_roomEntered_cleared socket listed
  unfold joinRoom Flow.exec
  have entered : answer (.socketJoin socket partyId) s = ((), s.roomEntered socket partyId) := rfl
  rw [run_sends_of entered,
    run_bind_of_ok _ (exec_clearOfflineMark (s.roomEntered socket partyId) userId partyId)]
  simp only [run_sends, answer, found, rethrow_ok]
  rfl

theorem partyJoin_outcome (payload : Option PartyId) :
    PartyJoinOutcome s socket payload ((handlePartyJoin s.deployment socket payload).exec s).2 := by
  unfold handlePartyJoin Flow.exec
  simp only [call_bind, done_bind, run_call, answer]
  cases identity : s.sockets socket with
  | none => exact .unknown
  | some data =>
    obtain ⟨userId, username⟩ := data
    cases payload with
    | none => exact .rejected _
    | some partyId =>
      simp only [run_call, answer]
      cases listed : s.partyMembers.find? (partyId, userId) with
      | none => exact .rejected _
      | some row =>
        dsimp only
        by_cases gone : row.leftAt.isSome = true
        · rw [if_pos gone]
          exact .rejected _
        · rw [if_neg gone]
          have active : s.Active partyId userId :=
            ⟨row, listed, Option.not_isSome_iff_eq_none.mp gone⟩
          have ran := congrArg Prod.snd (exec_joinRoom socket active)
          rw [show (run answer (joinRoom s.deployment socket userId partyId) s).2 = _
            from ran]
          exact .attended userId username partyId identity rfl active

/-! ## party:leave -/

/-- The ways `party:leave` ends: it calls `leaveParty`, and when that returns the
calling socket leaves the room. -/
inductive PartyLeaveOutcome (s : State) (socket : SocketId) (payload : Option PartyId) :
    State → Prop where
  | unknown (anonymous : s.sockets socket = none) : PartyLeaveOutcome s socket payload s
  | invalid (error : WsPartyError) (empty : payload = none) :
      PartyLeaveOutcome s socket payload (s.sent (.client socket error))
  | refused (userId : UserId) (username : String) (partyId : PartyId) (error : ServiceError)
      (identity : s.sockets socket = some (userId, username)) (asked : payload = some partyId)
      (outcome : LeaveOutcome s userId partyId .left (.error error) s) :
      PartyLeaveOutcome s socket payload
        (s.sent (.client socket ⟨"party:leave", "FAIL", .exception error⟩))
  | left (userId : UserId) (username : String) (partyId : PartyId) (result : LeaveResult)
      (after : State) (identity : s.sockets socket = some (userId, username))
      (asked : payload = some partyId)
      (ran : (leaveParty userId partyId .left).exec s = (.ok result, after))
      (outcome : LeaveOutcome s userId partyId .left (.ok result) after) :
      PartyLeaveOutcome s socket payload (after.roomLeft socket partyId)

theorem partyLeave_outcome (payload : Option PartyId) :
    PartyLeaveOutcome s socket payload ((handlePartyLeave socket payload).exec s).2 := by
  unfold handlePartyLeave Flow.exec
  simp only [run_sends, answer]
  cases identity : s.sockets socket with
  | none => exact .unknown identity
  | some data =>
    obtain ⟨userId, username⟩ := data
    cases payload with
    | none => exact .invalid _ rfl
    | some partyId =>
      have outcome := leaveParty_outcome s userId partyId .left
      simp only [run_rescue, run_bind]
      cases ran : run answer (leaveParty userId partyId .left) s with
      | mk result after =>
        unfold Flow.exec at outcome
        rw [ran] at outcome
        cases result with
        | error error =>
          cases outcome with
          | rejected error stranger =>
            exact .refused userId username partyId error identity rfl
              (.rejected error stranger)
        | ok result => exact .left userId username partyId result after identity rfl ran outcome

/-! ## party:update_location -/

/-- The event a relayed position is broadcast with. -/
def memberUpdated (userId : UserId) (payload : WsPartyUpdateLocation) (socket : SocketId)
    (now : Time) : Emission :=
  .room (.memberUpdated payload.partyId userId payload.lat payload.lng payload.heading payload.speed
    now) (some socket)

/-- The ways `party:update_location` ends: it updates the position and broadcasts
it when the user is in the member set of the party. -/
inductive PartyUpdateOutcome (s : State) (socket : SocketId)
    (payload : Option WsPartyUpdateLocation) : State → Prop where
  | unknown : PartyUpdateOutcome s socket payload s
  | rejected (error : WsPartyError) :
      PartyUpdateOutcome s socket payload (s.sent (.client socket error))
  | relayed (userId : UserId) (username : String) (update : WsPartyUpdateLocation) (user : User)
      (result : UpdateLocationResult) (after : State)
      (identity : s.sockets socket = some (userId, username)) (asked : payload = some update)
      (listed : userId ∈ s.partyMemberSet update.partyId)
      (outcome : UpdateOutcome s userId update.toDto user (.ok result) after) :
      PartyUpdateOutcome s socket payload (after.sent (memberUpdated userId update socket after.now))

theorem partyUpdate_outcome (payload : Option WsPartyUpdateLocation) :
    PartyUpdateOutcome s socket payload ((handlePartyUpdateLocation s.deployment socket payload).exec s).2 := by
  unfold handlePartyUpdateLocation Flow.exec
  simp only [run_sends, answer]
  cases identity : s.sockets socket with
  | none => exact .unknown
  | some data =>
    obtain ⟨userId, username⟩ := data
    cases payload with
    | none => exact .rejected _
    | some update =>
      dsimp only [partyUpdateLocation]
      rw [call_bind, run_call_of_answer _
        (rfl : answer (.sismemberMembers update.partyId userId) s = (_, _)), done_bind]
      by_cases listed : userId ∈ s.partyMemberSet update.partyId
      · rw [if_neg (by simp [listed])]
        unfold relayLocation
        simp only [run_sends, answer]
        cases known : s.users userId with
        | none => exact .unknown
        | some user =>
          dsimp only
          by_cases banned : user.isBanned = true
          · rw [if_pos banned]
            exact .unknown
          · rw [if_neg banned]
            have outcome := updateLocation_outcome s userId update.toDto user
            rw [run_bind]
            unfold Flow.exec at outcome
            cases ran : run answer
                (updateLocation s.deployment userId update.toDto user) s with
            | mk result after =>
              rw [ran] at outcome
              cases result with
              | error error =>
                cases outcome with
                | banned refused => exact absurd refused banned
              | ok result =>
                exact .relayed userId username update user result after identity rfl
                  listed outcome
      · rw [if_pos (by simp [listed])]
        exact .rejected _

end Motogram
